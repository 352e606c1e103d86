import Convergence.Proofs.Poll.Endings
import Convergence.Proofs.Poll.Turns

/-! What polls ask for. A poll reads what its check begins with and what an answer leads the
check to, and nothing else, whoever runs next to it and whenever the token is cancelled. -/
namespace Convergence

variable {Q : Type} {A : Q → Type} {σ α : Type}

/-- The reads that a check can come to. -/
def Check.Asks (c : Check Q A α) (q : Q) : Prop :=
  q = c.query ∨ ∃ answer judge, c.next answer = .read q judge

theorem Check.asks_of_mem_call {c : Check Q A α} {source : Source Q A σ} {state : σ}
    {read : Q × Nat} (h : read ∈ (c.call source state).reads) : c.Asks read.1 := by
  cases hnext : c.next (source c.query state).1.answer with
  | decide judgement =>
    rw [c.call_of_decide source state hnext, List.mem_singleton] at h
    exact .inl (congrArg Prod.fst h)
  | read query judge =>
    rw [c.call_of_read source state hnext, List.mem_cons, List.mem_singleton] at h
    rcases h with rfl | rfl
    · exact .inl rfl
    · exact .inr ⟨_, judge, hnext⟩

theorem Event.mem_reads {events : List (Event Q)} {q : Q} {t : Instant} :
    (q, t) ∈ Event.reads events ↔ ∃ index, .asked index q t ∈ events := by
  unfold Event.reads
  rw [List.mem_filterMap]
  constructor
  · rintro ⟨event, hmem, hread⟩
    cases event with
    | asked index query time =>
      cases hread
      exact ⟨index, hmem⟩
    | _ => cases hread
  · rintro ⟨index, hmem⟩
    exact ⟨_, hmem, rfl⟩

/-- A poll on its own asks for what its check asks for. -/
theorem Job.asks_of_mem_run {j : Job Q A α} {e : Setting Q A σ} {s : Scene σ} {index : Nat} {q : Q}
    {t : Instant} (h : .asked index q t ∈ (j.run e s).events) : j.check.Asks q := by
  have hread := Event.mem_reads.mpr ⟨index, h⟩
  rw [Job.reads_run, List.mem_flatMap] at hread
  obtain ⟨i, -, hread⟩ := hread
  obtain ⟨read, hmem, hsame⟩ := List.mem_map.mp hread
  cases hsame
  exact Check.asks_of_mem_call hmem

namespace Runner

variable {e : Setting Q A σ} {s : Scene σ} {r : Runner Q A α} {p : Passage Q σ (Runner Q A α)}

/-- The second read that a tick has come to is one of the check's. -/
def InHand (r : Runner Q A α) : Prop :=
  ∀ left wake query judge, r.phase = .reading left wake (.read query judge) →
    r.job.check.Asks query

theorem start_inHand (j : Job Q A α) (now : Instant) : (Runner.start j now).InHand := nofun

theorem Act.inHand (hact : Act e s r p) : p.result.InHand := by
  intro left wake query judge hphase
  cases hact with
  | ask idle live due =>
    obtain ⟨-, -, hnext⟩ := Phase.reading.inj hphase
    exact .inr ⟨_, judge, hnext⟩
  | _ => cases hphase

theorem Act.asks (hact : Act e s r p) (hr : r.InHand) {index : Nat} {q : Q} {t : Instant}
    (h : .asked index q t ∈ p.events) : r.job.check.Asks q := by
  have hread := Event.mem_reads.mpr ⟨index, h⟩
  cases hact with
  | refuse idle stops =>
    rw [finish_reads] at hread
    cases hread
  | ask idle live due =>
    cases List.mem_singleton.mp hread
    exact .inl rfl
  | askAgain phase answered =>
    cases List.mem_singleton.mp hread
    exact hr _ _ _ _ phase
  | decide verdict answered last =>
    unfold Passage.prepend at hread
    rw [Event.reads_append, shownTick_reads, finish_reads] at hread
    cases hread
  | cut verdict answered pending stops =>
    unfold Passage.prepend at hread
    rw [Event.reads_append, waitingTick_reads, finish_reads] at hread
    cases hread
  | rest verdict answered pending live =>
    rw [waitingTick_reads] at hread
    cases hread

end Runner

namespace Hall

variable {source : Source Q A σ} {a b h : Hall Q A σ α} {first trace : List (Nat × Event Q)}

def InHand (h : Hall Q A σ α) : Prop :=
  ∀ (i : Nat) (r : Runner Q A α), h.seats[i]? = some (.running r) → r.InHand

theorem Step.inHand (hstep : Step source a first b) (ha : a.InHand) : b.InHand := by
  intro i r hr
  obtain ⟨x, hx⟩ := hstep.seat_back hr
  rcases hstep.seat hx with ⟨hsame, -⟩ | ⟨j, -, hstart, -⟩ | ⟨r', -, can, hrun, -⟩
  · cases hr.symm.trans hsame
    exact ha i r hx
  · cases hr.symm.trans hstart
    exact Runner.start_inHand j _
  · cases hr.symm.trans hrun
    exact (Runner.step_act can).inHand

theorem Step.asks (hstep : Step source a first b) (ha : a.InHand) {i index : Nat} {q : Q}
    {t : Instant} (hasked : (i, .asked index q t) ∈ first) :
    ∃ x, a.seats[i]? = some x ∧ x.job.check.Asks q := by
  cases hstep with
  | run seat can =>
    obtain ⟨event, hmem, hsame⟩ := List.mem_map.mp hasked
    cases hsame
    exact ⟨_, seat, (Runner.step_act can).asks (ha _ _ seat) hmem⟩
  | _ => cases hasked

theorem Run.asks_of_job {jobs : List (Job Q A α)} (hrun : Run source a trace b)
    (hjobs : ∀ (i : Nat) (x : Seat Q A α), a.seats[i]? = some x → jobs[i]? = some x.job)
    (ha : a.InHand) {i index : Nat} {q : Q} {t : Instant}
    (hasked : (i, .asked index q t) ∈ trace) : ∃ j, jobs[i]? = some j ∧ j.check.Asks q := by
  induction hrun with
  | refl h => cases hasked
  | step hstep _ ih =>
    rcases List.mem_append.mp hasked with hfirst | hrest
    · obtain ⟨x, hx, hasks⟩ := hstep.asks ha hfirst
      exact ⟨x.job, hjobs _ x hx, hasks⟩
    · exact ih (hstep.job hjobs) (hstep.inHand ha) hrest

/-- Among others, too, a poll asks for what its check asks for. -/
theorem Run.asks {jobs : List (Job Q A α)} {s : Scene σ}
    (hrun : Run source (opening jobs s) trace h) {i index : Nat} {q : Q} {t : Instant}
    (hasked : (i, .asked index q t) ∈ trace) : ∃ j, jobs[i]? = some j ∧ j.check.Asks q := by
  refine hrun.asks_of_job (fun i x hx => ?_) (fun i r hr => ?_) hasked
  · have hstart : Run source (opening jobs s) [] (opening jobs s) := .refl _
    exact hstart.job hx
  · unfold opening at hr
    simp at hr

/-- A poll that starts under a live token asks for its first query at once. -/
theorem exists_run_asked (source : Source Q A σ) (j : Job Q A α) {s : Scene σ}
    (hlive : s.cancelled = false) :
    ∃ trace last, Run source (opening [j] s) trace last ∧
      (0, .asked j.index j.check.query s.now) ∈ trace := by
  have hstops : j.stops source.calm s = false := by
    rw [Job.stops_calm, hlive, Bool.and_false]
  have hevents : ((Runner.start j s.now).step source.calm s).events =
      [.asked j.index j.check.query s.now] := by
    change ((Runner.start j s.now).begin source.calm (j.plan.maxAttempts - 1) s).events = _
    rw [Runner.begin_of_live hstops]
    rfl
  refine ⟨_, _, .step (.start (i := 0) rfl) (.single (.run (i := 0) rfl rfl)), ?_⟩
  apply List.mem_append_right
  apply List.mem_map_of_mem
  change _ ∈ ((Runner.start j s.now).step source.calm s).events
  rw [hevents]
  exact List.mem_singleton_self _

end Hall
end Convergence
