import Convergence.Poll.Together
import Convergence.Proofs.Poll.Rounds

/-! What one step of a poll can be: it refuses to go on under a cancelled token, begins
a read, or settles a tick. All that a step keeps is read off these cases. -/
namespace Convergence

variable {Q : Type} {A : Q → Type} {σ α : Type}

namespace Event

/-- The reads among events, each with the instant at which it begins. -/
def reads (events : List (Event Q)) : List (Q × Instant) :=
  events.filterMap fun
    | .asked _ query time => some (query, time)
    | _ => none

@[simp] theorem reads_nil : reads ([] : List (Event Q)) = [] := rfl

@[simp] theorem reads_append (first rest : List (Event Q)) :
    reads (first ++ rest) = reads first ++ reads rest := by
  unfold reads
  rw [List.filterMap_append]

theorem reads_flatMap (l : List Nat) (f : Nat → List (Event Q)) :
    reads (l.flatMap f) = l.flatMap fun i => reads (f i) := by
  unfold reads
  rw [List.filterMap_flatMap]

@[simp] theorem reads_noticed (notices : List Notice) :
    reads (notices.map .noticed : List (Event Q)) = [] := by
  unfold reads
  rw [List.filterMap_map]
  simp

end Event

@[simp] theorem Judgement.reads_events (j : Judgement α) :
    Event.reads (j.events : List (Event Q)) = [] :=
  Event.reads_noticed j.log

@[simp] theorem Job.reads_tickEvents (j : Job Q A α) (t : Tick) :
    Event.reads (j.tickEvents t) = [] := by
  unfold tickEvents
  split <;> rfl

theorem Call.reads_events (c : Call Q σ α) (index : Nat) (start : Instant) :
    Event.reads (c.events index start) = c.reads.map fun read => (read.1, start + read.2) := by
  unfold Call.events
  rw [Event.reads_append, Event.reads_noticed, List.append_nil]
  unfold Event.reads
  rw [List.filterMap_map]
  exact congrFun List.filterMap_eq_map c.reads

theorem Job.afterTick_now (j : Job Q A α) (e : Setting Q A σ) (s : Scene σ) :
    (j.afterTick e s).now = s.now := by
  unfold Job.afterTick Setting.observe
  split <;> rfl

theorem Job.afterTick_source (j : Job Q A α) (e : Setting Q A σ) (s : Scene σ) :
    (j.afterTick e s).source = s.source := by
  unfold Job.afterTick Setting.observe
  split <;> rfl

theorem Job.afterTick_cancelled (j : Job Q A α) {e : Setting Q A σ} (hnever : e.trigger = .never)
    (s : Scene σ) : (j.afterTick e s).cancelled = s.cancelled := by
  unfold Job.afterTick Setting.observe
  split <;> simp [hnever, Trigger.never]

namespace Phase

/-- The ticks that may follow the next one, where none is under way. -/
def idle? : Phase Q A α → Option Nat
  | due left => some left
  | sleeping left _ => some left
  | _ => none

/-- The judgement that settles the tick under way, once its last answer is there. -/
def verdict? : Phase Q A α → Option (Nat × Instant × Judgement α)
  | reading left wake (.decide judgement) => some (left, wake, judgement)
  | rereading left wake judgement => some (left, wake, judgement)
  | _ => none

theorem of_idle {phase : Phase Q A α} {left : Nat} (h : phase.idle? = some left) :
    phase = .due left ∨ ∃ wake, phase = .sleeping left wake := by
  cases phase <;> simp_all [idle?]

theorem work_of_idle {phase : Phase Q A α} {left : Nat} (h : phase.idle? = some left) :
    phase.work = 3 * left + 4 := by
  cases phase <;> simp_all [idle?, work]

theorem of_verdict {phase : Phase Q A α} {left : Nat} {wake : Instant} {j : Judgement α}
    (h : phase.verdict? = some (left, wake, j)) :
    phase = .reading left wake (.decide j) ∨ phase = .rereading left wake j := by
  unfold verdict? at h
  split at h
  · simp_all
  · simp_all
  · cases h

theorem work_of_verdict {phase : Phase Q A α} {left : Nat} {wake : Instant}
    {j : Judgement α} (h : phase.verdict? = some (left, wake, j)) : 3 * left + 2 ≤ phase.work := by
  rcases of_verdict h with rfl | rfl
  · exact Nat.le_succ _
  · exact Nat.le_refl _

theorem wake?_of_verdict {phase : Phase Q A α} {left : Nat} {wake : Instant}
    {j : Judgement α} (h : phase.verdict? = some (left, wake, j)) : phase.wake? = some wake := by
  rcases of_verdict h with rfl | rfl <;> rfl

/-- A poll is between two ticks, at the end of one, between its two reads, or over. -/
theorem kinds (phase : Phase Q A α) :
    (∃ left, phase.idle? = some left) ∨
      (∃ left wake j, phase.verdict? = some (left, wake, j)) ∨
      (∃ left wake query judge, phase = .reading left wake (.read query judge)) ∨
      ∃ report, phase = .done report := by
  cases phase with
  | due left => exact .inl ⟨left, rfl⟩
  | sleeping left wake => exact .inl ⟨left, rfl⟩
  | reading left wake next =>
    cases next with
    | decide judgement => exact .inr (.inl ⟨left, wake, judgement, rfl⟩)
    | read query judge => exact .inr (.inr (.inl ⟨left, wake, query, judge, rfl⟩))
  | rereading left wake judgement => exact .inr (.inl ⟨left, wake, judgement, rfl⟩)
  | done report => exact .inr (.inr (.inr ⟨report, rfl⟩))

theorem idle?_of_verdict {phase : Phase Q A α} {left : Nat} {wake : Instant}
    {j : Judgement α} (h : phase.verdict? = some (left, wake, j)) : phase.idle? = none := by
  rcases of_verdict h with rfl | rfl <;> rfl

end Phase

namespace Runner

variable {e : Setting Q A σ} {s : Scene σ} {r : Runner Q A α}

def shownTick (r : Runner Q A α) (left : Nat) (s : Scene σ) (j : Judgement α) : List (Event Q) :=
  j.events ++ r.job.tickEvents (r.job.tick r.course left s.now j.finding)

def waitingTick (r : Runner Q A α) (left : Nat) (s : Scene σ) (j : Judgement α) :
    List (Event Q) :=
  r.shownTick left s j ++
    [.noticed (r.job.pendingNotice (r.course.noting j.finding) left s.now)]

theorem shownTick_reads (r : Runner Q A α) (left : Nat) (s : Scene σ) (j : Judgement α) :
    Event.reads (r.shownTick left s j) = [] := by
  unfold shownTick
  simp

theorem waitingTick_reads (r : Runner Q A α) (left : Nat) (s : Scene σ) (j : Judgement α) :
    Event.reads (r.waitingTick left s j) = [] := by
  unfold waitingTick
  rw [Event.reads_append, shownTick_reads]
  rfl

theorem finish_reads (r : Runner Q A α) (c : Course) (ending : Ending α) (attempts : Nat)
    (s : Scene σ) : Event.reads (r.finish c ending attempts s).events = [] :=
  Event.reads_noticed _

/-- The steps of a poll that can run. -/
inductive Act (e : Setting Q A σ) (s : Scene σ) (r : Runner Q A α) :
    Passage Q σ (Runner Q A α) → Prop where
  | refuse {left : Nat} (idle : r.phase.idle? = some left) (stops : r.job.stops e s = true) :
      Act e s r (r.finish r.course .cancelled (r.job.attempt left - 1) s)
  | ask {left : Nat} (idle : r.phase.idle? = some left) (live : r.job.stops e s = false)
      (due : ∀ wake, r.phase.wake? = some wake → wake ≤ s.now) :
      Act e s r
        { result :=
            { r with
              phase := .reading left (s.now + (e.ask r.job.check.query s).1.delay)
                (r.job.check.next (e.ask r.job.check.query s).1.answer) }
          scene := (e.ask r.job.check.query s).2
          events := [.asked r.job.index r.job.check.query s.now] }
  | askAgain {left : Nat} {wake : Instant} {query : Q} {judge : A query → Judgement α}
      (phase : r.phase = .reading left wake (.read query judge)) (answered : wake ≤ s.now) :
      Act e s r
        { result :=
            { r with
              phase := .rereading left (s.now + (e.ask query s).1.delay)
                (judge (e.ask query s).1.answer) }
          scene := (e.ask query s).2
          events := [.asked r.job.index query s.now] }
  | decide {left : Nat} {wake : Instant} {j : Judgement α}
      (verdict : r.phase.verdict? = some (left, wake, j)) (answered : wake ≤ s.now)
      (last : left = 0 ∨ j.finding.isPending = false) :
      Act e s r
        ((r.finish (r.course.noting j.finding) (j.finding.ending?.getD .timedOut)
          (r.job.attempt left) (r.job.afterTick e s)).prepend (r.shownTick left s j))
  | cut {left : Nat} {wake : Instant} {j : Judgement α}
      (verdict : r.phase.verdict? = some (left + 1, wake, j)) (answered : wake ≤ s.now)
      (pending : j.finding.isPending = true)
      (stops : r.job.stops e (r.job.afterTick e s) = true) :
      Act e s r
        ((r.finish (r.course.noting j.finding) .cancelled (r.job.attempt (left + 1))
          (r.job.afterTick e s)).prepend (r.waitingTick (left + 1) s j))
  | rest {left : Nat} {wake : Instant} {j : Judgement α}
      (verdict : r.phase.verdict? = some (left + 1, wake, j)) (answered : wake ≤ s.now)
      (pending : j.finding.isPending = true)
      (live : r.job.stops e (r.job.afterTick e s) = false) :
      Act e s r
        { result :=
            { r with
              course := r.course.noting j.finding
              phase := .sleeping left (wakeTime s.now r.job.plan.interval) }
          scene := r.job.afterTick e s
          events := r.waitingTick (left + 1) s j }

/-! ### The equations of a step -/

theorem step_of_idle {left : Nat} (idle : r.phase.idle? = some left) :
    r.step e s = r.begin e left s := by
  unfold step
  split <;> rename_i hphase <;> rw [hphase] at idle <;> simp_all [Phase.idle?]

theorem step_of_verdict {left : Nat} {wake : Instant} {j : Judgement α}
    (verdict : r.phase.verdict? = some (left, wake, j)) :
    r.step e s = r.judged e left j s := by
  unfold step
  rcases Phase.of_verdict verdict with h | h
  · rw [h]
    rfl
  · rw [h]

theorem begin_of_stops {left : Nat} (stops : r.job.stops e s = true) :
    r.begin e left s = r.finish r.course .cancelled (r.job.attempt left - 1) s := by
  unfold begin
  rw [if_pos stops]

theorem begin_of_live {left : Nat} (live : r.job.stops e s = false) :
    r.begin e left s =
      { result :=
          { r with
            phase := .reading left (s.now + (e.ask r.job.check.query s).1.delay)
              (r.job.check.next (e.ask r.job.check.query s).1.answer) }
        scene := (e.ask r.job.check.query s).2
        events := [.asked r.job.index r.job.check.query s.now] } := by
  unfold begin
  rw [if_neg (by simp [live])]

theorem judged_of_last {left : Nat} {j : Judgement α}
    (last : left = 0 ∨ j.finding.isPending = false) :
    r.judged e left j s =
      (r.finish (r.course.noting j.finding) (j.finding.ending?.getD .timedOut)
        (r.job.attempt left) (r.job.afterTick e s)).prepend (r.shownTick left s j) := by
  unfold judged settle
  dsimp only
  cases left with
  | zero =>
    rw [Passage.prepend_prepend]
    rfl
  | succ left =>
    have hpending : j.finding.isPending = false := by simpa using last
    cases hending : j.finding.ending? with
    | none => simp [(Finding.ending?_eq_none _).mp hending] at hpending
    | some ending =>
      rw [Passage.prepend_prepend]
      rfl

theorem judged_of_pending {left : Nat} {j : Judgement α} (pending : j.finding.isPending = true) :
    r.judged e (left + 1) j s =
      if r.job.stops e (r.job.afterTick e s) then
        (r.finish (r.course.noting j.finding) .cancelled (r.job.attempt (left + 1))
          (r.job.afterTick e s)).prepend (r.waitingTick (left + 1) s j)
      else
        { result :=
            { r with
              course := r.course.noting j.finding
              phase := .sleeping left (wakeTime s.now r.job.plan.interval) }
          scene := r.job.afterTick e s
          events := r.waitingTick (left + 1) s j } := by
  unfold judged settle waitingTick shownTick
  dsimp only
  rw [(Finding.ending?_eq_none _).mpr pending]
  by_cases hs : r.job.stops e (r.job.afterTick e s) = true
  · simp only [hs, ↓reduceIte, Job.afterTick_now]
    rw [Passage.prepend_prepend, ← List.append_assoc]
  · simp only [hs, Bool.false_eq_true, ↓reduceIte, Job.afterTick_now]
    rw [List.append_assoc]
    rfl

/-- A step is one of these, and its case tells all that it does. -/
theorem step_act (hr : r.canRun e s = true) : Act e s r (r.step e s) := by
  unfold canRun at hr
  rcases r.phase.kinds with ⟨left, idle⟩ | ⟨left, wake, j, verdict⟩ |
    ⟨left, wake, query, judge, phase⟩ | ⟨report, phase⟩
  · rw [step_of_idle idle]
    cases hs : r.job.stops e s with
    | true =>
      rw [begin_of_stops hs]
      exact .refuse idle hs
    | false =>
      rw [begin_of_live hs]
      refine .ask idle hs fun wake hw => ?_
      split at hr <;> rename_i hphase <;> rw [hphase] at hw idle <;>
        simp_all [Phase.wake?, Phase.idle?]
  · have answered : wake ≤ s.now := by
      rcases Phase.of_verdict verdict with h | h <;> simpa [h] using hr
    rw [step_of_verdict verdict]
    by_cases hlast : left = 0 ∨ j.finding.isPending = false
    · rw [judged_of_last hlast]
      exact .decide verdict answered hlast
    · obtain ⟨hleft, hpending⟩ := not_or.mp hlast
      obtain ⟨left, rfl⟩ := Nat.exists_eq_succ_of_ne_zero hleft
      have pending : j.finding.isPending = true := by simpa using hpending
      rw [judged_of_pending pending]
      split
      · exact .cut verdict answered pending ‹_›
      · exact .rest verdict answered pending (Bool.not_eq_true _ ▸ ‹¬ _›)
  · have answered : wake ≤ s.now := by simpa [phase] using hr
    have hstep : r.step e s = r.followed e left (.read query judge) s := by
      unfold step
      rw [phase]
    rw [hstep]
    exact .askAgain phase answered
  · simp [phase] at hr

theorem Act.eq_step {p : Passage Q σ (Runner Q A α)} (h : Act e s r p) : r.step e s = p := by
  cases h with
  | refuse idle stops => rw [step_of_idle idle, begin_of_stops stops]
  | ask idle live due => rw [step_of_idle idle, begin_of_live live]
  | askAgain phase answered =>
    unfold step
    rw [phase]
    rfl
  | decide verdict answered last => rw [step_of_verdict verdict, judged_of_last last]
  | cut verdict answered pending stops =>
    rw [step_of_verdict verdict, judged_of_pending pending, if_pos stops]
  | rest verdict answered pending live =>
    rw [step_of_verdict verdict, judged_of_pending pending, if_neg (by simp [live])]

theorem canRun_of_wake {wake : Instant} (hw : r.phase.wake? = some wake) (h : wake ≤ s.now) :
    r.canRun e s = true := by
  unfold canRun
  split <;> rename_i hphase <;> rw [hphase] at hw <;> simp_all [Phase.wake?]

theorem canRun_of_idle {left : Nat} (hidle : r.phase.idle? = some left)
    (h : r.job.stops e s = true ∨ ∀ wake, r.phase.wake? = some wake → wake ≤ s.now) :
    r.canRun e s = true := by
  unfold canRun
  split <;> rename_i hphase <;> rw [hphase] at hidle h <;> simp_all [Phase.idle?, Phase.wake?]
  exact h.symm

theorem Act.canRun {p : Passage Q σ (Runner Q A α)} (h : Act e s r p) : r.canRun e s = true := by
  cases h with
  | refuse idle stops => exact canRun_of_idle idle (.inl stops)
  | ask idle live due => exact canRun_of_idle idle (.inr due)
  | askAgain phase answered => exact canRun_of_wake (by rw [phase]; rfl) answered
  | decide verdict answered last => exact canRun_of_wake (Phase.wake?_of_verdict verdict) answered
  | cut verdict answered pending stops =>
    exact canRun_of_wake (Phase.wake?_of_verdict verdict) answered
  | rest verdict answered pending live =>
    exact canRun_of_wake (Phase.wake?_of_verdict verdict) answered

theorem report?_of_done {report : Report α} (h : r.phase = .done report) :
    r.report? = some report := by
  unfold report?
  rw [h]

theorem phase_of_report {report : Report α} (h : r.report? = some report) :
    r.phase = .done report := by
  unfold report? at h
  split at h
  · rw [← Option.some.inj h]
    assumption
  · cases h

/-- A poll that cannot run has ended, or waits for an instant to come. -/
theorem of_still (hr : r.canRun e s = false) :
    (∃ report, r.report? = some report) ∨ ∃ wake, r.phase.wake? = some wake ∧ s.now < wake := by
  unfold canRun at hr
  unfold report? Phase.wake?
  split at hr <;> rename_i hphase <;> rw [hphase] <;> dsimp only
  · exact absurd hr (by decide)
  · rename_i left wake
    simp only [Bool.or_eq_false_iff, decide_eq_false_iff_not] at hr
    exact .inr ⟨wake, rfl, Nat.lt_of_not_le hr.1⟩
  · rename_i left wake next
    exact .inr ⟨wake, rfl, Nat.lt_of_not_le (by simpa using hr)⟩
  · rename_i left wake judgement
    exact .inr ⟨wake, rfl, Nat.lt_of_not_le (by simpa using hr)⟩
  · exact .inl ⟨_, rfl⟩

/-! ### What every step keeps -/

variable {p : Passage Q σ (Runner Q A α)}

theorem Act.job (h : Act e s r p) : p.result.job = r.job := by
  cases h <;> rfl

theorem Act.started (h : Act e s r p) : p.result.course.started = r.course.started := by
  cases h <;> simp [finish, Course.noting_started]

theorem Act.now (h : Act e s r p) : p.scene.now = s.now := by
  cases h <;> simp [finish, Job.conclude, Job.afterTick_now, Setting.ask]

/-- No poll waits for an instant that is already over. -/
theorem Act.timely (h : Act e s r p) {wake : Instant} (hw : p.result.phase.wake? = some wake) :
    s.now ≤ wake := by
  cases h <;> simp only [finish, Passage.prepend_result, Phase.wake?, reduceCtorEq,
    Option.some.injEq] at hw
  case ask => exact hw ▸ Nat.le_add_right _ _
  case askAgain => exact hw ▸ Nat.le_add_right _ _
  case rest => exact hw ▸ Nat.le_of_lt (lt_wakeTime _ r.job.plan.interval_pos)

theorem Act.not_due (h : Act e s r p) (left : Nat) : p.result.phase ≠ .due left := by
  cases h <;> exact nofun

theorem Act.work (h : Act e s r p) : p.result.phase.work < r.phase.work := by
  cases h with
  | refuse idle stops =>
    rw [Phase.work_of_idle idle]
    exact Nat.succ_pos _
  | ask idle live due =>
    rw [Phase.work_of_idle idle]
    exact Nat.lt_succ_self _
  | askAgain phase answered =>
    rw [phase]
    exact Nat.lt_succ_self _
  | decide verdict answered last =>
    exact Nat.lt_of_lt_of_le (Nat.succ_pos _) (Phase.work_of_verdict verdict)
  | cut verdict answered pending stops =>
    exact Nat.lt_of_lt_of_le (Nat.succ_pos _) (Phase.work_of_verdict verdict)
  | @rest left _ _ verdict answered pending live =>
    have hwork := Phase.work_of_verdict verdict
    change 3 * left + 4 < _
    omega

/-- Without a trigger a step leaves the token as it is. -/
theorem Act.cancelled (h : Act e s r p) (hnever : e.trigger = .never) :
    p.scene.cancelled = s.cancelled := by
  have hask : ∀ q, (e.ask q s).2.cancelled = s.cancelled := by
    intro q
    simp [Setting.ask, hnever, Trigger.never]
  have htick := r.job.afterTick_cancelled hnever s
  cases h with
  | refuse idle stops => rfl
  | ask idle live due => exact hask _
  | askAgain phase answered => exact hask _
  | decide verdict answered last => exact htick
  | cut verdict answered pending stops => exact htick
  | rest verdict answered pending live => exact htick

end Runner
end Convergence
