import Convergence.Proofs.Poll.Steps
import Mathlib.Algebra.GroupWithZero.Nat
import Mathlib.Algebra.Order.BigOperators.Group.List
import Mathlib.Algebra.Order.Group.Nat

/-! Polls that share a scene, in any order in which they can run. A poll may start at
any time, and whenever several can run any of them may take the next step. The clock
moves only when none can, and never past an instant for which one of them waits. The
token may be cancelled between any two steps, by whoever it is. -/
namespace Convergence

variable {Q : Type} {A : Q → Type} {σ α : Type}

/-- A setting in which nothing but a step of its own cancels the token. -/
def Source.calm (source : Source Q A σ) : Setting Q A σ := { source, trigger := .never }

/-- A poll that has not started, or one that has. -/
inductive Seat (Q : Type) (A : Q → Type) (α : Type) where
  | waiting (job : Job Q A α)
  | running (runner : Runner Q A α)

namespace Seat

def job : Seat Q A α → Job Q A α
  | waiting j => j
  | running r => r.job

def report? : Seat Q A α → Option (Report α)
  | waiting _ => none
  | running r => r.report?

def work : Seat Q A α → Nat
  | waiting j => (Runner.start j 0).phase.work + 1
  | running r => r.phase.work

/-- What a poll waits for is still to come, and one that is due has only just started. -/
def Timely (now : Instant) : Seat Q A α → Prop
  | waiting _ => True
  | running r =>
    (∀ wake, r.phase.wake? = some wake → now ≤ wake) ∧
      ∀ left, r.phase = .due left → r.course.started = now

def gap (now : Instant) : Seat Q A α → Nat
  | waiting _ => 0
  | running r => (r.phase.wake?.getD now) - now

end Seat

structure Hall (Q : Type) (A : Q → Type) (σ α : Type) where
  seats : List (Seat Q A α)
  scene : Scene σ

namespace Hall

/-- Nobody has started yet. -/
def opening (jobs : List (Job Q A α)) (s : Scene σ) : Hall Q A σ α :=
  { seats := jobs.map .waiting, scene := s }

def cancelled (h : Hall Q A σ α) : Hall Q A σ α :=
  { h with scene := { h.scene with cancelled := true } }

inductive Step (source : Source Q A σ) :
    Hall Q A σ α → List (Nat × Event Q) → Hall Q A σ α → Prop where
  | start {h : Hall Q A σ α} {i : Nat} {j : Job Q A α} (seat : h.seats[i]? = some (.waiting j)) :
      Step source h []
        { h with seats := h.seats.set i (.running (.start j h.scene.now)) }
  | run {h : Hall Q A σ α} {i : Nat} {r : Runner Q A α} (seat : h.seats[i]? = some (.running r))
      (can : r.canRun source.calm h.scene = true) :
      Step source h ((r.step source.calm h.scene).events.map (i, ·))
        { seats := h.seats.set i (.running (r.step source.calm h.scene).result)
          scene := (r.step source.calm h.scene).scene }
  | cancel {h : Hall Q A σ α} (live : h.scene.cancelled = false) : Step source h [] h.cancelled
  | wait {h : Hall Q A σ α} {now : Instant}
      (still : ∀ r, .running r ∈ h.seats → r.canRun source.calm h.scene = false)
      (later : h.scene.now < now)
      (awaited : ∃ r, .running r ∈ h.seats ∧ r.phase.wake?.isSome = true)
      (early : ∀ r wake, .running r ∈ h.seats → r.phase.wake? = some wake → now ≤ wake) :
      Step source h [] { h with scene := { h.scene with now } }

/-- Steps one after the other, and what happened in them, each event under the place
of its poll. -/
inductive Run (source : Source Q A σ) :
    Hall Q A σ α → List (Nat × Event Q) → Hall Q A σ α → Prop where
  | refl (h : Hall Q A σ α) : Run source h [] h
  | step {a b c : Hall Q A σ α} {first rest : List (Nat × Event Q)} :
      Step source a first b → Run source b rest c → Run source a (first ++ rest) c

variable {source : Source Q A σ} {a b c h : Hall Q A σ α} {first rest : List (Nat × Event Q)}

namespace Run

theorem single (hstep : Step source a first b) : Run source a first b := by
  have hrun := Run.step hstep (.refl b)
  rwa [List.append_nil] at hrun

theorem trans (hab : Run source a first b) (hbc : Run source b rest c) :
    Run source a (first ++ rest) c := by
  induction hab with
  | refl h => exact hbc
  | step hstep _ ih =>
    rw [List.append_assoc]
    exact .step hstep (ih hbc)

theorem keeps {P : Hall Q A σ α → Prop}
    (hstep : ∀ {a b : Hall Q A σ α} {first}, Step source a first b → P a → P b)
    (hrun : Run source a first b) (ha : P a) : P b := by
  induction hrun with
  | refl h => exact ha
  | step h _ ih => exact ih (hstep h ha)

end Run

def own (i : Nat) (events : List (Nat × Event Q)) : List (Event Q) :=
  events.filterMap fun e => if e.1 = i then some e.2 else none

/-- Every poll has started and ended. -/
def Over (h : Hall Q A σ α) : Prop := ∀ seat ∈ h.seats, ∃ report, seat.report? = some report

@[simp] theorem own_nil (i : Nat) : own i ([] : List (Nat × Event Q)) = [] := rfl

@[simp] theorem own_append (i : Nat) (first rest : List (Nat × Event Q)) :
    own i (first ++ rest) = own i first ++ own i rest := by
  unfold own
  rw [List.filterMap_append]

@[simp] theorem own_self (i : Nat) (events : List (Event Q)) :
    own i (events.map (i, ·)) = events := by
  unfold own
  rw [List.filterMap_map]
  simp

theorem own_other {i k : Nat} (h : k ≠ i) (events : List (Event Q)) :
    own i (events.map (k, ·)) = [] := by
  unfold own
  rw [List.filterMap_map]
  simp [h]

/-! ### Termination -/

theorem sum_set_lt {β : Type} {l : List β} {i : Nat} {x y : β} {f : β → Nat}
    (hx : l[i]? = some x) (hlt : f y < f x) : ((l.set i y).map f).sum < (l.map f).sum := by
  induction l generalizing i with
  | nil => simp at hx
  | cons z l ih =>
    cases i with
    | zero =>
      have hz : z = x := by simpa using hx
      simp only [List.set_cons_zero, List.map_cons, List.sum_cons, hz]
      omega
    | succ i =>
      have hi := ih (by simpa using hx)
      simp only [List.set_cons_succ, List.map_cons, List.sum_cons]
      omega

/-- The steps that polls can still take, and whether the token can be cancelled. -/
def work (h : Hall Q A σ α) : Nat :=
  2 * (h.seats.map Seat.work).sum + if h.scene.cancelled then 0 else 1

def gap (h : Hall Q A σ α) : Nat := (h.seats.map (Seat.gap h.scene.now)).sum

theorem Step.work (h : Step source a first b) : b.work < a.work ∨
    b.work = a.work ∧ b.gap < a.gap := by
  cases h with
  | @start i j seat =>
    have hlt := sum_set_lt (f := Seat.work) (y := .running (.start j a.scene.now)) seat
      (Nat.lt_succ_self _)
    left
    unfold Hall.work
    dsimp only
    omega
  | @run i r seat can =>
    have hact := Runner.step_act can
    have hlt := sum_set_lt (f := Seat.work)
      (y := .running (r.step source.calm a.scene).result) seat
      (show Seat.work (.running _) < Seat.work (.running r) from hact.work)
    left
    unfold Hall.work
    dsimp only
    rw [hact.cancelled rfl]
    omega
  | cancel live =>
    left
    unfold Hall.work Hall.cancelled
    simp [live]
  | @wait now still later awaited early =>
    right
    refine ⟨rfl, List.sum_lt_sum _ _ (fun seat hseat => ?_) ?_⟩
    · cases seat with
      | waiting j => exact le_rfl
      | running r =>
        cases hwake : r.phase.wake? with
        | none => simp [Seat.gap, hwake]
        | some wake =>
          simp only [Seat.gap, hwake, Option.getD_some]
          exact Nat.sub_le_sub_left (Nat.le_of_lt later) _
    · obtain ⟨r, hr, hawaited⟩ := awaited
      obtain ⟨wake, hwake⟩ := Option.isSome_iff_exists.mp hawaited
      refine ⟨.running r, hr, ?_⟩
      have hle := early r wake hr hwake
      simp only [Seat.gap, hwake, Option.getD_some]
      unfold Instant at *
      omega

/-- No steps go on for ever, whoever takes them. -/
theorem wellFounded_step (source : Source Q A σ) :
    WellFounded fun b a : Hall Q A σ α => ∃ events, Step source a events b := by
  refine Subrelation.wf ?_ (InvImage.wf (fun h : Hall Q A σ α => (h.work, h.gap))
    (Prod.lex ⟨_, Nat.lt_wfRel.wf⟩ ⟨_, Nat.lt_wfRel.wf⟩).wf)
  rintro b a ⟨events, h⟩
  exact Prod.lex_def.mpr h.work

/-- As long as a poll has not ended there is a step that leaves the token alone. -/
theorem exists_step (source : Source Q A σ) (h : Hall Q A σ α) (hover : ¬ h.Over) :
    ∃ events next, Step source h events next ∧ next.scene.cancelled = h.scene.cancelled := by
  unfold Over at hover
  push Not at hover
  obtain ⟨seat, hmem, hopen⟩ := hover
  obtain ⟨i, hseat⟩ := List.mem_iff_getElem?.mp hmem
  cases seat with
  | waiting j => exact ⟨_, _, .start hseat, rfl⟩
  | running r =>
    by_cases hrun : ∃ r, .running r ∈ h.seats ∧ r.canRun source.calm h.scene = true
    · obtain ⟨r, hr, can⟩ := hrun
      obtain ⟨k, hk⟩ := List.mem_iff_getElem?.mp hr
      exact ⟨_, _, .run hk can, (Runner.step_act can).cancelled rfl⟩
    · have still : ∀ r, .running r ∈ h.seats → r.canRun source.calm h.scene = false :=
        fun r hr => by simpa using fun can => hrun ⟨r, hr, can⟩
      have hwakes : ∃ wake, ∃ r, .running r ∈ h.seats ∧ r.phase.wake? = some wake := by
        rcases Runner.of_still (still r hmem) with ⟨report, hreport⟩ | ⟨wake, hwake, -⟩
        · exact absurd hreport (hopen report)
        · exact ⟨wake, r, hmem, hwake⟩
      classical
      obtain ⟨first, hfirst, hwake⟩ := Nat.find_spec hwakes
      have hleast := fun wake r hr hw => Nat.find_min' hwakes (m := wake) ⟨r, hr, hw⟩
      generalize Nat.find hwakes = least at hwake hleast
      have hlater : h.scene.now < least := by
        rcases Runner.of_still (still first hfirst) with ⟨report, hreport⟩ | ⟨wake, hw, hlt⟩
        · unfold Runner.report? at hreport
          split at hreport <;> simp_all [Phase.wake?]
        · exact Option.some.inj (hwake.symm.trans hw) ▸ hlt
      exact ⟨_, _, .wait still hlater ⟨first, hfirst, by rw [hwake]; rfl⟩
        fun r wake hr hw => hleast wake r hr hw, rfl⟩

theorem exists_over (source : Source Q A σ) (h : Hall Q A σ α) :
    ∃ events last, Run source h events last ∧ last.Over := by
  induction h using (wellFounded_step (α := α) source).induction with
  | _ h ih =>
    by_cases hover : h.Over
    · exact ⟨[], h, .refl h, hover⟩
    · obtain ⟨first, next, hstep, -⟩ := exists_step source h hover
      obtain ⟨events, last, hrun, hlast⟩ := ih next ⟨first, hstep⟩
      exact ⟨first ++ events, last, .step hstep hrun, hlast⟩

/-! ### What a step does to one poll -/

theorem getElem?_set_of {β : Type} {l : List β} {i k : Nat} {x z : β} (y : β)
    (hz : l[k]? = some z) (hx : l[i]? = some x) :
    (l.set k y)[i]? = some (if k = i then y else x) := by
  rw [List.getElem?_set]
  split
  · obtain ⟨hlt, -⟩ := List.getElem?_eq_some_iff.mp hz
    simp [hlt]
  · exact hx

/-- A step that is not its own leaves a poll where it is. -/
theorem Step.seat (hstep : Step source a first b) {i : Nat} {x : Seat Q A α}
    (hx : a.seats[i]? = some x) :
    (b.seats[i]? = some x ∧ own i first = []) ∨
      (∃ j, x = .waiting j ∧ b.seats[i]? = some (.running (.start j a.scene.now)) ∧
        own i first = [] ∧ b.scene = a.scene) ∨
      ∃ r, x = .running r ∧ r.canRun source.calm a.scene = true ∧
        b.seats[i]? = some (.running (r.step source.calm a.scene).result) ∧
        own i first = (r.step source.calm a.scene).events ∧
        b.scene = (r.step source.calm a.scene).scene := by
  cases hstep with
  | @start k j seat =>
    have hset := getElem?_set_of (.running (.start j a.scene.now)) seat hx
    by_cases hk : k = i
    · subst hk
      rw [if_pos rfl] at hset
      have hj : x = .waiting j := Option.some.inj (hx.symm.trans seat)
      exact .inr (.inl ⟨j, hj, hset, rfl, rfl⟩)
    · rw [if_neg hk] at hset
      exact .inl ⟨hset, rfl⟩
  | @run k r seat can =>
    have hset := getElem?_set_of (.running (r.step source.calm a.scene).result) seat hx
    by_cases hk : k = i
    · subst hk
      rw [if_pos rfl] at hset
      have hr : x = .running r := Option.some.inj (hx.symm.trans seat)
      exact .inr (.inr ⟨r, hr, can, hset, own_self k _, rfl⟩)
    · rw [if_neg hk] at hset
      exact .inl ⟨hset, own_other hk _⟩
  | cancel live => exact .inl ⟨hx, rfl⟩
  | wait still later awaited early => exact .inl ⟨hx, rfl⟩

/-- The clock moves only when no poll can run, and never past one that waits. -/
theorem Step.now (hstep : Step source a first b) :
    b.scene.now = a.scene.now ∨
      a.scene.now < b.scene.now ∧ b.seats = a.seats ∧
        b.scene = { a.scene with now := b.scene.now } ∧
        ∀ r, .running r ∈ a.seats → r.canRun source.calm a.scene = false ∧
          ∀ wake, r.phase.wake? = some wake → b.scene.now ≤ wake := by
  cases hstep with
  | start seat => exact .inl rfl
  | run seat can => exact .inl (Runner.step_act can).now
  | cancel live => exact .inl rfl
  | wait still later awaited early =>
    exact .inr ⟨later, rfl, rfl, fun r hr => ⟨still r hr, fun wake hw => early r wake hr hw⟩⟩

theorem Step.cancelled (hstep : Step source a first b) (h : a.scene.cancelled = true) :
    b.scene.cancelled = true := by
  cases hstep with
  | start seat => exact h
  | run seat can => exact ((Runner.step_act can).cancelled rfl).trans h
  | cancel live => rfl
  | wait still later awaited early => exact h

theorem Step.seat_back (hstep : Step source a first b) {i : Nat} {y : Seat Q A α}
    (hy : b.seats[i]? = some y) : ∃ x, a.seats[i]? = some x := by
  have hlength : b.seats.length = a.seats.length := by
    cases hstep <;> simp [Hall.cancelled]
  obtain ⟨hlt, -⟩ := List.getElem?_eq_some_iff.mp hy
  exact ⟨_, List.getElem?_eq_getElem (hlength ▸ hlt)⟩

/-! ### What every step keeps -/

def Timely (h : Hall Q A σ α) : Prop :=
  ∀ (i : Nat) (x : Seat Q A α), h.seats[i]? = some x → x.Timely h.scene.now

theorem Step.timely (hstep : Step source a first b) (ha : a.Timely) : b.Timely := by
  intro i y hy
  obtain ⟨x, hx⟩ := hstep.seat_back hy
  rcases hstep.seat hx with ⟨hsame, -⟩ | ⟨j, -, hstart, -, hscene⟩ | ⟨r, -, can, hrun, -, hscene⟩
  · obtain rfl : x = y := Option.some.inj (hsame.symm.trans hy)
    rcases hstep.now with hnow | ⟨-, -, -, hstill⟩
    · rw [hnow]
      exact ha i x hx
    · cases x with
      | waiting j => trivial
      | running r =>
        obtain ⟨still, hwake⟩ := hstill r (List.mem_of_getElem? hx)
        refine ⟨hwake, fun left hdue => ?_⟩
        simp [Runner.canRun, hdue] at still
  · obtain rfl := Option.some.inj (hstart.symm.trans hy)
    rw [hscene]
    exact ⟨nofun, fun _ _ => rfl⟩
  · obtain rfl := Option.some.inj (hrun.symm.trans hy)
    have hact := Runner.step_act can
    rw [hscene, hact.now]
    exact ⟨fun wake => hact.timely, fun left hdue => absurd hdue (hact.not_due left)⟩

theorem opening_timely (jobs : List (Job Q A α)) (s : Scene σ) :
    (opening jobs s : Hall Q A σ α).Timely := by
  intro i x hx
  unfold opening at hx
  rw [List.getElem?_map] at hx
  obtain ⟨j, -, rfl⟩ := Option.map_eq_some_iff.mp hx
  trivial

/-- The poll in a seat is the one that was given it. -/
theorem Step.job {jobs : List (Job Q A α)} (hstep : Step source a first b)
    (ha : ∀ (i : Nat) (x : Seat Q A α), a.seats[i]? = some x → jobs[i]? = some x.job) :
    ∀ (i : Nat) (x : Seat Q A α), b.seats[i]? = some x → jobs[i]? = some x.job := by
  intro i y hy
  obtain ⟨x, hx⟩ := hstep.seat_back hy
  rw [ha i x hx]
  rcases hstep.seat hx with ⟨hsame, -⟩ | ⟨j, rfl, hstart, -⟩ | ⟨r, rfl, can, hrun, -⟩
  · rw [Option.some.inj (hsame.symm.trans hy)]
  · rw [← Option.some.inj (hstart.symm.trans hy)]
    rfl
  · rw [← Option.some.inj (hrun.symm.trans hy)]
    exact congrArg some (Runner.step_act can).job.symm

/-- A poll that has started goes on from the same start. -/
theorem Step.started (hstep : Step source a first b) {i : Nat} {r : Runner Q A α}
    (hr : a.seats[i]? = some (.running r)) :
    ∃ r', b.seats[i]? = some (.running r') ∧ r'.course.started = r.course.started := by
  rcases hstep.seat hr with ⟨hsame, -⟩ | ⟨j, hj, -⟩ | ⟨r', hr', can, hrun, -⟩
  · exact ⟨r, hsame, rfl⟩
  · cases hj
  · cases hr'
    exact ⟨_, hrun, (Runner.step_act can).started⟩

theorem Run.started (hrun : Run source a first b) {i : Nat} {r : Runner Q A α}
    (hr : a.seats[i]? = some (.running r)) :
    ∃ r', b.seats[i]? = some (.running r') ∧ r'.course.started = r.course.started :=
  hrun.keeps
    (P := fun h => ∃ r', h.seats[i]? = some (.running r') ∧ r'.course.started = r.course.started)
    (fun hstep ⟨_, hr', hstarted⟩ =>
      let ⟨r'', hr'', hsame⟩ := hstep.started hr'
      ⟨r'', hr'', hsame.trans hstarted⟩)
    ⟨r, hr, rfl⟩

theorem Run.seat (hrun : Run source a first b) {i : Nat} {x : Seat Q A α}
    (hx : a.seats[i]? = some x) : ∃ y, b.seats[i]? = some y := by
  refine hrun.keeps (P := fun h => ∃ y, h.seats[i]? = some y) (fun hstep ⟨y, hy⟩ => ?_) ⟨x, hx⟩
  rcases hstep.seat hy with ⟨hsame, -⟩ | ⟨j, -, hstart, -⟩ | ⟨r, -, -, hrun, -⟩
  · exact ⟨_, hsame⟩
  · exact ⟨_, hstart⟩
  · exact ⟨_, hrun⟩

theorem Run.timely {jobs : List (Job Q A α)} {s : Scene σ}
    (hrun : Run source (opening jobs s) first h) : h.Timely :=
  hrun.keeps Step.timely (opening_timely jobs s)

theorem Run.job {jobs : List (Job Q A α)} {s : Scene σ} {i : Nat} {x : Seat Q A α}
    (hrun : Run source (opening jobs s) first h) (hx : h.seats[i]? = some x) :
    jobs[i]? = some x.job := by
  refine hrun.keeps Step.job (fun k y hy => ?_) i x hx
  unfold opening at hy
  rw [List.getElem?_map] at hy
  obtain ⟨j, hj, rfl⟩ := Option.map_eq_some_iff.mp hy
  exact hj

end Hall
end Convergence
