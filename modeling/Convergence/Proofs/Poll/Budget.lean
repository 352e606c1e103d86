import Convergence.Proofs.Plans
import Convergence.Proofs.Poll.Endings
import Convergence.Proofs.Poll.Later

/-! The time of a poll next to the time that its plan allows for sleep. The clock wakes a
poll on whole milliseconds. A plan with a part of a millisecond in its interval does not
count what the clock adds to every sleep, and such a poll may take longer than it allows. -/
namespace Convergence

/-- There is no part of a millisecond in it. -/
def Duration.Whole (d : Duration) : Prop := d.nanos % 1000000 = 0

instance (d : Duration) : Decidable d.Whole := inferInstanceAs (Decidable (_ = _))

namespace Duration

variable {d : Duration}

theorem Whole.millisUp (h : d.Whole) : d.millisUp * 1000000 = d.nanos := by
  unfold Whole at h
  unfold Duration.millisUp
  omega

theorem lt_millisUp (h : ¬d.Whole) : d.nanos < d.millisUp * 1000000 := by
  unfold Whole at h
  unfold Duration.millisUp
  omega

theorem timesSat_le (d : Duration) (n : Nat) : (d.timesSat n).nanos ≤ d.nanos * n := by
  unfold timesSat
  split
  · exact Nat.le_refl _
  · omega

theorem le_timesSat {d : Duration} {n m : Nat} (h : m ≤ d.nanos * n) (hlongest : m ≤ longest.nanos) :
    m ≤ (d.timesSat n).nanos := by
  unfold timesSat
  split
  · exact h
  · exact hlongest

end Duration

/-- The sleeps that a timeout leaves room for take no longer than it. -/
theorem Plan.attemptsWithin_mul_le (timeout interval : Duration) :
    interval.nanos * (Plan.attemptsWithin timeout interval - 1) ≤ timeout.nanos := by
  have hsteps : Plan.attemptsWithin timeout interval - 1 ≤ timeout.nanos / interval.nanos := by
    unfold attemptsWithin
    generalize timeout.nanos / interval.nanos = steps
    dsimp only
    split <;> omega
  exact Nat.le_trans (Nat.mul_le_mul_left _ hsteps) (Nat.mul_div_le _ _)

theorem Cadence.sleepBudget_le {c : Cadence} {timeout : Duration} {description : String}
    {plan : Plan} (hlimit : c.limit = .within timeout) (hplan : c.plan description = .ok plan) :
    plan.sleepBudget.nanos ≤ timeout.nanos := by
  obtain ⟨-, hinterval, hattempts⟩ := Cadence.plan_ok hplan
  refine Nat.le_trans (Duration.timesSat_le _ _) ?_
  unfold Cadence.attempts at hattempts
  rw [hlimit] at hattempts
  rw [hinterval, hattempts]
  exact Plan.attemptsWithin_mul_le timeout c.interval

namespace Job

variable {Q : Type} {A : Q → Type} {σ α : Type}

/-- How long the first `n` calls of the check take. -/
def busy (j : Job Q A α) (source : Source Q A σ) (state : σ) (n : Nat) : Nat :=
  ((List.range n).map fun i => (j.check.callAt source state i).delay).sum

/-! ### When the calls begin -/

section

variable {j : Job Q A α} {source : Source Q A σ} {state : σ} {now : Instant} {i n : Nat}

theorem startAt_succ (j : Job Q A α) (source : Source Q A σ) (state : σ) (now : Instant) (i : Nat) :
    j.startAt source state now (i + 1) =
      j.endAt source state now i + j.pauseAt source state now i := by
  have hwake := lt_wakeTime (j.endAt source state now i) j.plan.interval_pos
  unfold pauseAt
  exact (Nat.add_sub_cancel' (Nat.le_of_lt hwake)).symm

theorem startAt_eq_sum (n : Nat) :
    j.startAt source state now n =
      now + (j.busy source state n + ((List.range n).map (j.pauseAt source state now)).sum) := by
  cases n with
  | zero => rfl
  | succ n =>
    rw [startAt_succ, endAt_eq_sum, List.sum_range_succ (j.pauseAt source state now)]
    unfold busy Instant
    omega

/-- A sleep that does not go past the end of the clock takes the interval, with a part of
a millisecond in it waited out. -/
theorem pauseAt_of_not_overruns (h : ¬j.Overruns source state now i) :
    j.pauseAt source state now i = j.plan.interval.millisUp := by
  have hpause := wakeTime_sub (j.endAt source state now i) j.plan.interval
  unfold Overruns at h
  rw [if_neg h] at hpause
  exact hpause

theorem pauses_sum (h : ∀ i < n, ¬j.Overruns source state now i) :
    ((List.range n).map (j.pauseAt source state now)).sum = n * j.plan.interval.millisUp := by
  induction n with
  | zero => exact (Nat.zero_mul _).symm
  | succ n ih =>
    rw [List.sum_range_succ, ih fun i hi => h i (Nat.lt_succ_of_lt hi),
      pauseAt_of_not_overruns (h n (Nat.lt_succ_self n)), Nat.succ_mul]

theorem startAt_of_not_overruns (h : ∀ i < n, ¬j.Overruns source state now i) :
    j.startAt source state now n =
      now + (j.busy source state n + n * j.plan.interval.millisUp) := by
  rw [startAt_eq_sum, pauses_sum h]

/-- Sleeps of whole milliseconds stay within the budget. They do so where the budget is as
long as a duration can be, since the clock ends before. -/
theorem pauses_le_sleepBudget (hwhole : j.plan.interval.Whole)
    (h : ∀ i < n, ¬j.Overruns source state now i) (hn : n < j.plan.maxAttempts) :
    n * j.plan.interval.millisUp * 1000000 ≤ j.plan.sleepBudget.nanos := by
  have hmillis : n * j.plan.interval.millisUp * 1000000 = j.plan.interval.nanos * n := by
    rw [Nat.mul_assoc, hwhole.millisUp, Nat.mul_comm]
  refine Duration.le_timesSat ?_ ?_
  · rw [hmillis]
    exact Nat.mul_le_mul_left _ (Nat.le_sub_one_of_lt hn)
  · cases n with
    | zero =>
      rw [Nat.zero_mul, Nat.zero_mul]
      exact Nat.zero_le _
    | succ n =>
      have hstart := startAt_of_not_overruns h
      have hlast := h n (Nat.lt_succ_self n)
      rw [startAt_succ, pauseAt_of_not_overruns hlast] at hstart
      have hnanos := hwhole.millisUp
      have hlongest : clockEnd ≤ Duration.longest.nanos := by decide
      unfold Overruns at hlast
      unfold Instant at hstart hlast
      omega

end

/-! ### How long a run takes -/

variable (j : Job Q A α) (e : Setting Q A σ) (s : Scene σ)

/-- A run takes the time of its calls and of the sleeps between them. A cut run has slept
after its last call too, if not to the end. -/
theorem run_elapsed :
    ∃ n < j.plan.maxAttempts,
      n ≤ (j.run e s).result.attempts ∧ (j.run e s).result.attempts ≤ n + 1 ∧
      let time := Duration.ofMillis (j.busy e.source s.source (j.run e s).result.attempts +
        ((List.range n).map (j.pauseAt e.source s.source s.now)).sum)
      (j.run e s).result.elapsed.nanos ≤ time.nanos ∧
        ((j.run e s).result.attempts = n + 1 → (j.run e s).result.elapsed = time) := by
  rcases j.endsWith_or_cutBefore e s with ⟨n, h⟩ | ⟨n, h⟩
  · have helapsed := j.endAt_elapsed e.source s.source s.now n
    rw [← returnAt_eq_endAt] at helapsed
    rw [h.result]
    exact ⟨n, h.within, Nat.le_succ n, Nat.le_refl _, Nat.le_of_eq (congrArg _ helapsed),
      fun _ => helapsed⟩
  · rw [h.result]
    refine ⟨n, h.within, Nat.le_refl n, Nat.le_succ n, ?_,
      fun hn => absurd hn (Nat.ne_of_lt n.lt_succ_self)⟩
    refine Nat.mul_le_mul_right _ ?_
    cases n with
    | zero => exact Nat.le_of_eq (Nat.sub_self s.now)
    | succ n =>
      have hcut : (j.cutAt e s (n + 1)).now ≤ j.startAt e.source s.source s.now (n + 1) := by
        have hwake := h.now.2
        rw [returnAt_eq_endAt] at hwake
        exact hwake
      rw [startAt_eq_sum] at hcut
      exact Nat.sub_le_iff_le_add'.mpr hcut

/-- None of the sleeps of the run goes past the end of the clock. -/
def OnClock : Prop :=
  ∀ i < (j.run e s).result.attempts, i + 1 < j.plan.maxAttempts →
    ¬j.Overruns e.source s.source s.now i

variable {j e s}

theorem OnClock.not_overruns (h : j.OnClock e s) {n : Nat} (hn : n < j.plan.maxAttempts)
    (hle : n ≤ (j.run e s).result.attempts) : ∀ i < n, ¬j.Overruns e.source s.source s.now i := by
  intro i hi
  exact h i (Nat.lt_of_lt_of_le hi hle) (Nat.lt_of_le_of_lt hi hn)

/-- The time of a run is that of its calls and of `n` sleeps, all of the same length. -/
theorem OnClock.elapsed (h : j.OnClock e s) :
    ∃ n < j.plan.maxAttempts,
      (∀ i < n, ¬j.Overruns e.source s.source s.now i) ∧
      (j.run e s).result.attempts ≤ n + 1 ∧
      let time := n * j.plan.interval.millisUp * 1000000 +
        j.busy e.source s.source (j.run e s).result.attempts * 1000000
      (j.run e s).result.elapsed.nanos ≤ time ∧
        ((j.run e s).result.attempts = n + 1 → (j.run e s).result.elapsed.nanos = time) := by
  obtain ⟨n, hn, hle, hge, htime, hfull⟩ := j.run_elapsed e s
  have hlive := h.not_overruns hn hle
  rw [pauses_sum hlive] at htime hfull
  have hsum : ∀ calls sleeps : Nat, (Duration.ofMillis (calls + sleeps)).nanos =
      sleeps * 1000000 + calls * 1000000 := by
    intro calls sleeps
    unfold Duration.ofMillis
    rw [Nat.add_mul, Nat.add_comm]
  refine ⟨n, hn, hlive, hge, Nat.le_trans htime (Nat.le_of_eq (hsum _ _)), fun hlast => ?_⟩
  rw [hfull hlast]
  exact hsum _ _

theorem OnClock.le_budget (h : j.OnClock e s) (hwhole : j.plan.interval.Whole) :
    (j.run e s).result.elapsed.nanos ≤ j.plan.sleepBudget.nanos +
      j.busy e.source s.source (j.run e s).result.attempts * 1000000 := by
  obtain ⟨n, hn, hlive, -, htime, -⟩ := h.elapsed
  exact Nat.le_trans htime (Nat.add_le_add_right (pauses_le_sleepBudget hwhole hlive hn) _)

theorem OnClock.budget_lt (h : j.OnClock e s) (hpart : ¬j.plan.interval.Whole)
    (hmany : 1 < j.plan.maxAttempts) (hall : (j.run e s).result.attempts = j.plan.maxAttempts) :
    j.plan.sleepBudget.nanos +
        j.busy e.source s.source (j.run e s).result.attempts * 1000000 <
      (j.run e s).result.elapsed.nanos := by
  obtain ⟨n, hn, -, hge, -, hfull⟩ := h.elapsed
  have hlast : j.plan.maxAttempts = n + 1 := Nat.le_antisymm (hall ▸ hge) hn
  rw [hfull (hall.trans hlast)]
  apply Nat.add_lt_add_right
  calc j.plan.sleepBudget.nanos
      ≤ j.plan.interval.nanos * (j.plan.maxAttempts - 1) := Duration.timesSat_le _ _
    _ = n * j.plan.interval.nanos := by rw [hlast, Nat.add_sub_cancel, Nat.mul_comm]
    _ < n * (j.plan.interval.millisUp * 1000000) :=
      Nat.mul_lt_mul_of_pos_left (Duration.lt_millisUp hpart) (by omega)
    _ = n * j.plan.interval.millisUp * 1000000 := (Nat.mul_assoc _ _ _).symm

/-- What a run takes on a clock that does not end before it, where calls take whole
milliseconds. Its calls are an interval apart, rounded up to whole milliseconds too. With
an interval of whole milliseconds it takes no longer than its budget and its calls, and
than the timeout and its calls if the plan comes from one. With any other, a run that
makes all its attempts takes longer, except if there is only one. -/
theorem run_budget (h : j.OnClock e s) :
    let r := (j.run e s).result
    let busy := j.busy e.source s.source
    let interval := j.plan.interval
    let budget := j.plan.sleepBudget.nanos + busy r.attempts * 1000000
    (∀ i < r.attempts,
      j.startAt e.source s.source s.now i = s.now + (busy i + i * interval.millisUp)) ∧
    r.elapsed.nanos ≤
      (j.plan.maxAttempts - 1) * interval.millisUp * 1000000 + busy r.attempts * 1000000 ∧
    (interval.Whole → r.elapsed.nanos ≤ budget) ∧
    (∀ (c : Cadence) (timeout : Duration) (description : String),
      c.limit = .within timeout → c.plan description = .ok j.plan →
      interval.Whole → r.elapsed.nanos ≤ timeout.nanos + busy r.attempts * 1000000) ∧
    (¬interval.Whole → 1 < j.plan.maxAttempts → r.attempts = j.plan.maxAttempts →
      budget < r.elapsed.nanos) := by
  intro r busy interval budget
  refine ⟨?_, ?_, h.le_budget, ?_, h.budget_lt⟩
  · intro i hi
    have hmax := Nat.lt_of_lt_of_le hi (j.attempts_le e s)
    exact startAt_of_not_overruns (h.not_overruns hmax (Nat.le_of_lt hi))
  · obtain ⟨n, hn, -, -, htime, -⟩ := h.elapsed
    refine Nat.le_trans htime (Nat.add_le_add_right (Nat.mul_le_mul_right _ ?_) _)
    exact Nat.mul_le_mul_right _ (Nat.le_sub_one_of_lt hn)
  · intro c timeout description hlimit hplan hwhole
    refine Nat.le_trans (h.le_budget hwhole) (Nat.add_le_add_right ?_ _)
    exact Cadence.sleepBudget_le hlimit hplan

end Job

theorem run_budget_rehearsal :
    let e : Setting Nat (fun _ => Finding Nat) (Tally Nat) :=
      { source := rehearsed, trigger := .never }
    let r := ((rehearsal 0).run e (e.opening [])).result
    (rehearsal 0).OnClock e (e.opening []) ∧
      r.attempts = 3 ∧ (rehearsal 0).busy e.source [] 3 = 5 ∧
      r.elapsed.nanos ≤
        (rehearsal 0).plan.sleepBudget.nanos + (rehearsal 0).busy e.source [] 3 * 1000000 := by
  intro e r
  have hclock : (rehearsal 0).OnClock e (e.opening []) := by
    have hlive : ∀ i < r.attempts, ¬(rehearsal 0).Overruns e.source [] 0 i := by decide
    intro i hi _
    exact hlive i hi
  have hattempts : r.attempts = 3 := by decide
  have hwhole : (rehearsal 0).plan.interval.Whole := by decide
  obtain ⟨-, -, hwithin, -⟩ := Job.run_budget hclock
  have hbudget := hwithin hwhole
  rw [hattempts] at hbudget
  exact ⟨hclock, hattempts, by decide, hbudget⟩

/-- Three ticks half a millisecond apart, within a millisecond. -/
def brisk : Cadence := { interval := ⟨500000⟩, limit := .within ⟨1000000⟩ }

/-- A poll at that pace, of a condition that is never met. -/
def unmet : Job Nat (fun _ => Finding Nat) Nat :=
  { rehearsal 0 with
    plan :=
      { (rehearsal 0).plan with
        description := "half"
        interval := brisk.interval
        interval_pos := by decide } }

/-- Its two sleeps take a millisecond each, and so twice as long as its plan allows. -/
theorem brisk_over_budget :
    let e : Setting Nat (fun _ => Finding Nat) (Tally Nat) :=
      { source := .scripted fun _ _ => { answer := .waiting "no", delay := 0 }, trigger := .never }
    let s := e.opening []
    let r := (unmet.run e s).result
    brisk.plan "half" = .ok unmet.plan ∧
      (∀ i < r.attempts, ¬unmet.Overruns e.source s.source s.now i) ∧
      unmet.busy e.source s.source r.attempts = 0 ∧
      unmet.startAt e.source s.source s.now 1 = 1 ∧
      ¬r.elapsed.nanos ≤ unmet.plan.sleepBudget.nanos ∧ ¬r.elapsed.nanos ≤ 1000000 := by
  intro e s r
  exact ⟨rfl, by decide, by decide, by decide, by decide, by decide⟩

end Convergence
