import Convergence.Proofs.Poll.Budget

/-! How many attempts fit into a timeout, exactly: one at the start and one after each
interval, as long as their number has a place in 32 bits. Their sleeps take the product that
they should, which is never cut. None of this hangs on numbers without an end. The same comes
out where every number must have a place in the word that it is kept in. -/
namespace Convergence

namespace Word

/-- How many numbers have a place in 32 bits. -/
def span32 : Nat := 4294967296

def span64 : Nat := 18446744073709551616

def span128 : Nat := 340282366920938463463374607431768211456

/-- The number, if it has a place among so many. -/
def fit? (span n : Nat) : Option Nat := if n < span then some n else none

theorem fit?_of_lt {span n : Nat} (h : n < span) : fit? span n = some n := if_pos h

theorem fit?_bind {α : Type} {span n : Nat} (h : n < span) (f : Nat → Option α) :
    fit? span n >>= f = f n := by
  rw [fit?_of_lt h]
  rfl

/-- What has no place becomes the greatest number that has one. -/
theorem fit?_getD {span last : Nat} (hspan : span = last + 1) (n : Nat) :
    (fit? span n).getD last = min n last := by
  by_cases h : n < span
  · rw [fit?_of_lt h, Option.getD_some, Nat.min_eq_left (by omega)]
  · unfold fit?
    rw [if_neg h, Option.getD_none, Nat.min_eq_right (by omega)]

end Word

namespace Duration

variable {d : Duration} {n : Nat}

/-- The nanoseconds in 128 bits, from seconds in 64 bits and what is left of a second. -/
def word? (d : Duration) : Option Nat := do
  let secs ← Word.fit? Word.span64 d.secs
  let whole ← Word.fit? Word.span128 (secs * 1000000000)
  Word.fit? Word.span128 (whole + d.subsecNanos)

/-- `n` times the duration, with what the nanoseconds come to carried to the seconds. -/
def product? (d : Duration) (n : Nat) : Option Duration := do
  let nanos ← Word.fit? Word.span64 (d.subsecNanos * n)
  let whole ← Word.fit? Word.span64 (d.secs * n)
  let secs ← Word.fit? Word.span64 (whole + nanos / 1000000000)
  return ⟨secs * 1000000000 + nanos % 1000000000⟩

theorem secs_add_subsecNanos (d : Duration) : d.secs * 1000000000 + d.subsecNanos = d.nanos :=
  Nat.div_add_mod' _ _

theorem subsecNanos_lt (d : Duration) : d.subsecNanos < 1000000000 := Nat.mod_lt _ (by decide)

theorem secs_lt_of_le_longest {m : Nat} (h : m ≤ longest.nanos) : m / 1000000000 < Word.span64 := by
  refine Nat.lt_of_le_of_lt (Nat.div_le_div_right h) ?_
  decide

theorem word?_eq (h : d.nanos ≤ longest.nanos) : d.word? = some d.nanos := by
  have hsecs : d.secs < Word.span64 := secs_lt_of_le_longest h
  have hrest := d.subsecNanos_lt
  have hsum := d.secs_add_subsecNanos
  have hwide : Word.span64 * 1000000000 ≤ Word.span128 := by decide
  unfold word?
  rw [Word.fit?_bind hsecs, Word.fit?_bind (by omega), Word.fit?_of_lt (by omega), hsum]

/-- The carry loses nothing. -/
theorem nanos_mul (d : Duration) (n : Nat) :
    d.nanos * n = (d.secs * n + d.subsecNanos * n / 1000000000) * 1000000000 +
      d.subsecNanos * n % 1000000000 := by
  have hcarry := Nat.div_add_mod' (d.subsecNanos * n) 1000000000
  rw [Nat.add_mul, Nat.add_assoc, hcarry, ← d.secs_add_subsecNanos, Nat.add_mul, Nat.mul_right_comm]

theorem product?_eq (hn : n < Word.span32) (h : d.nanos * n ≤ longest.nanos) :
    d.product? n = some (d.timesSat n) := by
  have hmul := d.nanos_mul n
  have hsecs : d.secs * n + d.subsecNanos * n / 1000000000 < Word.span64 := by
    have hquotient := secs_lt_of_le_longest h
    omega
  have hrest : d.subsecNanos * n < Word.span64 :=
    calc d.subsecNanos * n ≤ 1000000000 * Word.span32 :=
          Nat.mul_le_mul (Nat.le_of_lt d.subsecNanos_lt) (Nat.le_of_lt hn)
      _ < Word.span64 := by decide
  unfold product? timesSat
  rw [Word.fit?_bind hrest, Word.fit?_bind (by omega), Word.fit?_bind hsecs, if_pos h, hmul]
  rfl

end Duration

namespace Plan

variable {timeout interval : Duration} {plan : Plan}

/-- The number of attempts in words. There is none where a word overflows or is divided by
zero. A number of steps without a place in 32 bits is cut, and so is what is one more than
the greatest. -/
def countInWords? (timeout interval : Duration) : Option Nat := do
  let whole ← timeout.word?
  let part ← interval.word?
  let steps ← if part = 0 then none else Word.fit? Word.span128 (whole / part)
  let cut := (Word.fit? Word.span32 steps).getD 4294967295
  return (Word.fit? Word.span32 (cut + 1)).getD 4294967295

/-- The time of the sleeps in words. There is none where a word overflows, upwards or
downwards. -/
def budgetInWords? (interval : Duration) (attempts : Nat) : Option Duration := do
  let pauses ← if attempts = 0 then none else some (attempts - 1)
  interval.product? pauses

theorem attemptsWithin_eq (timeout interval : Duration) :
    attemptsWithin timeout interval = min (timeout.nanos / interval.nanos + 1) 4294967295 := by
  unfold attemptsWithin
  generalize timeout.nanos / interval.nanos = steps
  dsimp only
  split <;> omega

theorem attemptsWithin_mono {timeout' interval' : Duration} (hi : 0 < interval'.nanos)
    (htimeout : timeout.nanos ≤ timeout'.nanos) (hinterval : interval'.nanos ≤ interval.nanos) :
    attemptsWithin timeout interval ≤ attemptsWithin timeout' interval' := by
  have hsteps : timeout.nanos / interval.nanos ≤ timeout'.nanos / interval'.nanos :=
    calc timeout.nanos / interval.nanos ≤ timeout.nanos / interval'.nanos :=
          Nat.div_le_div_left hinterval hi
      _ ≤ timeout'.nanos / interval'.nanos := Nat.div_le_div_right htimeout
  rw [attemptsWithin_eq, attemptsWithin_eq]
  omega

/-- One attempt more would come after the timeout, unless the number of attempts is cut. -/
theorem lt_mul_attemptsWithin_iff (hi : 0 < interval.nanos) :
    timeout.nanos < interval.nanos * attemptsWithin timeout interval ↔
      timeout.nanos / interval.nanos < 4294967295 := by
  rw [attemptsWithin_eq, Nat.mul_comm, ← Nat.div_lt_iff_lt_mul hi]
  omega

theorem countInWords?_eq (hi : 0 < interval.nanos)
    (htimeout : timeout.nanos ≤ Duration.longest.nanos)
    (hinterval : interval.nanos ≤ Duration.longest.nanos) :
    countInWords? timeout interval = some (attemptsWithin timeout interval) := by
  have hsteps : timeout.nanos / interval.nanos < Word.span128 :=
    calc timeout.nanos / interval.nanos ≤ timeout.nanos := Nat.div_le_self _ _
      _ ≤ Duration.longest.nanos := htimeout
      _ < Word.span128 := by decide
  have hcut : ∀ n, (Word.fit? Word.span32 n).getD 4294967295 = min n 4294967295 :=
    Word.fit?_getD rfl
  unfold countInWords?
  rw [Duration.word?_eq htimeout, Duration.word?_eq hinterval]
  simp only [Option.bind_eq_bind, Option.bind_some]
  rw [if_neg (Nat.ne_of_gt hi), Word.fit?_of_lt hsteps, Option.bind_some, hcut, hcut,
    attemptsWithin_eq]
  exact congrArg some (by omega)

theorem budgetInWords?_eq
    (h : plan.interval.nanos * (plan.maxAttempts - 1) ≤ Duration.longest.nanos) :
    budgetInWords? plan.interval plan.maxAttempts = some plan.sleepBudget := by
  have hlt : plan.maxAttempts - 1 < Word.span32 :=
    Nat.lt_of_le_of_lt (Nat.sub_le _ _) plan.maxAttempts_lt
  unfold budgetInWords?
  rw [if_neg (Nat.ne_of_gt plan.maxAttempts_pos)]
  exact Duration.product?_eq hlt h

/-- A timeout that is not zero comes, at an interval that is not zero, to exactly so many
attempts as there are steps within it and one, cut to 32 bits. The sleeps between them take
their whole product, which lies within the timeout and is the last that does, unless attempts
are cut. A longer timeout or a shorter interval never comes to fewer attempts. Words are wide
enough for all of it, and none is divided by zero. -/
theorem ofTimeout_exact (description : String) (htimeout : 0 < timeout.nanos)
    (hinterval : 0 < interval.nanos) (htop : timeout.nanos ≤ Duration.longest.nanos)
    (hend : interval.nanos ≤ Duration.longest.nanos) :
    ∃ plan, ofTimeout description timeout interval = .ok plan ∧
      plan.description = description ∧ plan.interval = interval ∧
      plan.maxAttempts = min (timeout.nanos / interval.nanos + 1) 4294967295 ∧
      plan.sleepBudget.nanos = interval.nanos * (plan.maxAttempts - 1) ∧
      plan.sleepBudget.nanos ≤ timeout.nanos ∧
      (timeout.nanos < interval.nanos * plan.maxAttempts ↔
        timeout.nanos / interval.nanos < 4294967295) ∧
      (∀ longer shorter other, ofTimeout description longer shorter = .ok other →
        timeout.nanos ≤ longer.nanos → shorter.nanos ≤ interval.nanos →
          plan.maxAttempts ≤ other.maxAttempts) ∧
      countInWords? timeout interval = some plan.maxAttempts ∧
      budgetInWords? interval plan.maxAttempts = some plan.sleepBudget := by
  let c : Cadence := { interval, limit := .within timeout }
  have hfault : c.fault? description = none := by
    unfold Cadence.fault?
    rw [if_neg (Nat.ne_of_gt hinterval)]
    exact if_neg (Nat.ne_of_gt htimeout)
  obtain ⟨plan, hplan⟩ := Cadence.exists_plan.mpr hfault
  obtain ⟨hdescription, hpace, hattempts⟩ := Cadence.plan_ok hplan
  change plan.interval = interval at hpace
  have hwithin : interval.nanos * (plan.maxAttempts - 1) ≤ timeout.nanos := by
    rw [hattempts]
    exact attemptsWithin_mul_le timeout interval
  have huncut := Nat.le_trans hwithin htop
  have hbudget : plan.sleepBudget.nanos = interval.nanos * (plan.maxAttempts - 1) := by
    unfold sleepBudget
    rw [hpace]
    exact Duration.timesSat_of_le huncut
  refine ⟨plan, hplan, hdescription, hpace, ?_, hbudget, hbudget ▸ hwithin, ?_, ?_, ?_, ?_⟩
  · rw [hattempts]
    exact attemptsWithin_eq timeout interval
  · rw [hattempts]
    exact lt_mul_attemptsWithin_iff hinterval
  · intro longer shorter other hother hlonger hshorter
    have hcadence : Cadence.plan { interval := shorter, limit := .within longer } description =
        .ok other := hother
    obtain ⟨-, hsame, hcount⟩ := Cadence.plan_ok hcadence
    rw [hattempts, hcount]
    exact attemptsWithin_mono (hsame ▸ other.interval_pos) hlonger hshorter
  · rw [hattempts]
    exact countInWords?_eq hinterval htop hend
  · rw [← hpace] at huncut ⊢
    exact budgetInWords?_eq huncut

/-- One step more than 32 bits can count. -/
theorem ofTimeout_exact_cut :
    let interval : Duration := ⟨1500000001⟩
    let timeout : Duration := ⟨1500000001 * 4294967295 + 7⟩
    0 < timeout.nanos ∧ 0 < interval.nanos ∧ timeout.nanos ≤ Duration.longest.nanos ∧
      interval.nanos ≤ Duration.longest.nanos ∧
      ∃ plan, ofTimeout "cut" timeout interval = .ok plan ∧ plan.maxAttempts = 4294967295 ∧
        plan.sleepBudget.nanos = 1500000001 * 4294967294 ∧
        ¬timeout.nanos < interval.nanos * plan.maxAttempts := by
  intro interval timeout
  have htimeout : 0 < timeout.nanos := by decide
  have hinterval : 0 < interval.nanos := by decide
  have htop : timeout.nanos ≤ Duration.longest.nanos := by decide
  have hend : interval.nanos ≤ Duration.longest.nanos := by decide
  obtain ⟨plan, hplan, -, -, hattempts, hbudget, -, hlast, -⟩ :=
    ofTimeout_exact "cut" htimeout hinterval htop hend
  have hcount : plan.maxAttempts = 4294967295 := hattempts.trans (by decide)
  rw [hcount] at hbudget
  refine ⟨htimeout, hinterval, htop, hend, plan, hplan, hcount, hbudget, ?_⟩
  rw [hlast]
  decide

end Plan

end Convergence
