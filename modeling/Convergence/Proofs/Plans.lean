import Convergence.Cadence

/-! Which cadences can be carried out, and what plan comes of one. -/
namespace Convergence

namespace Cadence

/-- Why there is no plan of a cadence for the condition `description`. -/
def fault? (c : Cadence) (description : String) : Option PlanError :=
  if c.interval.nanos = 0 then some (.zeroInterval description)
  else
    match c.limit with
    | .attempts n => if n.toNat = 0 then some (.zeroAttempts description) else none
    | .within timeout => if timeout.nanos = 0 then some (.zeroTimeout description) else none

/-- How many ticks a cadence comes to. -/
def attempts (c : Cadence) : Nat :=
  match c.limit with
  | .attempts n => n.toNat
  | .within timeout => Plan.attemptsWithin timeout c.interval

variable {c : Cadence} {description : String} {plan : Plan} {error : PlanError}

theorem plan_spec (c : Cadence) (description : String) :
    (∃ error, c.fault? description = some error ∧ c.plan description = .error error) ∨
      c.fault? description = none ∧ ∃ plan, c.plan description = .ok plan ∧
        plan.description = description ∧ plan.interval = c.interval ∧
          plan.maxAttempts = c.attempts := by
  unfold fault? attempts Cadence.plan Plan.ofLimit Plan.ofAttempts Plan.ofTimeout
  by_cases hi : c.interval.nanos = 0
  · left
    cases c.limit <;> simp [hi]
  · cases c.limit with
    | attempts n =>
      by_cases hn : n.toNat = 0
      · left
        simp [hi, hn]
      · right
        simp [hi, hn]
    | within timeout =>
      by_cases ht : timeout.nanos = 0
      · left
        simp [hi, ht]
      · right
        simp [hi, ht]

theorem plan_ok (h : c.plan description = .ok plan) :
    plan.description = description ∧ plan.interval = c.interval ∧
      plan.maxAttempts = c.attempts := by
  obtain ⟨_, -, hplan⟩ | ⟨-, _, hplan, hspec⟩ := c.plan_spec description
  · cases h.symm.trans hplan
  · cases h.symm.trans hplan
    exact hspec

theorem plan_error : c.plan description = .error error ↔ c.fault? description = some error := by
  obtain ⟨other, hfault, hplan⟩ | ⟨hfault, plan, hplan, -⟩ := c.plan_spec description
  · rw [hfault, hplan, Except.error.injEq, Option.some.injEq]
  · rw [hfault, hplan]
    exact ⟨nofun, nofun⟩

theorem exists_plan : (∃ plan, c.plan description = .ok plan) ↔ c.fault? description = none := by
  obtain ⟨other, hfault, hplan⟩ | ⟨hfault, plan, hplan, -⟩ := c.plan_spec description
  · rw [hfault, hplan]
    exact ⟨nofun, nofun⟩
  · rw [hfault, hplan]
    exact ⟨fun _ => rfl, fun _ => ⟨plan, rfl⟩⟩

end Cadence
end Convergence
