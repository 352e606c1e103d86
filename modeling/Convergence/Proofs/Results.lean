/-! Computations that may fail, taken apart: what comes out of two steps came out of the
first and then of the second. -/
namespace Convergence

variable {ε α β : Type}

theorem bind_eq_ok {x : Except ε α} {f : α → Except ε β} {b : β} :
    x >>= f = .ok b ↔ ∃ a, x = .ok a ∧ f a = .ok b := by
  cases x with
  | error e => exact ⟨nofun, nofun⟩
  | ok a =>
    constructor
    · intro h
      exact ⟨a, rfl, h⟩
    · rintro ⟨_, ha, h⟩
      cases ha
      exact h

theorem map_eq_ok {x : Except ε α} {f : α → β} {b : β} :
    x.map f = .ok b ↔ ∃ a, x = .ok a ∧ f a = b := by
  cases x with
  | error e => exact ⟨nofun, nofun⟩
  | ok a =>
    constructor
    · intro h
      exact ⟨a, rfl, Except.ok.inj h⟩
    · rintro ⟨_, ha, rfl⟩
      cases ha
      rfl

theorem forall_map_eq_ok {x : Except ε α} {f : α → β} {P : β → Prop} :
    (∀ b, x.map f = .ok b → P b) ↔ ∀ a, x = .ok a → P (f a) := by
  constructor
  · intro h a ha
    exact h (f a) (map_eq_ok.mpr ⟨a, ha, rfl⟩)
  · intro h b hb
    obtain ⟨a, ha, rfl⟩ := map_eq_ok.mp hb
    exact h a ha

end Convergence
