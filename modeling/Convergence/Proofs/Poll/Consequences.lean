import Convergence.Proofs.Poll.Milder

/-! What the finding of a tick does to the run that makes the tick. One that leaves the
condition open lets the run go on as far as the token and the attempts allow; any other is the
end of the run. -/
namespace Convergence

variable {Q : Type} {A : Q → Type} {σ α : Type}

namespace Job

/-- The run ends with the tick after `n` others, by what it finds. -/
structure EndsBy (j : Job Q A α) (e : Setting Q A σ) (s : Scene σ) (n : Nat) (f : Finding α) :
    Prop where
  finding : j.findingAt e s n = f
  ending : f.ending? = some (j.run e s).result.ending
  attempts : (j.run e s).result.attempts = n + 1

/-- The tick after `n` others sees something else than the condition, and the run does not end
by that. -/
structure GoesOnAfter (j : Job Q A α) (e : Setting Q A σ) (s : Scene σ) (n : Nat)
    (note : String) : Prop where
  finding : j.findingAt e s n = .pending (some note)
  goesOn : n + 1 < j.plan.maxAttempts →
    if j.stops e (j.sceneAt e s (n + 1)) then
      (j.run e s).result.ending = .cancelled ∧ (j.run e s).result.attempts = n + 1
    else n + 2 ≤ (j.run e s).result.attempts
  runsOut : n + 1 = j.plan.maxAttempts →
    (j.run e s).result.ending = .timedOut ∧ (j.run e s).result.attempts = n + 1 ∧
      (j.run e s).result.lastNote = some note

variable {j : Job Q A α} {e : Setting Q A σ} {s : Scene σ} {n : Nat}

theorem endsBy {f : Finding α} (hn : n < (j.run e s).result.attempts)
    (hfinding : j.findingAt e s n = f) (hdecisive : f.isPending = false) : j.EndsBy e s n f := by
  have hends : j.EndsWith e s n := endsWith_of_decisive hn (by rw [hfinding, hdecisive])
  refine { finding := hfinding, ending := ?_, attempts := by rw [hends.result] }
  rw [hends.result, hfinding]
  cases f with
  | pending note => cases hdecisive
  | met value => rfl
  | fatal cause => rfl

/-- Nothing has stopped a run before a tick that it makes. -/
theorem live_of_lt (hn : n < (j.run e s).result.attempts) :
    (∀ i < n, (j.findingAt e s i).isPending = true) ∧
      ∀ i ≤ n, j.stops e (j.sceneAt e s i) = false := by
  rcases j.endsWith_or_cutBefore e s with ⟨m, hends⟩ | ⟨m, hcut⟩
  · rw [hends.result] at hn
    have hle : n ≤ m := Nat.le_of_lt_succ hn
    exact ⟨fun i hi => hends.before i (Nat.lt_of_lt_of_le hi hle),
      fun i hi => hends.live i (Nat.le_trans hi hle)⟩
  · rw [hcut.result] at hn
    exact ⟨fun i hi => hcut.before i (Nat.lt_trans hi hn),
      fun i hi => hcut.live i (Nat.lt_of_le_of_lt hi hn)⟩

theorem goesOnAfter {note : String} (hn : n < (j.run e s).result.attempts)
    (hfinding : j.findingAt e s n = .pending (some note)) : j.GoesOnAfter e s n note := by
  obtain ⟨hbefore, hlive⟩ := live_of_lt hn
  have hpending : ∀ i ≤ n, (j.findingAt e s i).isPending = true := by
    intro i hi
    rcases Nat.lt_or_eq_of_le hi with hlt | rfl
    · exact hbefore i hlt
    · rw [hfinding]
      rfl
  refine
    { finding := hfinding
      goesOn := fun hmore => (run_goes_on hpending hlive hmore).2
      runsOut := fun hlast => ?_ }
  have hends : j.EndsWith e s n :=
    { within := Nat.lt_of_lt_of_eq (Nat.lt_succ_self n) hlast
      before := hbefore
      live := hlive
      last := .inl hlast }
  rw [hends.result, hfinding, List.range_succ, List.map_append, List.map_singleton, hfinding,
    Finding.lastNote?_concat]
  exact ⟨rfl, rfl, rfl⟩

end Job
end Convergence
