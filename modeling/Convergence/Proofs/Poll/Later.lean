import Convergence.Proofs.Poll.Observed
import Convergence.Proofs.Poll.Steps

/-! A poll does the same whenever it starts. The clock tells the difference only where it
runs out: a sleep that would go past its end is cut to thirty years. -/
namespace Convergence

variable {Q : Type} {A : Q → Type} {σ α : Type}

/-- What happened apart from the reads. Nothing in it says when the poll started. -/
def Event.told (events : List (Event Q)) : List (Event Q) :=
  events.filter fun
    | .asked .. => false
    | _ => true

namespace Event

end Event

namespace Job

variable (j : Job Q A α) (source : Source Q A σ) (state : σ)

/-- The sleep after the call after `i` others would go past the end of the clock. -/
def Overruns (now : Instant) (i : Nat) : Prop :=
  clockEnd ≤ j.endAt source state now i * 1000000 + j.plan.interval.nanos

instance (now : Instant) (i : Nat) : Decidable (j.Overruns source state now i) :=
  inferInstanceAs (Decidable (_ ≤ _))

/-- The same of the first `n` sleeps go past the end of the clock. -/
def SameSleeps (now later : Instant) (n : Nat) : Prop :=
  ∀ i < n, j.Overruns source state now i ↔ j.Overruns source state later i

instance (now later : Instant) (n : Nat) : Decidable (j.SameSleeps source state now later n) :=
  inferInstanceAs (Decidable (∀ i < n, _ ↔ _))

theorem wakeTime_sub (now : Instant) (d : Duration) :
    wakeTime now d - now = if clockEnd ≤ now * 1000000 + d.nanos then farAway else d.millisUp := by
  unfold wakeTime
  by_cases h : now * 1000000 + d.nanos < clockEnd
  · rw [if_pos h, if_neg (Nat.not_le.mpr h)]
    exact Nat.add_sub_cancel_left _ _
  · rw [if_neg h, if_pos (Nat.not_lt.mp h)]
    exact Nat.add_sub_cancel_left _ _

variable {j source state} {now later : Instant} {n : Nat}

theorem SameSleeps.pauseAt (h : j.SameSleeps source state now later n) {i : Nat} (hi : i < n) :
    j.pauseAt source state now i = j.pauseAt source state later i := by
  have hnow := wakeTime_sub (j.endAt source state now i) j.plan.interval
  have hlater := wakeTime_sub (j.endAt source state later i) j.plan.interval
  have hsame := propext (h i hi)
  unfold Overruns at hsame
  simp only [hsame] at hnow
  exact hnow.trans hlater.symm

theorem SameSleeps.elapsed (h : j.SameSleeps source state now later n) {i : Nat} (hi : i ≤ n) :
    elapsedBetween now (j.endAt source state now i) =
      elapsedBetween later (j.endAt source state later i) := by
  have hpauses : (List.range i).map (j.pauseAt source state now) =
      (List.range i).map (j.pauseAt source state later) := by
    refine List.map_congr_left fun k hk => h.pauseAt ?_
    exact Nat.lt_of_lt_of_le (List.mem_range.mp hk) hi
  rw [endAt_elapsed, endAt_elapsed, hpauses]

/-! ### The same run, later -/

variable {e : Setting Q A σ} {s t : Scene σ} {i : Nat}

end Job
end Convergence
