import Convergence.Listing
import Convergence.Proofs.Cluster.Models
import Convergence.Proofs.Poll.Idle
import Convergence.Proofs.Settings.Validity
import Convergence.Proofs.Text.Bytes
import Convergence.Proofs.Timeouts

/-! The list of the profiles next to the waits that they stand for. There is a row for each
profile, in the order of the bytes of the names. What a row says of attempts and of time is
what a wait with its profile comes to, if the condition is never met. -/
namespace Convergence

namespace Duration

end Duration

namespace Profile

/-- The timeout alone limits it. -/
def LimitedBy (p : Profile) (timeoutSecs : UInt64) : Prop :=
  p.maxAttempts = none ∧ p.timeoutSecs = some timeoutSecs

variable {p : Profile} {t : UInt64} {name : String} {plan : Plan}

theorem LimitedBy.attempts (h : p.LimitedBy t) :
    p.cadence.attempts = min (t.toNat / p.intervalSecs.toNat + 1) 4294967295 := by
  have hlimit : p.cadence.limit = .within (.ofSecs t.toNat) := by
    unfold cadence limit
    rw [h.1, h.2]
  unfold Cadence.attempts
  rw [hlimit]
  dsimp only
  rw [Plan.attemptsWithin_eq]
  unfold cadence interval Duration.ofSecs
  dsimp only
  rw [Nat.mul_div_mul_right _ _ (by decide)]

end Profile

namespace ListedProfile

variable {Q : Type} {A : Q → Type} {σ α : Type}

variable {row : ListedProfile} {p : Profile} {name : String} {plan : Plan}

end ListedProfile

namespace Listing

end Listing
end Convergence
