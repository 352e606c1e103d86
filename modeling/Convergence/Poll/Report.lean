import Convergence.Failure
import Convergence.Logging.Notice
import Convergence.Poll.Finding

/-! How a poll ends and what it cost, and what its single ticks tell an observer. -/
namespace Convergence

structure Tick where
  attempt : Nat
  maxAttempts : Nat
  /-- The time since the poll began, taken after the check. -/
  elapsed : Duration
  mark : Mark
  note : Option String
deriving DecidableEq, Repr

/-- Whether no other tick follows this one, unless the poll is cancelled anyway. -/
def Tick.isFinal (t : Tick) : Bool := t.mark != .pending || t.maxAttempts ≤ t.attempt

inductive Ending (α : Type) where
  | converged (value : α)
  | timedOut
  | aborted (cause : String)
  | cancelled
deriving DecidableEq, Repr

namespace Ending

def isConverged : Ending α → Bool
  | converged _ => true
  | _ => false

def notice (description : String) (attempts : Nat) (elapsed : Duration) : Ending α → Notice
  | converged _ => .converged description attempts elapsed
  | timedOut => .ranOut description attempts elapsed
  | aborted cause => .aborted description attempts elapsed cause
  | cancelled => .cancelled description attempts elapsed

end Ending

/-- The end that a finding brings about by itself. -/
def Finding.ending? : Finding α → Option (Ending α)
  | pending _ => none
  | met value => some (.converged value)
  | fatal cause => some (.aborted cause)

structure Report (α : Type) where
  ending : Ending α
  attempts : Nat
  elapsed : Duration
  lastNote : Option String
deriving DecidableEq, Repr

structure Completion (α : Type) where
  value : α
  attempts : Nat
  elapsed : Duration
deriving DecidableEq, Repr

def Report.outcome (plan : Plan) (r : Report α) : Except Failure (Completion α) :=
  match r.ending with
  | .converged value => .ok { value, attempts := r.attempts, elapsed := r.elapsed }
  | .timedOut =>
    .error (.timedOut plan.description plan.maxAttempts plan.interval r.attempts r.elapsed
      r.lastNote)
  | .aborted cause => .error (.aborted plan.description cause r.attempts r.elapsed)
  | .cancelled => .error (.cancelled plan.description r.attempts r.elapsed)

end Convergence
