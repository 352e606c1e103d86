import Convergence.Plan

/-! Why a wait did not bring its condition about. All but an abort name the
condition and what was spent on it; an abort repeats its cause word for word. -/
namespace Convergence

inductive Failure where
  | misconfigured (error : PlanError)
  | timedOut (description : String) (maxAttempts : Nat) (interval : Duration) (attempts : Nat)
      (elapsed : Duration) (lastNote : Option String)
  | aborted (description cause : String) (attempts : Nat) (elapsed : Duration)
  | cancelled (description : String) (attempts : Nat) (elapsed : Duration)
deriving DecidableEq, Repr

namespace Failure

def noteText : Option String → String
  | none => ""
  | some note => "; last observation: " ++ note

def message : Failure → String
  | misconfigured error => error.message
  | timedOut description maxAttempts interval attempts elapsed lastNote =>
    "timeout waiting for " ++ description ++ " after " ++ toString maxAttempts ++ "x" ++
      interval.text ++ " (" ++ toString attempts ++ " attempts, " ++ elapsed.text ++ " elapsed)" ++
      noteText lastNote
  | aborted _ cause _ _ => cause
  | cancelled description attempts elapsed =>
    "cancelled waiting for " ++ description ++ " after " ++ toString attempts ++ " attempts (" ++
      elapsed.text ++ " elapsed)"

/-- The condition, for a wait that got as far as checking it. -/
def description? : Failure → Option String
  | misconfigured _ => none
  | timedOut description _ _ _ _ _ => some description
  | aborted description _ _ _ => some description
  | cancelled description _ _ => some description

def attempts : Failure → Nat
  | misconfigured _ => 0
  | timedOut _ _ _ attempts _ _ => attempts
  | aborted _ _ attempts _ => attempts
  | cancelled _ attempts _ => attempts

def isTimeout : Failure → Bool
  | timedOut .. => true
  | _ => false

def isCancelled : Failure → Bool
  | cancelled .. => true
  | _ => false

end Failure
end Convergence
