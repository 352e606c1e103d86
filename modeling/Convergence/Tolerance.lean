import Convergence.Cluster.Model
import Convergence.Poll.Check

/-! Which errors are waited out. What is still being created cannot be found yet,
and an overloaded or restarting server will answer later; a request that is
forbidden or makes no sense stays so. -/
namespace Convergence

/-- Whether waiting may make an error go away. -/
inductive ErrorClass where
  | transient
  | permanent
deriving DecidableEq, Repr

def ErrorClass.code : ErrorClass → String
  | transient => "transient"
  | permanent => "permanent"

/-- Errors that may carry the status of an answer. -/
class StatusCoded (ε : Type) where
  /-- Nothing if there has been no answer. -/
  status? : ε → Option UInt16
  /-- Whether no waiting helps, whatever the status. -/
  isMalformed : ε → Bool

instance : StatusCoded ClusterFault where
  status? := ClusterFault.status?
  isMalformed
    | .undecodable _ => true
    | _ => false

/-- The statuses that are waited out besides the usual ones. -/
structure Tolerance where
  extra : List UInt16
deriving DecidableEq, Repr

namespace Tolerance

def standard : Tolerance := { extra := [] }

def widen (t : Tolerance) (status : UInt16) : Tolerance := { extra := status :: t.extra }

def usual : List UInt16 := [404, 408, 409, 429]

def ofStatus (t : Tolerance) (status : UInt16) : ErrorClass :=
  if usual.contains status || (500 ≤ status && status < 600) || t.extra.contains status then
    .transient
  else .permanent

/-- A malformed error is not waited out. Another one is if it has no status, or a status that
is waited out. -/
def classify [StatusCoded ε] (t : Tolerance) (e : ε) : ErrorClass :=
  if StatusCoded.isMalformed e then .permanent
  else (StatusCoded.status? e).elim .transient t.ofStatus

def ofFault (t : Tolerance) (f : ClusterFault) : ErrorClass := t.classify f

end Tolerance

def ErrorClass.judge (message : String) : ErrorClass → Judgement α
  | transient => { finding := .pending (some message), log := [.transientError message] }
  | permanent => .quiet (.fatal message)

def judgeAnswer (classify : ε → ErrorClass) (message : ε → String) (look : β → Finding α) :
    Except ε β → Judgement α
  | .ok answer => .quiet (look answer)
  | .error e => (classify e).judge (message e)

end Convergence
