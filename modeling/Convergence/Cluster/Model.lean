import Convergence.Decode.Reader

/-! What a cluster tells about its objects, as far as waits look at it. -/
namespace Convergence

structure Container where
  name : String
  terminated : Bool
deriving DecidableEq, Repr

structure Pod where
  name : String
  phase : Option String
  containers : List Container
deriving DecidableEq, Repr

/-- Counts that are absent are not known, and count as zero. -/
structure Deployment where
  replicas : Option UInt32
  ready : Option UInt32
  available : Option UInt32
deriving DecidableEq, Repr

structure Taint where
  key : String
  value : Option String
  effect : String
deriving DecidableEq, Repr

structure Node where
  name : String
  taints : List Taint
deriving DecidableEq, Repr

structure ResourceKind where
  group : String
  version : String
  plural : String
deriving DecidableEq, Repr

namespace Pod

def succeeded : String := "Succeeded"

def phaseName (p : Pod) : String := p.phase.getD "Unknown"

/-- The phases that a pod never leaves. -/
def isTerminalPhase (phase : String) : Bool := phase == succeeded || phase == "Failed"

def firstLive? (p : Pod) : Option Container := p.containers.find? fun c => !c.terminated

end Pod

namespace Deployment

def availableCount (d : Deployment) : UInt32 := d.available.getD 0

def replicaCount (d : Deployment) : UInt32 := d.replicas.getD 0

def readyCount (d : Deployment) : UInt32 := d.ready.getD 0

def isReady (d : Deployment) : Bool := d.replicaCount == d.readyCount

end Deployment

def Node.hasTaint (n : Node) (key value : String) : Bool :=
  n.taints.any fun t => t.key == key && t.value == some value

namespace ResourceKind

def text (k : ResourceKind) : String := k.plural ++ "." ++ k.group ++ "/" ++ k.version

def modelTraining : ResourceKind :=
  { group := "odahuflow.odahu.org", version := "v1alpha1", plural := "modeltrainings" }

def modelDeployment : ResourceKind :=
  { group := "odahuflow.odahu.org", version := "v1alpha1", plural := "modeldeployments" }

end ResourceKind

inductive ClusterFault where
  /-- The cluster answered with a status that is no success. -/
  | status (code : UInt16) (message : String)
  | transport (detail : String)
  /-- The answer does not have the expected shape. -/
  | undecodable (detail : String)
deriving DecidableEq, Repr

namespace ClusterFault

def message : ClusterFault → String
  | status code message => toString code.toNat ++ " " ++ message
  | transport detail => "Transport error: " ++ detail
  | undecodable detail => "Decode error: " ++ detail

def status? : ClusterFault → Option UInt16
  | status code _ => some code
  | _ => none

def notFound : ClusterFault := status 404 "Not Found"

end ClusterFault
end Convergence
