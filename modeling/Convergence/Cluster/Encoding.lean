import Convergence.Cluster.Model
import Convergence.Poll.Finding

/-! Cluster objects as values and back. Values of any other shape are refused
with the first fault that a reader of JSON meets. -/
namespace Convergence

open Decode

def count (n : UInt32) : Value := .unsigned n.toNat

namespace Container

def toValue (c : Container) : Value :=
  .ofEntries [("name", .text c.name), ("terminated", .bool c.terminated)]

def slots : List (Slot Container) :=
  [{ name := "name", need := .required
     put := fun v c => (string v).map fun s => { c with name := s } },
   { name := "terminated", need := .required
     put := fun v c => (bool v).map fun b => { c with terminated := b } }]

def ofValue : Reader Container :=
  record .json "ContainerStatus" slots { name := "", terminated := false }

end Container

namespace Pod

def toValue (p : Pod) : Value :=
  .ofEntries
    [("name", .text p.name), ("phase", .ofText? p.phase),
     ("container_statuses", .list (p.containers.map (·.toValue)))]

def slots : List (Slot Pod) :=
  [{ name := "name", need := .required
     put := fun v p => (string v).map fun s => { p with name := s } },
   { name := "phase", need := .optional
     put := fun v p => (option string v).map fun s => { p with phase := s } },
   { name := "container_statuses", need := .defaulted
     put := fun v p => (list Container.ofValue v).map fun cs => { p with containers := cs } }]

def ofValue : Reader Pod :=
  record .json "PodStatus" slots { name := "", phase := none, containers := [] }

end Pod

namespace Deployment

def toValue (d : Deployment) : Value :=
  .ofEntries
    [("replicas", .ofOption count d.replicas), ("ready_replicas", .ofOption count d.ready),
     ("available_replicas", .ofOption count d.available)]

def slots : List (Slot Deployment) :=
  [{ name := "replicas", need := .optional
     put := fun v d => (option uint32 v).map fun n => { d with replicas := n } },
   { name := "ready_replicas", need := .optional
     put := fun v d => (option uint32 v).map fun n => { d with ready := n } },
   { name := "available_replicas", need := .optional
     put := fun v d => (option uint32 v).map fun n => { d with available := n } }]

def ofValue : Reader Deployment :=
  record .json "DeploymentStatus" slots { replicas := none, ready := none, available := none }

end Deployment

namespace Taint

def toValue (t : Taint) : Value :=
  .ofEntries [("key", .text t.key), ("value", .ofText? t.value), ("effect", .text t.effect)]

def slots : List (Slot Taint) :=
  [{ name := "key", need := .required
     put := fun v t => (string v).map fun s => { t with key := s } },
   { name := "value", need := .optional
     put := fun v t => (option string v).map fun s => { t with value := s } },
   { name := "effect", need := .required
     put := fun v t => (string v).map fun s => { t with effect := s } }]

def ofValue : Reader Taint :=
  record .json "Taint" slots { key := "", value := none, effect := "" }

end Taint

namespace Node

def toValue (n : Node) : Value :=
  .ofEntries [("name", .text n.name), ("taints", .list (n.taints.map (·.toValue)))]

def slots : List (Slot Node) :=
  [{ name := "name", need := .required
     put := fun v n => (string v).map fun s => { n with name := s } },
   { name := "taints", need := .defaulted
     put := fun v n => (list Taint.ofValue v).map fun ts => { n with taints := ts } }]

def ofValue : Reader Node := record .json "NodeInfo" slots { name := "", taints := [] }

end Node

namespace ResourceKind

def toValue (k : ResourceKind) : Value :=
  .ofEntries [("group", .text k.group), ("version", .text k.version), ("plural", .text k.plural)]

def slots : List (Slot ResourceKind) :=
  [{ name := "group", need := .required
     put := fun v k => (string v).map fun s => { k with group := s } },
   { name := "version", need := .required
     put := fun v k => (string v).map fun s => { k with version := s } },
   { name := "plural", need := .required
     put := fun v k => (string v).map fun s => { k with plural := s } }]

def ofValue : Reader ResourceKind :=
  record .json "CustomResourceRef" slots { group := "", version := "", plural := "" }

end ResourceKind

namespace ClusterFault

def toValue : ClusterFault → Value
  | status code message =>
    .ofEntries
      [("Api", .ofEntries [("status", .unsigned code.toNat), ("message", .text message)])]
  | transport detail => .ofEntries [("Transport", .text detail)]
  | undecodable detail => .ofEntries [("Decode", .text detail)]

inductive Kind where
  | status
  | transport
  | undecodable
deriving DecidableEq, Repr

def kinds : List (String × Kind) :=
  [("Api", .status), ("Transport", .transport), ("Decode", .undecodable)]

def statusSlots : List (Slot (UInt16 × String)) :=
  [{ name := "status", need := .required
     put := fun v s => (uint16 v).map fun code => (code, s.2) },
   { name := "message", need := .required
     put := fun v s => (string v).map fun message => (s.1, message) }]

/-- The status and message of an answer, which only a record can hold. -/
def statusOfValue : Reader ClusterFault
  | .record es => (record .json "Api" statusSlots (0, "") (.record es)).map fun s =>
    status s.1 s.2
  | v => wrongType v "struct variant"

def ofKind : Kind → Reader ClusterFault
  | .status => statusOfValue
  | .transport => fun v => (string v).map transport
  | .undecodable => fun v => (string v).map undecodable

def payloadKind : Kind → String
  | .status => "struct variant"
  | _ => "newtype variant"

def ofValue : Reader ClusterFault
  | .text name => do
    let kind ← variant kinds name
    fail (.bareVariant (payloadKind kind))
  | .record [(name, v)] => do
    let kind ← variant kinds name
    ofKind kind v
  | .record _ => fail .notSingle
  | v => wrongType v "string or map"

end ClusterFault

namespace Mark

def ofValue : Reader Mark :=
  choice .json "AttemptStatus" [("not_yet", pending), ("satisfied", met), ("hard_error", fatal)]

end Mark
end Convergence
