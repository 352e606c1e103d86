import Convergence.Cluster.Encoding
import Convergence.Poll.Await
import Convergence.Text.LowerCase
import Convergence.Tolerance

/-! Waits for the state of a cluster. Each names its condition, takes its cadence
from a profile, and says what is read and how the answer is judged. -/
namespace Convergence

inductive ClusterQuery where
  | pod (space name : String)
  | deployment (space name : String)
  | status (kind : ResourceKind) (space name : String)
  | nodes
deriving DecidableEq, Repr

namespace ClusterQuery

/-- What is read when the read succeeds. -/
def Found : ClusterQuery → Type
  | pod .. => Pod
  | deployment .. => Deployment
  | status .. => Value
  | nodes => List Node

def Answer (q : ClusterQuery) : Type := Except ClusterFault q.Found

def text : ClusterQuery → String
  | pod space name => "pod " ++ space ++ "/" ++ name
  | deployment space name => "deployment " ++ space ++ "/" ++ name
  | status kind space name => "custom " ++ kind.text ++ "/" ++ space ++ "/" ++ name
  | nodes => "nodes"

end ClusterQuery

/-- What a wait for the cluster hands back. -/
inductive Observed where
  | pod (p : Pod)
  | deployment (d : Deployment)
  | status (v : Value)
  | nothing

def Observed.toValue : Observed → Value
  | pod p => p.toValue
  | deployment d => d.toValue
  | status v => v
  | nothing => .null

inductive Wait where
  | podPhase (pod phase : String)
  | containers (pod : String)
  | replicas (space deployment : String) (expected : UInt32)
  | ready (space deployment : String)
  | modelReplicas (model : String) (expected : UInt32)
  | customState (kind : ResourceKind) (name state : String) (failures : List String)
  | scaleDown (key value : String)

/-- What all waits of one caller share. -/
structure ClusterHandle where
  space : String
  profiles : Profiles
  tolerance : Tolerance

abbrev ClusterCheck := Check ClusterQuery ClusterQuery.Answer Observed

namespace Wait

def podCompletion (pod : String) : Wait := podPhase pod Pod.succeeded

def description : Wait → String
  | podPhase pod phase => "pod " ++ pod ++ " phase " ++ phase
  | containers pod => "all containers of pod " ++ pod ++ " terminated"
  | replicas space deployment expected =>
    "deployment " ++ space ++ "/" ++ deployment ++ " to have " ++ toString expected.toNat ++
      " available replicas"
  | ready space deployment => "deployment " ++ space ++ "/" ++ deployment ++ " ready"
  | modelReplicas model expected =>
    "model deployment " ++ Text.lower model ++ " to have " ++ toString expected.toNat ++
      " available replicas"
  | customState kind name state _ => kind.plural ++ " " ++ Text.lower name ++ " state " ++ state
  | scaleDown key value => "nodes tainted " ++ key ++ "=" ++ value ++ " to scale down"

def profileName : Wait → String
  | podPhase .. | containers .. | customState .. => "pod_completion"
  | replicas .. | ready .. | modelReplicas .. => "replicas"
  | scaleDown .. => "scale_down"

/-- A pod in another phase that it never leaves cannot reach the awaited one. -/
def judgePhase (pod phase : String) (p : Pod) : Finding Observed :=
  let observed := p.phaseName
  if observed = phase then .met (.pod p)
  else if Pod.isTerminalPhase observed then
    .fatal ("pod " ++ pod ++ " finished with phase " ++ observed)
  else .waiting ("pod " ++ pod ++ " phase is " ++ observed)

def judgeContainers (pod : String) (p : Pod) : Finding Observed :=
  if p.containers.isEmpty then .waiting ("pod " ++ pod ++ " reports no containers yet")
  else
    match p.firstLive? with
    | some c => .waiting ("container " ++ c.name ++ " of " ++ pod ++ " pod is still alive")
    | none => .met (.pod p)

def judgeReplicas (deployment : String) (expected : UInt32) (d : Deployment) : Finding Observed :=
  if d.availableCount = expected then .met (.deployment d)
  else
    .waiting ("deployment " ++ deployment ++ " has " ++ toString d.availableCount.toNat ++ "/" ++
      toString expected.toNat ++ " available replicas")

def judgeReady (deployment : String) (d : Deployment) : Finding Observed :=
  if d.isReady then .met (.deployment d)
  else
    .waiting ("deployment '" ++ deployment ++ "' is not ready: " ++ toString d.readyCount.toNat ++
      "/" ++ toString d.replicaCount.toNat ++ " replicas are running")

/-- A text field of a status. An empty text says nothing. -/
def field? (name : String) (status : Value) : Option String :=
  ((status.entry? name).bind (·.text?)).filter (· ≠ "")

def judgeState (kind : ResourceKind) (name state : String) (failures : List String)
    (status : Value) : Finding Observed :=
  match field? "state" status with
  | some observed =>
    if observed = state then .met (.status status)
    else if failures.contains observed then
      .fatal (kind.plural ++ " " ++ name ++ " reached state " ++ observed)
    else .waiting (name ++ " state is " ++ observed)
  | none => .waiting (name ++ " has no state yet")

def judgeNodes (key value : String) (nodes : List Node) : Finding Observed :=
  let tainted := nodes.countP (·.hasTaint key value)
  if tainted = 0 then .met .nothing
  else .waiting ("current node count " ++ toString tainted)

def judge (t : Tolerance) (look : β → Finding α) (answer : Except ClusterFault β) : Judgement α :=
  judgeAnswer t.ofFault (·.message) look answer

def single (t : Tolerance) (query : ClusterQuery) (look : query.Found → Finding Observed) :
    ClusterCheck :=
  { query, next := fun answer => .decide (judge t look answer) }

/-- The second read of a model deployment: the deployment that its status names. -/
def followModel (t : Tolerance) (space name : String) (expected : UInt32) (status : Value) :
    Followup ClusterQuery ClusterQuery.Answer Observed :=
  match field? "deployment" status with
  | some deployment =>
    .read (.deployment space deployment) (judge t (judgeReplicas deployment expected))
  | none =>
    .decide (.quiet (.waiting ("model deployment " ++ name ++ " has no deployment yet")))

def modelNext (t : Tolerance) (space name : String) (expected : UInt32) :
    Except ClusterFault Value → Followup ClusterQuery ClusterQuery.Answer Observed
  | .ok status => followModel t space name expected status
  | .error e => .decide ((t.ofFault e).judge e.message)

def check (h : ClusterHandle) : Wait → ClusterCheck
  | podPhase pod phase => single h.tolerance (.pod h.space pod) (judgePhase pod phase)
  | containers pod => single h.tolerance (.pod h.space pod) (judgeContainers pod)
  | replicas space deployment expected =>
    single h.tolerance (.deployment space deployment) (judgeReplicas deployment expected)
  | ready space deployment =>
    single h.tolerance (.deployment space deployment) (judgeReady deployment)
  | modelReplicas model expected =>
    { query := .status .modelDeployment h.space (Text.lower model)
      next := modelNext h.tolerance h.space (Text.lower model) expected }
  | customState kind name state failures =>
    single h.tolerance (.status kind h.space (Text.lower name))
      (judgeState kind (Text.lower name) state failures)
  | scaleDown key value => single h.tolerance .nodes (judgeNodes key value)

def farewell : Wait → Duration → List Notice
  | scaleDown key value, elapsed => [.scaledDown key value elapsed]
  | _, _ => []

def plan (h : ClusterHandle) (w : Wait) : Except PlanError Plan := do
  (← h.profiles.get w.profileName).plan w.description

def job (h : ClusterHandle) (index : Nat) (w : Wait) :
    Except PlanError (Job ClusterQuery ClusterQuery.Answer Observed) := do
  let plan ← w.plan h
  return { index, plan, check := w.check h, cancellable := true, observed := false
           farewell := w.farewell }

/-- A wait with nothing else running, from its profile to what comes of it. -/
def outcome (h : ClusterHandle) (index : Nat) (w : Wait)
    (e : Setting ClusterQuery ClusterQuery.Answer σ) (s : Scene σ) :
    Except Failure (Completion Observed) :=
  match w.job h index with
  | .error error => .error (.misconfigured error)
  | .ok j => (j.run e s).result.outcome j.plan

/-- The same wait with all that it does. -/
def await (h : ClusterHandle) (index : Nat) (w : Wait)
    (e : Setting ClusterQuery ClusterQuery.Answer σ) (s : Scene σ) :
    Passage ClusterQuery σ (Except Failure (Completion Observed)) :=
  Job.await (w.job h index) e s

end Wait
end Convergence
