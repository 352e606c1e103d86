import Convergence.Cluster.Wait
import Convergence.Proofs.Poll.Calls

/-! What an answer of the cluster means to a wait that makes one read in every tick. An
answer brings the condition about, or spoils it for good, or leaves it open. These are
said of the objects as they are read; that every wait judges by them is proved of one
kind of wait after the other. -/
namespace Convergence

/-- An object as a wait hands it back. -/
def ClusterQuery.observed : (q : ClusterQuery) → q.Found → Observed
  | pod .., p => .pod p
  | deployment .., d => .deployment d
  | status .., v => .status v
  | nodes, _ => .nothing

namespace Wait

/-- Whether a wait makes a second read, of what the first one names. -/
def followsUp : Wait → Bool
  | modelReplicas .. => true
  | _ => false

/-- The first read of every tick. -/
def query (h : ClusterHandle) : Wait → ClusterQuery
  | podPhase pod _ => .pod h.space pod
  | containers pod => .pod h.space pod
  | replicas space deployment _ => .deployment space deployment
  | ready space deployment => .deployment space deployment
  | modelReplicas model _ => .status .modelDeployment h.space (Text.lower model)
  | customState kind name _ _ => .status kind h.space (Text.lower name)
  | scaleDown .. => .nodes

/-- What a status says about its state. An empty text says nothing. -/
def StateOf (status : Value) (state : String) : Prop :=
  state ≠ "" ∧ ∃ entries, status = .record entries ∧
    Entries.find? "state" entries = some (.text state)

/-- The condition of a wait, of the object that it reads. -/
def Reached (h : ClusterHandle) : (w : Wait) → (w.query h).Found → Prop
  | podPhase _ phase, (p : Pod) => p.phase.getD "Unknown" = phase
  | containers _, (p : Pod) => p.containers ≠ [] ∧ ∀ c ∈ p.containers, c.terminated = true
  | replicas _ _ expected, (d : Deployment) => d.available.getD 0 = expected
  | ready _ _, (d : Deployment) => d.replicas.getD 0 = d.ready.getD 0
  | modelReplicas _ _, _ => False
  | customState _ _ state _, (status : Value) => StateOf status state
  | scaleDown key value, (nodes : List Node) =>
    ∀ n ∈ nodes, ∀ t ∈ n.taints, ¬(t.key = key ∧ t.value = some value)

/-- The answers that spoil a wait for good, each with the cause that it is given. -/
def SpoiledBy (h : ClusterHandle) :
    (w : Wait) → Except ClusterFault (w.query h).Found → String → Prop
  | _, .error e, cause => h.tolerance.ofFault e = .permanent ∧ cause = e.message
  | podPhase pod phase, .ok (p : Pod), cause =>
    ∃ observed, (observed = "Succeeded" ∨ observed = "Failed") ∧ observed ≠ phase ∧
      p.phase = some observed ∧ cause = "pod " ++ pod ++ " finished with phase " ++ observed
  | customState kind name state failures, .ok (status : Value), cause =>
    ∃ observed, StateOf status observed ∧ observed ∈ failures ∧ observed ≠ state ∧
      cause = kind.plural ++ " " ++ Text.lower name ++ " reached state " ++ observed
  | _, .ok _, _ => False

/-- The answers that tell a wait nothing: an error that is waited out, and an object
that lacks what the wait looks at. A status has any shape. -/
def Lacking (h : ClusterHandle) : (w : Wait) → Except ClusterFault (w.query h).Found → Prop
  | _, .error e => h.tolerance.ofFault e = .transient
  | podPhase _ _, .ok (p : Pod) => p.phase = none
  | containers _, .ok (p : Pod) => p.containers = []
  | replicas _ _ _, .ok (d : Deployment) => d.available = none
  | ready _ _, .ok (d : Deployment) => d.replicas = none ∨ d.ready = none
  | modelReplicas _ _, .ok (status : Value) | customState _ _ _ _, .ok (status : Value) =>
    ∀ entries, status = .record entries →
      ∀ state, Entries.find? "state" entries = some (.text state) → state = ""
  | scaleDown _ _, .ok (nodes : List Node) => ∀ n ∈ nodes, ∀ t ∈ n.taints, t.value = none

/-- An answer after which a wait goes on. -/
def LeftOpenBy (h : ClusterHandle) (w : Wait) (answer : Except ClusterFault (w.query h).Found) :
    Prop :=
  (∀ found, answer = .ok found → ¬w.Reached h found) ∧ ∀ cause, ¬w.SpoiledBy h answer cause

/-! ### Judgements -/

def look (h : ClusterHandle) : (w : Wait) → (w.query h).Found → Finding Observed
  | podPhase pod phase => judgePhase pod phase
  | containers pod => judgeContainers pod
  | replicas _ deployment expected => judgeReplicas deployment expected
  | ready _ deployment => judgeReady deployment
  | modelReplicas _ _ => fun _ => .pending none
  | customState kind name state failures => judgeState kind (Text.lower name) state failures
  | scaleDown key value => judgeNodes key value

variable {h : ClusterHandle} {w : Wait}

theorem check_eq (hw : w.followsUp = false) :
    w.check h = single h.tolerance (w.query h) (w.look h) := by
  cases w with
  | modelReplicas model expected => cases hw
  | _ => rfl

theorem field?_eq_some {name text : String} {status : Value} :
    field? name status = some text ↔
      text ≠ "" ∧ ∃ entries, status = .record entries ∧
        Entries.find? name entries = some (.text text) := by
  unfold field? Value.entry?
  cases status with
  | record entries =>
    cases hfound : Entries.find? name entries with
    | none => simp [hfound]
    | some v => cases v <;> simp [hfound, Value.text?, and_comm]
  | _ => simp

theorem field?_state {status : Value} {state : String} :
    field? "state" status = some state ↔ StateOf status state :=
  field?_eq_some

theorem met_or_waiting {c : Prop} [Decidable c] {found v : Observed} {note : String} :
    (if c then Finding.met found else .waiting note) = .met v ↔ c ∧ v = found := by
  split
  · rename_i hc
    exact ⟨fun h => ⟨hc, (Finding.met.inj h).symm⟩, fun h => congrArg Finding.met h.2.symm⟩
  · rename_i hc
    exact ⟨nofun, fun h => absurd h.1 hc⟩

theorem met_or_waiting_ne_fatal {c : Prop} [Decidable c] {found : Observed}
    {note cause : String} : (if c then Finding.met found else .waiting note) ≠ .fatal cause := by
  split <;> nofun

theorem isTerminalPhase_iff {phase : String} :
    Pod.isTerminalPhase phase = true ↔ phase = "Succeeded" ∨ phase = "Failed" := by
  unfold Pod.isTerminalPhase Pod.succeeded
  rw [Bool.or_eq_true, beq_iff_eq, beq_iff_eq]

theorem judgePhase_met {pod phase : String} {p : Pod} {v : Observed} :
    judgePhase pod phase p = .met v ↔ p.phase.getD "Unknown" = phase ∧ v = .pod p := by
  unfold judgePhase Pod.phaseName
  dsimp only
  split
  · rename_i hphase
    exact ⟨fun h => ⟨hphase, (Finding.met.inj h).symm⟩, fun h => congrArg Finding.met h.2.symm⟩
  · rename_i hphase
    split <;> exact ⟨nofun, fun h => absurd h.1 hphase⟩

theorem judgePhase_fatal {pod phase : String} {p : Pod} {cause : String} :
    judgePhase pod phase p = .fatal cause ↔
      ∃ observed, (observed = "Succeeded" ∨ observed = "Failed") ∧ observed ≠ phase ∧
        p.phase = some observed ∧ cause = "pod " ++ pod ++ " finished with phase " ++ observed := by
  unfold judgePhase Pod.phaseName
  dsimp only
  cases hphase : p.phase with
  | none =>
    have hopen : Pod.isTerminalPhase "Unknown" = false := by decide
    simp only [Option.getD_none, hopen]
    split <;> simp [Finding.waiting]
  | some observed =>
    simp only [Option.getD_some, Option.some.injEq, ← isTerminalPhase_iff]
    split
    · rename_i hreached
      refine ⟨nofun, ?_⟩
      rintro ⟨_, -, hother, rfl, -⟩
      exact absurd hreached hother
    · rename_i hother
      split
      · rename_i hterminal
        constructor
        · intro h
          exact ⟨observed, hterminal, hother, rfl, (Finding.fatal.inj h).symm⟩
        · rintro ⟨_, -, -, rfl, rfl⟩
          rfl
      · rename_i hterminal
        refine ⟨nofun, ?_⟩
        rintro ⟨_, hlast, -, rfl, -⟩
        exact absurd hlast hterminal

theorem judgeContainers_met {pod : String} {p : Pod} {v : Observed} :
    judgeContainers pod p = .met v ↔
      (p.containers ≠ [] ∧ ∀ c ∈ p.containers, c.terminated = true) ∧ v = .pod p := by
  unfold judgeContainers Pod.firstLive?
  split
  · rename_i hempty
    exact ⟨nofun, fun h => absurd (List.isEmpty_iff.mp hempty) h.1.1⟩
  · rename_i hsome
    split
    · rename_i live hlive
      have hlives : live.terminated = false := by simpa using List.find?_some hlive
      exact ⟨nofun, fun h =>
        absurd (h.1.2 live (List.mem_of_find?_eq_some hlive)) (by simp [hlives])⟩
    · rename_i hnone
      have hall : ∀ c ∈ p.containers, c.terminated = true := by
        simpa using List.find?_eq_none.mp hnone
      exact ⟨fun h => ⟨⟨mt List.isEmpty_iff.mpr hsome, hall⟩, (Finding.met.inj h).symm⟩,
        fun h => congrArg Finding.met h.2.symm⟩

theorem judgeContainers_ne_fatal {pod : String} {p : Pod} {cause : String} :
    judgeContainers pod p ≠ .fatal cause := by
  unfold judgeContainers
  split
  · nofun
  · split <;> nofun

theorem judgeReady_met {deployment : String} {d : Deployment} {v : Observed} :
    judgeReady deployment d = .met v ↔
      d.replicas.getD 0 = d.ready.getD 0 ∧ v = .deployment d := by
  have hready : d.isReady = true ↔ d.replicas.getD 0 = d.ready.getD 0 := by
    unfold Deployment.isReady Deployment.replicaCount Deployment.readyCount
    exact beq_iff_eq
  unfold judgeReady
  rw [met_or_waiting, hready]

theorem judgeState_met {kind : ResourceKind} {name state : String} {failures : List String}
    {status : Value} {v : Observed} :
    judgeState kind name state failures status = .met v ↔
      StateOf status state ∧ v = .status status := by
  unfold judgeState
  rw [← field?_state]
  cases hfield : field? "state" status with
  | none => simp [Finding.waiting]
  | some observed =>
    dsimp only
    split
    · rename_i hstate
      simp [hstate, eq_comm]
    · rename_i hstate
      split <;> simp [hstate, Finding.waiting]

theorem judgeState_fatal {kind : ResourceKind} {name state : String} {failures : List String}
    {status : Value} {cause : String} :
    judgeState kind name state failures status = .fatal cause ↔
      ∃ observed, StateOf status observed ∧ observed ∈ failures ∧ observed ≠ state ∧
        cause = kind.plural ++ " " ++ name ++ " reached state " ++ observed := by
  unfold judgeState
  simp only [← field?_state]
  cases hfield : field? "state" status with
  | none => simp [Finding.waiting]
  | some observed =>
    simp only [Option.some.injEq, List.contains_iff_mem]
    split
    · rename_i hreached
      refine ⟨nofun, ?_⟩
      rintro ⟨_, rfl, -, hother, -⟩
      exact absurd hreached hother
    · rename_i hother
      split
      · rename_i hlisted
        constructor
        · intro h
          exact ⟨observed, rfl, hlisted, hother, (Finding.fatal.inj h).symm⟩
        · rintro ⟨_, rfl, -, -, rfl⟩
          rfl
      · rename_i hlisted
        refine ⟨nofun, ?_⟩
        rintro ⟨_, rfl, hmem, -, -⟩
        exact absurd hmem hlisted

theorem judgeNodes_met {key value : String} {nodes : List Node} {v : Observed} :
    judgeNodes key value nodes = .met v ↔
      (∀ n ∈ nodes, ∀ t ∈ n.taints, ¬(t.key = key ∧ t.value = some value)) ∧ v = .nothing := by
  have hnone : nodes.countP (·.hasTaint key value) = 0 ↔
      ∀ n ∈ nodes, ∀ t ∈ n.taints, ¬(t.key = key ∧ t.value = some value) := by
    rw [List.countP_eq_zero]
    simp [Node.hasTaint]
  unfold judgeNodes
  rw [met_or_waiting, hnone]

/-- A wait sees its condition met by the objects that bring it about, and hands back
the one that it has read. -/
theorem look_met (hw : w.followsUp = false) {found : (w.query h).Found} {v : Observed} :
    w.look h found = .met v ↔ w.Reached h found ∧ v = (w.query h).observed found := by
  cases w with
  | podPhase pod phase => exact judgePhase_met
  | containers pod => exact judgeContainers_met
  | replicas space deployment expected => exact met_or_waiting
  | ready space deployment => exact judgeReady_met
  | modelReplicas model expected => cases hw
  | customState kind name state failures => exact judgeState_met
  | scaleDown key value => exact judgeNodes_met

theorem look_fatal {found : (w.query h).Found} {cause : String} :
    w.look h found = .fatal cause ↔ w.SpoiledBy h (.ok found) cause := by
  cases w with
  | podPhase pod phase => exact judgePhase_fatal
  | containers pod => exact iff_false_intro judgeContainers_ne_fatal
  | replicas space deployment expected => exact iff_false_intro met_or_waiting_ne_fatal
  | ready space deployment => exact iff_false_intro met_or_waiting_ne_fatal
  | modelReplicas model expected => exact iff_false_intro nofun
  | customState kind name state failures => exact judgeState_fatal
  | scaleDown key value => exact iff_false_intro met_or_waiting_ne_fatal

/-! ### Findings -/

/-- What a tick finds with an answer. -/
def findingOf (h : ClusterHandle) (w : Wait) (answer : Except ClusterFault (w.query h).Found) :
    Finding Observed :=
  (judge h.tolerance (w.look h) answer).finding

variable {answer : Except ClusterFault (w.query h).Found}

theorem findingOf_error (e : ClusterFault) :
    w.findingOf h (.error e) =
      match h.tolerance.ofFault e with
      | .transient => .pending (some e.message)
      | .permanent => .fatal e.message := by
  unfold findingOf judge judgeAnswer
  dsimp only
  cases h.tolerance.ofFault e <;> rfl

theorem findingOf_met (hw : w.followsUp = false) {v : Observed} :
    w.findingOf h answer = .met v ↔
      ∃ found, answer = .ok found ∧ w.Reached h found ∧ v = (w.query h).observed found := by
  cases answer with
  | ok found =>
    have hlook : w.findingOf h (.ok found) = w.look h found := rfl
    rw [hlook, look_met hw]
    simp
  | error e =>
    rw [findingOf_error]
    cases h.tolerance.ofFault e <;> simp

theorem findingOf_fatal {cause : String} :
    w.findingOf h answer = .fatal cause ↔ w.SpoiledBy h answer cause := by
  cases answer with
  | ok found => exact look_fatal
  | error e =>
    rw [findingOf_error]
    have hspoiled : w.SpoiledBy h (.error e) cause ↔
        h.tolerance.ofFault e = .permanent ∧ cause = e.message := by
      cases w <;> exact Iff.rfl
    rw [hspoiled]
    cases h.tolerance.ofFault e with
    | transient => simp
    | permanent => simp [@eq_comm String cause]

theorem Lacking.not_spoiled (hanswer : w.Lacking h answer) (cause : String) :
    ¬w.SpoiledBy h answer cause := by
  cases answer with
  | error e =>
    have htransient : h.tolerance.ofFault e = .transient := by
      cases w <;> exact hanswer
    intro hspoiled
    have hpermanent : h.tolerance.ofFault e = .permanent := by
      cases w <;> exact hspoiled.1
    cases htransient.symm.trans hpermanent
  | ok found =>
    cases w with
    | podPhase pod phase =>
      rintro ⟨observed, -, -, hphase, -⟩
      cases hphase.symm.trans hanswer
    | customState kind name state failures =>
      rintro ⟨observed, ⟨hsome, entries, rfl, hfound⟩, -⟩
      exact hsome (hanswer entries rfl observed hfound)
    | _ => exact id

theorem findingOf_pending (hw : w.followsUp = false) :
    (w.findingOf h answer).isPending = true ↔ w.LeftOpenBy h answer := by
  unfold LeftOpenBy
  simp only [← findingOf_fatal]
  have hmet : (∀ found, answer = .ok found → ¬w.Reached h found) ↔
      ∀ v, w.findingOf h answer ≠ .met v := by
    simp only [Ne, findingOf_met hw]
    constructor
    · rintro hopen _ ⟨found, hanswer, hreached, -⟩
      exact hopen found hanswer hreached
    · intro hopen found hanswer hreached
      exact hopen _ ⟨found, hanswer, hreached, rfl⟩
  rw [hmet]
  cases w.findingOf h answer <;> simp [Finding.isPending]

end Wait
end Convergence
