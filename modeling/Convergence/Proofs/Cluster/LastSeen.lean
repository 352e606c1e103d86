import Convergence.Proofs.Cluster.Models

/-! What a wait that has run out tells of the cluster. No answer that leaves a wait open is
without a note, so the last answer is what is told, and never one before it. What the note
says is read off the objects themselves. -/
namespace Convergence

variable {σ : Type}

namespace Wait

/-- The note of an answer that leaves a wait open. An error is told in its own words. -/
def Notes (h : ClusterHandle) : (w : Wait) → Except ClusterFault (w.query h).Found → String → Prop
  | _, .error e, note => h.tolerance.ofFault e = .transient ∧ note = e.message
  | podPhase pod _, .ok (p : Pod), note =>
    note = "pod " ++ pod ++ " phase is " ++ p.phase.getD "Unknown"
  | containers pod, .ok (p : Pod), note =>
    (p.containers = [] ∧ note = "pod " ++ pod ++ " reports no containers yet") ∨
      ∃ before live after, p.containers = before ++ live :: after ∧
        (∀ c ∈ before, c.terminated = true) ∧ live.terminated = false ∧
        note = "container " ++ live.name ++ " of " ++ pod ++ " pod is still alive"
  | replicas _ deployment expected, .ok (d : Deployment), note =>
    note = "deployment " ++ deployment ++ " has " ++ toString (d.available.getD 0).toNat ++ "/" ++
      toString expected.toNat ++ " available replicas"
  | ready _ deployment, .ok (d : Deployment), note =>
    note = "deployment '" ++ deployment ++ "' is not ready: " ++
      toString (d.ready.getD 0).toNat ++ "/" ++ toString (d.replicas.getD 0).toNat ++
        " replicas are running"
  | modelReplicas _ _, .ok _, _ => False
  | customState _ name _ _, .ok (status : Value), note =>
    (∃ state, StateOf status state ∧ note = Text.lower name ++ " state is " ++ state) ∨
      (∀ state, ¬StateOf status state) ∧ note = Text.lower name ++ " has no state yet"
  | scaleDown key value, .ok (nodes : List Node), note =>
    ∃ tainted, 1 ≤ tainted ∧
      tainted = nodes.countP (fun n => ∃ t ∈ n.taints, t.key = key ∧ t.value = some value) ∧
      note = "current node count " ++ toString tainted

/-- The note of a tick that reads the status of a model deployment, and then the deployment
that the status names. -/
inductive NotesModel (h : ClusterHandle) (model : String) (expected : UInt32)
    (status : Except ClusterFault Value) (deployment : String → Except ClusterFault Deployment) :
    String → Prop
  | failed (e : ClusterFault) : status = .error e → h.tolerance.ofFault e = .transient →
    NotesModel h model expected status deployment e.message
  | unnamed (found : Value) : status = .ok found → (∀ d, ¬DeploymentOf found d) →
    NotesModel h model expected status deployment
      ("model deployment " ++ Text.lower model ++ " has no deployment yet")
  | named (d note : String) : Names status d →
    (replicas h.space d expected).Notes h (deployment d) note →
    NotesModel h model expected status deployment note

/-- The note of the tick after `i` others. -/
def NotesAt (h : ClusterHandle) (source : Source ClusterQuery ClusterQuery.Answer σ) (state : σ)
    (i : Nat) : Wait → String → Prop
  | modelReplicas model expected =>
    NotesModel h model expected (statusAt h model expected source state i).1.answer
      fun d => (deploymentAt h model expected source state d i).answer
  | w => w.Notes h (w.answerAt h source state i)

/-! ### One answer -/

variable {h : ClusterHandle} {w : Wait} {note : Option String}

theorem met_or_waiting_pending {c : Prop} [Decidable c] {found : Observed} {text : String}
    (hopen : (if c then Finding.met found else .waiting text) = .pending note) :
    ¬c ∧ note = some text := by
  split at hopen <;> cases hopen
  exact ⟨‹_›, rfl⟩

theorem look_pending (hw : w.followsUp = false) {found : (w.query h).Found}
    (hopen : w.look h found = .pending note) :
    ∃ text, note = some text ∧ w.Notes h (.ok found) text := by
  cases w with
  | podPhase pod phase =>
    simp only [look, judgePhase] at hopen
    split at hopen
    · cases hopen
    · split at hopen <;> cases hopen
      exact ⟨_, rfl, rfl⟩
  | containers pod =>
    simp only [look, judgeContainers, Pod.firstLive?] at hopen
    split at hopen
    · rename_i hempty
      cases hopen
      exact ⟨_, rfl, .inl ⟨List.isEmpty_iff.mp hempty, rfl⟩⟩
    · split at hopen <;> cases hopen
      rename_i live hlive
      obtain ⟨halive, before, after, hsplit, hbefore⟩ := List.find?_eq_some_iff_append.mp hlive
      refine ⟨_, rfl, .inr ⟨before, live, after, hsplit, ?_, by simpa using halive, rfl⟩⟩
      simpa using hbefore
  | replicas space deployment expected =>
    obtain ⟨-, rfl⟩ := met_or_waiting_pending hopen
    exact ⟨_, rfl, rfl⟩
  | ready space deployment =>
    obtain ⟨-, rfl⟩ := met_or_waiting_pending hopen
    exact ⟨_, rfl, rfl⟩
  | modelReplicas model expected => cases hw
  | customState kind name state failures =>
    simp only [look, judgeState] at hopen
    split at hopen
    · rename_i observed hstate
      split at hopen
      · cases hopen
      · split at hopen <;> cases hopen
        exact ⟨_, rfl, .inl ⟨observed, field?_state.mp hstate, rfl⟩⟩
    · rename_i hnone
      cases hopen
      refine ⟨_, rfl, .inr ⟨fun state hstate => ?_, rfl⟩⟩
      simp [field?_state.mpr hstate] at hnone
  | scaleDown key value =>
    obtain ⟨hsome, rfl⟩ := met_or_waiting_pending hopen
    refine ⟨_, rfl, _, Nat.pos_of_ne_zero hsome, ?_, rfl⟩
    congr 1
    funext n
    rw [Bool.eq_iff_iff]
    simp [Node.hasTaint]

/-- An answer that leaves a wait open has a note. -/
theorem findingOf_note (hw : w.followsUp = false) {answer : Except ClusterFault (w.query h).Found}
    (hopen : w.findingOf h answer = .pending note) :
    ∃ text, note = some text ∧ w.Notes h answer text := by
  cases answer with
  | ok found => exact look_pending hw hopen
  | error e =>
    rw [findingOf_error] at hopen
    cases hclass : h.tolerance.ofFault e with
    | permanent => simp [hclass] at hopen
    | transient =>
      simp only [hclass, Finding.pending.injEq] at hopen
      refine ⟨e.message, hopen.symm, ?_⟩
      cases w <;> exact ⟨hclass, rfl⟩

/-! ### One tick -/

variable {model : String} {expected : UInt32}
  {source : Source ClusterQuery ClusterQuery.Answer σ} {state : σ} {i : Nat}

theorem callAt_note
    (hopen : (((modelReplicas model expected).check h).callAt source state i).finding =
      .pending note) :
    ∃ text, note = some text ∧ (modelReplicas model expected).NotesAt h source state i text := by
  by_cases hd : ∃ d, Names (statusAt h model expected source state i).1.answer d
  · obtain ⟨d, hd⟩ := hd
    have hjudged := (callAt_named hd).2.2.symm.trans hopen
    obtain ⟨text, hnote, htext⟩ :=
      findingOf_note (h := h) (w := replicas h.space d expected) rfl hjudged
    exact ⟨text, hnote, .named d text hd htext⟩
  · have hjudged := (finding_unnamed hd).2.symm.trans hopen
    cases hanswer : (statusAt h model expected source state i).1.answer with
    | error e =>
      simp only [hanswer] at hjudged
      cases hclass : h.tolerance.ofFault e with
      | permanent =>
        rw [hclass] at hjudged
        cases hjudged
      | transient =>
        rw [hclass] at hjudged
        cases hjudged
        exact ⟨_, rfl, .failed e hanswer hclass⟩
    | ok found =>
      simp only [hanswer] at hjudged
      cases hjudged
      refine ⟨_, rfl, .unnamed found hanswer fun d hd' => hd ⟨d, ?_⟩⟩
      exact ⟨found, hanswer, hd'⟩

variable {index : Nat} {j : Job ClusterQuery ClusterQuery.Answer Observed}
  {e : Setting ClusterQuery ClusterQuery.Answer σ} {s : Scene σ}

/-- No tick leaves a wait open without a word. -/
theorem findingAt_note (hj : w.job h index = .ok j)
    (hopen : j.findingAt e s i = .pending note) :
    ∃ text, note = some text ∧ w.NotesAt h e.source s.source i text := by
  by_cases hw : w.followsUp = true
  · cases w with
    | modelReplicas model expected =>
      rw [Job.findingAt_eq, job_check hj] at hopen
      exact callAt_note hopen
    | _ => cases hw
  · rw [Bool.not_eq_true] at hw
    rw [findingAt_eq hw hj] at hopen
    obtain ⟨text, hnote, htext⟩ := findingOf_note hw hopen
    refine ⟨text, hnote, ?_⟩
    cases w with
    | modelReplicas model expected => cases hw
    | _ => exact htext

/-- A wait that runs out tells what its last tick saw of the cluster. -/
theorem outcome_timedOut_last (h : ClusterHandle) (w : Wait) (index : Nat)
    (e : Setting ClusterQuery ClusterQuery.Answer σ) (s : Scene σ) {description : String}
    {maxAttempts attempts : Nat} {interval elapsed : Duration} {lastNote : Option String}
    (hout : w.outcome h index e s =
      .error (.timedOut description maxAttempts interval attempts elapsed lastNote)) :
    ∃ k note, maxAttempts = k + 1 ∧ attempts = k + 1 ∧ lastNote = some note ∧
      w.NotesAt h e.source s.source k note := by
  cases hj : w.job h index with
  | error error => simp [outcome_misconfigured hj] at hout
  | ok j =>
    rw [outcome_of_job hj] at hout
    obtain ⟨hending, -, hmax, -, hattempts, -, hlast⟩ := Report.outcome_eq_timedOut.mp hout
    obtain ⟨k, hends, hpending⟩ := (j.run_timedOut_iff e s).mp hending
    have hplan := (hends.last_of_pending hpending).symm
    rw [hends.result] at hattempts
    cases hfinding : j.findingAt e s k with
    | pending note =>
      obtain ⟨text, rfl, htext⟩ := findingAt_note hj hfinding
      exact ⟨k, text, hmax.trans hplan, hattempts, hlast.trans (hends.lastNote hfinding), htext⟩
    | met value => simp [hfinding, Finding.isPending] at hpending
    | fatal cause => simp [hfinding, Finding.isPending] at hpending

/-- A pod that runs, and that cannot be found by the last of four looks. -/
theorem outcome_timedOut_lost_pod :
    let source : Source ClusterQuery ClusterQuery.Answer (Tally ClusterQuery) := .scripted
      fun q n => match q with
        | .pod _ name =>
          { answer :=
              if n < 3 then .ok { name, phase := some "Running", containers := [] }
              else .error .notFound
            delay := 0 }
        | .deployment .. | .status .. | .nodes => { answer := .error .notFound, delay := 0 }
    let e : Setting ClusterQuery ClusterQuery.Answer (Tally ClusterQuery) :=
      { source, trigger := .never }
    (podCompletion "p").outcome storyHandle 0 e (e.opening []) =
        .error (.timedOut "pod p phase Succeeded" 4 (.ofSecs 10) 4 (.ofSecs 30)
          (some "404 Not Found")) ∧
      (podCompletion "p").NotesAt storyHandle source [] 3 "404 Not Found" := by
  intro source e
  have hout : ((podCompletion "p").outcome storyHandle 0 e (e.opening [])).map
      Completion.attempts = .error (.timedOut "pod p phase Succeeded" 4 (.ofSecs 10) 4 (.ofSecs 30)
        (some "404 Not Found")) := by
    decide +kernel
  cases hresult : (podCompletion "p").outcome storyHandle 0 e (e.opening []) with
  | ok c =>
    rw [hresult] at hout
    cases hout
  | error failure =>
    rw [hresult] at hout
    cases hout
    obtain ⟨k, note, hmax, -, hlast, hnote⟩ := outcome_timedOut_last storyHandle _ 0 e _ hresult
    cases hmax
    cases hlast
    exact ⟨rfl, hnote⟩

end Wait

end Convergence
