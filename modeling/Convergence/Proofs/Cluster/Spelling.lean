import Convergence.Proofs.Cluster.Models
import Convergence.Proofs.Poll.Asked
import Convergence.Proofs.Text.LowerCase

/-! The names of custom resources are put into small letters before anything is done with them, so
that two spellings with the same small form make the same wait. What a status says, and what it is
compared with, stays as it is written. -/
namespace Convergence

variable {σ : Type}

namespace Wait

/-- The wait for the name in small letters. -/
def lowered : Wait → Wait
  | modelReplicas model expected => modelReplicas (Text.lower model) expected
  | customState kind name state failures => customState kind (Text.lower name) state failures
  | w => w

variable {h : ClusterHandle} {w : Wait} {index : Nat}

@[simp]
theorem lowered_description (w : Wait) : w.lowered.description = w.description := by
  cases w with
  | modelReplicas model expected =>
    exact congrArg ("model deployment " ++ · ++ " to have " ++ toString expected.toNat ++
      " available replicas") (Text.lower_lower model)
  | customState kind name state failures =>
    exact congrArg (kind.plural ++ " " ++ · ++ " state " ++ state) (Text.lower_lower name)
  | _ => rfl

@[simp]
theorem lowered_check (h : ClusterHandle) (w : Wait) : w.lowered.check h = w.check h := by
  cases w with
  | modelReplicas model expected =>
    simp only [lowered, check]
    rw [Text.lower_lower]
  | customState kind name state failures =>
    simp only [lowered, check]
    rw [Text.lower_lower]
  | _ => rfl

@[simp]
theorem lowered_profileName (w : Wait) : w.lowered.profileName = w.profileName := by
  cases w <;> rfl

@[simp]
theorem lowered_farewell (w : Wait) : w.lowered.farewell = w.farewell := by
  cases w <;> rfl

theorem lowered_job (h : ClusterHandle) (index : Nat) (w : Wait) :
    w.lowered.job h index = w.job h index := by
  unfold job plan
  simp only [lowered_description, lowered_check, lowered_profileName, lowered_farewell]

theorem lowered_await (h : ClusterHandle) (index : Nat) (w : Wait)
    (e : Setting ClusterQuery ClusterQuery.Answer σ) (s : Scene σ) :
    w.lowered.await h index e s = w.await h index e s := by
  unfold await
  rw [lowered_job]

/-! ### What is asked for -/

/-- Only custom resources are asked for by status, under a name in small letters. -/
theorem lower_of_asks {kind : ResourceKind} {space name : String}
    (hasks : (w.check h).Asks (.status kind space name)) : Text.lower name = name := by
  rcases hasks with hquery | ⟨answer, judge, hnext⟩
  · cases w <;> cases hquery <;> exact Text.lower_lower _
  · cases w with
    | modelReplicas model expected =>
      change Except ClusterFault Value at answer
      cases answer with
      | ok status =>
        simp only [check, modelNext, followModel] at hnext
        split at hnext <;> cases hnext
      | error e => cases hnext
    | _ => cases hnext

theorem lower_of_asked {e : Setting ClusterQuery ClusterQuery.Answer σ} {s : Scene σ}
    {asker : Nat} {kind : ResourceKind} {space name : String} {t : Instant}
    (hasked : .asked asker (.status kind space name) t ∈ (w.await h index e s).events) :
    Text.lower name = name := by
  unfold await Job.await Passage.planned at hasked
  cases hj : w.job h index with
  | error error =>
    rw [hj] at hasked
    cases hasked
  | ok j =>
    rw [hj] at hasked
    have hasks := Job.asks_of_mem_run hasked
    rw [job_check hj] at hasks
    exact lower_of_asks hasks

theorem lower_of_asked_among {jobs : List (Job ClusterQuery ClusterQuery.Answer Observed)}
    {source : Source ClusterQuery ClusterQuery.Answer σ} {s : Scene σ}
    {trace : List (Nat × Event ClusterQuery)}
    {last : Hall ClusterQuery ClusterQuery.Answer σ Observed}
    (hjobs : ∀ j ∈ jobs, ∃ (w : Wait) (index : Nat), w.job h index = .ok j)
    (hrun : Hall.Run source (Hall.opening jobs s) trace last) {i asker : Nat}
    {kind : ResourceKind} {space name : String} {t : Instant}
    (hasked : (i, .asked asker (.status kind space name) t) ∈ trace) : Text.lower name = name := by
  obtain ⟨j, hj, hasks⟩ := hrun.asks hasked
  obtain ⟨w, index, hjob⟩ := hjobs j (List.mem_of_getElem? hj)
  rw [job_check hjob] at hasks
  exact lower_of_asks hasks

/-! ### What is compared -/

theorem callAt_single (hw : w.followsUp = false)
    (source : Source ClusterQuery ClusterQuery.Answer σ) (state : σ) (i : Nat) :
    ((w.check h).callAt source state i).reads = [(w.query h, 0)] ∧
      ((w.check h).callAt source state i).finding =
        w.findingOf h (w.answerAt h source state i) := by
  rw [check_eq hw]
  unfold Check.callAt
  rw [single_sourceAfter]
  exact ⟨rfl, rfl⟩

/-- What a tick of a wait for a custom resource reads and finds. The state in the status is
compared as it stands with the one that is awaited and with those that are failures. -/
structure FollowsState (h : ClusterHandle) (kind : ResourceKind) (name state : String)
    (failures : List String) (answer : Except ClusterFault Value)
    (call : Call ClusterQuery σ Observed) : Prop where
  reads : call.reads = [(.status kind h.space (Text.lower name), 0)]
  met : ∀ v, call.finding = .met v ↔
    ∃ status, answer = .ok status ∧ StateOf status state ∧ v = .status status
  fatal : ∀ cause, call.finding = .fatal cause ↔
    (∃ status observed, answer = .ok status ∧ StateOf status observed ∧ observed ∈ failures ∧
      observed ≠ state ∧
      cause = kind.plural ++ " " ++ Text.lower name ++ " reached state " ++ observed) ∨
    ∃ e, answer = .error e ∧ h.tolerance.ofFault e = .permanent ∧ cause = e.message

theorem callAt_followsState (h : ClusterHandle) (kind : ResourceKind) (name state : String)
    (failures : List String) (source : Source ClusterQuery ClusterQuery.Answer σ) (start : σ)
    (i : Nat) :
    FollowsState h kind name state failures
      ((customState kind name state failures).answerAt h source start i)
      (((customState kind name state failures).check h).callAt source start i) := by
  obtain ⟨hreads, hfinding⟩ :=
    callAt_single (h := h) (w := customState kind name state failures) rfl source start i
  refine ⟨hreads, fun v => ?_, fun cause => ?_⟩
  · rw [hfinding, findingOf_met rfl]
    rfl
  · rw [hfinding, findingOf_fatal]
    cases (customState kind name state failures).answerAt h source start i with
    | ok status =>
      constructor
      · rintro ⟨observed, hspoiled⟩
        exact .inl ⟨status, observed, rfl, hspoiled⟩
      · rintro (⟨_, observed, hsame, hspoiled⟩ | ⟨e, hsame, -⟩)
        · cases hsame
          exact ⟨observed, hspoiled⟩
        · cases hsame
    | error e =>
      constructor
      · intro hspoiled
        exact .inr ⟨e, rfl, hspoiled⟩
      · rintro (⟨_, _, hsame, -⟩ | ⟨_, hsame, hspoiled⟩)
        · cases hsame
        · cases hsame
          exact hspoiled

/-- A name of a custom resource and its small form make the same wait: what comes of it, what it
reads, and what it tells. However the polls of such waits take turns, no name is asked for that
is not in small letters. The deployment that a status names is read under the very name, and
states and counts are compared as they are. -/
theorem custom_names_are_read_in_small_letters (h : ClusterHandle) :
    (∀ (w : Wait) (index : Nat), w.lowered.job h index = w.job h index) ∧
    (∀ (w : Wait) (index : Nat) (e : Setting ClusterQuery ClusterQuery.Answer σ) (s : Scene σ),
      w.lowered.await h index e s = w.await h index e s ∧
        ∀ asker kind space name t,
          .asked asker (.status kind space name) t ∈ (w.await h index e s).events →
            Text.lower name = name) ∧
    (∀ jobs (source : Source ClusterQuery ClusterQuery.Answer σ) s trace last,
      (∀ j ∈ jobs, ∃ (w : Wait) (index : Nat), w.job h index = .ok j) →
      Hall.Run source (Hall.opening jobs s) trace last →
        ∀ i asker kind space name t, (i, .asked asker (.status kind space name) t) ∈ trace →
          Text.lower name = name) ∧
    (∀ model expected (source : Source ClusterQuery ClusterQuery.Answer σ) start i,
      FollowsModel h model expected source start i
        (((modelReplicas model expected).check h).callAt source start i)) ∧
    (∀ kind name state failures (source : Source ClusterQuery ClusterQuery.Answer σ) start i,
      FollowsState h kind name state failures
        ((customState kind name state failures).answerAt h source start i)
        (((customState kind name state failures).check h).callAt source start i)) ∧
    ∀ (w : Wait) (index : Nat) j (e : Setting ClusterQuery ClusterQuery.Answer σ) (s : Scene σ),
      w.job h index = .ok j →
        (∀ i, j.findingAt e s i = ((w.check h).callAt e.source s.source i).finding) ∧
        Event.reads (j.run e s).events =
          (List.range (j.run e s).result.attempts).flatMap fun i =>
            ((w.check h).callAt e.source s.source i).reads.map fun read =>
              (read.1, j.startAt e.source s.source s.now i + read.2) := by
  refine ⟨fun w index => lowered_job h index w,
    fun w index e s => ⟨lowered_await h index w e s, ?_⟩,
    ?_, fun _ _ _ _ i => callAt_follows i, callAt_followsState h, ?_⟩
  · intro asker kind space name t
    exact lower_of_asked
  · intro jobs source s trace last hjobs hrun i asker kind space name t
    exact lower_of_asked_among hjobs hrun
  · intro w index j e s hj
    rw [← job_check hj]
    exact ⟨j.findingAt_eq e s, j.reads_run e s⟩

/-- A status that first says the state in capitals, and names a deployment with a capital. -/
def spelledStory : Source ClusterQuery ClusterQuery.Answer (Tally ClusterQuery) :=
  .scripted fun q n =>
    match q with
    | .status .. =>
      { answer := .ok (.record [("deployment", .text "Blue"),
          ("state", .text (if n = 0 then "READY" else "Ready"))])
        delay := 0 }
    | .deployment .. | .pod .. | .nodes => { answer := .error .notFound, delay := 0 }

/-- A capital sigma at the end of a word becomes the final one. The capitals of a state and of a
deployment stay. -/
theorem capitals_count_in_states_alone :
    let e : Setting ClusterQuery ClusterQuery.Answer (Tally ClusterQuery) :=
      { source := spelledStory, trigger := .never }
    let s := e.opening []
    let kind : ResourceKind := { group := "example.com", version := "v1", plural := "roads" }
    let w := customState kind "ΟΔΟΣ" "Ready" ["READY?"]
    ∃ j, w.job storyHandle 0 = .ok j ∧
      (customState kind "οδος" "Ready" ["READY?"]).await storyHandle 0 e s =
        w.await storyHandle 0 e s ∧
      (∃ asker,
        .asked asker (.status kind "default" "οδος") 0 ∈ (w.await storyHandle 0 e s).events) ∧
      (∃ trace last, Hall.Run spelledStory (Hall.opening [j] s) trace last ∧
        (0, .asked 0 (w.check storyHandle).query 0) ∈ trace) ∧
      Text.lower "οδος" = "οδος" ∧
      (∀ v, j.findingAt e s 0 ≠ .met v) ∧ (∃ v, j.findingAt e s 1 = .met v) ∧
      (((modelReplicas "M" 1).check storyHandle).callAt spelledStory [] 0).reads =
        [(.status .modelDeployment "default" (Text.lower "M"), 0),
          (.deployment "default" "Blue", 0)] := by
  intro e s kind w
  obtain ⟨-, hawait, hamong, hmodel, hstate, hruns⟩ :=
    custom_names_are_read_in_small_letters (σ := Tally ClusterQuery) storyHandle
  have hlow : Text.lower "ΟΔΟΣ" = "οδος" := by decide +kernel
  have hsame : w.lowered = customState kind "οδος" "Ready" ["READY?"] :=
    congrArg (customState kind · "Ready" ["READY?"]) hlow
  obtain ⟨plan, hplan⟩ : ∃ plan, w.plan storyHandle = .ok plan :=
    ⟨_, plan_eq_ok.mpr ⟨.ofAttempts 10 4, rfl, rfl⟩⟩
  obtain ⟨j, hj, hindex⟩ : ∃ j, w.job storyHandle 0 = .ok j ∧ j.index = 0 :=
    ⟨_, job_of_plan 0 hplan, rfl⟩
  have hread : (.status kind "default" "οδος", 0) ∈
      Event.reads (w.await storyHandle 0 e s).events := by
    decide +kernel
  obtain ⟨asker, hasked⟩ := Event.mem_reads.mp hread
  obtain ⟨heq, hsmall⟩ := hawait w 0 e s
  obtain ⟨trace, last, hrun, hmem⟩ := Hall.exists_run_asked spelledStory j (s := s) rfl
  rw [hindex, job_check hj] at hmem
  have hjobs : ∀ k ∈ [j], ∃ (w : Wait) (index : Nat), w.job storyHandle index = .ok k :=
    fun k hk => ⟨w, 0, List.mem_singleton.mp hk ▸ hj⟩
  have hname : Text.lower (Text.lower "ΟΔΟΣ") = Text.lower "ΟΔΟΣ" :=
    hamong [j] spelledStory s trace last hjobs hrun 0 0 kind "default" _ 0 hmem
  obtain ⟨hfinding, -⟩ := hruns w 0 j e s hj
  have hstory := hstate kind "ΟΔΟΣ" "Ready" ["READY?"] spelledStory []
  have hnames : Names (statusAt storyHandle "M" 1 spelledStory [] 0).1.answer "Blue" :=
    named?_eq_some.mp (by decide +kernel)
  refine ⟨j, hj, hsame ▸ heq, ⟨asker, hasked⟩, ⟨trace, last, hrun, hmem⟩, hlow ▸ hname, ?_, ?_,
    (hmodel "M" 1 spelledStory [] 0).named "Blue" hnames⟩
  · intro v hmet
    rw [hfinding] at hmet
    obtain ⟨status, hanswer, hstated, -⟩ := ((hstory 0).met v).mp hmet
    have hfield := field?_state.mpr hstated
    cases hanswer
    exact absurd hfield (by decide +kernel)
  · rw [hfinding]
    exact ⟨_, ((hstory 1).met _).mpr ⟨_, rfl, field?_state.mp (by decide +kernel), rfl⟩⟩

end Wait
end Convergence
