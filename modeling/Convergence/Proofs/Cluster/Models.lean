import Convergence.Proofs.Cluster.Waits
import Convergence.Proofs.Poll.Alike

/-! A wait for a model deployment reads twice in a tick: the status of the model
deployment, and then the deployment that this status names. Nothing is kept of it for the
next tick. As long as the name stays the same, the wait comes out like a wait for that
deployment. -/
namespace Convergence

variable {σ τ : Type}

/-- The same error, of a wait for another condition. -/
def PlanError.describedAs (description : String) : PlanError → PlanError
  | zeroInterval _ => zeroInterval description
  | zeroAttempts _ => zeroAttempts description
  | zeroTimeout _ => zeroTimeout description
  | unknownProfile name => unknownProfile name

def Failure.describedAs (description : String) : Failure → Failure
  | misconfigured error => misconfigured (error.describedAs description)
  | timedOut _ maxAttempts interval attempts elapsed lastNote =>
    timedOut description maxAttempts interval attempts elapsed lastNote
  | aborted _ cause attempts elapsed => aborted description cause attempts elapsed
  | cancelled _ attempts elapsed => cancelled description attempts elapsed

theorem Report.outcome_describedAs {α : Type} {p q : Plan} (hinterval : q.interval = p.interval)
    (hattempts : q.maxAttempts = p.maxAttempts) (r : Report α) :
    r.outcome q = (r.outcome p).mapError (·.describedAs q.description) := by
  unfold outcome
  rw [hinterval, hattempts]
  cases r.ending <;> rfl

theorem ErrorClass.judge_ne_met {α : Type} {c : ErrorClass} {message : String} {v : α} :
    (c.judge message).finding ≠ .met v := by
  cases c <;> nofun

theorem ErrorClass.judge_fatal {α : Type} {c : ErrorClass} {message cause : String} :
    (c.judge message : Judgement α).finding = .fatal cause ↔ c = .permanent ∧ cause = message := by
  cases c with
  | transient => exact ⟨nofun, nofun⟩
  | permanent => exact ⟨fun h => ⟨rfl, (Finding.fatal.inj h).symm⟩, fun h => congrArg _ h.2.symm⟩

theorem Cadence.plan_describedAs (c : Cadence) (first second : String) :
    (∃ error, c.plan first = .error error ∧ c.plan second = .error (error.describedAs second)) ∨
      ∃ p q, c.plan first = .ok p ∧ c.plan second = .ok q ∧ q.description = second ∧
        q.interval = p.interval ∧ q.maxAttempts = p.maxAttempts := by
  have hfault : c.fault? second = (c.fault? first).map (·.describedAs second) := by
    unfold fault?
    cases c.limit <;> dsimp only <;> split <;> try split
    all_goals rfl
  obtain ⟨error, hfirst, hplan⟩ | ⟨hfirst, p, hplan, -, hinterval, hattempts⟩ := c.plan_spec first
  · rw [hfirst] at hfault
    exact .inl ⟨error, hplan, Cadence.plan_error.mpr hfault⟩
  · rw [hfirst] at hfault
    obtain ⟨q, hq⟩ := Cadence.exists_plan.mpr hfault
    obtain ⟨hdescription, hsame⟩ := Cadence.plan_ok hq
    exact .inr ⟨p, q, hplan, hq, hdescription, hsame.1.trans hinterval.symm,
      hsame.2.trans hattempts.symm⟩

namespace Wait

/-- The deployment behind a model deployment, as its status tells it. -/
def DeploymentOf (status : Value) (deployment : String) : Prop :=
  deployment ≠ "" ∧ ∃ entries, status = .record entries ∧
    Entries.find? "deployment" entries = some (.text deployment)

/-- The answer is a status that names a deployment. -/
def Names (answer : Except ClusterFault Value) (deployment : String) : Prop :=
  ∃ status, answer = .ok status ∧ DeploymentOf status deployment

def named? : Except ClusterFault Value → Option String
  | .ok status => field? "deployment" status
  | .error _ => none

theorem named?_eq_some {answer : Except ClusterFault Value} {deployment : String} :
    named? answer = some deployment ↔ Names answer deployment := by
  cases answer with
  | ok status =>
    constructor
    · intro h
      exact ⟨status, rfl, field?_eq_some.mp h⟩
    · rintro ⟨_, hsame, h⟩
      cases hsame
      exact field?_eq_some.mpr h
  | error e =>
    constructor
    · intro h
      cases h
    · rintro ⟨_, hsame, -⟩
      cases hsame

instance (answer : Except ClusterFault Value) : Decidable (∃ deployment, Names answer deployment) :=
  decidable_of_iff ((named? answer).isSome = true) (by
    rw [Option.isSome_iff_exists]
    exact exists_congr fun _ => named?_eq_some)

/-! ### One tick -/

section

variable (h : ClusterHandle) (model : String) (expected : UInt32)
  (source : Source ClusterQuery ClusterQuery.Answer σ) (state : σ)

def modelStatus : ClusterQuery := .status .modelDeployment h.space (Text.lower model)

/-- What the tick after `i` others reads first, and the source after that read. -/
def statusAt (i : Nat) : Reply (Except ClusterFault Value) × σ :=
  source (modelStatus h model)
    (((modelReplicas model expected).check h).sourceAfter source state i)

/-- What it reads then, if the status names this deployment. -/
def deploymentAt (deployment : String) (i : Nat) : Reply (Except ClusterFault Deployment) :=
  (source (.deployment h.space deployment) (statusAt h model expected source state i).2).1

/-- What a tick of a wait for a model deployment reads and finds. -/
structure FollowsModel (i : Nat) (call : Call ClusterQuery σ Observed) : Prop where
  named : ∀ d, Names (statusAt h model expected source state i).1.answer d →
    call.reads = [(modelStatus h model, 0),
      (.deployment h.space d, (statusAt h model expected source state i).1.delay)]
  unnamed : (¬∃ d, Names (statusAt h model expected source state i).1.answer d) →
    call.reads = [(modelStatus h model, 0)]
  met : ∀ v, call.finding = .met v ↔ ∃ d found,
    Names (statusAt h model expected source state i).1.answer d ∧
      (deploymentAt h model expected source state d i).answer = .ok found ∧
      found.available.getD 0 = expected ∧ v = .deployment found
  fatal : ∀ cause, call.finding = .fatal cause ↔ ∃ e,
    ((statusAt h model expected source state i).1.answer = .error e ∨
      ∃ d, Names (statusAt h model expected source state i).1.answer d ∧
        (deploymentAt h model expected source state d i).answer = .error e) ∧
    h.tolerance.ofFault e = .permanent ∧ cause = e.message

variable {h model expected source state} {i : Nat} {d : String}

theorem callAt_named (hd : Names (statusAt h model expected source state i).1.answer d) :
    let call := ((modelReplicas model expected).check h).callAt source state i
    let first := (statusAt h model expected source state i).1
    let second := deploymentAt h model expected source state d i
    call.reads = [(modelStatus h model, 0), (.deployment h.space d, first.delay)] ∧
      call.delay = first.delay + second.delay ∧
      call.finding = (judge h.tolerance (judgeReplicas d expected) second.answer).finding := by
  obtain ⟨status, hanswer, hstatus⟩ := hd
  have hnext : modelNext h.tolerance h.space (Text.lower model) expected
      (statusAt h model expected source state i).1.answer =
        .read (.deployment h.space d) (judge h.tolerance (judgeReplicas d expected)) := by
    rw [hanswer]
    have hfield : field? "deployment" status = some d := field?_eq_some.mpr hstatus
    simp only [modelNext, followModel, hfield]
  have hcall := Check.call_of_read ((modelReplicas model expected).check h) source _ hnext
  unfold Check.callAt
  rw [hcall]
  exact ⟨rfl, rfl, rfl⟩

/-- Where the status names no deployment, the first read is all that a tick has. -/
theorem finding_unnamed (hd : ¬∃ d, Names (statusAt h model expected source state i).1.answer d) :
    let call := ((modelReplicas model expected).check h).callAt source state i
    call.reads = [(modelStatus h model, 0)] ∧
      call.finding = match (statusAt h model expected source state i).1.answer with
        | .error e => ((h.tolerance.ofFault e).judge e.message).finding
        | .ok _ => .waiting ("model deployment " ++ Text.lower model ++ " has no deployment yet") := by
  obtain ⟨judgement, hnext, hfinding⟩ : ∃ judgement,
      modelNext h.tolerance h.space (Text.lower model) expected
        (statusAt h model expected source state i).1.answer = .decide judgement ∧
      judgement.finding = match (statusAt h model expected source state i).1.answer with
        | .error e => ((h.tolerance.ofFault e).judge e.message).finding
        | .ok _ => .waiting ("model deployment " ++ Text.lower model ++ " has no deployment yet") := by
    cases hanswer : (statusAt h model expected source state i).1.answer with
    | error e => exact ⟨_, rfl, rfl⟩
    | ok status =>
      have hfield : field? "deployment" status = none := by
        rw [Option.eq_none_iff_forall_ne_some]
        intro d hfield
        exact hd ⟨d, hanswer ▸ named?_eq_some.mp hfield⟩
      simp only [modelNext, followModel, hfield]
      exact ⟨_, rfl, rfl⟩
  have hcall := Check.call_of_decide ((modelReplicas model expected).check h) source _ hnext
  unfold Check.callAt
  rw [hcall]
  exact ⟨rfl, hfinding⟩

theorem callAt_unnamed (hd : ¬∃ d, Names (statusAt h model expected source state i).1.answer d) :
    let call := ((modelReplicas model expected).check h).callAt source state i
    let first := (statusAt h model expected source state i).1
    call.reads = [(modelStatus h model, 0)] ∧ (∀ v, call.finding ≠ .met v) ∧
      ∀ cause, call.finding = .fatal cause ↔
        ∃ e, first.answer = .error e ∧ h.tolerance.ofFault e = .permanent ∧ cause = e.message := by
  obtain ⟨hreads, hfinding⟩ := finding_unnamed hd
  dsimp only at hfinding ⊢
  rw [hfinding]
  cases (statusAt h model expected source state i).1.answer with
  | error e =>
    refine ⟨hreads, fun v => ErrorClass.judge_ne_met, fun cause => ?_⟩
    rw [ErrorClass.judge_fatal]
    simp
  | ok status => exact ⟨hreads, nofun, fun cause => ⟨nofun, nofun⟩⟩

/-- A wait that is led to a deployment judges it like a wait for it. -/
theorem judgeReplicas_met {answer : Except ClusterFault Deployment} {v : Observed} :
    (judge h.tolerance (judgeReplicas d expected) answer).finding = .met v ↔
      ∃ found, answer = .ok found ∧ found.available.getD 0 = expected ∧ v = .deployment found :=
  @findingOf_met h (replicas h.space d expected) answer rfl v

theorem judgeReplicas_fatal {answer : Except ClusterFault Deployment} {cause : String} :
    (judge h.tolerance (judgeReplicas d expected) answer).finding = .fatal cause ↔
      ∃ e, answer = .error e ∧ h.tolerance.ofFault e = .permanent ∧ cause = e.message := by
  refine (@findingOf_fatal h (replicas h.space d expected) answer cause).trans ?_
  cases answer with
  | ok found => exact iff_of_false id nofun
  | error e =>
    constructor
    · intro hspoiled
      exact ⟨e, rfl, hspoiled⟩
    · rintro ⟨_, hsame, hspoiled⟩
      cases hsame
      exact hspoiled

theorem Names.unique {answer : Except ClusterFault Value} {d d' : String} (hd : Names answer d)
    (hd' : Names answer d') : d' = d :=
  Option.some.inj ((named?_eq_some.mpr hd').symm.trans (named?_eq_some.mpr hd))

theorem callAt_follows (i : Nat) :
    FollowsModel h model expected source state i
      (((modelReplicas model expected).check h).callAt source state i) := by
  by_cases hd : ∃ d, Names (statusAt h model expected source state i).1.answer d
  · obtain ⟨d, hd⟩ := hd
    obtain ⟨hreads, -, hfinding⟩ := callAt_named hd
    refine { named := ?_, unnamed := fun hnone => absurd ⟨d, hd⟩ hnone, met := ?_, fatal := ?_ }
    · intro d' hd'
      rw [hd.unique hd']
      exact hreads
    · intro v
      rw [hfinding, judgeReplicas_met]
      constructor
      · rintro ⟨found, hanswer, hreached, hv⟩
        exact ⟨d, found, hd, hanswer, hreached, hv⟩
      · rintro ⟨d', found, hd', hanswer, hreached, hv⟩
        cases hd.unique hd'
        exact ⟨found, hanswer, hreached, hv⟩
    · intro cause
      obtain ⟨status, hstatus, -⟩ := id hd
      rw [hfinding, judgeReplicas_fatal]
      refine exists_congr fun e => ?_
      constructor
      · rintro ⟨hanswer, hpermanent⟩
        exact ⟨.inr ⟨d, hd, hanswer⟩, hpermanent⟩
      · rintro ⟨hanswer | ⟨d', hd', hanswer⟩, hpermanent⟩
        · cases hstatus.symm.trans hanswer
        · cases hd.unique hd'
          exact ⟨hanswer, hpermanent⟩
  · obtain ⟨hreads, hmet, hfatal⟩ := callAt_unnamed hd
    refine
      { named := fun d hd' => absurd ⟨d, hd'⟩ hd, unnamed := fun _ => hreads, met := ?_
        fatal := ?_ }
    · intro v
      exact iff_of_false (hmet v) fun ⟨d, _, hd', _⟩ => hd ⟨d, hd'⟩
    · intro cause
      rw [hfatal]
      refine exists_congr fun e => and_congr_left fun _ => ?_
      exact ⟨.inl, fun h => h.resolve_right fun ⟨d, hd', _⟩ => hd ⟨d, hd'⟩⟩

theorem callAt_count (i : Nat) :
    (((modelReplicas model expected).check h).callAt source state i).reads.length =
      1 + if ∃ d, Names (statusAt h model expected source state i).1.answer d then 1 else 0 := by
  split
  · rename_i hd
    obtain ⟨d, hd⟩ := hd
    rw [(callAt_follows i).named d hd]
    rfl
  · rename_i hd
    rw [(callAt_follows i).unnamed hd]
    rfl

end

/-! ### A run -/

section

variable {h : ClusterHandle} {model d : String} {expected : UInt32} {index : Nat}
  {j : Job ClusterQuery ClusterQuery.Answer Observed}
  {e : Setting ClusterQuery ClusterQuery.Answer σ} {s : Scene σ}

theorem length_flatMap_range {β : Type} {f : Nat → List β} {p : Nat → Prop} [DecidablePred p]
    (hf : ∀ i, (f i).length = 1 + if p i then 1 else 0) (n : Nat) :
    ((List.range n).flatMap f).length = n + (List.range n).countP (p ·) := by
  induction n with
  | zero => rfl
  | succ n ih =>
    rw [List.range_succ, List.flatMap_append, List.length_append, ih, List.flatMap_singleton, hf,
      List.countP_append, List.countP_singleton]
    simp only [decide_eq_true_eq]
    omega

/-- A run reads once in every tick, and once more in those whose status names a
deployment. -/
theorem modelReplicas_reads (hj : (modelReplicas model expected).job h index = .ok j) :
    (Event.reads (j.run e s).events).length = (j.run e s).result.attempts +
      (List.range (j.run e s).result.attempts).countP fun i =>
        ∃ d, Names (statusAt h model expected e.source s.source i).1.answer d := by
  rw [Job.reads_run]
  apply length_flatMap_range
  intro i
  rw [List.length_map, job_check hj, callAt_count]

/-! ### Next to a wait for the deployment -/

/-- What a wait for this deployment reads after `i` other reads of it. -/
def directAt (h : ClusterHandle) (d : String)
    (source : Source ClusterQuery ClusterQuery.Answer σ) (state : σ) (i : Nat) :
    Reply (Except ClusterFault Deployment) :=
  (source (.deployment h.space d)
    (source.after state (List.replicate i (.deployment h.space d)))).1

/-- In each of the first `n` ticks the status names the deployment `d`, and a wait for `d`
itself is answered the same, in the time of both reads. The token of the one is cancelled
in the same tick as that of the other. -/
structure LeadsTo (h : ClusterHandle) (model : String) (expected : UInt32) (d : String)
    (e : Setting ClusterQuery ClusterQuery.Answer σ) (s : Scene σ)
    (f : Setting ClusterQuery ClusterQuery.Answer τ) (t : Scene τ) (n : Nat) : Prop where
  now : t.now = s.now
  cancelled : t.cancelled = s.cancelled
  time : f.trigger.time = e.trigger.time
  early : f.trigger.early = e.trigger.early
  onRead : ∀ i ≤ n, Trigger.struck f.trigger.onRead t.reads (t.reads + i) =
    Trigger.struck e.trigger.onRead s.reads (s.reads + 2 * i)
  named : ∀ i < n, Names (statusAt h model expected e.source s.source i).1.answer d
  answered : ∀ i < n, directAt h d f.source t.source i =
    { answer := (deploymentAt h model expected e.source s.source d i).answer
      delay := (statusAt h model expected e.source s.source i).1.delay +
        (deploymentAt h model expected e.source s.source d i).delay }

variable {index' : Nat} {k : Job ClusterQuery ClusterQuery.Answer Observed}
  {f : Setting ClusterQuery ClusterQuery.Answer τ} {t : Scene τ} {n i : Nat}

theorem job_cancelled {w : Wait} (hj : w.job h index = .ok j) (i : Nat) :
    (j.sceneAt e s i).cancelled =
      (s.cancelled || Trigger.struck e.trigger.onRead s.reads (j.sceneAt e s i).reads) := by
  rw [(j.sceneAt_follows e s i).cancelled, j.sceneAt_ticks e s (job_observed hj),
    Trigger.struck_self, Bool.or_false]

theorem LeadsTo.reads (hlead : LeadsTo h model expected d e s f t n)
    (hj : (modelReplicas model expected).job h index = .ok j) (hi : i ≤ n) :
    (j.sceneAt e s i).reads = s.reads + 2 * i := by
  have htwo : ((List.range i).map fun k =>
      (j.check.callAt e.source s.source k).reads.length) = List.replicate i 2 := by
    rw [← List.length_range (n := i), ← List.map_const', List.length_range]
    refine List.map_congr_left fun k hk => ?_
    rw [job_check hj, (callAt_follows k).named d
      (hlead.named k (Nat.lt_of_lt_of_le (List.mem_range.mp hk) hi))]
    rfl
  rw [Job.sceneAt_reads, htwo, List.sum_replicate_nat, Nat.mul_comm]

theorem LeadsTo.alike (hlead : LeadsTo h model expected d e s f t n)
    (hj : (modelReplicas model expected).job h index = .ok j)
    (hk : (replicas h.space d expected).job h index' = .ok k)
    (hinterval : k.plan.interval = j.plan.interval)
    (hattempts : k.plan.maxAttempts = j.plan.maxAttempts) : j.Alike e s k f t n where
  interval := hinterval
  maxAttempts := hattempts
  cancellable := (job_cancellable hk).trans (job_cancellable hj).symm
  now := hlead.now
  time := hlead.time
  early := hlead.early
  finding := by
    intro i hi
    have hanswer : (replicas h.space d expected).answerAt h f.source t.source i =
        (directAt h d f.source t.source i).answer := rfl
    rw [findingAt_eq rfl hk, hanswer, hlead.answered i hi, Job.findingAt_eq, job_check hj,
      (callAt_named (hlead.named i hi)).2.2]
    rfl
  delay := by
    intro i hi
    have hdirect : (k.check.callAt f.source t.source i).delay =
        (directAt h d f.source t.source i).delay := by
      rw [job_check hk, check_eq rfl]
      unfold Check.callAt
      rw [single_sourceAfter]
      rfl
    rw [hdirect, hlead.answered i hi, job_check hj, (callAt_named (hlead.named i hi)).2.1]
  cancelled := by
    intro i hi
    rw [job_cancelled hj, job_cancelled hk, hlead.reads hj hi, (sceneAt_counts rfl hk i).1,
      hlead.cancelled, hlead.onRead i hi]

/-- Two waits with the same profile come to plans of the same pace, or are refused for
the same reason. -/
theorem plan_describedAs {w v : Wait} (hprofile : v.profileName = w.profileName) :
    (∃ error, w.plan h = .error error ∧ v.plan h = .error (error.describedAs v.description)) ∨
      ∃ p q, w.plan h = .ok p ∧ v.plan h = .ok q ∧ q.description = v.description ∧
        q.interval = p.interval ∧ q.maxAttempts = p.maxAttempts := by
  unfold Wait.plan Profiles.get
  rw [hprofile]
  cases Entries.find? w.profileName h.profiles.entries with
  | none => exact .inl ⟨_, rfl, rfl⟩
  | some p => exact p.cadence.plan_describedAs w.description v.description

theorem outcome_led
    (hlead : ∀ j, (modelReplicas model expected).job h index = .ok j →
      LeadsTo h model expected d e s f t (j.run e s).result.attempts) :
    (replicas h.space d expected).outcome h index' f t =
      ((modelReplicas model expected).outcome h index e s).mapError
        (·.describedAs (replicas h.space d expected).description) := by
  obtain ⟨error, hp, hq⟩ | ⟨p, q, hp, hq, hdescription, hinterval, hattempts⟩ :=
    plan_describedAs (h := h) (w := modelReplicas model expected)
      (v := replicas h.space d expected) rfl
  · rw [outcome_misconfigured (job_eq_error.mpr hp), outcome_misconfigured (job_eq_error.mpr hq)]
    rfl
  · have hj := job_of_plan index hp
    have hk := job_of_plan index' hq
    rw [outcome_of_job hj, outcome_of_job hk,
      ((hlead _ hj).alike hj hk hinterval hattempts).result,
      Report.outcome_describedAs hinterval hattempts, hdescription]

/-- A wait for a model deployment makes its ticks of two reads, the second of what the
first has named in the same tick. As long as that is one deployment, it comes out like the
wait for this deployment, and tells the same of it but the condition that it waits for. -/
theorem modelReplicas_follows (h : ClusterHandle) (model : String) (expected : UInt32) :
    (∀ (source : Source ClusterQuery ClusterQuery.Answer σ) (state : σ) (i : Nat),
      FollowsModel h model expected source state i
        (((modelReplicas model expected).check h).callAt source state i)) ∧
    (∀ (index : Nat) (j : Job ClusterQuery ClusterQuery.Answer Observed)
      (e : Setting ClusterQuery ClusterQuery.Answer σ) (s : Scene σ),
      (modelReplicas model expected).job h index = .ok j →
      let call := ((modelReplicas model expected).check h).callAt e.source s.source
      let attempts := (j.run e s).result.attempts
      Event.reads (j.run e s).events =
          (List.range attempts).flatMap (fun i => (call i).reads.map fun read =>
            (read.1, j.startAt e.source s.source s.now i + read.2)) ∧
        (Event.reads (j.run e s).events).length = attempts +
          (List.range attempts).countP fun i =>
            ∃ d, Names (statusAt h model expected e.source s.source i).1.answer d) ∧
    ∀ (index index' : Nat) (d : String) (e : Setting ClusterQuery ClusterQuery.Answer σ)
      (s : Scene σ) (f : Setting ClusterQuery ClusterQuery.Answer τ) (t : Scene τ),
      (∀ j, (modelReplicas model expected).job h index = .ok j →
        LeadsTo h model expected d e s f t (j.run e s).result.attempts) →
      (replicas h.space d expected).outcome h index' f t =
        ((modelReplicas model expected).outcome h index e s).mapError
          (·.describedAs (replicas h.space d expected).description) := by
  refine ⟨fun source state i => callAt_follows i, fun index j e s hj => ⟨?_, ?_⟩, ?_⟩
  · rw [Job.reads_run, job_check hj]
  · exact modelReplicas_reads hj
  · intro index index' d e s f t hlead
    exact outcome_led hlead

end

/-- A model deployment that names `d` in every tick, and `d` with one replica from the
second look on. -/
def modelStory : Source ClusterQuery ClusterQuery.Answer (Tally ClusterQuery) :=
  .scripted fun q n =>
    match q with
    | .status .. => { answer := .ok (.record [("deployment", .text "d")]), delay := 0 }
    | .deployment .. =>
      { answer := .ok { replicas := none, ready := none, available := if n = 0 then none else some 1 }
        delay := 0 }
    | .pod .. | .nodes => { answer := .error .notFound, delay := 0 }

def modelHandle : ClusterHandle :=
  { space := "default"
    profiles := .ofList [("replicas", .ofAttempts 10 4)]
    tolerance := .standard }

theorem modelReplicas_follows_story :
    let e : Setting ClusterQuery ClusterQuery.Answer (Tally ClusterQuery) :=
      { source := modelStory, trigger := .never }
    let s := e.opening []
    (∃ j, (modelReplicas "m" 1).job modelHandle 0 = .ok j ∧
      (Event.reads (j.run e s).events).length = 4 ∧
      LeadsTo modelHandle "m" 1 "d" e s e s (j.run e s).result.attempts) ∧
    (replicas "default" "d" 1).outcome modelHandle 0 e s =
      ((modelReplicas "m" 1).outcome modelHandle 0 e s).mapError
        (·.describedAs (replicas "default" "d" 1).description) := by
  intro e s
  have hlead : LeadsTo modelHandle "m" 1 "d" e s e s 2 :=
    { now := rfl
      cancelled := rfl
      time := rfl
      early := rfl
      onRead := fun _ _ => rfl
      named := fun i hi => named?_eq_some.mp (by decide +revert +kernel)
      answered := by
        intro i hi
        obtain rfl | rfl : i = 0 ∨ i = 1 := by omega
        · rfl
        · rfl }
  have hattempts : ((modelReplicas "m" 1).outcome modelHandle 0 e s).map Completion.attempts =
      .ok 2 := by
    decide +kernel
  obtain ⟨-, hreads, houtcome⟩ := modelReplicas_follows modelHandle "m" 1
  cases hj : (modelReplicas "m" 1).job modelHandle 0 with
  | error error =>
    rw [outcome_misconfigured hj] at hattempts
    cases hattempts
  | ok j =>
    have hrun : (j.run e s).result.attempts = 2 := by
      rw [outcome_of_job hj] at hattempts
      obtain ⟨c, hc, hcount⟩ := map_eq_ok.mp hattempts
      exact (Report.outcome_eq_ok.mp hc).2.1.symm.trans hcount
    have hcount := (hreads 0 j e s hj).2
    rw [hrun] at hcount
    refine ⟨⟨j, rfl, hcount.trans (by decide +kernel), hrun ▸ hlead⟩, ?_⟩
    refine houtcome 0 0 "d" e s e s fun k hk => ?_
    cases hj.symm.trans hk
    exact hrun ▸ hlead

end Wait
end Convergence
