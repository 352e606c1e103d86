import Convergence.Probe.Check
import Convergence.Proofs.Cluster.Models
import Convergence.Proofs.Poll.Milder

/-! Waits that put up with more statuses. A status that is added to those that are waited out
can only put an abort off: the wait goes on as before up to the first error with that status,
and takes it for one more answer that leaves it open. -/
namespace Convergence

variable {σ α : Type}

namespace Tolerance

/-- The usual statuses, and these added one after the other. -/
def ofCodes (codes : List UInt16) : Tolerance := codes.foldl widen standard

/-- A status that is permanent with the first codes, and one of the second. -/
def Spares (codes codes' : List UInt16) (status : UInt16) : Prop :=
  (ofCodes codes).ofStatus status = .permanent ∧ status ∈ codes'

variable {codes codes' : List UInt16} {status : UInt16}

theorem mem_extra (t : Tolerance) : status ∈ (codes.foldl widen t).extra ↔
    status ∈ t.extra ∨ status ∈ codes := by
  induction codes generalizing t with
  | nil => simp
  | cons code codes ih =>
    rw [List.foldl_cons, ih]
    unfold widen
    rw [List.mem_cons, List.mem_cons, or_comm (a := status = code), or_assoc]

theorem mem_ofCodes : status ∈ (ofCodes codes).extra ↔ status ∈ codes := by
  unfold ofCodes
  rw [mem_extra]
  simp [standard]

theorem ofStatus_ofCodes : (ofCodes codes).ofStatus status = .transient ↔
    standard.ofStatus status = .transient ∨ status ∈ codes := by
  have hadded : status ∈ (ofCodes codes).extra ↔ status ∈ codes := mem_ofCodes
  rw [← hadded]
  unfold ofStatus standard
  by_cases hlisted : status ∈ (ofCodes codes).extra <;> simp [hlisted]

/-- Neither their order nor how often they are added matters. -/
theorem ofStatus_congr (h : ∀ status, status ∈ codes' ↔ status ∈ codes) :
    (ofCodes codes').ofStatus = (ofCodes codes).ofStatus := by
  funext status
  have hiff : (ofCodes codes').ofStatus status = .transient ↔
      (ofCodes codes).ofStatus status = .transient := by
    rw [ofStatus_ofCodes, ofStatus_ofCodes, h]
  cases hfirst : (ofCodes codes).ofStatus status <;>
    cases hsecond : (ofCodes codes').ofStatus status <;> simp_all

theorem Spares.transient (h : Spares codes codes' status) :
    (ofCodes codes').ofStatus status = .transient :=
  ofStatus_ofCodes.mpr (.inr h.2)

theorem ofStatus_widened (hsub : codes ⊆ codes') (h : ¬Spares codes codes' status) :
    (ofCodes codes').ofStatus status = (ofCodes codes).ofStatus status := by
  cases hfirst : (ofCodes codes).ofStatus status with
  | transient =>
    rw [ofStatus_ofCodes] at hfirst ⊢
    exact hfirst.imp_right fun hmem => hsub hmem
  | permanent =>
    have hunlisted : status ∉ codes' := fun hmem => h ⟨hfirst, hmem⟩
    cases hsecond : (ofCodes codes').ofStatus status with
    | permanent => rfl
    | transient =>
      have husual := (ofStatus_ofCodes.mp hsecond).resolve_right hunlisted
      cases hfirst.symm.trans (ofStatus_ofCodes.mpr (.inl husual))

/-- How an error of the cluster is taken depends on the statuses only if it is one. -/
theorem ofFault_widened (hsub : codes ⊆ codes') (fault : ClusterFault) :
    (∃ code text, fault = .status code text ∧ Spares codes codes' code) ∨
      (∀ code text, fault = .status code text → ¬Spares codes codes' code) ∧
        (ofCodes codes').ofFault fault = (ofCodes codes).ofFault fault := by
  cases fault with
  | status code text =>
    by_cases hspares : Spares codes codes' code
    · exact .inl ⟨code, text, rfl, hspares⟩
    · refine .inr ⟨?_, ofStatus_widened hsub hspares⟩
      intro _ _ heq
      cases heq
      exact hspares
  | transport text => exact .inr ⟨nofun, rfl⟩
  | undecodable text => exact .inr ⟨nofun, rfl⟩

end Tolerance

/-- The same call with another judgement. -/
def Call.judged {Q : Type} (c : Call Q σ α) (j : Judgement α) : Call Q σ α :=
  { c with finding := j.finding, log := j.log }

/-! ### Waits for a cluster -/

def ClusterHandle.tolerating (h : ClusterHandle) (t : Tolerance) : ClusterHandle :=
  { h with tolerance := t }

namespace Wait

def faultOf {β : Type} : Except ClusterFault β → Option ClusterFault
  | .error fault => some fault
  | .ok _ => none

/-- What is read next, if anything. -/
def second? (h : ClusterHandle) : (w : Wait) → ClusterQuery.Answer (w.query h) →
    Option ClusterQuery
  | modelReplicas _ _, answer => (named? answer).map (.deployment h.space)
  | _, _ => none

/-- The error that a tick is answered with, by its first read or by its second. -/
def fault? (h : ClusterHandle) (w : Wait) (source : Source ClusterQuery ClusterQuery.Answer σ)
    (state : σ) : Option ClusterFault :=
  let first := source (w.query h) state
  (faultOf first.1.answer).or
    ((w.second? h first.1.answer).bind fun query => faultOf (source query first.2).1.answer)

/-- A tick depends on the tolerance for the error alone that it is answered with. -/
inductive CallBy (h : ClusterHandle) (w : Wait)
    (source : Source ClusterQuery ClusterQuery.Answer σ) (state : σ) : Prop
  | fault (fault : ClusterFault) (base : Call ClusterQuery σ Observed)
    (met : w.fault? h source state = some fault)
    (call : ∀ t, (w.check (h.tolerating t)).call source state =
      base.judged ((t.ofFault fault).judge fault.message))
  | answer (base : Call ClusterQuery σ Observed) (met : w.fault? h source state = none)
    (call : ∀ t, (w.check (h.tolerating t)).call source state = base)

section

variable {h : ClusterHandle} {w : Wait} {source : Source ClusterQuery ClusterQuery.Answer σ}
  {state : σ}

theorem callBy_judge {β : Type} (look : β → Finding Observed) (answer : Except ClusterFault β)
    (base : Call ClusterQuery σ Observed) (hfault : w.fault? h source state = faultOf answer)
    (hcall : ∀ t, (w.check (h.tolerating t)).call source state = base.judged (judge t look answer)) :
    CallBy h w source state := by
  cases answer with
  | error fault => exact .fault fault base hfault hcall
  | ok found => exact .answer (base.judged (.quiet (look found))) hfault hcall

/-- A tick that reads once. -/
theorem callBy_single (hsecond : ∀ answer, w.second? h answer = none)
    (look : (w.query h).Found → Finding Observed)
    (hcheck : ∀ t, w.check (h.tolerating t) = single t (w.query h) look) :
    CallBy h w source state := by
  let base : Call ClusterQuery σ Observed :=
    { finding := .pending none
      delay := (source (w.query h) state).1.delay
      reads := [(w.query h, 0)]
      log := []
      source := (source (w.query h) state).2 }
  refine callBy_judge look (source (w.query h) state).1.answer base ?_ fun t => ?_
  · unfold fault?
    dsimp only
    rw [hsecond]
    exact Option.or_none
  · rw [hcheck]
    rfl

theorem fault?_model (model : String) (expected : UInt32) :
    let first := source (modelStatus h model) state
    (modelReplicas model expected).fault? h source state =
      (faultOf first.1.answer).or (((named? first.1.answer).map (.deployment h.space)).bind
        fun query => faultOf (source query first.2).1.answer) := rfl

/-- A tick that reads a second time, since the first answer names a deployment. -/
theorem callBy_named {model d : String} {expected : UInt32} {status : Value}
    (hanswer : (source (modelStatus h model) state).1.answer = .ok status)
    (hfield : field? "deployment" status = some d) :
    CallBy h (modelReplicas model expected) source state := by
  let first := source (modelStatus h model) state
  let second := source (.deployment h.space d) first.2
  have hnext : ∀ t, modelNext t h.space (Text.lower model) expected first.1.answer =
      .read (.deployment h.space d) (judge t (judgeReplicas d expected)) := by
    intro t
    rw [hanswer]
    simp only [modelNext, followModel, hfield]
  have hsecond : (modelReplicas model expected).fault? h source state =
      faultOf second.1.answer := by
    rw [fault?_model, hanswer]
    simp only [faultOf, named?, hfield, Option.map_some, Option.bind_some, Option.none_or]
    rfl
  let base : Call ClusterQuery σ Observed :=
    { finding := .pending none
      delay := first.1.delay + second.1.delay
      reads := [(modelStatus h model, 0), (.deployment h.space d, first.1.delay)]
      log := []
      source := second.2 }
  exact callBy_judge _ _ base hsecond fun t => Check.call_of_read _ source state (hnext t)

theorem callBy_model (model : String) (expected : UInt32) :
    CallBy h (modelReplicas model expected) source state := by
  let first := source (modelStatus h model) state
  have hdecide : ∀ (t : Tolerance) (judgement : Judgement Observed),
      modelNext t h.space (Text.lower model) expected first.1.answer = .decide judgement →
      ((modelReplicas model expected).check (h.tolerating t)).call source state =
        { finding := judgement.finding
          delay := first.1.delay
          reads := [(modelStatus h model, 0)]
          log := judgement.log
          source := first.2 } :=
    fun t _ hnext => Check.call_of_decide _ source state hnext
  cases hanswer : first.1.answer with
  | error fault =>
    let base : Call ClusterQuery σ Observed :=
      { finding := .pending none
        delay := first.1.delay
        reads := [(modelStatus h model, 0)]
        log := []
        source := first.2 }
    refine .fault fault base ?_ fun t => ?_
    · rw [fault?_model, hanswer]
      rfl
    · exact hdecide t _ (by rw [hanswer]; rfl)
  | ok status =>
    cases hfield : field? "deployment" status with
    | none =>
      have hnext : ∀ t, modelNext t h.space (Text.lower model) expected first.1.answer =
          .decide (.quiet (.waiting
            ("model deployment " ++ Text.lower model ++ " has no deployment yet"))) := by
        intro t
        rw [hanswer]
        simp only [modelNext, followModel, hfield]
      refine .answer _ ?_ fun t => hdecide t _ (hnext t)
      rw [fault?_model, hanswer]
      simp only [faultOf, named?, hfield, Option.map_none, Option.bind_none, Option.or_none]
    | some d => exact callBy_named hanswer hfield

theorem callBy (h : ClusterHandle) (w : Wait)
    (source : Source ClusterQuery ClusterQuery.Answer σ) (state : σ) : CallBy h w source state := by
  cases w with
  | modelReplicas model expected => exact callBy_model model expected
  | podPhase pod phase => exact callBy_single (fun _ => rfl) _ fun _ => rfl
  | containers pod => exact callBy_single (fun _ => rfl) _ fun _ => rfl
  | replicas space deployment expected => exact callBy_single (fun _ => rfl) _ fun _ => rfl
  | ready space deployment => exact callBy_single (fun _ => rfl) _ fun _ => rfl
  | customState kind name state failures => exact callBy_single (fun _ => rfl) _ fun _ => rfl
  | scaleDown key value => exact callBy_single (fun _ => rfl) _ fun _ => rfl

theorem sourceAfter_tolerating (t : Tolerance) (i : Nat) :
    (w.check (h.tolerating t)).sourceAfter source state i =
      (w.check h).sourceAfter source state i := by
  have hcall : ∀ state, ((w.check (h.tolerating t)).call source state).source =
      ((w.check h).call source state).source := by
    intro state
    cases callBy h w source state with
    | fault fault base met call =>
      have hown := call h.tolerance
      rw [call t]
      exact (congrArg Call.source hown).symm
    | answer base met call =>
      have hown := call h.tolerance
      rw [call t]
      exact (congrArg Call.source hown).symm
  induction i with
  | zero => rfl
  | succ i ih =>
    unfold Check.sourceAfter
    rw [ih, hcall]

theorem call_finding {fault : ClusterFault} (hfault : w.fault? h source state = some fault)
    (t : Tolerance) :
    ((w.check (h.tolerating t)).call source state).finding =
      ((t.ofFault fault).judge fault.message : Judgement Observed).finding := by
  cases callBy h w source state with
  | fault other base met call =>
    cases met.symm.trans hfault
    rw [call]
    rfl
  | answer base met call => cases met.symm.trans hfault

/-- A tick meets an error whose status the second codes spare. -/
def Spared (h : ClusterHandle) (w : Wait) (codes codes' : List UInt16)
    (source : Source ClusterQuery ClusterQuery.Answer σ) (state : σ) (cause : String) : Prop :=
  ∃ code text, w.fault? h source state = some (.status code text) ∧
    Tolerance.Spares codes codes' code ∧ cause = (ClusterFault.status code text).message

theorem check_milder {codes codes' : List UInt16} (hsub : codes ⊆ codes') :
    (w.check (h.tolerating (.ofCodes codes))).Milder (w.check (h.tolerating (.ofCodes codes')))
      source (w.Spared h codes codes' source) where
  same state hnone := by
    cases callBy h w source state with
    | answer base met call => rw [call, call]
    | fault fault base met call =>
      obtain ⟨code, text, rfl, hspares⟩ | ⟨-, hsame⟩ := Tolerance.ofFault_widened hsub fault
      · exact absurd ⟨code, text, met, hspares, rfl⟩ (hnone _)
      · rw [call, call, hsame]
  fatal state cause := by
    rintro ⟨code, text, hfault, hspares, rfl⟩
    have hpermanent : (Tolerance.ofCodes codes).ofFault (.status code text) = .permanent :=
      hspares.1
    rw [call_finding hfault, hpermanent]
    rfl
  spared state cause := by
    rintro ⟨code, text, hfault, hspares, rfl⟩
    have htransient : (Tolerance.ofCodes codes').ofFault (.status code text) = .transient :=
      hspares.transient
    cases callBy h w source state with
    | answer base met call => cases met.symm.trans hfault
    | fault fault base met call =>
      cases met.symm.trans hfault
      refine ⟨[.transientError (ClusterFault.status code text).message], ?_⟩
      rw [call, call, htransient]
      rfl

theorem job_tolerating (t t' : Tolerance) (index : Nat) :
    w.job (h.tolerating t') index =
      (w.job (h.tolerating t) index).map (·.judging (w.check (h.tolerating t'))) := by
  have hplan : w.plan (h.tolerating t') = w.plan (h.tolerating t) := rfl
  unfold job
  rw [hplan]
  cases w.plan (h.tolerating t) <;> rfl

theorem ofFault_congr {t t' : Tolerance} (hsame : t'.ofStatus = t.ofStatus) :
    t'.ofFault = t.ofFault := by
  funext fault
  cases fault with
  | status code text => exact congrFun hsame code
  | _ => rfl

theorem judge_congr {t t' : Tolerance} (hsame : t'.ofStatus = t.ofStatus) {β : Type}
    (look : β → Finding α) : judge t' look = judge t look := by
  funext answer
  unfold judge
  rw [ofFault_congr hsame]

/-- Waits cannot tell tolerances apart that take every status alike. -/
theorem check_congr {t t' : Tolerance} (hsame : t'.ofStatus = t.ofStatus) :
    w.check (h.tolerating t') = w.check (h.tolerating t) := by
  have hsingle : ∀ (query : ClusterQuery) (look : query.Found → Finding Observed),
      single t' query look = single t query look := by
    intro query look
    unfold single
    rw [judge_congr hsame]
  cases w with
  | modelReplicas model expected =>
    have hnext : modelNext t' h.space (Text.lower model) expected =
        modelNext t h.space (Text.lower model) expected := by
      funext answer
      cases answer with
      | error fault =>
        unfold modelNext
        rw [ofFault_congr hsame]
      | ok status =>
        unfold modelNext followModel
        dsimp only
        cases field? "deployment" status with
        | none => rfl
        | some d =>
          exact congrArg (Followup.read (ClusterQuery.deployment h.space d)) (judge_congr hsame _)
    exact congrArg (Check.mk (modelStatus h model)) hnext
  | _ => exact hsingle _ _

theorem job_congr {t t' : Tolerance} (hsame : t'.ofStatus = t.ofStatus) (index : Nat) :
    w.job (h.tolerating t') index = w.job (h.tolerating t) index := by
  unfold job
  rw [check_congr hsame]
  rfl

theorem findingAt_fault {t : Tolerance} {index : Nat}
    {j : Job ClusterQuery ClusterQuery.Answer Observed}
    (hj : w.job (h.tolerating t) index = .ok j)
    {e : Setting ClusterQuery ClusterQuery.Answer σ} {s : Scene σ} {n : Nat} {fault : ClusterFault}
    (hfault : w.fault? h e.source ((w.check h).sourceAfter e.source s.source n) = some fault) :
    j.findingAt e s n = ((t.ofFault fault).judge fault.message : Judgement Observed).finding := by
  rw [Job.findingAt_eq, job_check hj]
  unfold Check.callAt
  rw [sourceAfter_tolerating]
  exact call_finding hfault t

end

end Wait

/-! ### Probes -/

namespace Probe

def tolerating (p : Probe) (t : Tolerance) : Probe := { p with tolerance := t }

/-- A tick meets an answer whose status the second codes spare. -/
def Spared (p : Probe) (codes codes' : List UInt16) (source : Source Query Answer σ) (state : σ)
    (cause : String) : Prop :=
  ∃ answer : HttpAnswer, (source (p.url, p.token) state).1.answer = .ok answer ∧
    400 ≤ answer.status ∧ answer.status < 500 ∧
    Tolerance.Spares codes codes' answer.status.toUInt16 ∧ cause = statusNote answer.status

/-- The error that an exchange comes to, also by a body that cannot be used. -/
def faultOf : Except HttpError HttpAnswer → Option HttpError
  | .error error => some error
  | .ok answer =>
    if answer.status = 200 then
      match answer.text with
      | .ok _ => none
      | .error error => some error
    else none

variable {p : Probe} {source : Source Query Answer σ} {state : σ}

theorem call_eq (p : Probe) (source : Source Query Answer σ) (state : σ) :
    p.check.call source state =
      { finding := (p.judge (source (p.url, p.token) state).1.answer).finding
        delay := (source (p.url, p.token) state).1.delay
        reads := [((p.url, p.token), 0)]
        log := (p.judge (source (p.url, p.token) state).1.answer).log
        source := (source (p.url, p.token) state).2 } := rfl

theorem judge_of_fault {answer : Except HttpError HttpAnswer} {error : HttpError}
    (h : faultOf answer = some error) : p.judge answer = p.judgeError error := by
  unfold faultOf at h
  unfold judge
  cases answer with
  | error other =>
    cases h
    rfl
  | ok answer =>
    dsimp only at h ⊢
    split at h
    · rename_i hok
      rw [if_pos hok]
      cases htext : answer.text with
      | ok body =>
        rw [htext] at h
        cases h
      | error other =>
        rw [htext] at h
        cases h
        rfl
    · cases h

/-- Errors of an exchange have no status, so no tolerance is more lenient with them. -/
theorem judgeError_tolerating (t : Tolerance) (error : HttpError) :
    (p.tolerating t).judgeError error = p.judgeError error := by
  unfold judgeError
  rw [HttpError.classify_eq, HttpError.classify_eq]

theorem judge_tolerating_ok (t : Tolerance) (answer : HttpAnswer) (h : answer.status = 200) :
    (p.tolerating t).judge (.ok answer) = p.judge (.ok answer) := by
  unfold judge
  dsimp only
  rw [if_pos h, if_pos h]
  cases answer.text with
  | ok body => rfl
  | error error => exact judgeError_tolerating t error

theorem judge_tolerating (t : Tolerance) (answer : HttpAnswer) (h : answer.status ≠ 200) :
    (p.tolerating t).judge (.ok answer) =
      { finding := (p.tolerating t).judgeStatus answer.status
        log := [.unexpectedStatus p.url answer.status] } :=
  if_neg h

theorem sourceAfter_tolerating (t : Tolerance) (i : Nat) :
    (p.tolerating t).check.sourceAfter source state i = p.check.sourceAfter source state i := by
  induction i with
  | zero => rfl
  | succ i ih =>
    unfold Check.sourceAfter
    rw [ih]
    rfl

theorem isClientError_iff {status : Nat} :
    isClientError status = true ↔ 400 ≤ status ∧ status < 500 := by
  unfold isClientError
  simp

theorem judgeStatus_fatal {status : Nat} (hclient : isClientError status = true)
    (hpermanent : p.tolerance.ofStatus status.toUInt16 = .permanent) :
    p.judgeStatus status = .fatal (statusNote status) := by
  unfold judgeStatus
  rw [hclient, hpermanent]
  rfl

theorem judgeStatus_waiting {status : Nat}
    (htransient : p.tolerance.ofStatus status.toUInt16 = .transient) :
    p.judgeStatus status = .waiting (statusNote status) := by
  unfold judgeStatus
  rw [htransient, Bool.and_comm]
  rfl

theorem judge_widened {codes codes' : List UInt16} (hsub : codes ⊆ codes')
    (answer : Except HttpError HttpAnswer)
    (hnone : ∀ a : HttpAnswer, answer = .ok a → isClientError a.status = true →
      ¬Tolerance.Spares codes codes' a.status.toUInt16) :
    (p.tolerating (.ofCodes codes')).judge answer =
      (p.tolerating (.ofCodes codes)).judge answer := by
  cases answer with
  | error error =>
    exact (judgeError_tolerating _ error).trans (judgeError_tolerating _ error).symm
  | ok a =>
    by_cases hok : a.status = 200
    · rw [judge_tolerating_ok _ a hok, judge_tolerating_ok _ a hok]
    · have hstatus : (p.tolerating (.ofCodes codes')).judgeStatus a.status =
          (p.tolerating (.ofCodes codes)).judgeStatus a.status := by
        cases hclient : isClientError a.status with
        | false =>
          unfold judgeStatus
          rw [hclient]
          rfl
        | true =>
          have hsame := Tolerance.ofStatus_widened hsub (hnone a rfl hclient)
          unfold judgeStatus tolerating
          dsimp only
          rw [hsame]
      rw [judge_tolerating _ a hok, judge_tolerating _ a hok, hstatus]

theorem check_milder {codes codes' : List UInt16} (hsub : codes ⊆ codes') :
    (p.tolerating (.ofCodes codes)).check.Milder (p.tolerating (.ofCodes codes')).check source
      (p.Spared codes codes' source) where
  same state hnone := by
    have hjudge := judge_widened (p := p) hsub
      (source (p.url, p.token) state).1.answer fun a hanswer hclient hspares =>
        have hbounds := isClientError_iff.mp hclient
        hnone _ ⟨a, hanswer, hbounds.1, hbounds.2, hspares, rfl⟩
    rw [call_eq, call_eq]
    exact congrArg (fun j : Judgement String => Call.mk j.finding _ _ j.log _) hjudge
  fatal state cause := by
    rintro ⟨a, hanswer, hlow, hhigh, hspares, rfl⟩
    have hok : a.status ≠ 200 := by omega
    rw [call_eq]
    change ((p.tolerating (.ofCodes codes)).judge (source (p.url, p.token) state).1.answer).finding
      = _
    rw [hanswer, judge_tolerating _ a hok]
    exact judgeStatus_fatal (isClientError_iff.mpr ⟨hlow, hhigh⟩) hspares.1
  spared state cause := by
    rintro ⟨a, hanswer, hlow, hhigh, hspares, rfl⟩
    have hok : a.status ≠ 200 := by omega
    have hjudge : (p.tolerating (.ofCodes codes')).judge (source (p.url, p.token) state).1.answer =
        { finding := .waiting (statusNote a.status)
          log := [.unexpectedStatus p.url a.status] } := by
      rw [hanswer, judge_tolerating _ a hok, judgeStatus_waiting hspares.transient]
    refine ⟨[.unexpectedStatus p.url a.status], ?_⟩
    rw [call_eq, call_eq]
    exact congrArg (fun j : Judgement String => Call.mk j.finding _ _ j.log _) hjudge

theorem check_congr {t t' : Tolerance} (hsame : t'.ofStatus = t.ofStatus) :
    (p.tolerating t').check = (p.tolerating t).check := by
  have hjudge : (p.tolerating t').judge = (p.tolerating t).judge := by
    funext answer
    cases answer with
    | error error =>
      exact (judgeError_tolerating t' error).trans (judgeError_tolerating t error).symm
    | ok a =>
      by_cases hok : a.status = 200
      · rw [judge_tolerating_ok t' a hok, judge_tolerating_ok t a hok]
      · rw [judge_tolerating t' a hok, judge_tolerating t a hok]
        unfold judgeStatus tolerating
        rw [hsame]
  unfold check
  rw [hjudge]
  rfl

theorem findingAt_fault {w : Waiter} {t : Tolerance} {j : Job Query Answer String}
    (hj : w.job 0 (p.tolerating t).check = .ok j) {e : Setting Query Answer σ} {s : Scene σ}
    {n : Nat} {error : HttpError}
    (hfault : faultOf (e.source (p.url, p.token)
      (p.check.sourceAfter e.source s.source n)).1.answer = some error) :
    j.findingAt e s n = (p.judgeError error).finding := by
  obtain ⟨plan, -, rfl⟩ := map_eq_ok.mp hj
  rw [Job.findingAt_eq]
  change ((p.tolerating t).check.callAt e.source s.source n).finding = _
  unfold Check.callAt
  rw [sourceAfter_tolerating, call_eq, ← judgeError_tolerating t]
  exact congrArg Judgement.finding (judge_of_fault hfault)

end Probe

theorem Waiter.job_judging {Q : Type} {A : Q → Type} (w : Waiter) (index : Nat)
    (c d : Check Q A α) : w.job index d = (w.job index c).map (·.judging d) := by
  unfold job
  cases w.plan <;> rfl

theorem Waiter.job_check {Q : Type} {A : Q → Type} {w : Waiter} {index : Nat} {c : Check Q A α}
    {j : Job Q A α} (hj : w.job index c = .ok j) : j.check = c := by
  obtain ⟨plan, -, rfl⟩ := map_eq_ok.mp hj
  rfl

/-! ### The whole run -/

/-- Errors that a poll takes alike whatever its tolerance: it ends by those that are fatal,
and leaves the tick open with the others. -/
structure Job.Settles {Q : Type} {A : Q → Type} (j : Job Q A α) (e : Setting Q A σ) (s : Scene σ)
    (fatal retried : Nat → String → Prop) : Prop where
  fatal : ∀ n < (j.run e s).result.attempts, ∀ text, fatal n text →
    (j.run e s).result.ending = .aborted text ∧ (j.run e s).result.attempts = n + 1
  retried : ∀ n text, retried n text → j.findingAt e s n = .pending (some text)

theorem Job.settles {Q : Type} {A : Q → Type} {j : Job Q A α} {e : Setting Q A σ} {s : Scene σ}
    {fatal retried : Nat → String → Prop}
    (hfatal : ∀ n text, fatal n text → j.findingAt e s n = .fatal text)
    (hretried : ∀ n text, retried n text → j.findingAt e s n = .pending (some text)) :
    j.Settles e s fatal retried where
  fatal n hn text h := by
    have hfinding := hfatal n text h
    have hends := endsWith_of_fatal hn hfinding
    rw [hends.result, hfinding]
    exact ⟨rfl, rfl⟩
  retried := hretried

/-- Widening the statuses that are waited out puts aborts off and does nothing else, for waits
for a cluster and for probes. Neither the order of the statuses matters nor how often one is
added. An answer that cannot be decoded aborts a wait, and the want of an answer does not,
whatever the statuses. -/
theorem widening_postpones {codes codes' : List UInt16} (hsub : codes ⊆ codes') :
    (∀ (h : ClusterHandle) (w : Wait) (index : Nat)
        (e : Setting ClusterQuery ClusterQuery.Answer σ) (s : Scene σ),
      let narrow := w.job (h.tolerating (.ofCodes codes)) index
      let wide := w.job (h.tolerating (.ofCodes codes')) index
      let state := (w.check h).sourceAfter e.source s.source
      Job.Postpones narrow wide e s (fun n => w.Spared h codes codes' e.source (state n)) ∧
        (∀ other, (∀ code, code ∈ other ↔ code ∈ codes) →
          w.job (h.tolerating (.ofCodes other)) index = narrow) ∧
        ∀ j, narrow = .ok j → j.Settles e s
          (fun n text => ∃ reason, w.fault? h e.source (state n) = some (.undecodable reason) ∧
            text = (ClusterFault.undecodable reason).message)
          (fun n text => ∃ reason, w.fault? h e.source (state n) = some (.transport reason) ∧
            text = (ClusterFault.transport reason).message)) ∧
    ∀ (p : Probe) (w : Waiter) (e : Setting Probe.Query Probe.Answer σ) (s : Scene σ),
      let narrow := w.job 0 (p.tolerating (.ofCodes codes)).check
      let wide := w.job 0 (p.tolerating (.ofCodes codes')).check
      let state := p.check.sourceAfter e.source s.source
      let answer := fun n => (e.source (p.url, p.token) (state n)).1.answer
      Job.Postpones narrow wide e s (fun n => p.Spared codes codes' e.source (state n)) ∧
        (∀ other, (∀ code, code ∈ other ↔ code ∈ codes) →
          w.job 0 (p.tolerating (.ofCodes other)).check = narrow) ∧
        ∀ j, narrow = .ok j → j.Settles e s
          (fun n text => ∃ error, Probe.faultOf (answer n) = some error ∧
            (∀ url, error ≠ .unanswered url) ∧ text = error.message)
          (fun n text => ∃ url, Probe.faultOf (answer n) = some (.unanswered url) ∧
            text = (HttpError.unanswered url).message) := by
  constructor
  · intro h w index e s narrow wide state
    refine ⟨?_, fun other hother => ?_, fun j hj => ?_⟩
    · have hpostpones := Job.postpones (Wait.check_milder (h := h) (w := w) hsub) (e := e)
        narrow (fun j hj => Wait.job_check hj) s
      have hwide : wide = _ := Wait.job_tolerating (.ofCodes codes) (.ofCodes codes') index
      simp only [Wait.sourceAfter_tolerating] at hpostpones
      rw [hwide]
      exact hpostpones
    · exact Wait.job_congr (Tolerance.ofStatus_congr hother) index
    · apply Job.settles
      · rintro n _ ⟨reason, hfault, rfl⟩
        exact Wait.findingAt_fault hj hfault
      · rintro n _ ⟨reason, hfault, rfl⟩
        exact Wait.findingAt_fault hj hfault
  · intro p w e s narrow wide state answer
    refine ⟨?_, fun other hother => ?_, fun j hj => ?_⟩
    · have hpostpones := Job.postpones (Probe.check_milder (p := p) hsub) (e := e)
        narrow (fun j hj => Waiter.job_check hj) s
      have hwide : wide = _ := w.job_judging 0 (p.tolerating (.ofCodes codes)).check _
      simp only [Probe.sourceAfter_tolerating] at hpostpones
      rw [hwide]
      exact hpostpones
    · exact congrArg (w.job 0) (Probe.check_congr (Tolerance.ofStatus_congr hother))
    · apply Job.settles
      · rintro n _ ⟨error, hfault, hanswered, rfl⟩
        rw [Probe.findingAt_fault hj hfault]
        cases error with
        | unanswered url => exact absurd rfl (hanswered url)
        | _ => rfl
      · rintro n _ ⟨url, hfault, rfl⟩
        exact Probe.findingAt_fault hj hfault

/-- A pod that may not be looked at when it is first asked for. -/
def forbiddenStory : Source ClusterQuery ClusterQuery.Answer (Tally ClusterQuery) :=
  .scripted fun q n =>
    match q with
    | .pod _ name =>
      { answer :=
          if n = 0 then .error (.status 403 "Forbidden")
          else .ok { name, phase := some "Succeeded", containers := [] }
        delay := 0 }
    | .deployment .. | .status .. | .nodes => { answer := .error .notFound, delay := 0 }

/-- An address that may not be asked for when it first is. -/
def Probe.forbiddenStory : Source Query Answer (Tally Query) :=
  .scripted fun _ n => prompt <| .ok
    { status := if n = 0 then 403 else 200, location := none, body := .whole [0x6F, 0x6B] }

theorem widening_postpones_story :
    let w := Wait.podCompletion "p"
    let e : Setting ClusterQuery ClusterQuery.Answer (Tally ClusterQuery) :=
      { source := forbiddenStory, trigger := .never }
    let p : Probe := { url := "http://h/up", token := none, tolerance := .standard }
    let v : Waiter := .simple "up" (.ofSecs 3) 6
    let f : Setting Probe.Query Probe.Answer (Tally Probe.Query) :=
      { source := Probe.forbiddenStory, trigger := .never }
    let note := "Returned wrong status code: 403"
    ([] : List UInt16) ⊆ [403] ∧
      w.Spared Wait.storyHandle [] [403] e.source [] "403 Forbidden" ∧
      (∃ j k, w.job Wait.storyHandle 0 = .ok j ∧
        w.job (Wait.storyHandle.tolerating (.ofCodes [403])) 0 = .ok k ∧
        k.PutOffBy j e (e.opening []) 0 "403 Forbidden" ∧
        (k.run e (e.opening [])).result.attempts = 2) ∧
      p.Spared [] [403] f.source [] note ∧
      ∃ j k, v.job 0 p.check = .ok j ∧ v.job 0 (p.tolerating (.ofCodes [403])).check = .ok k ∧
        k.PutOffBy j f (f.opening []) 0 note ∧ (k.run f (f.opening [])).result.attempts = 2 ∧
        (k.run f (f.opening [])).result.ending = .converged "ok" := by
  intro w e p v f note
  have hsub : ([] : List UInt16) ⊆ [403] := List.nil_subset _
  have hspared : w.Spared Wait.storyHandle [] [403] e.source [] "403 Forbidden" :=
    ⟨403, "Forbidden", rfl, ⟨by decide, by decide⟩, by decide⟩
  have hsparedProbe : p.Spared [] [403] f.source [] note :=
    ⟨_, rfl, by decide, by decide, ⟨by decide, by decide⟩, by decide +kernel⟩
  refine ⟨hsub, hspared, ?_, hsparedProbe, ?_⟩
  · obtain ⟨hpostpones, -⟩ := (widening_postpones hsub).1 Wait.storyHandle w 0 e (e.opening [])
    have hmet : 0 < attemptsOf (Job.await (w.job Wait.storyHandle 0) e (e.opening [])).result := by
      decide +kernel
    obtain ⟨j, k, hj, hk, hputOff⟩ := hpostpones.putOff 0 hmet _ hspared
    have hattempts : attemptsOf (Job.await
        (w.job (Wait.storyHandle.tolerating (.ofCodes [403])) 0) e (e.opening [])).result = 2 := by
      decide +kernel
    rw [hk, Job.attemptsOf_await] at hattempts
    exact ⟨j, k, hj, hk, hputOff, hattempts⟩
  · obtain ⟨hpostpones, -⟩ := (widening_postpones hsub).2 p v f (f.opening [])
    have hmet : 0 < attemptsOf (Job.await (v.job 0 p.check) f (f.opening [])).result := by
      decide +kernel
    obtain ⟨j, k, hj, hk, hputOff⟩ := hpostpones.putOff 0 hmet _ hsparedProbe
    have hresult : (Job.await (v.job 0 (p.tolerating (.ofCodes [403])).check) f
        (f.opening [])).result = .ok { value := "ok", attempts := 2, elapsed := .ofSecs 3 } := by
      decide +kernel
    rw [hk] at hresult
    obtain ⟨hending, hattempts, -⟩ := Report.outcome_eq_ok.mp hresult
    exact ⟨j, k, hj, hk, hputOff, hattempts.symm, hending⟩

end Convergence
