import Convergence.Proofs.Cluster.Answers
import Convergence.Proofs.Plans
import Convergence.Proofs.Poll.Independence
import Convergence.Proofs.Poll.Outcomes

/-! How a wait that makes one read in every tick comes out. It ends by the first answer
that does not leave it open, if the profile allows so many attempts and the token lets
it come so far, and it reads nothing after that answer. -/
namespace Convergence

variable {σ : Type}

/-- Whether the token is cancelled when a run that began with `s` has made so many reads
and the clock stands at `now`. -/
def Setting.cancelledBy {Q : Type} {A : Q → Type} (e : Setting Q A σ) (s : Scene σ) (reads : Nat)
    (now : Instant) : Bool :=
  s.cancelled || Trigger.struck e.trigger.onRead s.reads (s.reads + reads) || e.trigger.past now

namespace Wait

variable {h : ClusterHandle} {w : Wait} {index : Nat}
  {j : Job ClusterQuery ClusterQuery.Answer Observed}
  {e : Setting ClusterQuery ClusterQuery.Answer σ} {s : Scene σ}

/-- The answer to the read after `i` others of the same. -/
def answerAt (h : ClusterHandle) (w : Wait) (source : Source ClusterQuery ClusterQuery.Answer σ)
    (state : σ) (i : Nat) : Except ClusterFault (w.query h).Found :=
  (source (w.query h) (source.after state (List.replicate i (w.query h)))).1.answer

/-- The wait makes a tick after `k` others. -/
structure ComesTo (h : ClusterHandle) (w : Wait)
    (j : Job ClusterQuery ClusterQuery.Answer Observed)
    (e : Setting ClusterQuery ClusterQuery.Answer σ) (s : Scene σ) (k : Nat) : Prop where
  within : k < j.plan.maxAttempts
  undecided : ∀ i < k, w.LeftOpenBy h (w.answerAt h e.source s.source i)
  live : e.cancelledBy s k (j.startAt e.source s.source s.now k) = false

/-! ### Jobs -/

theorem job_eq_ok :
    w.job h index = .ok j ↔ ∃ plan, w.plan h = .ok plan ∧
      j = { index, plan, check := w.check h, cancellable := true, observed := false
            farewell := w.farewell } := by
  unfold job
  rw [bind_eq_ok]
  refine exists_congr fun plan => and_congr_right fun _ => ?_
  exact ⟨fun hjob => (Except.ok.inj hjob).symm, fun hjob => congrArg Except.ok hjob.symm⟩

theorem job_of_plan (index : Nat) {plan : Plan} (hplan : w.plan h = .ok plan) :
    w.job h index = .ok
      { index, plan, check := w.check h, cancellable := true, observed := false
        farewell := w.farewell } :=
  job_eq_ok.mpr ⟨plan, hplan, rfl⟩

theorem job_eq_error {error : PlanError} :
    w.job h index = .error error ↔ w.plan h = .error error := by
  unfold job
  cases w.plan h with
  | error other =>
    constructor
    · intro hjob
      cases hjob
      rfl
    · intro hplan
      cases hplan
      rfl
  | ok plan => exact ⟨nofun, nofun⟩

theorem job_check (hj : w.job h index = .ok j) : j.check = w.check h := by
  obtain ⟨plan, -, rfl⟩ := job_eq_ok.mp hj
  rfl

theorem job_cancellable (hj : w.job h index = .ok j) : j.cancellable = true := by
  obtain ⟨plan, -, rfl⟩ := job_eq_ok.mp hj
  rfl

theorem job_observed (hj : w.job h index = .ok j) : j.observed = false := by
  obtain ⟨plan, -, rfl⟩ := job_eq_ok.mp hj
  rfl

theorem plan_eq_ok {plan : Plan} :
    w.plan h = .ok plan ↔
      ∃ p, h.profiles.get w.profileName = .ok p ∧ p.plan w.description = .ok plan :=
  bind_eq_ok

/-- The profile of a wait is where its pace comes from, and how many ticks it may make. -/
theorem job_paced (hj : w.job h index = .ok j) :
    ∃ p, h.profiles.get w.profileName = .ok p ∧ j.plan.description = w.description ∧
      j.plan.interval = p.interval ∧ j.plan.maxAttempts = p.cadence.attempts := by
  obtain ⟨plan, hplan, rfl⟩ := job_eq_ok.mp hj
  obtain ⟨p, hp, hplan⟩ := plan_eq_ok.mp hplan
  exact ⟨p, hp, Cadence.plan_ok hplan⟩

theorem job_description (hj : w.job h index = .ok j) : j.plan.description = w.description := by
  obtain ⟨p, -, hdescription, -⟩ := job_paced hj
  exact hdescription

/-! ### Reads -/

theorem single_sourceAfter (t : Tolerance) (q : ClusterQuery) (look : q.Found → Finding Observed)
    (source : Source ClusterQuery ClusterQuery.Answer σ) (state : σ) (i : Nat) :
    (single t q look).sourceAfter source state i = source.after state (List.replicate i q) := by
  induction i with
  | zero => rfl
  | succ i ih =>
    rw [List.replicate_succ', Source.after_append, ← ih]
    rfl

theorem findingAt_eq (hw : w.followsUp = false) (hj : w.job h index = .ok j) (i : Nat) :
    j.findingAt e s i = w.findingOf h (w.answerAt h e.source s.source i) := by
  rw [Job.findingAt_eq, job_check hj, check_eq hw]
  unfold Check.callAt
  rw [single_sourceAfter]
  rfl

theorem callAt_reads (hw : w.followsUp = false) (hj : w.job h index = .ok j)
    (source : Source ClusterQuery ClusterQuery.Answer σ) (state : σ) (i : Nat) :
    (j.check.callAt source state i).reads = [(w.query h, 0)] := by
  rw [job_check hj, check_eq hw]
  rfl

theorem sceneAt_counts (hw : w.followsUp = false) (hj : w.job h index = .ok j) (i : Nat) :
    (j.sceneAt e s i).reads = s.reads + i ∧ (j.sceneAt e s i).ticks = s.ticks := by
  refine ⟨?_, j.sceneAt_ticks e s (job_observed hj) i⟩
  rw [Job.sceneAt_reads]
  simp only [callAt_reads hw hj, List.length_singleton]
  rw [List.map_const', List.length_range, List.sum_replicate_nat, Nat.mul_one]

theorem stops_sceneAt (hw : w.followsUp = false) (hj : w.job h index = .ok j) (i : Nat) :
    j.stops e (j.sceneAt e s i) =
      e.cancelledBy s i (j.startAt e.source s.source s.now i) := by
  rw [Job.stops_sceneAt, job_cancellable hj, Bool.true_and]
  unfold Setting.reached Setting.cancelledBy
  obtain ⟨hreads, hticks⟩ := sceneAt_counts (e := e) (s := s) hw hj i
  rw [hreads, hticks, Job.sceneAt_now, Trigger.struck_self, Bool.or_false]

/-! ### Outcomes -/

theorem decidedAt_iff (hw : w.followsUp = false) (hj : w.job h index = .ok j) {k : Nat}
    {f : Finding Observed} :
    j.DecidedAt e s k f ↔
      w.ComesTo h j e s k ∧ w.findingOf h (w.answerAt h e.source s.source k) = f := by
  have hopen : ∀ i, (j.findingAt e s i).isPending = true ↔
      w.LeftOpenBy h (w.answerAt h e.source s.source i) := by
    intro i
    rw [findingAt_eq hw hj, findingOf_pending hw]
  constructor
  · intro hdecided
    refine ⟨⟨hdecided.within, fun i hi => (hopen i).mp (hdecided.before i hi), ?_⟩, ?_⟩
    · rw [← stops_sceneAt hw hj]
      exact hdecided.live
    · rw [← findingAt_eq hw hj]
      exact hdecided.finding
  · rintro ⟨hcomes, hfinding⟩
    refine ⟨hcomes.within, fun i hi => (hopen i).mpr (hcomes.undecided i hi), ?_, ?_⟩
    · rw [stops_sceneAt hw hj]
      exact hcomes.live
    · rw [findingAt_eq hw hj]
      exact hfinding

/-- The end that a finding brings about comes with the tick that has this finding. -/
theorem result_iff (hw : w.followsUp = false) (hj : w.job h index = .ok j)
    {f : Finding Observed} {ending : Ending Observed} (hf : f.ending? = some ending)
    (attempts : Nat) (elapsed : Duration) :
    ((j.run e s).result.ending = ending ∧ attempts = (j.run e s).result.attempts ∧
        elapsed = (j.run e s).result.elapsed) ↔
      ∃ k, w.ComesTo h j e s k ∧ w.findingOf h (w.answerAt h e.source s.source k) = f ∧
        attempts = k + 1 ∧
        elapsed = elapsedBetween s.now (j.endAt e.source s.source s.now k) := by
  rw [Job.result_iff hf]
  simp only [decidedAt_iff hw hj, and_assoc]

theorem outcome_of_job (hj : w.job h index = .ok j) :
    w.outcome h index e s = (j.run e s).result.outcome j.plan := by
  unfold outcome
  rw [hj]

theorem outcome_misconfigured {error : PlanError} (hj : w.job h index = .error error) :
    w.outcome h index e s = .error (.misconfigured error) := by
  unfold outcome
  rw [hj]

/-- A wait succeeds if and only if it comes to an answer that brings its condition
about. It hands back the object of that answer, and tells how many reads it took. -/
theorem outcome_ok_iff (hw : w.followsUp = false) (c : Completion Observed) :
    w.outcome h index e s = .ok c ↔
      ∃ j, w.job h index = .ok j ∧ ∃ k, w.ComesTo h j e s k ∧
        ∃ found, w.answerAt h e.source s.source k = .ok found ∧ w.Reached h found ∧
          c = { value := (w.query h).observed found
                attempts := k + 1
                elapsed := elapsedBetween s.now (j.endAt e.source s.source s.now k) } := by
  cases hj : w.job h index with
  | error error =>
    rw [outcome_misconfigured hj]
    exact ⟨nofun, nofun⟩
  | ok j =>
    have hresult := result_iff (e := e) (s := s) hw hj (f := .met c.value) rfl c.attempts c.elapsed
    rw [outcome_of_job hj, Report.outcome_eq_ok, hresult]
    constructor
    · rintro ⟨k, hcomes, hfinding, hattempts, helapsed⟩
      obtain ⟨found, hanswer, hreached, hvalue⟩ := (findingOf_met hw).mp hfinding
      refine ⟨j, rfl, k, hcomes, found, hanswer, hreached, ?_⟩
      rw [← hattempts, ← helapsed, ← hvalue]
    · rintro ⟨_, hsame, k, hcomes, found, hanswer, hreached, rfl⟩
      cases hsame
      exact ⟨k, hcomes, (findingOf_met hw).mpr ⟨found, hanswer, hreached, rfl⟩, rfl, rfl⟩

/-- A pod that cannot be found at first, then runs, and then ends in `last`. -/
def podStory (last : String) : Source ClusterQuery ClusterQuery.Answer (Tally ClusterQuery) :=
  .scripted fun q n =>
    match q with
    | .pod _ name =>
      let found := fun phase => .ok { name, phase := some phase, containers := [] }
      { answer := if n = 0 then .error .notFound else if n = 1 then found "Running" else found last
        delay := 0 }
    | .deployment .. | .status .. | .nodes => { answer := .error .notFound, delay := 0 }

def storyHandle : ClusterHandle :=
  { space := "default"
    profiles := .ofList [("pod_completion", .ofAttempts 10 4)]
    tolerance := .standard }

theorem outcome_ok_story :
    let w := podCompletion "p"
    let e : Setting ClusterQuery ClusterQuery.Answer (Tally ClusterQuery) :=
      { source := podStory "Succeeded", trigger := .never }
    let found : Pod := { name := "p", phase := some "Succeeded", containers := [] }
    w.followsUp = false ∧
      w.outcome storyHandle 0 e (e.opening []) =
        .ok { value := .pod found, attempts := 3, elapsed := .ofSecs 20 } ∧
      ∃ j, w.job storyHandle 0 = .ok j ∧ j.plan.interval = .ofSecs 10 ∧
        j.plan.maxAttempts = 4 ∧ w.ComesTo storyHandle j e (e.opening []) 2 ∧
        w.answerAt storyHandle e.source [] 2 = .ok found ∧ w.Reached storyHandle found := by
  intro w e found
  obtain ⟨j, hj⟩ : ∃ j, w.job storyHandle 0 = .ok j := ⟨_, rfl⟩
  obtain ⟨p, hp, -, hinterval, hattempts⟩ := job_paced hj
  cases hp
  have hopen : ∀ i < 2,
      (w.findingOf storyHandle (w.answerAt storyHandle e.source [] i)).isPending = true := by
    decide +kernel
  have hcomes : w.ComesTo storyHandle j e (e.opening []) 2 :=
    { within := by
        rw [hattempts]
        decide
      undecided := fun i hi => (findingOf_pending rfl).mp (hopen i hi)
      live := rfl }
  have hreached : w.Reached storyHandle found := rfl
  have helapsed : elapsedBetween 0 (j.endAt e.source [] 0 2) = .ofSecs 20 := by
    cases hj
    decide +kernel
  have hok := (@outcome_ok_iff _ storyHandle w 0 e (e.opening []) rfl
    { value := .pod found, attempts := 3, elapsed := .ofSecs 20 }).mpr
      ⟨j, hj, 2, hcomes, found, rfl, hreached, by rw [← helapsed]; rfl⟩
  exact ⟨rfl, hok, j, hj, hinterval, hattempts, hcomes, rfl, hreached⟩

/-! ### Aborts -/

theorem reads_of_decided (hw : w.followsUp = false) (hj : w.job h index = .ok j) {k : Nat}
    {f : Finding Observed} {ending : Ending Observed} (hf : f.ending? = some ending)
    (hdecided : j.DecidedAt e s k f) :
    Event.reads (j.run e s).events =
      (List.range (k + 1)).map fun i => (w.query h, j.startAt e.source s.source s.now i) := by
  rw [hdecided.reads hf, List.map_eq_flatMap]
  congr 1
  funext i
  rw [Job.reads_tickAt, callAt_reads hw hj]
  rfl

theorem source_of_decided (hw : w.followsUp = false) (hj : w.job h index = .ok j) {k : Nat}
    {f : Finding Observed} {ending : Ending Observed} (hf : f.ending? = some ending)
    (hdecided : j.DecidedAt e s k f) :
    (j.run e s).scene.source =
      e.source.after s.source (List.replicate (k + 1) (w.query h)) := by
  rw [hdecided.source hf, job_check hj, check_eq hw, single_sourceAfter]

/-- A wait aborts if and only if it comes to an answer that spoils it. It reads nothing
after that answer, and no answer that tells it nothing is such a one. -/
theorem outcome_aborted_iff (hw : w.followsUp = false) :
    (∀ description cause attempts elapsed,
      w.outcome h index e s = .error (.aborted description cause attempts elapsed) ↔
        ∃ j, w.job h index = .ok j ∧ ∃ k, w.ComesTo h j e s k ∧
          w.SpoiledBy h (w.answerAt h e.source s.source k) cause ∧
          description = w.description ∧ attempts = k + 1 ∧
          elapsed = elapsedBetween s.now (j.endAt e.source s.source s.now k)) ∧
    (∀ j k cause, w.job h index = .ok j → w.ComesTo h j e s k →
      w.SpoiledBy h (w.answerAt h e.source s.source k) cause →
      Event.reads (j.run e s).events =
          (List.range (k + 1)).map (fun i => (w.query h, j.startAt e.source s.source s.now i)) ∧
        (j.run e s).scene.source =
          e.source.after s.source (List.replicate (k + 1) (w.query h))) ∧
    ∀ description cause k elapsed,
      w.outcome h index e s = .error (.aborted description cause (k + 1) elapsed) →
        ¬w.Lacking h (w.answerAt h e.source s.source k) := by
  have habort : ∀ description cause attempts elapsed,
      w.outcome h index e s = .error (.aborted description cause attempts elapsed) ↔
        ∃ j, w.job h index = .ok j ∧ ∃ k, w.ComesTo h j e s k ∧
          w.SpoiledBy h (w.answerAt h e.source s.source k) cause ∧
          description = w.description ∧ attempts = k + 1 ∧
          elapsed = elapsedBetween s.now (j.endAt e.source s.source s.now k) := by
    intro description cause attempts elapsed
    cases hj : w.job h index with
    | error error =>
      rw [outcome_misconfigured hj]
      exact ⟨nofun, nofun⟩
    | ok j =>
      have hresult := result_iff (e := e) (s := s) hw hj (f := .fatal cause) rfl attempts elapsed
      rw [outcome_of_job hj, Report.outcome_eq_aborted, hresult, job_description hj]
      simp only [findingOf_fatal]
      constructor
      · rintro ⟨hname, k, hcomes, hspoiled, hcost⟩
        exact ⟨j, rfl, k, hcomes, hspoiled, hname, hcost⟩
      · rintro ⟨_, hsame, k, hcomes, hspoiled, hname, hcost⟩
        cases hsame
        exact ⟨hname, k, hcomes, hspoiled, hcost⟩
  refine ⟨habort, fun j k cause hj hcomes hspoiled => ?_, fun description cause k elapsed h' => ?_⟩
  · have hdecided := (decidedAt_iff hw hj).mpr ⟨hcomes, findingOf_fatal.mpr hspoiled⟩
    exact ⟨reads_of_decided hw hj rfl hdecided, source_of_decided hw hj rfl hdecided⟩
  · obtain ⟨_, -, i, -, hspoiled, -, hi, -⟩ := (habort description cause (k + 1) elapsed).mp h'
    cases hi
    exact fun hlacking => hlacking.not_spoiled cause hspoiled

theorem outcome_aborted_story :
    let e : Setting ClusterQuery ClusterQuery.Answer (Tally ClusterQuery) :=
      { source := podStory "Failed", trigger := .never }
    (podCompletion "p").followsUp = false ∧ ∃ j, (podCompletion "p").job storyHandle 0 = .ok j ∧
      (podCompletion "p").SpoiledBy storyHandle
        ((podCompletion "p").answerAt storyHandle (podStory "Failed") [] 2)
        "pod p finished with phase Failed" ∧
      Event.reads (j.run e (e.opening [])).events =
        (List.range 3).map fun i => (.pod "default" "p", j.startAt (podStory "Failed") [] 0 i) := by
  intro e
  have hfailure : ((podCompletion "p").outcome storyHandle 0 e (e.opening [])).map
      Completion.attempts =
        .error (.aborted "pod p phase Succeeded" "pod p finished with phase Failed" 3
          (.ofSecs 20)) := by
    decide +kernel
  cases hfails : (podCompletion "p").outcome storyHandle 0 e (e.opening []) with
  | ok c =>
    rw [hfails] at hfailure
    cases hfailure
  | error failure =>
    rw [hfails] at hfailure
    cases hfailure
    obtain ⟨habort, hreads, -⟩ :=
      @outcome_aborted_iff _ storyHandle (podCompletion "p") 0 e (e.opening []) rfl
    obtain ⟨j, hj, k, hcomes, hspoiled, -, hk, -⟩ := (habort _ _ _ _).mp hfails
    cases hk
    exact ⟨rfl, j, hj, hspoiled, (hreads j 2 _ hj hcomes hspoiled).1⟩

end Wait
end Convergence
