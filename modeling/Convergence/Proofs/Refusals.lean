import Convergence.Probe.Check
import Convergence.Proofs.Cluster.Waits
import Convergence.Proofs.Settings.Validity

/-! Calls that are refused for their configuration. Each way to ask for a poll comes to its
plan by a path of its own. All of them look first for the profile, then at the interval
and then at the limit; whoever is refused finds the clock, the source and the token as
they were. -/
namespace Convergence

variable {Q : Type} {A : Q → Type} {ε σ α β : Type}

/-! ### What is refused -/

/-- What a cadence is refused for. A limit is not looked at if there is no interval. -/
inductive Cadence.Refused (c : Cadence) (description : String) : PlanError → Prop
  | interval : c.interval.nanos = 0 → Refused c description (.zeroInterval description)
  | attempts : c.interval.nanos ≠ 0 → c.limit = .attempts 0 →
    Refused c description (.zeroAttempts description)
  | timeout (t : Duration) : c.interval.nanos ≠ 0 → c.limit = .within t → t.nanos = 0 →
    Refused c description (.zeroTimeout description)

/-- What a profile is refused for. Without a limit it allows no attempts. -/
inductive Profile.Refused (p : Profile) (description : String) : PlanError → Prop
  | interval : p.intervalSecs = 0 → Refused p description (.zeroInterval description)
  | attempts : p.intervalSecs ≠ 0 → p.maxAttempts = some 0 →
    Refused p description (.zeroAttempts description)
  | unlimited : p.intervalSecs ≠ 0 → p.maxAttempts = none → p.timeoutSecs = none →
    Refused p description (.zeroAttempts description)
  | timeout : p.intervalSecs ≠ 0 → p.maxAttempts = none → p.timeoutSecs = some 0 →
    Refused p description (.zeroTimeout description)

inductive Wait.Refused (h : ClusterHandle) (w : Wait) : PlanError → Prop
  | profile : (∀ p, (w.profileName, p) ∉ h.profiles.entries) →
    Refused h w (.unknownProfile w.profileName)
  | cadence {error : PlanError} (p : Profile) : (w.profileName, p) ∈ h.profiles.entries →
    p.Refused w.description error → Refused h w error

theorem Cadence.refused_iff {c : Cadence} {description : String} {error : PlanError} :
    c.plan description = .error error ↔ c.Refused description error := by
  rw [Cadence.plan_error]
  unfold fault?
  constructor
  · intro h
    split at h
    · rename_i hi
      cases h
      exact .interval hi
    · rename_i hi
      split at h
      · rename_i n hlimit
        split at h
        · rename_i hn
          cases h
          exact .attempts hi (hlimit.trans (congrArg _ (UInt32.toNat_inj.mp hn)))
        · cases h
      · rename_i t hlimit
        split at h
        · rename_i ht
          cases h
          exact .timeout t hi hlimit ht
        · cases h
  · intro h
    cases h with
    | interval hi => exact if_pos hi
    | attempts hi hlimit =>
      rw [if_neg hi, hlimit]
      rfl
    | timeout t hi hlimit ht =>
      rw [if_neg hi, hlimit]
      exact if_pos ht

theorem Profile.refused_iff {p : Profile} {description : String} {error : PlanError} :
    p.plan description = .error error ↔ p.Refused description error := by
  refine Cadence.plan_error.trans ?_
  rw [cadence_fault?]
  constructor
  · intro h
    split at h
    · rename_i hi
      cases h
      exact .interval hi
    · rename_i hi
      split at h
      · rename_i n hattempts
        split at h
        · rename_i hn
          cases h
          exact .attempts hi (hn ▸ hattempts)
        · cases h
      · rename_i t hattempts htimeout
        split at h
        · rename_i ht
          cases h
          exact .timeout hi hattempts (ht ▸ htimeout)
        · cases h
      · rename_i hattempts htimeout
        cases h
        exact .unlimited hi hattempts htimeout
  · intro h
    cases h with
    | interval hi => exact if_pos hi
    | attempts hi hattempts =>
      rw [if_neg hi, hattempts]
      rfl
    | unlimited hi hattempts htimeout =>
      rw [if_neg hi, hattempts, htimeout]
    | timeout hi hattempts htimeout =>
      rw [if_neg hi, hattempts, htimeout]
      rfl

theorem Wait.refused_iff {h : ClusterHandle} {w : Wait} {error : PlanError} :
    w.plan h = .error error ↔ w.Refused h error := by
  unfold Wait.plan Profiles.get
  cases hfind : Entries.find? w.profileName h.profiles.entries with
  | none =>
    have habsent : ∀ p, (w.profileName, p) ∉ h.profiles.entries :=
      fun p hmem => Entries.find?_eq_none.mp hfind _ hmem rfl
    constructor
    · intro hplan
      cases hplan
      exact .profile habsent
    · intro hrefused
      cases hrefused with
      | profile _ => rfl
      | cadence p hmem _ => exact absurd hmem (habsent p)
  | some p =>
    have hmem := Entries.mem_of_find? hfind
    constructor
    · intro hplan
      exact .cadence p hmem (Profile.refused_iff.mp hplan)
    · intro hrefused
      cases hrefused with
      | profile habsent => exact absurd hmem (habsent p)
      | cadence q hq hrefused =>
        have hsame := (h.profiles.ordered.find?_of_mem hq).symm.trans hfind
        cases hsame
        exact Profile.refused_iff.mpr hrefused

/-! ### When it is refused -/

/-- The call fails with one of these errors if and only if there is reason to, whatever
the polls would do, and then nothing else has happened. -/
structure RefusedFirst (wrap : PlanError → ε) (refused : PlanError → Prop) (s : Scene σ)
    (p : Passage Q σ (Except ε β)) : Prop where
  refused_iff : ∀ error, p.result = .error (wrap error) ↔ refused error
  untouched : ∀ error, refused error → p.scene = s ∧ p.events = []

theorem Passage.planned_refusedFirst {γ : Type} {plan : Except PlanError γ}
    {wrap : PlanError → ε} {refused : PlanError → Prop} {run : γ → Passage Q σ (Except ε β)}
    (hwrap : ∀ error other, wrap error = wrap other → error = other)
    (hplan : ∀ error, plan = .error error ↔ refused error)
    (hrun : ∀ what error, (run what).result ≠ .error (wrap error)) (s : Scene σ) :
    RefusedFirst wrap refused s (planned plan wrap run s) := by
  unfold planned
  cases plan with
  | error error =>
    refine { refused_iff := fun other => ?_, untouched := fun _ _ => ⟨rfl, rfl⟩ }
    rw [← hplan other]
    constructor
    · intro hresult
      exact congrArg _ (hwrap _ _ (Except.error.inj hresult))
    · intro hsame
      exact congrArg _ (congrArg wrap (Except.error.inj hsame))
  | ok what =>
    have hnone : ∀ error, ¬refused error := by
      intro error hrefused
      cases (hplan error).mpr hrefused
    exact
      { refused_iff := fun error => iff_of_false (hrun what error) (hnone error)
        untouched := fun error hrefused => absurd hrefused (hnone error) }

theorem Job.await_refusedFirst {job : Except PlanError (Job Q A α)} {refused : PlanError → Prop}
    (hjob : ∀ error, job = .error error ↔ refused error) (e : Setting Q A σ) (s : Scene σ) :
    RefusedFirst .misconfigured refused s (Job.await job e s) :=
  Passage.planned_refusedFirst (fun _ _ => Failure.misconfigured.inj) hjob
    (fun j => Report.outcome_ne_misconfigured _ j.plan) s

theorem Scheduler.runWith_refusedFirst (c : Scheduler) (interval : Duration) (attempts : UInt32)
    (check : Check Q A α) (e : Setting Q A σ) (s : Scene σ) :
    RefusedFirst id (Cadence.Refused { interval, limit := .attempts attempts } "condition") s
      (c.runWith interval attempts check e s) := by
  refine Passage.planned_refusedFirst (fun _ _ h => h) (fun _ => Cadence.refused_iff) ?_ s
  intro plan error h
  cases h

theorem Waiter.job_eq_error {w : Waiter} {index : Nat} {check : Check Q A α} {error : PlanError} :
    w.job index check = .error error ↔ w.plan = .error error := by
  unfold job
  cases w.plan <;> simp [Except.map]

theorem Waiter.wait_refusedFirst (w : Waiter) (check : Check Q A α) (e : Setting Q A σ)
    (s : Scene σ) :
    RefusedFirst .misconfigured (w.cadence.Refused w.description) s (w.wait check e s) :=
  Job.await_refusedFirst (fun _ => Waiter.job_eq_error.trans Cadence.refused_iff) e s

theorem Waiter.ofProfile_refusedFirst (description : String) (p : Profile) (c : Scheduler)
    (check : Check Q A α) (e : Setting Q A σ) (s : Scene σ) :
    RefusedFirst .misconfigured (p.Refused description) s
      ((Waiter.ofProfile description p c).wait check e s) := by
  refine Job.await_refusedFirst (fun error => ?_) e s
  rw [Waiter.job_eq_error]
  exact Profile.refused_iff

theorem Wait.await_refusedFirst (h : ClusterHandle) (index : Nat) (w : Wait)
    (e : Setting ClusterQuery ClusterQuery.Answer σ) (s : Scene σ) :
    RefusedFirst .misconfigured (w.Refused h) s (w.await h index e s) :=
  Job.await_refusedFirst (fun _ => Wait.job_eq_error.trans Wait.refused_iff) e s

/-- However a poll is asked for, a bad configuration is found before anything else, the
profile before the interval and the interval before the limit. No other call fails for
its configuration. -/
theorem calls_refused_first (e : Setting Q A σ) (s : Scene σ) (check : Check Q A α) :
    (∀ (c : Scheduler) (interval : Duration) (attempts : UInt32),
      RefusedFirst id (Cadence.Refused { interval, limit := .attempts attempts } "condition") s
        (c.runWith interval attempts check e s)) ∧
    (∀ (description : String) (interval : Duration) (attempts : UInt32),
      RefusedFirst .misconfigured
        (Cadence.Refused { interval, limit := .attempts attempts } description) s
        (waitFor description check interval attempts e s)) ∧
    (∀ w : Waiter,
      RefusedFirst .misconfigured (w.cadence.Refused w.description) s (w.wait check e s)) ∧
    (∀ (description : String) (p : Profile) (c : Scheduler),
      RefusedFirst .misconfigured (p.Refused description) s
        ((Waiter.ofProfile description p c).wait check e s)) ∧
    (∀ (h : ClusterHandle) (index : Nat) (w : Wait)
      (e : Setting ClusterQuery ClusterQuery.Answer σ),
      RefusedFirst .misconfigured (w.Refused h) s (w.await h index e s)) ∧
    (∀ (p : Probe) (w : Waiter) (e : Setting Probe.Query Probe.Answer σ),
      RefusedFirst .misconfigured (w.cadence.Refused w.description) s (p.wait w e s)) ∧
    ∀ error : PlanError, (Failure.misconfigured error).attempts = 0 := by
  refine ⟨?_, ?_, ?_, ?_, ?_, ?_, fun _ => rfl⟩
  · intro c interval attempts
    exact c.runWith_refusedFirst interval attempts check e s
  · intro description interval attempts
    exact (Waiter.simple description interval attempts).wait_refusedFirst check e s
  · intro w
    exact w.wait_refusedFirst check e s
  · intro description p c
    exact Waiter.ofProfile_refusedFirst description p c check e s
  · intro h index w e
    exact w.await_refusedFirst h index e s
  · intro p w e
    exact w.wait_refusedFirst p.check e s

/-- Of two faults the interval is told. A token that is cancelled makes no difference. -/
example (e : Setting Q A σ) (s : Scene σ) (check : Check Q A α) :
    (waitFor "pod" check .zero 0 e { s with cancelled := true }).result =
      .error (.misconfigured (.zeroInterval "pod")) :=
  rfl

end Convergence
