import Convergence.Command
import Convergence.Proofs.Cluster.Waits
import Convergence.Proofs.Settings.Validity
import Convergence.Settings.Loading

/-! Settings without a fault can be used. Whatever takes a profile from them gets a plan,
with the interval of the profile and as many attempts as the profile comes to, so that no
wait and no probe is refused for its settings. -/
namespace Convergence

/-- The plan has the pace of the profile. -/
def Profile.Paces (p : Profile) (plan : Plan) : Prop :=
  plan.interval = p.interval ∧ plan.maxAttempts = p.cadence.attempts

/-- The probe keeps to its profile. -/
def ProbeRequest.Unchanged (r : ProbeRequest) : Prop :=
  r.intervalSecs = none ∧ r.attempts = none

/-- All that settings are used for goes well as far as it is up to them. -/
structure Settings.Usable (s : Settings) : Prop where
  level : ∃ level, Level.ofName? s.logging.level = some level
  plans : ∀ name p, s.profiles.get name = .ok p → ∀ description,
    ∃ plan, p.plan description = .ok plan ∧ p.cadence.plan description = .ok plan ∧ p.Paces plan
  requests : ∀ (r : ProbeRequest) p, s.profiles.get r.profile = .ok p → r.Unchanged →
    ∃ plan, r.plan s.profiles = .ok plan ∧ p.Paces plan
  listing : ∃ l, Listing.ofSettings s = .ok l
  waits : ∀ (h : ClusterHandle) (w : Wait) (p : Profile), h.profiles = s.profiles →
    s.profiles.get w.profileName = .ok p →
      ∀ (σ : Type) (index : Nat) (e : Setting ClusterQuery ClusterQuery.Answer σ)
        (scene : Scene σ) (error : PlanError),
          w.outcome h index e scene ≠ .error (.misconfigured error)
  probes : ∀ (r : ProbeRequest) (p : Profile), s.profiles.get r.profile = .ok p → r.Unchanged →
    ∀ (σ : Type) (server : HttpServer (StateM σ)) (state : σ) (startedAt : String) (json : Bool)
      (error : PlanError),
        (Performance.probe server state startedAt s json r).result ≠
            .error (.misconfigured error) ∧
          (Performance.probe server state startedAt s json r).result ≠
            .error (.probeFailed r.url (.misconfigured error))

namespace Profile

variable {p : Profile} {name : String}

theorem exists_paced (h : p.fault? name = none) (description : String) :
    ∃ plan, p.plan description = .ok plan ∧ p.Paces plan := by
  have hvalid : p.cadence.fault? description = none ∧ p.SetsOneLimit := fault?_eq_none.mp h
  obtain ⟨plan, hplan⟩ := Cadence.exists_plan.mpr hvalid.1
  exact ⟨plan, hplan, (Cadence.plan_ok hplan).2⟩

end Profile

namespace Listing

theorem exists_ofEntries {entries : List (String × Profile)}
    (h : ∀ name p, (name, p) ∈ entries → p.fault? name = none) : ∃ l, ofEntries entries = .ok l := by
  induction entries with
  | nil => exact ⟨[], rfl⟩
  | cons entry rest ih =>
    obtain ⟨name, p⟩ := entry
    obtain ⟨plan, hplan, -⟩ := Profile.exists_paced (h name p List.mem_cons_self) name
    obtain ⟨listed, hlisted⟩ := ih fun other q hq => h other q (List.mem_cons_of_mem _ hq)
    unfold ofEntries ListedProfile.ofProfile
    rw [hplan, hlisted]
    exact ⟨_, rfl⟩

end Listing

theorem ProbeRequest.plan_of_unchanged {r : ProbeRequest} {ps : Profiles} {p : Profile}
    (hp : ps.get r.profile = .ok p) (h : r.Unchanged) : r.plan ps = p.plan r.description := by
  unfold ProbeRequest.plan cadence changes
  rw [hp, h.1, h.2]
  rfl

theorem ProbeRequest.conclude_ne_misconfigured {r : ProbeRequest} {startedAt : String} {json : Bool}
    {outcome : Except Failure (Completion String)} {error : PlanError}
    (h : outcome ≠ .error (.misconfigured error)) :
    (r.conclude startedAt outcome).map (·.output json) ≠ .error (.misconfigured error) ∧
      (r.conclude startedAt outcome).map (·.output json) ≠
        .error (.probeFailed r.url (.misconfigured error)) := by
  unfold conclude
  cases outcome with
  | ok c => exact ⟨nofun, nofun⟩
  | error failure =>
    refine ⟨nofun, fun hfailed => h ?_⟩
    cases hfailed
    rfl

namespace Settings

variable {s : Settings}

theorem exists_paced (h : s.fault? = none) {name : String} {p : Profile}
    (hp : s.profiles.get name = .ok p) (description : String) :
    ∃ plan, p.plan description = .ok plan ∧ p.Paces plan :=
  Profile.exists_paced (fault?_of_get h hp) description

theorem usable (h : s.fault? = none) : s.Usable := by
  obtain ⟨-, hlevel, hprofiles⟩ := fault?_eq_none.mp h
  have hrequest : ∀ (r : ProbeRequest) p, s.profiles.get r.profile = .ok p → r.Unchanged →
      ∃ plan, r.plan s.profiles = .ok plan ∧ p.Paces plan := fun r p hp hr => by
    rw [ProbeRequest.plan_of_unchanged hp hr]
    exact exists_paced h hp r.description
  refine
    { level := hlevel, plans := ?_, requests := hrequest, listing := ?_, waits := ?_
      probes := ?_ }
  · intro name p hp description
    obtain ⟨plan, hplan, hpaces⟩ := exists_paced h hp description
    exact ⟨plan, hplan, hplan, hpaces⟩
  · obtain ⟨l, hl⟩ := Listing.exists_ofEntries hprofiles
    unfold Listing.ofSettings
    rw [hl]
    exact ⟨_, rfl⟩
  · intro handle w p hsame hp σ index e scene error
    obtain ⟨plan, hplan, -⟩ := exists_paced h hp w.description
    have hjob : ∃ j, w.job handle index = .ok j :=
      ⟨_, Wait.job_eq_ok.mpr ⟨plan, Wait.plan_eq_ok.mpr ⟨p, hsame ▸ hp, hplan⟩, rfl⟩⟩
    obtain ⟨j, hj⟩ := hjob
    rw [Wait.outcome_of_job hj]
    exact Report.outcome_ne_misconfigured _ _ error
  · intro r p hp hr σ server state startedAt json error
    obtain ⟨plan, hplan, -⟩ := hrequest r p hp hr
    unfold Performance.probe
    rw [hplan]
    exact ProbeRequest.conclude_ne_misconfigured (Report.outcome_ne_misconfigured _ _ error)

theorem fault?_of_loadFiles {around : Surroundings} {context : String} {paths : List String}
    (h : loadFiles around context paths = .ok s) : s.fault? = none := by
  unfold loadFiles at h
  cases hread : extract around paths with
  | error cause =>
    rw [hread] at h
    cases h
  | ok settings =>
    rw [hread] at h
    dsimp only at h
    split at h
    · cases h
    · rename_i hfault
      cases h
      exact hfault

/-- What is accepted can be used, and so can all that is loaded. A profile is accepted if
and only if there is a plan of it and it sets one limit; what is refused shows as a fault
of the plan, but for a profile with two limits. -/
theorem accepted_usable :
    (∀ s : Settings, s.fault? = none → s.Usable) ∧
    (∀ around s, load around = .ok s → s.fault? = none) ∧
    (∀ around path s, loadFrom around path = .ok s → s.fault? = none) ∧
    ∀ (p : Profile) (name description : String),
      (p.fault? name = none ↔ (∃ plan, p.plan description = .ok plan) ∧ p.SetsOneLimit) ∧
      ∀ fault, p.fault? name = some fault → p.FaultShows name description fault := by
  refine ⟨fun s => usable, fun _ _ => fault?_of_loadFiles, fun _ _ _ => fault?_of_loadFiles,
    fun p name description => ⟨?_, fun fault => Profile.fault_shows⟩⟩
  have hplan : (∃ plan, p.plan description = .ok plan) ↔ p.cadence.fault? description = none :=
    Cadence.exists_plan
  rw [hplan]
  exact Profile.fault?_eq_none

theorem standard_usable :
    standard.fault? = none ∧ standard.Usable ∧
      (Profile.ofTimeout 5 0).fault? "slow" = some (.zeroTimeout "slow") ∧
      (Profile.ofTimeout 5 0).FaultShows "slow" "rollout" (.zeroTimeout "slow") := by
  obtain ⟨husable, -, -, hprofile⟩ := accepted_usable
  have hvalid : standard.fault? = none := by decide +kernel
  have hfault : (Profile.ofTimeout 5 0).fault? "slow" = some (.zeroTimeout "slow") := by decide
  exact ⟨hvalid, husable standard hvalid, hfault, (hprofile _ _ _).2 _ hfault⟩

end Settings
end Convergence
