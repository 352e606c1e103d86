import Convergence.Probe.Request
import Convergence.Proofs.Refusals
import Convergence.Proofs.Timeouts
import Mathlib.Data.List.Induction

/-! What is said last of a wait counts. A wait may be told its interval, its limit, and who
reaches it, in any order and again and again; its plan hangs on the last interval and the last
limit alone. A probe is a wait at the pace of a profile of which at most two things are said. -/
namespace Convergence

/-- The limit allows nothing. -/
def Limit.IsZero : Limit → Prop
  | attempts n => n = 0
  | within timeout => timeout.nanos = 0

theorem Cadence.refused_some (c : Cadence) {description : String} :
    (∃ error, c.plan description = .error error) ↔ c.interval.nanos = 0 ∨ c.limit.IsZero := by
  simp only [Cadence.refused_iff]
  constructor
  · rintro ⟨_, hi | ⟨-, hlimit⟩ | ⟨t, -, hlimit, ht⟩⟩
    · exact .inl hi
    · rw [hlimit]
      exact .inr rfl
    · rw [hlimit]
      exact .inr ht
  · intro h
    by_cases hi : c.interval.nanos = 0
    · exact ⟨_, .interval hi⟩
    have hzero := h.resolve_left hi
    cases hlimit : c.limit with
    | attempts n =>
      rw [hlimit] at hzero
      cases hzero
      exact ⟨_, .attempts hi hlimit⟩
    | within t =>
      rw [hlimit] at hzero
      exact ⟨_, .timeout t hi hlimit hzero⟩

namespace Waiter

variable {w : Waiter} {changes : List Change}

def Change.interval? : Change → Option Duration
  | pace (.interval d) => some d
  | _ => none

def Change.limit? : Change → Option Limit
  | pace (.attempts n) => some (.attempts n)
  | pace (.timeout d) => some (.within d)
  | _ => none

/-- The last interval that is said, or the one there was. -/
def lastInterval (changes : List Change) (d : Duration) : Duration :=
  (changes.filterMap Change.interval?).getLastD d

/-- The last number of attempts or timeout that is said, or the limit there was. -/
def lastLimit (changes : List Change) (l : Limit) : Limit :=
  (changes.filterMap Change.limit?).getLastD l

theorem changeAll_concat (w : Waiter) (changes : List Change) (change : Change) :
    w.changeAll (changes ++ [change]) = (w.changeAll changes).change change := by
  unfold changeAll
  rw [List.foldl_append]
  rfl

theorem lastInterval_concat (changes : List Change) (change : Change) (d : Duration) :
    lastInterval (changes ++ [change]) d = change.interval?.getD (lastInterval changes d) := by
  unfold lastInterval
  rw [List.filterMap_append]
  cases hlast : change.interval? <;> simp [hlast]

theorem lastLimit_concat (changes : List Change) (change : Change) (l : Limit) :
    lastLimit (changes ++ [change]) l = change.limit?.getD (lastLimit changes l) := by
  unfold lastLimit
  rw [List.filterMap_append]
  cases hlast : change.limit? <;> simp [hlast]

theorem change_spec (w : Waiter) (change : Change) :
    (w.change change).description = w.description ∧
      (w.change change).cadence =
        { interval := change.interval?.getD w.cadence.interval
          limit := change.limit?.getD w.cadence.limit } := by
  cases change with
  | pace c => cases c <;> exact ⟨rfl, rfl⟩
  | _ => exact ⟨rfl, rfl⟩

theorem changeAll_spec (w : Waiter) (changes : List Change) :
    (w.changeAll changes).description = w.description ∧
      (w.changeAll changes).cadence =
        { interval := lastInterval changes w.cadence.interval
          limit := lastLimit changes w.cadence.limit } := by
  induction changes using List.reverseRecOn with
  | nil => exact ⟨rfl, rfl⟩
  | append_singleton changes change ih =>
    obtain ⟨hdescription, hcadence⟩ := (w.changeAll changes).change_spec change
    rw [changeAll_concat, hdescription, hcadence, ih.1, ih.2, lastInterval_concat, lastLimit_concat]
    exact ⟨rfl, rfl⟩

theorem plan_changeAll (w : Waiter) (changes : List Change) :
    (w.changeAll changes).plan = Plan.ofLimit w.description
      (lastInterval changes w.cadence.interval) (lastLimit changes w.cadence.limit) := by
  obtain ⟨hdescription, hcadence⟩ := w.changeAll_spec changes
  unfold plan Cadence.plan
  rw [hdescription, hcadence]

/-- To be told a pace changes the pace alone. -/
theorem changeAll_pace (w : Waiter) (cs : List Cadence.Change) :
    w.changeAll (cs.map .pace) = { w with cadence := w.cadence.changeAll cs } := by
  induction cs generalizing w with
  | nil => rfl
  | cons c cs ih => exact ih (w.change (.pace c))

end Waiter

namespace ProbeRequest

variable {r : ProbeRequest} {ps : Profiles} {p : Profile}

/-- The seconds between two checks of the probe at the pace of the profile. -/
def secs (r : ProbeRequest) (p : Profile) : UInt64 := r.intervalSecs.getD p.intervalSecs

/-- The limit of the probe. Attempts that are asked for replace any limit of the profile. -/
def limit (r : ProbeRequest) (p : Profile) : Limit := (r.attempts.map .attempts).getD p.limit

theorem changes_interval (r : ProbeRequest) (p : Profile) :
    Waiter.lastInterval (r.changes.map .pace) p.interval = .ofSecs (r.secs p).toNat := by
  unfold changes secs
  cases r.intervalSecs <;> cases r.attempts <;> rfl

theorem changes_limit (r : ProbeRequest) (p : Profile) :
    Waiter.lastLimit (r.changes.map .pace) p.limit = r.limit p := by
  unfold changes limit
  cases r.intervalSecs <;> cases r.attempts <;> rfl

theorem waiter_of_get (hp : ps.get r.profile = .ok p) :
    ∃ w, r.waiter ps = .ok w ∧
      w.plan = Plan.ofLimit r.description (.ofSecs (r.secs p).toNat) (r.limit p) := by
  refine ⟨(Waiter.ofProfile r.description p .plain).changeAll (r.changes.map .pace), ?_, ?_⟩
  · unfold waiter
    rw [hp]
    rfl
  · rw [Waiter.plan_changeAll, ← changes_interval, ← changes_limit]
    rfl

theorem waiter_of_absent (h : ∀ p, (r.profile, p) ∉ ps.entries) :
    r.waiter ps = .error (.unknownProfile r.profile) := by
  have hnone : Entries.find? r.profile ps.entries = none :=
    Entries.find?_eq_none.mpr fun e he hname => h e.2 (hname ▸ he)
  unfold waiter Profiles.get
  rw [hnone]
  rfl

/-- The plan that a probe is carried out by is that of its wait. -/
theorem plan_of_waiter {w : Waiter} (hw : r.waiter ps = .ok w) : r.plan ps = w.plan := by
  unfold waiter at hw
  unfold plan cadence
  cases hp : ps.get r.profile with
  | error error =>
    rw [hp] at hw
    cases hw
  | ok p =>
    rw [hp] at hw
    cases hw
    let start := Waiter.ofProfile r.description p .plain
    exact congrArg Waiter.plan (start.changeAll_pace r.changes).symm

end ProbeRequest

/-- Whole seconds are divided as seconds. -/
theorem Plan.attemptsWithin_ofSecs (t i : Nat) :
    attemptsWithin (.ofSecs t) (.ofSecs i) = min (t / i + 1) 4294967295 := by
  rw [attemptsWithin_eq]
  unfold Duration.ofSecs
  rw [Nat.mul_div_mul_right t i (by decide)]

theorem Cadence.exists_plan_within {t i : UInt64} (ht : t ≠ 0) (hi : i ≠ 0) (description : String) :
    ∃ plan, Plan.ofLimit description (.ofSecs i.toNat) (.within (.ofSecs t.toNat)) = .ok plan ∧
      plan.interval = .ofSecs i.toNat ∧
      plan.maxAttempts = min (t.toNat / i.toNat + 1) 4294967295 := by
  let c : Cadence := { interval := .ofSecs i.toNat, limit := .within (.ofSecs t.toNat) }
  cases hplan : c.plan description with
  | error error =>
    rcases c.refused_some.mp ⟨error, hplan⟩ with hzero | hzero
    · exact absurd ((Profile.ofSecs_nanos_eq_zero i).mp hzero) hi
    · exact absurd ((Profile.ofSecs_nanos_eq_zero t).mp hzero) ht
  | ok plan =>
    obtain ⟨-, hinterval, hattempts⟩ := Cadence.plan_ok hplan
    refine ⟨plan, hplan, hinterval, hattempts.trans ?_⟩
    exact Plan.attemptsWithin_ofSecs t.toNat i.toNat

/-- A wait is planned by the last interval and the last limit that were said of it. So what is
asked of a probe comes before what its profile says: attempts replace any limit, and a timeout is
divided by the interval that is asked for. There is no plan if the interval that counts or the
limit that counts is zero, and no wait if there is no profile. -/
theorem last_word_counts :
    (∀ (w : Waiter) (changes : List Waiter.Change),
      (w.changeAll changes).description = w.description ∧
        (w.changeAll changes).plan = Plan.ofLimit w.description
          (Waiter.lastInterval changes w.cadence.interval)
          (Waiter.lastLimit changes w.cadence.limit)) ∧
    ∀ (r : ProbeRequest) (ps : Profiles),
      ((∀ p, (r.profile, p) ∉ ps.entries) →
        r.waiter ps = .error (.unknownProfile r.profile)) ∧
      ∀ p, ps.get r.profile = .ok p → ∃ w, r.waiter ps = .ok w ∧ r.plan ps = w.plan ∧
        (∀ n, r.attempts = some n →
          w.plan = Plan.ofAttempts r.description (.ofSecs (r.secs p).toNat) n) ∧
        (r.attempts = none →
          w.plan = Plan.ofLimit r.description (.ofSecs (r.secs p).toNat) p.limit) ∧
        (∀ t, r.attempts = none → p.maxAttempts = none → p.timeoutSecs = some t → t ≠ 0 →
          r.secs p ≠ 0 → ∃ plan, w.plan = .ok plan ∧
            plan.interval = .ofSecs (r.secs p).toNat ∧
            plan.maxAttempts = min (t.toNat / (r.secs p).toNat + 1) 4294967295) ∧
        ((∃ error, w.plan = .error error) ↔ r.secs p = 0 ∨ (r.limit p).IsZero) := by
  refine ⟨fun w changes => ⟨(w.changeAll_spec changes).1, w.plan_changeAll changes⟩, ?_⟩
  intro r ps
  refine ⟨ProbeRequest.waiter_of_absent, fun p hp => ?_⟩
  obtain ⟨w, hw, hplan⟩ := ProbeRequest.waiter_of_get hp
  refine ⟨w, hw, ProbeRequest.plan_of_waiter hw, ?attempts, ?profile, ?timeout, ?refused⟩
  case attempts =>
    intro n hn
    rw [hplan, ProbeRequest.limit, hn]
    rfl
  case profile =>
    intro hnone
    rw [hplan, ProbeRequest.limit, hnone]
    rfl
  case timeout =>
    intro t hnone hattempts htimeout ht hsecs
    have hlimit : r.limit p = .within (.ofSecs t.toNat) := by
      rw [ProbeRequest.limit, Profile.limit, hnone, hattempts, htimeout]
      rfl
    rw [hplan, hlimit]
    exact Cadence.exists_plan_within ht hsecs r.description
  case refused =>
    rw [hplan, ← Profile.ofSecs_nanos_eq_zero]
    let c : Cadence := { interval := .ofSecs (r.secs p).toNat, limit := r.limit p }
    exact c.refused_some

/-- Ten minutes have room for 86 checks every seven seconds. A profile without a limit will do
for a probe that brings its own. -/
theorem seven_seconds_fit_slow_probe :
    let ps : Profiles := .ofList
      [("bare", { intervalSecs := 5, maxAttempts := none, timeoutSecs := none }),
       ("slow", .ofTimeout 60 600)]
    let r (profile : String) (attempts : Option UInt32) : ProbeRequest :=
      { url := "http://a", token := none, profile, intervalSecs := some 7, attempts }
    let said : List Waiter.Change :=
      [.pace (.attempts 9), .cancellable, .pace (.interval (.ofSecs 2)), .observed,
       .pace (.timeout (.ofSecs 5))]
    ((Waiter.fresh "up").changeAll said).plan =
        Plan.ofLimit "up" (.ofSecs 2) (.within (.ofSecs 5)) ∧
      (∀ p, ("gone", p) ∉ ps.entries) ∧
      (r "gone" (some 3)).waiter ps = .error (.unknownProfile "gone") ∧
      (∃ w plan, (r "slow" none).waiter ps = .ok w ∧ w.plan = .ok plan ∧ plan.maxAttempts = 86) ∧
      (∃ w, (r "bare" (some 3)).waiter ps = .ok w ∧
        w.plan = Plan.ofAttempts "http://a to answer 200 OK" (.ofSecs 7) 3) ∧
      ∃ w error, (r "bare" none).waiter ps = .ok w ∧ w.plan = .error error := by
  intro ps r said
  obtain ⟨hsaid, hprobe⟩ := last_word_counts
  have hgone : ∀ p, ("gone", p) ∉ ps.entries := by
    intro p hmem
    have hnames := List.mem_map_of_mem (f := Prod.fst) hmem
    change "gone" ∈ ps.entries.map Prod.fst at hnames
    exact absurd hnames (by decide)
  obtain ⟨w, hw, -, -, -, hslow, -⟩ := (hprobe (r "slow" none) ps).2 (.ofTimeout 60 600) rfl
  obtain ⟨plan, hplan, -, hattempts⟩ := hslow 600 rfl rfl rfl (by decide) (by decide)
  obtain ⟨u, hu, -, hthree, -⟩ := (hprobe (r "bare" (some 3)) ps).2 _ rfl
  obtain ⟨v, hv, -, -, -, -, herror⟩ := (hprobe (r "bare" none) ps).2 _ rfl
  obtain ⟨error, hrefused⟩ := herror.mpr (.inr rfl)
  exact ⟨(hsaid (.fresh "up") said).2, hgone, (hprobe (r "gone" (some 3)) ps).1 hgone,
    ⟨w, plan, hw, hplan, hattempts.trans (by decide)⟩, ⟨u, hu, hthree 3 rfl⟩, v, error, hv,
    hrefused⟩

end Convergence
