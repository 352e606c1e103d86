import Convergence.Proofs.Entries
import Convergence.Proofs.Plans
import Convergence.Settings.Validity

/-! The faults that are looked for in settings, next to the plans that come of their
profiles. A profile is checked by rules of its own, which are stricter than those of the
plans in one point: it must not set two limits. -/
namespace Convergence

namespace Profiles

theorem get_eq_ok {ps : Profiles} {name : String} {p : Profile} :
    ps.get name = .ok p ↔ Entries.find? name ps.entries = some p := by
  unfold get
  cases Entries.find? name ps.entries <;> simp

end Profiles

namespace Profile

variable {p : Profile} {name description : String}

/-- The profile sets one limit and no other. -/
def SetsOneLimit (p : Profile) : Prop := p.maxAttempts.isSome ≠ p.timeoutSecs.isSome

/-- How a fault of a profile shows when the profile is used all the same. Of a profile
with two limits the attempts count. -/
inductive FaultShows (p : Profile) (name description : String) : SettingsError → Prop
  | interval : p.plan description = .error (.zeroInterval description) →
    FaultShows p name description (.zeroInterval name)
  | attempts : p.plan description = .error (.zeroAttempts description) →
    FaultShows p name description (.zeroAttempts name)
  | timeout : p.plan description = .error (.zeroTimeout description) →
    FaultShows p name description (.zeroTimeout name)
  | unlimited : p.maxAttempts = none → p.timeoutSecs = none →
    p.plan description = .error (.zeroAttempts description) →
    FaultShows p name description (.ambiguousLimit name)
  | overlimited (n : UInt32) : p.maxAttempts = some n → p.timeoutSecs.isSome →
    p.plan description = (ofAttempts p.intervalSecs n).plan description →
    FaultShows p name description (.ambiguousLimit name)

theorem ofSecs_nanos_eq_zero (n : UInt64) : (Duration.ofSecs n.toNat).nanos = 0 ↔ n = 0 := by
  unfold Duration.ofSecs
  rw [← UInt64.toNat_inj]
  change n.toNat * 1000000000 = 0 ↔ n.toNat = 0
  omega

theorem cadence_fault? (p : Profile) (description : String) :
    p.cadence.fault? description =
      if p.intervalSecs = 0 then some (.zeroInterval description)
      else
        match p.maxAttempts, p.timeoutSecs with
        | some n, _ => if n = 0 then some (.zeroAttempts description) else none
        | none, some t => if t = 0 then some (.zeroTimeout description) else none
        | none, none => some (.zeroAttempts description) := by
  have hattempts : ∀ n : UInt32, n.toNat = 0 ↔ n = 0 := fun n => by
    rw [← UInt32.toNat_inj]
    rfl
  unfold Cadence.fault? cadence interval limit
  dsimp only
  simp only [ofSecs_nanos_eq_zero]
  cases p.maxAttempts <;> cases p.timeoutSecs <;> simp [hattempts, ofSecs_nanos_eq_zero]

theorem fault?_eq_none :
    p.fault? name = none ↔ p.cadence.fault? description = none ∧ p.SetsOneLimit := by
  rw [cadence_fault?]
  unfold fault? SetsOneLimit
  by_cases hi : p.intervalSecs = 0
  · simp [hi]
  · cases p.maxAttempts <;> cases p.timeoutSecs <;> simp [hi]

theorem fault_shows {fault : SettingsError} (h : p.fault? name = some fault) :
    p.FaultShows name description fault := by
  have hplan : ∀ error, p.plan description = .error error ↔
      p.cadence.fault? description = some error := fun _ => Cadence.plan_error
  rw [cadence_fault?] at hplan
  unfold fault? at h
  by_cases hi : p.intervalSecs = 0
  · rw [if_pos hi] at h hplan
    cases h
    exact .interval ((hplan _).mpr rfl)
  · rw [if_neg hi] at h hplan
    cases hattempts : p.maxAttempts with
    | some n =>
      rw [hattempts] at h hplan
      cases htimeout : p.timeoutSecs with
      | some t =>
        rw [htimeout] at h
        cases h
        refine .overlimited n hattempts (by rw [htimeout]; rfl) ?_
        unfold Profile.plan cadence limit
        rw [hattempts]
        rfl
      | none =>
        rw [htimeout] at h hplan
        dsimp only at h hplan
        split at h
        · rename_i hn
          cases h
          exact .attempts ((hplan _).mpr (if_pos hn))
        · cases h
    | none =>
      rw [hattempts] at h hplan
      cases htimeout : p.timeoutSecs with
      | some t =>
        rw [htimeout] at h hplan
        dsimp only at h hplan
        split at h
        · rename_i ht
          cases h
          exact .timeout ((hplan _).mpr (if_pos ht))
        · cases h
      | none =>
        rw [htimeout] at h hplan
        cases h
        exact .unlimited hattempts htimeout ((hplan _).mpr rfl)

end Profile

namespace Settings

theorem fault?_eq_none {s : Settings} :
    s.fault? = none ↔ (Text.trimChars s.space.toList).isEmpty = false ∧
      (∃ level, Level.ofName? s.logging.level = some level) ∧
      ∀ name p, (name, p) ∈ s.profiles.entries → p.fault? name = none := by
  unfold fault?
  rw [← Option.isSome_iff_exists]
  cases (Text.trimChars s.space.toList).isEmpty with
  | true => simp
  | false =>
    cases Level.ofName? s.logging.level with
    | none => simp
    | some level => simp [List.findSome?_eq_none_iff]

theorem fault?_of_get {s : Settings} {name : String} {p : Profile} (h : s.fault? = none)
    (hp : s.profiles.get name = .ok p) : p.fault? name = none :=
  (fault?_eq_none.mp h).2.2 name p (Entries.mem_of_find? (Profiles.get_eq_ok.mp hp))

end Settings
end Convergence
