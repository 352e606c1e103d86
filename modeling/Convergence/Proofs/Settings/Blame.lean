import Convergence.Listing
import Convergence.Proofs.Results
import Convergence.Proofs.Settings.Validity
import Convergence.Proofs.Text.Bytes
import Mathlib.Data.List.TakeWhile

/-! What a refusal points at. Settings are looked over section by section, and profiles in the
order of the bytes of their names, so the fault that is told is the first of all. The list of
the profiles goes the same way by other rules, which refuse less. Neither can tell in which
order profiles were put in, or what stood under a name before. -/
namespace Convergence

namespace Text

/-- Nothing is left of a text that is trimmed if all of it is blank. -/
theorem trimChars_eq_nil {chars : List Char} :
    trimChars chars = [] ↔ ∀ c ∈ chars, isBlank c = true := by
  unfold trimChars
  rw [List.reverse_eq_nil_iff, List.dropWhile_eq_nil_iff]
  simp only [List.mem_reverse]
  constructor
  · intro hrest
    -- What is left begins with no blank, so if it is blank it is nothing.
    apply List.dropWhile_eq_nil_iff.mp
    cases hleft : chars.dropWhile isBlank with
    | nil => rfl
    | cons c left =>
      have hsome : chars.dropWhile isBlank ≠ [] := by simp [hleft]
      have hfirst := List.head_dropWhile_not isBlank hsome
      simp [hrest _ (List.head_mem hsome)] at hfirst
  · intro hall c hc
    exact hall c ((List.dropWhile_sublist isBlank).mem hc)

end Text

namespace Entries

variable {α β : Type} {es : List (String × α)} {f : String × α → Option β} {b : β}

/-- A search through ordered entries finds what is under the least name that has anything. -/
theorem Ordered.findSome?_eq_some (h : Ordered es) :
    es.findSome? f = some b ↔
      ∃ name value, find? name es = some value ∧ f (name, value) = some b ∧
        ∀ name' value', find? name' es = some value' → (f (name', value')).isSome →
          Text.bytes name ≤ Text.bytes name' := by
  rw [List.findSome?_eq_some_iff]
  constructor
  · rintro ⟨before, ⟨name, value⟩, after, rfl, hfound, hnone⟩
    refine ⟨name, value, h.find?_of_mem (by simp), hfound, ?_⟩
    intro name' value' hfind hsome
    rcases List.mem_append.mp (mem_of_find? hfind) with hbefore | hrest
    · simp [hnone _ hbefore] at hsome
    · rcases List.mem_cons.mp hrest with hsame | hafter
      · cases hsame
        exact List.le_refl _
      · have hrest := (List.pairwise_append.mp h).2.1
        have hlater := (List.pairwise_cons.mp hrest).1 _ hafter
        exact List.le_of_lt (Text.before_iff_bytes.mp hlater)
  · rintro ⟨name, value, hfind, hfound, hleast⟩
    obtain ⟨before, after, rfl⟩ := List.append_of_mem (mem_of_find? hfind)
    refine ⟨before, (name, value), after, rfl, hfound, ?_⟩
    intro entry hentry
    rw [← Option.not_isSome_iff_eq_none]
    intro hsome
    have hearlier := (List.pairwise_append.mp h).2.2 entry hentry (name, value) (by simp)
    have hle := hleast entry.1 entry.2 (h.find?_of_mem (by simp [hentry])) hsome
    exact hle (Text.before_iff_bytes.mp hearlier)

end Entries

namespace Profile

variable {p : Profile} {name : String} {fault : SettingsError} {error : PlanError}

/-- The rule of the limits that a profile breaks, as it is told of the profile under `name`. -/
inductive Breaks (p : Profile) (name : String) : SettingsError → Prop
  | interval : p.intervalSecs = 0 → Breaks p name (.zeroInterval name)
  | limits : p.intervalSecs ≠ 0 → ¬p.SetsOneLimit → Breaks p name (.ambiguousLimit name)
  | attempts : p.intervalSecs ≠ 0 → p.maxAttempts = some 0 → p.timeoutSecs = none →
    Breaks p name (.zeroAttempts name)
  | timeout : p.intervalSecs ≠ 0 → p.maxAttempts = none → p.timeoutSecs = some 0 →
    Breaks p name (.zeroTimeout name)

/-- Why a profile has no plan. -/
def Unplanned (p : Profile) (name : String) (error : PlanError) : Prop :=
  p.plan name = .error error

theorem fault?_eq_some : p.fault? name = some fault ↔ p.Breaks name fault := by
  constructor
  · intro h
    unfold fault? at h
    split at h
    · cases h
      exact .interval ‹_›
    · rename_i hi
      cases hn : p.maxAttempts <;> cases ht : p.timeoutSecs <;> simp only [hn, ht] at h
      · cases h
        exact .limits hi (by simp [SetsOneLimit, hn, ht])
      · split at h <;> cases h
        exact .timeout hi hn (by simp [*])
      · split at h <;> cases h
        exact .attempts hi (by simp [*]) ht
      · cases h
        exact .limits hi (by simp [SetsOneLimit, hn, ht])
  · rintro (hi | ⟨hi, hlimits⟩ | ⟨hi, hn, ht⟩ | ⟨hi, hn, ht⟩)
    · simp [fault?, hi]
    · unfold SetsOneLimit at hlimits
      cases hn : p.maxAttempts <;> cases ht : p.timeoutSecs <;> simp [hn, ht] at hlimits <;>
        simp [fault?, hi, hn, ht]
    · simp [fault?, hi, hn, ht]
    · simp [fault?, hi, hn, ht]

theorem ofProfile_eq_error :
    ListedProfile.ofProfile name p = .error error ↔ p.Unplanned name error := by
  unfold ListedProfile.ofProfile Unplanned
  cases p.plan name <;> simp [bind, Except.bind, pure, Except.pure]

theorem unplanned_iff : p.cadence.fault? name = some error ↔ p.Unplanned name error :=
  Cadence.plan_error.symm

theorem exists_unplanned : (∃ error, p.Unplanned name error) ↔ ∀ plan, p.plan name ≠ .ok plan := by
  unfold Unplanned
  cases p.plan name <;> simp

/-- A profile that has no plan breaks a rule. -/
theorem Unplanned.breaks (h : p.Unplanned name error) : ∃ fault, p.Breaks name fault := by
  have hfault := unplanned_iff.mpr h
  cases hvalid : p.fault? name with
  | some fault => exact ⟨fault, fault?_eq_some.mp hvalid⟩
  | none => simp [(fault?_eq_none.mp hvalid).1] at hfault

end Profile

namespace Profiles

variable {β : Type} {ps : Profiles} {history other : List (String × Profile)}

/-- The first profile, by the bytes of the names, of which anything is told, and what it is. -/
structure FirstTold (ps : Profiles) (Tells : Profile → String → β → Prop) (name : String)
    (b : β) : Prop where
  told : ∃ p, ps.get name = .ok p ∧ Tells p name b
  first : ∀ name' p c, ps.get name' = .ok p → Tells p name' c → Text.bytes name ≤ Text.bytes name'

theorem findSome?_eq_some {f : String × Profile → Option β} {Tells : Profile → String → β → Prop}
    (hf : ∀ name p b, f (name, p) = some b ↔ Tells p name b) {b : β} :
    ps.entries.findSome? f = some b ↔ ∃ name, ps.FirstTold Tells name b := by
  rw [ps.ordered.findSome?_eq_some]
  simp only [Option.isSome_iff_exists, hf, ← get_eq_ok]
  constructor
  · rintro ⟨name, p, hp, hb, hfirst⟩
    exact ⟨name, ⟨p, hp, hb⟩, fun name' q c hq hc => hfirst name' q hq ⟨c, hc⟩⟩
  · rintro ⟨name, ⟨p, hp, hb⟩, hfirst⟩
    exact ⟨name, p, hp, hb, fun name' q hq ⟨c, hc⟩ => hfirst name' q c hq hc⟩

theorem exists_firstTold {f : String × Profile → Option β} {Tells : Profile → String → β → Prop}
    (hf : ∀ name p b, f (name, p) = some b ↔ Tells p name b) :
    (∃ name b, ps.FirstTold Tells name b) ↔ ∃ name p b, ps.get name = .ok p ∧ Tells p name b := by
  constructor
  · rintro ⟨name, b, ⟨p, hp, hb⟩, -⟩
    exact ⟨name, p, b, hp, hb⟩
  · rintro ⟨name, p, b, hp, hb⟩
    have hmem := Entries.mem_of_find? (get_eq_ok.mp hp)
    have hsome : (ps.entries.findSome? f).isSome :=
      List.findSome?_isSome_iff.mpr ⟨_, hmem, by simp [(hf name p b).mpr hb]⟩
    obtain ⟨first, hfirst⟩ := Option.isSome_iff_exists.mp hsome
    obtain ⟨least, htold⟩ := (findSome?_eq_some hf).mp hfirst
    exact ⟨least, first, htold⟩

theorem exists_first_broken :
    (∃ name fault, ps.FirstTold Profile.Breaks name fault) ↔
      ∃ name p fault, ps.get name = .ok p ∧ p.Breaks name fault :=
  exists_firstTold (f := fun e => e.2.fault? e.1) fun _ _ _ => Profile.fault?_eq_some

theorem exists_first_unplanned :
    (∃ name error, ps.FirstTold Profile.Unplanned name error) ↔
      ∃ name p error, ps.get name = .ok p ∧ p.Unplanned name error :=
  exists_firstTold (f := fun e => e.2.cadence.fault? e.1) fun _ _ _ => Profile.unplanned_iff

/-- What is refused in a list breaks a rule too, and something before it may do so. -/
theorem FirstTold.broken_before {name : String} {error : PlanError}
    (h : ps.FirstTold Profile.Unplanned name error) :
    ∃ least fault, ps.FirstTold Profile.Breaks least fault ∧
      Text.bytes least ≤ Text.bytes name := by
  obtain ⟨p, hp, hunplanned⟩ := h.told
  obtain ⟨broken, hbroken⟩ := hunplanned.breaks
  obtain ⟨least, fault, hfirst⟩ := exists_first_broken.mpr ⟨name, p, broken, hp, hbroken⟩
  exact ⟨least, fault, hfirst, hfirst.first name p broken hp hbroken⟩

/-- Profiles put in one after another. -/
def insertAll (ps : Profiles) (history : List (String × Profile)) : Profiles :=
  history.foldl (fun ps (name, p) => ps.insert name p) ps

/-- The last profile that was put under a name. -/
def lastPut (name : String) (history : List (String × Profile)) : Option Profile :=
  Entries.find? name history.reverse

theorem entries_insertAll (ps : Profiles) (history : List (String × Profile)) :
    (ps.insertAll history).entries =
      history.foldl (fun done e => Entries.insert e.1 e.2 done) ps.entries := by
  induction history generalizing ps with
  | nil => rfl
  | cons entry rest ih => exact ih (ps.insert entry.1 entry.2)

theorem eq_of_entries {ps qs : Profiles} (h : ps.entries = qs.entries) : ps = qs := by
  cases ps
  cases qs
  cases h
  rfl

/-- Only the last profile under each name makes a difference. -/
theorem insertAll_congr (h : ∀ name, lastPut name history = lastPut name other) :
    ps.insertAll history = ps.insertAll other := by
  have hfind : ∀ name, Entries.find? name (ps.insertAll history).entries =
      Entries.find? name (ps.insertAll other).entries := by
    intro name
    rw [entries_insertAll, entries_insertAll, Entries.find?_insertAll, Entries.find?_insertAll]
    exact congrArg (Option.or · _) (h name)
  exact eq_of_entries ((ps.insertAll history).ordered.ext (ps.insertAll other).ordered hfind)

end Profiles

namespace Listing

variable {es : List (String × Profile)} {error : PlanError} {s : Settings}

theorem ofEntries_cons_eq_error {name : String} {p : Profile} {rest : List (String × Profile)} :
    ofEntries ((name, p) :: rest) = .error error ↔
      p.Unplanned name error ∨
        (∀ first, ¬p.Unplanned name first) ∧ ofEntries rest = .error error := by
  simp only [← Profile.ofProfile_eq_error, ofEntries]
  cases ListedProfile.ofProfile name p with
  | error first => simp [bind, Except.bind]
  | ok row => cases ofEntries rest <;> simp [bind, Except.bind, pure, Except.pure]

theorem ofEntries_nil_eq_error : ofEntries [] ≠ .error error := by
  simp [ofEntries]

theorem ofEntries_eq_error {f : String × Profile → Option PlanError}
    (hf : ∀ name p e, f (name, p) = some e ↔ p.Unplanned name e) :
    ofEntries es = .error error ↔ es.findSome? f = some error := by
  induction es with
  | nil => simp [ofEntries_nil_eq_error]
  | cons entry rest ih =>
    obtain ⟨name, p⟩ := entry
    simp only [ofEntries_cons_eq_error, ih, List.findSome?_cons, ← hf]
    cases f (name, p) <;> simp

theorem ofSettings_eq_error :
    ofSettings s = .error error ↔ ∃ name, s.profiles.FirstTold Profile.Unplanned name error := by
  rw [← Profiles.findSome?_eq_some (f := fun e => e.2.cadence.fault? e.1)
    fun _ _ _ => Profile.unplanned_iff]
  rw [← ofEntries_eq_error fun _ _ _ => Profile.unplanned_iff]
  unfold ofSettings
  cases ofEntries s.profiles.entries <;> simp [Except.map]

end Listing

namespace Settings

variable {s : Settings} {fault : SettingsError}

/-- The namespace has no character that is not white space. -/
def Blank (s : Settings) : Prop := ∀ c ∈ s.space.toList, Text.isBlank c = true

/-- The first fault of the settings: of the namespace, then of the level, then of the
profiles. -/
inductive Blamed (s : Settings) : SettingsError → Prop
  | space : s.Blank → Blamed s .emptyNamespace
  | level : ¬s.Blank → Level.ofName? s.logging.level = none →
    Blamed s (.invalidLevel s.logging.level)
  | profile {name : String} {fault : SettingsError} : ¬s.Blank →
    Level.ofName? s.logging.level ≠ none → s.profiles.FirstTold Profile.Breaks name fault →
    Blamed s fault

/-- The settings with more profiles put in, one after another. -/
def putAll (s : Settings) (history : List (String × Profile)) : Settings :=
  { s with profiles := s.profiles.insertAll history }

theorem validated_eq_error : s.validated = .error fault ↔ s.fault? = some fault := by
  unfold validated
  cases s.fault? <;> simp

theorem trim_isEmpty_iff : (Text.trimChars s.space.toList).isEmpty = true ↔ s.Blank :=
  List.isEmpty_iff.trans Text.trimChars_eq_nil

theorem fault?_eq_some : s.fault? = some fault ↔ s.Blamed fault := by
  unfold fault?
  by_cases hspace : s.Blank
  · rw [if_pos (trim_isEmpty_iff.mpr hspace), Option.some.injEq]
    constructor
    · rintro rfl
      exact .space hspace
    · rintro (_ | ⟨hkept, -⟩ | ⟨hkept, -, -⟩)
      · rfl
      · exact absurd hspace hkept
      · exact absurd hspace hkept
  · rw [if_neg (mt trim_isEmpty_iff.mp hspace)]
    cases hlevel : Level.ofName? s.logging.level with
    | none =>
      simp only [Option.isNone_none, if_true, Option.some.injEq]
      constructor
      · rintro rfl
        exact .level hspace hlevel
      · rintro (hblank | - | ⟨-, hknown, -⟩)
        · exact absurd hblank hspace
        · rfl
        · exact absurd hlevel hknown
    | some level =>
      have hknown : Level.ofName? s.logging.level ≠ none := by simp [hlevel]
      rw [if_neg (by simp), Profiles.findSome?_eq_some fun _ _ _ => Profile.fault?_eq_some]
      constructor
      · rintro ⟨name, hfirst⟩
        exact .profile hspace hknown hfirst
      · rintro (hblank | ⟨-, hnone⟩ | ⟨-, -, hfirst⟩)
        · exact absurd hblank hspace
        · exact absurd hnone hknown
        · exact ⟨_, hfirst⟩

theorem exists_blamed :
    (∃ fault, s.Blamed fault) ↔ s.Blank ∨ Level.ofName? s.logging.level = none ∨
      ∃ name p fault, s.profiles.get name = .ok p ∧ p.Breaks name fault := by
  rw [← Profiles.exists_first_broken]
  constructor
  · rintro ⟨_, hblank | ⟨-, hnone⟩ | ⟨-, -, hfirst⟩⟩
    · exact .inl hblank
    · exact .inr (.inl hnone)
    · exact .inr (.inr ⟨_, _, hfirst⟩)
  · intro h
    by_cases hspace : s.Blank
    · exact ⟨_, .space hspace⟩
    by_cases hlevel : Level.ofName? s.logging.level = none
    · exact ⟨_, .level hspace hlevel⟩
    obtain ⟨name, fault, hfirst⟩ := (h.resolve_left hspace).resolve_left hlevel
    exact ⟨fault, .profile hspace hlevel hfirst⟩

/-- Settings are refused for the first of their faults, and the list of their profiles for the
first profile without a plan, which is never before the one that the settings are refused for.
The order in which profiles were put in makes no difference, and neither does what was put
under a name before. -/
theorem refusals_point_at_the_first (s : Settings) :
    (∀ fault, s.validated = .error fault ↔ s.Blamed fault) ∧
      ((∃ fault, s.validated = .error fault) ↔
        s.Blank ∨ Level.ofName? s.logging.level = none ∨
          ∃ name p fault, s.profiles.get name = .ok p ∧ p.Breaks name fault) ∧
      (∀ error, Listing.ofSettings s = .error error ↔
        ∃ name, s.profiles.FirstTold Profile.Unplanned name error) ∧
      ((∃ error, Listing.ofSettings s = .error error) ↔
        ∃ name p, s.profiles.get name = .ok p ∧ ∀ plan, p.plan name ≠ .ok plan) ∧
      (∀ name error, s.profiles.FirstTold Profile.Unplanned name error → ¬s.Blank →
        Level.ofName? s.logging.level ≠ none →
          ∃ least fault, s.validated = .error fault ∧
            s.profiles.FirstTold Profile.Breaks least fault ∧
              Text.bytes least ≤ Text.bytes name) ∧
      ∀ history other, (∀ name, Profiles.lastPut name history = Profiles.lastPut name other) →
        (∀ fault, (s.putAll history).validated = .error fault ↔
          (s.putAll other).validated = .error fault) ∧
        Listing.ofSettings (s.putAll history) = Listing.ofSettings (s.putAll other) := by
  have hvalidated : ∀ fault, s.validated = .error fault ↔ s.Blamed fault :=
    fun _ => validated_eq_error.trans fault?_eq_some
  refine ⟨hvalidated, ?refused, fun _ => Listing.ofSettings_eq_error, ?unlisted, ?before, ?history⟩
  case refused =>
    simp only [hvalidated]
    exact exists_blamed
  case unlisted =>
    simp only [Listing.ofSettings_eq_error]
    rw [exists_comm, Profiles.exists_first_unplanned]
    simp only [exists_and_left, Profile.exists_unplanned]
  case before =>
    intro name error hfirst hspace hlevel
    obtain ⟨least, fault, hbroken, hle⟩ := hfirst.broken_before
    exact ⟨least, fault, (hvalidated fault).mpr (.profile hspace hlevel hbroken), hbroken, hle⟩
  case history =>
    intro history other hlast
    have hsame : s.putAll history = s.putAll other := by
      unfold putAll
      rw [Profiles.insertAll_congr hlast]
    rw [hsame]
    exact ⟨fun _ => Iff.rfl, rfl⟩

/-- The list stops at a profile without an interval. The settings are refused for the one
before it, which sets two limits and which the list would let pass. -/
theorem both_limits_are_blamed_before_brisk :
    let both : Profile := { intervalSecs := 5, maxAttempts := some 3, timeoutSecs := some 60 }
    let brisk := Profile.ofAttempts 0 5
    let history := [("slow", .ofAttempts 60 0), ("brisk", brisk), ("slow", .ofAttempts 60 2),
      ("both", both)]
    let other := [("both", both), ("slow", .ofAttempts 60 2), ("brisk", .ofTimeout 1 1),
      ("brisk", brisk)]
    let s := standard.putAll history
    Listing.ofSettings s = .error (.zeroInterval "brisk") ∧
      (∃ name least, s.profiles.FirstTold Profile.Unplanned name (.zeroInterval "brisk") ∧
        s.profiles.FirstTold Profile.Breaks least (.ambiguousLimit "both") ∧
          Text.bytes least ≤ Text.bytes name) ∧
      s.validated = .error (.ambiguousLimit "both") ∧
      (standard.putAll other).validated = .error (.ambiguousLimit "both") := by
  intro both brisk history other s
  obtain ⟨-, -, hlisted, -, hbefore, -⟩ := refusals_point_at_the_first s
  have hfault : s.validated = .error (.ambiguousLimit "both") :=
    validated_eq_error.mpr (by decide)
  have hspace : ¬s.Blank := by
    rw [← trim_isEmpty_iff]
    decide
  have hlevel : Level.ofName? s.logging.level ≠ none := by decide
  have hlast : ∀ name, Profiles.lastPut name history = Profiles.lastPut name other := by
    intro name
    simp only [Profiles.lastPut, history, other, List.reverse_cons, List.reverse_nil,
      List.nil_append, List.cons_append, Entries.find?]
    split_ifs <;> simp_all
  have hfound : s.profiles.entries.findSome? (fun e => e.2.cadence.fault? e.1) =
      some (.zeroInterval "brisk") := by decide
  obtain ⟨name, hfirst⟩ :=
    (Profiles.findSome?_eq_some fun _ _ _ => Profile.unplanned_iff).mp hfound
  obtain ⟨least, fault, hfault', hbroken, hle⟩ := hbefore name _ hfirst hspace hlevel
  cases hfault.symm.trans hfault'
  have hhistory := (refusals_point_at_the_first standard).2.2.2.2.2 history other hlast
  exact ⟨(hlisted _).mpr ⟨name, hfirst⟩, ⟨name, least, hfirst, hbroken, hle⟩, hfault,
    (hhistory.1 _).mp hfault⟩

end Settings

end Convergence
