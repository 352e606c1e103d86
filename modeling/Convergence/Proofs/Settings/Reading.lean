import Convergence.Proofs.Layer.Merge
import Convergence.Proofs.Results
import Convergence.Proofs.Settings.Validity
import Convergence.Settings.Decoding

/-! Settings as they are read from values. A profile that is written out is read as it
was, and one written over another keeps of that other what it leaves out. One profile
more in a value is one profile more in the settings that are read from it. -/
namespace Convergence

open Decode

namespace Decode

variable {α R : Type} {r : Reader α} {es : List (String × Value)} {qs : List (String × α)}

theorem entries_cons {name : String} {v : Value} :
    entries r ((name, v) :: es) = .ok qs ↔
      ∃ a rest, r v = .ok a ∧ entries r es = .ok rest ∧ qs = (name, a) :: rest := by
  have hunder : ∀ a, under name (r v) = .ok a ↔ r v = .ok a := by
    cases r v <;> simp [under]
  rw [entries]
  simp only [bind_eq_ok, hunder]
  constructor
  · rintro ⟨a, ha, rest, hrest, h⟩
    exact ⟨a, rest, ha, hrest, (Except.ok.inj h).symm⟩
  · rintro ⟨a, rest, ha, hrest, rfl⟩
    exact ⟨a, ha, rest, hrest, rfl⟩

theorem entries_insert {name : String} {v : Value} {a : α} (hes : entries r es = .ok qs)
    (hv : r v = .ok a) :
    entries r (Entries.insert name v es) = .ok (Entries.insert name a qs) := by
  induction es generalizing qs with
  | nil =>
    cases hes
    exact entries_cons.mpr ⟨a, [], hv, rfl, rfl⟩
  | cons entry rest ih =>
    obtain ⟨key, w⟩ := entry
    obtain ⟨b, others, hw, hothers, rfl⟩ := entries_cons.mp hes
    unfold Entries.insert
    split
    · exact entries_cons.mpr ⟨a, others, hv, hothers, rfl⟩
    · split
      · exact entries_cons.mpr ⟨a, (key, b) :: others, hv, hes, rfl⟩
      · exact entries_cons.mpr ⟨b, _, hw, ih hothers, rfl⟩

theorem entries_find? (hes : entries r es = .ok qs) (name : String) :
    (Entries.find? name es).map r = (Entries.find? name qs).map .ok := by
  induction es generalizing qs with
  | nil =>
    cases hes
    rfl
  | cons entry rest ih =>
    obtain ⟨key, w⟩ := entry
    obtain ⟨b, others, hw, hothers, rfl⟩ := entries_cons.mp hes
    unfold Entries.find?
    split
    · exact congrArg some hw
    · exact ih hothers

theorem entries_names (hes : entries r es = .ok qs) : qs.map (·.1) = es.map (·.1) := by
  induction es generalizing qs with
  | nil =>
    cases hes
    rfl
  | cons entry rest ih =>
    obtain ⟨b, others, -, hothers, rfl⟩ := entries_cons.mp hes
    rw [List.map_cons, List.map_cons, ih hothers]

theorem entries_ordered (hes : entries r es = .ok qs) (h : Entries.Ordered es) :
    Entries.Ordered qs := by
  have hnames : (es.map (·.1)).Pairwise fun a b => Text.before a b = true :=
    List.pairwise_map.mpr h
  rw [← entries_names hes] at hnames
  exact List.pairwise_map.mp hnames

/-- What one entry does to the draft of a record. -/
def putEntry (slots : List (Slot R)) (name : String) (v : Value) (draft : R) : Except Fault R :=
  match slots.find? (·.name == name) with
  | none => .ok draft
  | some slot => under name (slot.put v draft)

theorem putEntries_nil (slots : List (Slot R)) (draft : R) : putEntries slots [] draft = .ok draft :=
  rfl

theorem putEntries_cons (slots : List (Slot R)) (name : String) (v : Value)
    (es : List (String × Value)) (draft : R) :
    putEntries slots ((name, v) :: es) draft =
      putEntry slots name v draft >>= putEntries slots es := by
  unfold putEntry
  rw [putEntries]
  cases slots.find? (·.name == name) <;> rfl

end Decode

namespace Profile

theorem below_unsigned {n bound : Nat} (h : n < bound) (expected : String) :
    below bound expected (.unsigned n) = .ok n :=
  if_pos h

theorem uint32_unsigned (n : UInt32) : uint32 (.unsigned n.toNat) = .ok n := by
  unfold uint32
  rw [below_unsigned n.toNat_lt]
  exact congrArg Except.ok UInt32.ofNat_toNat

theorem uint64_unsigned (n : UInt64) : uint64 (.unsigned n.toNat) = .ok n := by
  unfold uint64
  rw [below_unsigned n.toNat_lt]
  exact congrArg Except.ok UInt64.ofNat_toNat

/-- The entries of a profile that is written out. -/
def written (p : Profile) : List (String × Value) :=
  ("interval_secs", .unsigned p.intervalSecs.toNat) ::
    (p.maxAttempts.toList.map fun n => ("max_attempts", Value.unsigned n.toNat)) ++
    (p.timeoutSecs.toList.map fun t => ("timeout_secs", Value.unsigned t.toNat))

theorem ordered_written (p : Profile) : Entries.Ordered p.written := by
  have hmax : Text.before "interval_secs" "max_attempts" = true := by decide
  have htimeout : Text.before "interval_secs" "timeout_secs" = true := by decide
  have hlimits : Text.before "max_attempts" "timeout_secs" = true := by decide
  unfold Entries.Ordered written
  cases p.maxAttempts <;> cases p.timeoutSecs <;> simp [hmax, htimeout, hlimits]

theorem toValue_eq (p : Profile) : p.toValue = .record p.written :=
  congrArg Value.record (Entries.ofList_eq_self p.ordered_written)

theorem find?_written (p : Profile) (name : String) :
    Entries.find? name p.written =
      if name = "interval_secs" then some (.unsigned p.intervalSecs.toNat)
      else if name = "max_attempts" then p.maxAttempts.map fun n => .unsigned n.toNat
      else if name = "timeout_secs" then p.timeoutSecs.map fun t => .unsigned t.toNat
      else none := by
  unfold written
  cases p.maxAttempts <;> cases p.timeoutSecs <;> grind [Entries.find?]

/-- A profile written over another keeps the limits that it does not set. -/
def onto (p q : Profile) : Profile :=
  { intervalSecs := p.intervalSecs
    maxAttempts := p.maxAttempts.or q.maxAttempts
    timeoutSecs := p.timeoutSecs.or q.timeoutSecs }

theorem merge_toValue (q p : Profile) : Layer.merge q.toValue p.toValue = (p.onto q).toValue := by
  rw [toValue_eq, toValue_eq, toValue_eq, Layer.merge_record]
  refine congrArg Value.record ?_
  refine (Layer.ordered_mergeEntries q.ordered_written).ext (p.onto q).ordered_written fun name => ?_
  rw [Layer.find?_mergeEntries, p.ordered_written.named, find?_written, find?_written,
    find?_written]
  have hplain : ∀ (old : Value) (n : Nat), Layer.merge old (.unsigned n) = .unsigned n := by
    intro old n
    cases old <;> rfl
  unfold onto Layer.overlay
  split
  · simp [hplain]
  · split
    · cases p.maxAttempts <;> cases q.maxAttempts <;> simp [hplain]
    · split
      · cases p.timeoutSecs <;> cases q.timeoutSecs <;> simp [hplain]
      · rfl

theorem putEntry_interval (n : UInt64) (p : Profile) :
    putEntry slots "interval_secs" (.unsigned n.toNat) p = .ok { p with intervalSecs := n } := by
  unfold putEntry slots
  simp [uint64_unsigned, Except.map, under]

theorem putEntry_attempts (n : UInt32) (p : Profile) :
    putEntry slots "max_attempts" (.unsigned n.toNat) p =
      .ok { p with maxAttempts := some n } := by
  unfold putEntry slots
  simp [option, uint32_unsigned, Except.map, under]

theorem putEntry_timeout (t : UInt64) (p : Profile) :
    putEntry slots "timeout_secs" (.unsigned t.toNat) p =
      .ok { p with timeoutSecs := some t } := by
  unfold putEntry slots
  simp [option, uint64_unsigned, Except.map, under]

/-- A profile written out is read as it was. -/
theorem ofValue_toValue (d : Dialect) (p : Profile) : ofValue d p.toValue = .ok p := by
  have hput : ∀ start, putEntries slots p.written start = .ok (p.onto start) := by
    intro start
    unfold written onto
    cases p.maxAttempts <;> cases p.timeoutSecs <;>
      simp [putEntries_cons, putEntries_nil, putEntry_interval, putEntry_attempts,
        putEntry_timeout, bind, Except.bind]
  have hmissing : missing? slots p.written = none := by
    unfold missing? slots written
    simp
  have honto : p.onto { intervalSecs := 0, maxAttempts := none, timeoutSecs := none } = p := by
    unfold onto
    rw [Option.or_none, Option.or_none]
  rw [toValue_eq]
  unfold ofValue record
  dsimp only
  rw [hput, hmissing, honto]
  rfl

end Profile

namespace Profiles

theorem ofValue_record (d : Dialect) (es : List (String × Value)) :
    ofValue d (.record es) = (Decode.entries (Profile.ofValue d) es).map ofList := rfl

/-- One profile more among the entries is one more among the profiles. -/
theorem ofValue_insert {d : Dialect} {es : List (String × Value)} {ps : Profiles} {name : String}
    {v : Value} {p : Profile} (hordered : Entries.Ordered es) (hes : ofValue d (.record es) = .ok ps)
    (hv : Profile.ofValue d v = .ok p) :
    ofValue d (.record (Entries.insert name v es)) = .ok (ps.insert name p) := by
  rw [ofValue_record] at hes ⊢
  obtain ⟨qs, hread, rfl⟩ := map_eq_ok.mp hes
  have hqs := entries_ordered hread hordered
  rw [entries_insert hread hv]
  unfold Except.map ofList insert
  simp only [Entries.ofList_eq_self hqs, Entries.ofList_eq_self (hqs.insert name p)]

/-- The profiles that are read are those that stand there. -/
theorem ofValue_find? {d : Dialect} {es : List (String × Value)} {ps : Profiles}
    (hnodup : (es.map (·.1)).Nodup) (hes : ofValue d (.record es) = .ok ps) (name : String) :
    (Entries.find? name es).map (Profile.ofValue d) =
      (Entries.find? name ps.entries).map .ok := by
  rw [ofValue_record] at hes
  obtain ⟨qs, hread, rfl⟩ := map_eq_ok.mp hes
  have hsame : Entries.find? name (ofList qs).entries = Entries.find? name qs :=
    Entries.find?_ofList ((entries_names hread).symm ▸ hnodup) name
  rw [hsame]
  exact entries_find? hread name

end Profiles

namespace Settings

variable {d : Dialect} {es : List (String × Value)} {s t : Settings} {ps : Profiles}

def withProfiles (s : Settings) (ps : Profiles) : Settings := { s with profiles := ps }

theorem ofValue_record (d : Dialect) (es : List (String × Value)) :
    ofValue d (.record es) = putEntries (slots d) es standard := by
  have hmissing : missing? (slots d) es = none := by
    unfold missing? slots
    simp
  unfold ofValue record
  dsimp only
  rw [hmissing]
  cases putEntries (slots d) es standard <;> rfl

theorem putEntry_profiles (v : Value) (s : Settings) :
    putEntry (slots d) "profiles" v s =
      under "profiles" ((Profiles.ofValue d v).map s.withProfiles) := by
  unfold putEntry slots
  simp
  rfl

/-- The other entries neither look at the profiles nor change them. -/
theorem putEntry_withProfiles {name : String} (h : name ≠ "profiles") (v : Value) (s : Settings)
    (ps : Profiles) :
    putEntry (slots d) name v (s.withProfiles ps) =
      (putEntry (slots d) name v s).map (withProfiles · ps) := by
  unfold putEntry slots
  by_cases hspace : name = "namespace"
  · subst hspace
    simp
    cases string v <;> rfl
  · by_cases hlogging : name = "logging"
    · subst hlogging
      simp
      cases LogSettings.ofValue d v <;> rfl
    · simp [Ne.symm hspace, Ne.symm hlogging, Ne.symm h, Except.map]

theorem putEntries_withProfiles (h : Entries.find? "profiles" es = none) (s : Settings)
    (ps : Profiles) :
    putEntries (slots d) es (s.withProfiles ps) =
      (putEntries (slots d) es s).map (withProfiles · ps) := by
  induction es generalizing s with
  | nil => rfl
  | cons entry rest ih =>
    obtain ⟨name, v⟩ := entry
    have habsent := Entries.find?_eq_none.mp h
    have hname := habsent (name, v) List.mem_cons_self
    have hrest := Entries.find?_eq_none.mpr fun e he => habsent e (List.mem_cons_of_mem _ he)
    rw [putEntries_cons, putEntries_cons, putEntry_withProfiles hname]
    cases putEntry (slots d) name v s with
    | error fault => rfl
    | ok t => exact ih hrest t

/-- What stands under the profiles is read as the profiles, and something else in its
place would be read as well. -/
theorem putEntries_insert {v : Value} (hordered : Entries.Ordered es)
    (hfound : Entries.find? "profiles" es = some v) (hs : putEntries (slots d) es s = .ok t) :
    Profiles.ofValue d v = .ok t.profiles ∧
      ∀ w ps, Profiles.ofValue d w = .ok ps →
        putEntries (slots d) (Entries.insert "profiles" w es) s = .ok (t.withProfiles ps) := by
  induction es generalizing s with
  | nil => cases hfound
  | cons entry rest ih =>
    obtain ⟨name, u⟩ := entry
    rw [putEntries_cons] at hs
    unfold Entries.find? at hfound
    by_cases hname : "profiles" = name
    · rw [if_pos hname] at hfound
      cases hfound
      subst hname
      have habsent := Entries.Ordered.find?_tail hordered
      obtain ⟨draft, hdraft, hs⟩ := bind_eq_ok.mp hs
      rw [putEntry_profiles] at hdraft
      cases hread : Profiles.ofValue d v with
      | error fault =>
        rw [hread] at hdraft
        cases hdraft
      | ok old =>
        rw [hread] at hdraft
        cases hdraft
        rw [putEntries_withProfiles habsent] at hs
        obtain ⟨others, hothers, rfl⟩ := map_eq_ok.mp hs
        refine ⟨rfl, fun w ps hw => ?_⟩
        unfold Entries.insert
        rw [if_pos rfl, putEntries_cons, putEntry_profiles, hw]
        change putEntries (slots d) rest (s.withProfiles ps) = _
        rw [putEntries_withProfiles habsent, hothers]
        rfl
    · rw [if_neg hname] at hfound
      obtain ⟨draft, hdraft, hs⟩ := bind_eq_ok.mp hs
      obtain ⟨hread, hwrite⟩ := ih hordered.tail hfound hs
      refine ⟨hread, fun w ps hw => ?_⟩
      rw [Entries.Ordered.insert_tail hordered hfound, putEntries_cons, hdraft]
      exact hwrite w ps hw

end Settings
end Convergence
