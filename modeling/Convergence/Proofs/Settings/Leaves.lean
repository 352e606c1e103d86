import Convergence.Proofs.Layer.Paths
import Convergence.Proofs.Settings.Reading

/-! The single things that can be set, each at its path. A field of a record is read from
what stands under its name, whatever the entries beside it are, so each of these things is
what stands at its path, read by itself. -/
namespace Convergence

open Decode

namespace Decode

variable {R α β : Type} {slots : List (Slot R)} {name : String} {r : Reader β} {get : R → β}
  {es : List (String × Value)} {start draft : R}

/-- What stands under `name`, and nothing else, decides what `get` shows of a record. -/
structure Owns (slots : List (Slot R)) (name : String) (r : Reader β) (get : R → β) : Prop where
  own : ∀ slot, slots.find? (·.name == name) = some slot →
    ∀ v p q, slot.put v p = .ok q → r v = .ok (get q)
  known : (slots.find? (·.name == name)).isSome
  others : ∀ slot ∈ slots, slot.name ≠ name → ∀ v p q, slot.put v p = .ok q → get q = get p

theorem under_eq_ok {x : Except Fault α} {a : α} : under name x = .ok a ↔ x = .ok a := by
  cases x <;> simp [under]

theorem Owns.putEntry_self (h : Owns slots name r get) {v : Value}
    (hput : putEntry slots name v start = .ok draft) : r v = .ok (get draft) := by
  obtain ⟨slot, hslot⟩ := Option.isSome_iff_exists.mp h.known
  unfold putEntry at hput
  rw [hslot] at hput
  exact h.own slot hslot v start draft (under_eq_ok.mp hput)

theorem Owns.putEntry_other (h : Owns slots name r get) {other : String} (hother : other ≠ name)
    {v : Value} (hput : putEntry slots other v start = .ok draft) : get draft = get start := by
  unfold putEntry at hput
  cases hslot : slots.find? (·.name == other) with
  | none =>
    rw [hslot] at hput
    exact congrArg get (Except.ok.inj hput).symm
  | some slot =>
    rw [hslot] at hput
    have hname : slot.name = other := by simpa using List.find?_some hslot
    exact h.others slot (List.mem_of_find?_eq_some hslot) (hname ▸ hother) v start draft
      (under_eq_ok.mp hput)

/-- Without an entry of its own a field stays as it is at the start. -/
theorem Owns.absent (h : Owns slots name r get) (hnone : Entries.find? name es = none)
    (hput : putEntries slots es start = .ok draft) : get draft = get start := by
  induction es generalizing start with
  | nil => exact congrArg get (Except.ok.inj hput).symm
  | cons entry rest ih =>
    obtain ⟨other, v⟩ := entry
    obtain ⟨hother, hrest⟩ := List.forall_mem_cons.mp (Entries.find?_eq_none.mp hnone)
    rw [putEntries_cons] at hput
    obtain ⟨next, hnext, hput⟩ := bind_eq_ok.mp hput
    rw [ih (Entries.find?_eq_none.mpr hrest) hput]
    exact h.putEntry_other hother hnext

/-- The entry under its name is read as the field. -/
theorem Owns.present (h : Owns slots name r get) (hordered : Entries.Ordered es) {v : Value}
    (hv : Entries.find? name es = some v) (hput : putEntries slots es start = .ok draft) :
    r v = .ok (get draft) := by
  induction es generalizing start with
  | nil => cases hv
  | cons entry rest ih =>
    obtain ⟨other, u⟩ := entry
    rw [putEntries_cons] at hput
    obtain ⟨next, hnext, hlater⟩ := bind_eq_ok.mp hput
    unfold Entries.find? at hv
    split at hv
    · rename_i hname
      cases hv
      subst hname
      rw [h.absent hordered.find?_tail hlater]
      exact h.putEntry_self hnext
    · exact ih hordered.tail hv hlater

theorem record_eq_ok {d : Dialect} {kind : String} (h : record d kind slots start (.record es) = .ok draft) :
    putEntries slots es start = .ok draft ∧ missing? slots es = none := by
  obtain ⟨p, hp, h⟩ := bind_eq_ok.mp h
  split at h
  · cases h
  · rename_i hmissing
    cases h
    exact ⟨hp, hmissing⟩

/-- A field of its own: its slot reads a value and puts it where `get` finds it. -/
theorem Owns.of_slot {slot : Slot R} {set : R → β → R}
    (hslot : slots.find? (·.name == name) = some slot)
    (hput : ∀ v p, slot.put v p = (r v).map (set p)) (hget : ∀ p a, get (set p a) = a)
    (hothers : ∀ other ∈ slots, other.name ≠ name →
      ∀ v p q, other.put v p = .ok q → get q = get p) : Owns slots name r get where
  own found hfound v p q h := by
    cases hslot.symm.trans hfound
    rw [hput] at h
    obtain ⟨a, ha, rfl⟩ := map_eq_ok.mp h
    rw [ha, hget]
  known := Option.isSome_of_eq_some hslot
  others := hothers

theorem isSome_of_required {slot : Slot R} (hslot : slot ∈ slots) (hneed : slot.need = .required)
    (h : missing? slots es = none) : (Entries.find? slot.name es).isSome := by
  unfold missing? at h
  have hthere := List.find?_eq_none.mp (Option.map_eq_none_iff.mp h) slot hslot
  simp only [hneed, BEq.rfl, Bool.true_and, Bool.not_eq_true', Bool.not_eq_false,
    List.any_eq_true] at hthere
  obtain ⟨e, he, hname⟩ := hthere
  rw [Option.isSome_iff_ne_none, ne_eq, Entries.find?_eq_none]
  intro hnone
  exact hnone e he (eq_of_beq hname)

/-- A field of a record is read from what stands at its name, and from nothing else. -/
theorem Owns.field {d : Dialect} {kind : String} (howns : Owns slots name r get) {v w : Value}
    (hneat : v.Neat) (hleads : v.Leads [name]) (hread : record d kind slots start v = .ok draft)
    (hw : Layer.find? [name] v = some w) : r w = .ok (get draft) := by
  obtain ⟨es, rfl, -⟩ := hleads
  obtain ⟨u, hu, hw⟩ := Option.bind_eq_some_iff.mp hw
  cases hw
  exact howns.present hneat.ordered hu (record_eq_ok hread).1

theorem choice_record {kind : String} {variants : List (String × α)} {a : α}
    (h : choice .layered kind variants (.record es) = .ok a) :
    ∃ key v rest, es = (key, v) :: rest ∧ choice .layered kind variants (.text key) = .ok a := by
  cases es with
  | nil => cases h
  | cons entry rest =>
    obtain ⟨key, v⟩ := entry
    obtain ⟨b, hb, h⟩ := bind_eq_ok.mp (under_eq_ok.mp h)
    obtain ⟨_, -, h⟩ := bind_eq_ok.mp h
    cases h
    exact ⟨key, v, rest, rfl, hb⟩

end Decode

namespace Profile

theorem owns_interval : Owns slots "interval_secs" uint64 intervalSecs :=
  .of_slot rfl (fun _ _ => rfl) (fun _ _ => rfl) (by simp [slots, forall_map_eq_ok])

theorem owns_attempts : Owns slots "max_attempts" (option uint32) maxAttempts :=
  .of_slot rfl (fun _ _ => rfl) (fun _ _ => rfl) (by simp [slots, forall_map_eq_ok])

theorem owns_timeout : Owns slots "timeout_secs" (option uint64) timeoutSecs :=
  .of_slot rfl (fun _ _ => rfl) (fun _ _ => rfl) (by simp [slots, forall_map_eq_ok])

end Profile

namespace LogSettings

variable (d : Dialect)

theorem owns_level : Owns (slots d) "level" string level :=
  .of_slot rfl (fun _ _ => rfl) (fun _ _ => rfl) (by simp [slots, fields, forall_map_eq_ok])

theorem owns_format : Owns (slots d) "format" (LogFormat.ofValue d) format :=
  .of_slot rfl (fun _ _ => rfl) (fun _ _ => rfl) (by simp [slots, fields, forall_map_eq_ok])

theorem owns_logDir : Owns (slots d) "log_dir" (option (text "path string")) logDir :=
  .of_slot rfl (fun _ _ => rfl) (fun _ _ => rfl) (by simp [slots, fields, forall_map_eq_ok])

theorem owns_toStderr : Owns (slots d) "enable_stderr" bool toStderr :=
  .of_slot rfl (fun _ _ => rfl) (fun _ _ => rfl) (by simp [slots, fields, forall_map_eq_ok])

theorem owns_rotation : Owns (slots d) "rotation" (Rotation.ofValue d) rotation :=
  .of_slot rfl (fun _ _ => rfl) (fun _ _ => rfl) (by simp [slots, fields, forall_map_eq_ok])

end LogSettings

namespace Settings

variable (d : Dialect)

theorem owns_space : Owns (slots d) "namespace" string space :=
  .of_slot rfl (fun _ _ => rfl) (fun _ _ => rfl) (by simp [slots, forall_map_eq_ok])

theorem owns_logging : Owns (slots d) "logging" (LogSettings.ofValue d) logging :=
  .of_slot rfl (fun _ _ => rfl) (fun _ _ => rfl) (by simp [slots, forall_map_eq_ok])

theorem owns_profiles : Owns (slots d) "profiles" (Profiles.ofValue d) profiles :=
  .of_slot rfl (fun _ _ => rfl) (fun _ _ => rfl) (by simp [slots, forall_map_eq_ok])

end Settings

/-! ### Leaves -/

/-- What can be set by itself, with the kind of what is set. -/
inductive Leaf : Type → Type where
  | space : Leaf String
  | level : Leaf String
  | format : Leaf LogFormat
  | logDir : Leaf String
  | toStderr : Leaf Bool
  | rotation : Leaf Rotation
  | interval (profile : String) : Leaf UInt64
  | attempts (profile : String) : Leaf UInt32
  | timeout (profile : String) : Leaf UInt64

namespace Leaf

variable {α : Type}

def path : Leaf α → List String
  | space => ["namespace"]
  | level => ["logging", "level"]
  | format => ["logging", "format"]
  | logDir => ["logging", "log_dir"]
  | toStderr => ["logging", "enable_stderr"]
  | rotation => ["logging", "rotation"]
  | interval profile => ["profiles", profile, "interval_secs"]
  | attempts profile => ["profiles", profile, "max_attempts"]
  | timeout profile => ["profiles", profile, "timeout_secs"]

theorem path_ne_nil (leaf : Leaf α) : leaf.path ≠ [] := by
  cases leaf <;> exact List.cons_ne_nil _ _

/-- What settings have at the leaf, if anything. -/
def get : Leaf α → Settings → Option α
  | space, s => some s.space
  | level, s => some s.logging.level
  | format, s => some s.logging.format
  | logDir, s => s.logging.logDir
  | toStderr, s => some s.logging.toStderr
  | rotation, s => some s.logging.rotation
  | interval profile, s => (Entries.find? profile s.profiles.entries).map (·.intervalSecs)
  | attempts profile, s => (Entries.find? profile s.profiles.entries).bind (·.maxAttempts)
  | timeout profile, s => (Entries.find? profile s.profiles.entries).bind (·.timeoutSecs)

/-- How a value at the leaf is read by itself. A null stands for nothing where the leaf may
be left open. -/
def read : Leaf α → Reader (Option α)
  | space => fun v => (string v).map some
  | level => fun v => (string v).map some
  | format => fun v => (LogFormat.ofValue .layered v).map some
  | logDir => option (text "path string")
  | toStderr => fun v => (bool v).map some
  | rotation => fun v => (Rotation.ofValue .layered v).map some
  | interval _ => fun v => (uint64 v).map some
  | attempts _ => option uint32
  | timeout _ => option uint64

end Leaf

section Reading

variable {α : Type} {s : Settings} {v w : Value} {name profile : String}

theorem Settings.logging_field {β : Type} {r : Reader β} {get : LogSettings → β}
    (howns : Owns (LogSettings.slots .layered) name r get) (hneat : v.Neat) (hleads : v.Leads ["logging", name])
    (hs : ofValue .layered v = .ok s) (hw : Layer.find? ["logging", name] v = some w) :
    r w = .ok (get s.logging) := by
  obtain ⟨hsection, hfield⟩ := Layer.leads_append ["logging"] [name] hleads
  obtain ⟨u, hu, hw⟩ := Option.bind_eq_some_iff.mp
    ((Layer.find?_append ["logging"] [name] v).symm.trans hw)
  have hlogging := (owns_logging .layered).field hneat hsection hs hu
  exact howns.field (Layer.neat_of_find? hneat hsection hu) (hfield u hu) hlogging hw

/-- The profiles that are read are those that stand there, each read by itself. -/
theorem Settings.profile_read (hneat : v.Neat) (hleads : v.Leads ["profiles", profile])
    (hs : ofValue .layered v = .ok s) (hthere : (Layer.find? ["profiles"] v).isSome) :
    (Layer.find? ["profiles", profile] v).map (Profile.ofValue .layered) =
      (Entries.find? profile s.profiles.entries).map .ok := by
  obtain ⟨hsection, hfield⟩ := Layer.leads_append ["profiles"] [profile] hleads
  obtain ⟨u, hu⟩ := Option.isSome_iff_exists.mp hthere
  have hprofiles := (owns_profiles .layered).field hneat hsection hs hu
  have hneatUnder := Layer.neat_of_find? hneat hsection hu
  obtain ⟨ps, rfl, -⟩ := hfield u hu
  rw [← Profiles.ofValue_find? hneatUnder.ordered.names_nodup hprofiles]
  refine congrArg (Option.map _) ((Layer.find?_append ["profiles"] [profile] v).trans ?_)
  rw [hu]
  exact Option.bind_fun_some _

theorem Settings.profile_field {β : Type} {r : Reader β} {get : Profile → β}
    (howns : Owns Profile.slots name r get) (hneat : v.Neat) (hleads : v.Leads ["profiles", profile, name])
    (hs : ofValue .layered v = .ok s)
    (hw : Layer.find? ["profiles", profile, name] v = some w) :
    ∃ p, Entries.find? profile s.profiles.entries = some p ∧ r w = .ok (get p) := by
  obtain ⟨hprofile, hfield⟩ :=
    Layer.leads_append ["profiles", profile] [name] hleads
  obtain ⟨u, hu, hw⟩ := Option.bind_eq_some_iff.mp
    ((Layer.find?_append ["profiles", profile] [name] v).symm.trans hw)
  have hthere : (Layer.find? ["profiles"] v).isSome := by
    obtain ⟨ps, hps, -⟩ := Option.bind_eq_some_iff.mp
      ((Layer.find?_append ["profiles"] [profile] v).symm.trans hu)
    exact Option.isSome_of_eq_some hps
  have hread := profile_read hneat hprofile hs hthere
  rw [hu] at hread
  obtain ⟨p, hp, hok⟩ := Option.map_eq_some_iff.mp hread.symm
  exact ⟨p, hp, howns.field (Layer.neat_of_find? hneat hprofile hu) (hfield u hu)
    hok.symm hw⟩

/-- A field that is not written down in a profile is as it is at the start. -/
theorem Settings.profile_default {β : Type} {r : Reader β} {get : Profile → β}
    (howns : Owns Profile.slots name r get) (hneat : v.Neat)
    (hleads : v.Leads ["profiles", profile, name]) (hs : ofValue .layered v = .ok s)
    (hthere : (Layer.find? ["profiles"] v).isSome)
    (hnone : Layer.find? ["profiles", profile, name] v = none) {p : Profile}
    (hp : Entries.find? profile s.profiles.entries = some p) :
    get p = get { intervalSecs := 0, maxAttempts := none, timeoutSecs := none } ∧
      ∀ slot ∈ Profile.slots, slot.name = name → slot.need ≠ .required := by
  obtain ⟨hprofile, hfield⟩ :=
    Layer.leads_append ["profiles", profile] [name] hleads
  have hread := profile_read hneat hprofile hs hthere
  rw [hp] at hread
  obtain ⟨u, hu, hok⟩ := Option.map_eq_some_iff.mp hread
  obtain ⟨fs, rfl, -⟩ := hfield u hu
  obtain ⟨hput, hmissing⟩ := record_eq_ok hok
  have habsent : Entries.find? name fs = none := by
    have hfound := (Layer.find?_append ["profiles", profile] [name] v).symm.trans hnone
    rw [hu] at hfound
    exact (Option.bind_fun_some _).symm.trans hfound
  refine ⟨howns.absent habsent hput, ?_⟩
  rintro slot hslot rfl hrequired
  have hwritten := isSome_of_required hslot hrequired hmissing
  rw [habsent] at hwritten
  cases hwritten

namespace Leaf

variable {p : Profile}

theorem get_interval (h : Entries.find? profile s.profiles.entries = some p) :
    (interval profile).get s = some p.intervalSecs :=
  congrArg (Option.map _) h

theorem get_attempts (h : Entries.find? profile s.profiles.entries = some p) :
    (attempts profile).get s = p.maxAttempts :=
  congrArg (Option.bind · _) h

theorem get_timeout (h : Entries.find? profile s.profiles.entries = some p) :
    (timeout profile).get s = p.timeoutSecs :=
  congrArg (Option.bind · _) h

/-- What stands at a leaf is read by itself, and comes to what the settings have there. -/
theorem read_found (leaf : Leaf α) (hneat : v.Neat) (hleads : v.Leads leaf.path)
    (hs : Settings.ofValue .layered v = .ok s) (hw : Layer.find? leaf.path v = some w) :
    leaf.read w = .ok (leaf.get s) := by
  have hmap : ∀ {β : Type} {x : Except Fault β} {b : β}, x = .ok b → x.map some = .ok (some b) := by
    rintro β x b rfl
    rfl
  cases leaf with
  | space => exact hmap ((Settings.owns_space .layered).field hneat hleads hs hw)
  | level => exact hmap (Settings.logging_field (LogSettings.owns_level _) hneat hleads hs hw)
  | format => exact hmap (Settings.logging_field (LogSettings.owns_format _) hneat hleads hs hw)
  | logDir => exact Settings.logging_field (LogSettings.owns_logDir _) hneat hleads hs hw
  | toStderr => exact hmap (Settings.logging_field (LogSettings.owns_toStderr _) hneat hleads hs hw)
  | rotation => exact hmap (Settings.logging_field (LogSettings.owns_rotation _) hneat hleads hs hw)
  | interval profile =>
    obtain ⟨p, hp, hread⟩ := Settings.profile_field Profile.owns_interval hneat hleads hs hw
    rw [get_interval hp]
    exact hmap hread
  | attempts profile =>
    obtain ⟨p, hp, hread⟩ := Settings.profile_field Profile.owns_attempts hneat hleads hs hw
    rw [get_attempts hp]
    exact hread
  | timeout profile =>
    obtain ⟨p, hp, hread⟩ := Settings.profile_field Profile.owns_timeout hneat hleads hs hw
    rw [get_timeout hp]
    exact hread

/-- A field of a profile at which nothing stands is not set. -/
theorem get_absent (leaf : Leaf α) (hneat : v.Neat) (hleads : v.Leads leaf.path)
    (hs : Settings.ofValue .layered v = .ok s) (hthere : (Layer.find? ["profiles"] v).isSome)
    (hprofile : leaf.path.head? = some "profiles") (hnone : Layer.find? leaf.path v = none) :
    leaf.get s = none := by
  cases leaf with
  | interval profile =>
    refine Option.map_eq_none_iff.mpr (Option.eq_none_iff_forall_ne_some.mpr fun p hp => ?_)
    obtain ⟨-, hrequired⟩ :=
      Settings.profile_default Profile.owns_interval hneat hleads hs hthere hnone hp
    exact hrequired _ List.mem_cons_self rfl rfl
  | attempts profile =>
    refine Option.bind_eq_none_iff.mpr fun p hp => ?_
    exact (Settings.profile_default Profile.owns_attempts hneat hleads hs hthere hnone hp).1
  | timeout profile =>
    refine Option.bind_eq_none_iff.mpr fun p hp => ?_
    exact (Settings.profile_default Profile.owns_timeout hneat hleads hs hthere hnone hp).1
  | _ => exact absurd hprofile (by decide)

/-- Two leaves can be given as a record, which stands for the first name in it. -/
theorem read_record (leaf : Leaf α) {es : List (String × Value)} {a : Option α}
    (h : leaf.read (.record es) = .ok a) :
    (leaf.path = ["logging", "format"] ∨ leaf.path = ["logging", "rotation"]) ∧
      ∃ key v rest, es = (key, v) :: rest ∧ leaf.read (.text key) = .ok a := by
  cases leaf with
  | format =>
    obtain ⟨b, hb, rfl⟩ := map_eq_ok.mp h
    obtain ⟨key, v, rest, hes, hkey⟩ := choice_record hb
    exact ⟨.inl rfl, key, v, rest, hes, map_eq_ok.mpr ⟨b, hkey, rfl⟩⟩
  | rotation =>
    obtain ⟨b, hb, rfl⟩ := map_eq_ok.mp h
    obtain ⟨key, v, rest, hes, hkey⟩ := choice_record hb
    exact ⟨.inr rfl, key, v, rest, hes, map_eq_ok.mpr ⟨b, hkey, rfl⟩⟩
  | _ => cases h

end Leaf
end Reading

end Convergence
