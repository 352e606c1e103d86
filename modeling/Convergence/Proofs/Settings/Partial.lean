import Convergence.Proofs.Decode.Partial
import Convergence.Proofs.Encodings

/-! Documents that leave settings out. Read as it stands and laid over the standard settings, a
document comes to the same namespace and the same logs, with the standard ones for all that it
leaves out. Profiles are another matter. A document that is read as it stands has its own and no
others. A layer joins them with the standard ones, field by field. -/
namespace Convergence

open Decode

/-! ### Logs -/

namespace Decode

/-- What a document names in the stricter way is taken in the same sense from a layer. -/
theorem choice_of_json {α : Type} {kind : String} {variants : List (String × α)} {v : Value}
    {a : α} (h : choice .json kind variants v = .ok a) (d : Dialect) :
    choice d kind variants v = .ok a := by
  cases d with
  | json => exact h
  | layered =>
    cases v with
    | text s => exact h
    | record es =>
      match es, h with
      | [(key, v)], h =>
        change under key _ = _
        change (variant variants key >>= fun a => unit v >>= fun _ => Except.ok a) = _ at h
        exact congrArg (under key) h
    | _ => cases h

theorem readOr_choice_of_json {α : Type} {kind : String} {variants : List (String × α)}
    {o : Option Value} {old a : α} (h : ReadOr (choice .json kind variants) old o a)
    (d : Dialect) : ReadOr (choice d kind variants) old o a := by
  cases o with
  | none => exact h
  | some v => exact choice_of_json h d

end Decode

namespace LogSettings

variable {es : List (String × Value)} {start s : LogSettings}

theorem fills_of_json (h : (layout .json).Fills es start s) (d : Dialect) :
    (layout d).Fills es start s := by
  unfold Layout.Fills layout at h ⊢
  simp only [List.forall_mem_cons] at h ⊢
  obtain ⟨hlevel, hformat, hdir, hstderr, hrotation, hrest⟩ := h
  exact ⟨hlevel, readOr_choice_of_json hformat d, hdir, hstderr,
    readOr_choice_of_json hrotation d, hrest⟩

/-- The entries of the logs that are written out. -/
def written (s : LogSettings) : List (String × Value) :=
  Entries.ofList
    [("level", .text s.level), ("format", .text s.format.code),
     ("log_dir", .ofText? s.logDir), ("enable_stderr", .bool s.toStderr),
     ("rotation", .text s.rotation.code)]

theorem flat_written (s : LogSettings) : Layer.Flat s.written := by
  intro e he
  have hmem := Entries.mem_of_mem_ofList he
  simp only [List.mem_cons, List.not_mem_nil, or_false] at hmem
  rcases hmem with rfl | rfl | rfl | rfl | rfl
  · exact fun _ => Value.noConfusion
  · exact fun _ => Value.noConfusion
  · cases s.logDir <;> exact fun _ => Value.noConfusion
  · exact fun _ => Value.noConfusion
  · exact fun _ => Value.noConfusion

theorem fills_written (d : Dialect) (start s : LogSettings) :
    (layout d).Fills s.written start s := by
  intro f hf
  unfold written
  rw [Entries.find?_ofList (by simp)]
  revert f
  simpa [layout, Entries.find?] using
    ⟨undoes_string.read s.level, (LogFormat.undoes d).read s.format,
      (undoes_text? "path string").read s.logDir, undoes_bool.read s.toStderr,
      (Rotation.undoes d).read s.rotation⟩

theorem ofValue_of_fills (hes : (layout .json).Partial es)
    (hs : (layout .json).Fills es .standard s) : ofValue .json (.record es) = .ok s :=
  hs.record_eq hes.nodup (by simp [layout]) .json "LogConfig"

/-- Logs that are laid over others take from them what they leave out. -/
theorem merge_eq {q : LogSettings} (hes : (es.map (·.1)).Nodup)
    (hs : (layout .json).Fills es q s) :
    ofValue .layered (Layer.merge q.toValue (.record es)) = .ok s := by
  have hwritten : q.toValue = .record q.written := rfl
  rw [hwritten, Layer.merge_record]
  refine (fills_written .layered .standard q).merge_eq (fills_of_json hs .layered)
    q.flat_written (Entries.ordered_ofList _) hes ?_ .layered "LogConfig"
  simp [layout]

end LogSettings

/-! ### Profiles -/

namespace Profile

variable {es : List (String × Value)} {p q r : Profile}

/-- What a profile is before anything of it is read. -/
def blank : Profile := { intervalSecs := 0, maxAttempts := none, timeoutSecs := none }

theorem flat_written (p : Profile) : Layer.Flat p.written := by
  intro e he
  simp only [written, List.mem_cons, List.mem_append, List.mem_map] at he
  rcases he with (rfl | ⟨n, -, rfl⟩) | ⟨n, -, rfl⟩ <;> exact fun _ => Value.noConfusion

theorem readOr_limit {β : Type} {r : Reader β} {write : β → Value} (h : Undoes r write)
    (hwrite : ∀ b, write b ≠ .null) (o : Option β) : ReadOr (option r) none (o.map write) o := by
  cases o with
  | none => rfl
  | some b => exact (h.option hwrite).read (some b)

theorem fills_written (p : Profile) : layout.Fills p.written blank p := by
  simpa [Layout.Fills, layout, find?_written] using
    ⟨undoes_secs.read p.intervalSecs,
      readOr_limit undoes_count (fun _ => Value.noConfusion) p.maxAttempts,
      readOr_limit undoes_secs (fun _ => Value.noConfusion) p.timeoutSecs⟩

theorem ofValue_of_complete (h : layout.Complete es) :
    ∃ p, ∀ d, ofValue d (.record es) = .ok p := by
  obtain ⟨p, hp⟩ := h.exists_fills blank
  exact ⟨p, fun d => hp.record_eq h.nodup h.required d "WaitProfile"⟩

/-- A profile that is laid over another one takes from it what it leaves out. -/
theorem merge_eq (hes : (es.map (·.1)).Nodup) (hr : layout.Fills es q r) (d : Dialect) :
    ofValue d (Layer.merge q.toValue (.record es)) = .ok r := by
  rw [toValue_eq, Layer.merge_record]
  refine q.fills_written.merge_eq hr q.flat_written q.ordered_written hes ?_ d "WaitProfile"
  simp [layout, find?_written]

end Profile

namespace Profiles

variable {d : Dialect} {es : List (String × Value)} {ps qs : Profiles} {name : String}
  {p r : Profile}

theorem ext_get (h : ∀ name p, ps.get name = .ok p ↔ qs.get name = .ok p) : ps = qs := by
  have hentries : ps.entries = qs.entries := by
    refine ps.ordered.ext qs.ordered fun name => Option.ext fun p => ?_
    rw [← get_eq_ok, ← get_eq_ok]
    exact h name p
  cases ps
  cases qs
  cases hentries
  rfl

theorem get_of_read (hnodup : (es.map (·.1)).Nodup) (hes : ofValue d (.record es) = .ok ps) :
    ps.get name = .ok p ↔
      ∃ v, Entries.find? name es = some v ∧ Profile.ofValue d v = .ok p := by
  have hfound := ofValue_find? hnodup hes name
  rw [get_eq_ok]
  cases hv : Entries.find? name es with
  | none =>
    rw [hv] at hfound
    simp [Option.map_eq_none_iff.mp hfound.symm]
  | some v =>
    rw [hv] at hfound
    obtain ⟨q, hq, hread⟩ := Option.map_eq_some_iff.mp hfound.symm
    simp [hq, ← hread]

/-- Profiles under names of their own, each of them complete. -/
structure Given (es : List (String × Value)) : Prop where
  nodup : (es.map (·.1)).Nodup
  complete : ∀ name v, (name, v) ∈ es → ∃ fs, v = .record fs ∧ Profile.layout.Complete fs

/-- The profile of a name once the given profiles are laid over the standard ones. -/
inductive Overlaid (es : List (String × Value)) (name : String) (r : Profile) : Prop where
  | kept (hgiven : Entries.find? name es = none) (hr : standard.get name = .ok r)
  | joined {q : Profile} {fs : List (String × Value)} (hq : standard.get name = .ok q)
      (hgiven : Entries.find? name es = some (.record fs)) (hr : Profile.layout.Fills fs q r)
  | added {v : Value} (hnew : ∀ q, standard.get name ≠ .ok q)
      (hgiven : Entries.find? name es = some v) (hr : Profile.ofValue .json v = .ok r)

/-- The standard profiles as they are written out, with the given ones laid over them. -/
def overStandard (es : List (String × Value)) : List (String × Value) :=
  Layer.mergeEntries Layer.merge (standard.entries.map fun e => (e.1, e.2.toValue)) es

/-- With none given the standard profiles are kept. -/
theorem overlaid_nil : Overlaid [] name r ↔ standard.get name = .ok r := by
  constructor
  · intro h
    cases h with
    | kept _ hr => exact hr
    | joined _ hgiven _ => cases hgiven
    | added _ hgiven _ => cases hgiven
  · exact .kept rfl

namespace Given

theorem find? (h : Given es) {v : Value} (hv : Entries.find? name es = some v) :
    ∃ fs, v = .record fs ∧ Profile.layout.Complete fs :=
  h.complete name v (Entries.mem_of_find? hv)

theorem reads (h : Given es) (d : Dialect) : ∃ ps, ofValue d (.record es) = .ok ps := by
  obtain ⟨qs, hqs⟩ := exists_entries (r := Profile.ofValue d) fun e he => by
    obtain ⟨fs, hfs, hcomplete⟩ := h.complete e.1 e.2 he
    obtain ⟨p, hp⟩ := Profile.ofValue_of_complete hcomplete
    exact ⟨p, hfs ▸ hp d⟩
  exact ⟨ofList qs, map_eq_ok.mpr ⟨qs, hqs, rfl⟩⟩

theorem find?_overStandard (h : Given es) (name : String) :
    Entries.find? name (overStandard es) = match Entries.find? name es with
      | some v => Layer.overlay Layer.merge
          ((Entries.find? name standard.entries).map Profile.toValue) v
      | none => (Entries.find? name standard.entries).map Profile.toValue := by
  unfold overStandard
  rw [Layer.find?_mergeEntries, Entries.named_eq h.nodup,
    Entries.find?_map fun _ p => Profile.toValue p]
  cases Entries.find? name es <;> rfl

theorem overlaid_of_found (h : Given es) {v : Value}
    (hv : Entries.find? name (overStandard es) = some v) :
    ∃ r, Profile.ofValue .layered v = .ok r ∧ Overlaid es name r := by
  rw [h.find?_overStandard] at hv
  cases hgiven : Entries.find? name es with
  | none =>
    rw [hgiven] at hv
    obtain ⟨q, hq, rfl⟩ := Option.map_eq_some_iff.mp hv
    exact ⟨q, Profile.ofValue_toValue _ q, .kept hgiven (get_eq_ok.mpr hq)⟩
  | some w =>
    rw [hgiven] at hv
    obtain ⟨fs, rfl, hcomplete⟩ := h.find? hgiven
    cases hq : Entries.find? name standard.entries with
    | none =>
      rw [hq] at hv
      cases hv
      obtain ⟨p, hp⟩ := Profile.ofValue_of_complete hcomplete
      refine ⟨p, hp _, .added (fun q hstandard => ?_) hgiven (hp _)⟩
      rw [get_eq_ok, hq] at hstandard
      cases hstandard
    | some q =>
      rw [hq] at hv
      cases hv
      obtain ⟨r, hr⟩ := hcomplete.exists_fills q
      exact ⟨r, Profile.merge_eq hcomplete.nodup hr _, .joined (get_eq_ok.mpr hq) hgiven hr⟩

theorem found_of_overlaid (h : Given es) (hr : Overlaid es name r) :
    ∃ v, Entries.find? name (overStandard es) = some v ∧ Profile.ofValue .layered v = .ok r := by
  cases hr with
  | kept hgiven hr =>
    refine ⟨r.toValue, ?_, Profile.ofValue_toValue _ r⟩
    rw [h.find?_overStandard, hgiven, get_eq_ok.mp hr]
    rfl
  | joined hq hgiven hr =>
    obtain ⟨fs, hfs, hcomplete⟩ := h.find? hgiven
    cases hfs
    refine ⟨_, ?_, Profile.merge_eq hcomplete.nodup hr _⟩
    rw [h.find?_overStandard, hgiven, get_eq_ok.mp hq]
    rfl
  | added hnew hgiven hr =>
    obtain ⟨fs, rfl, hcomplete⟩ := h.find? hgiven
    obtain ⟨p, hp⟩ := Profile.ofValue_of_complete hcomplete
    cases (hp .json).symm.trans hr
    refine ⟨_, ?_, hp .layered⟩
    have habsent : Entries.find? name standard.entries = none :=
      Option.eq_none_iff_forall_ne_some.mpr fun q hq => hnew q (get_eq_ok.mpr hq)
    rw [h.find?_overStandard, hgiven, habsent]
    rfl

/-- Profiles that are laid over the standard ones join them one by one. -/
theorem overlaid (h : Given es) :
    ∃ ps, ofValue .layered (Layer.merge standard.toValue (.record es)) = .ok ps ∧
      ∀ name r, ps.get name = .ok r ↔ Overlaid es name r := by
  have hordered : Entries.Ordered (overStandard es) :=
    Layer.ordered_mergeEntries (standard.ordered.map fun _ p => p.toValue)
  have hmerge : Layer.merge standard.toValue (.record es) = .record (overStandard es) :=
    Layer.merge_record _ _
  obtain ⟨qs, hqs⟩ := exists_entries (r := Profile.ofValue .layered) fun e he => by
    obtain ⟨r, hr, -⟩ := h.overlaid_of_found (hordered.find?_of_mem he)
    exact ⟨r, hr⟩
  have hread : ofValue .layered (.record (overStandard es)) = .ok (ofList qs) :=
    map_eq_ok.mpr ⟨qs, hqs, rfl⟩
  refine ⟨ofList qs, hmerge ▸ hread, fun name r => ?_⟩
  rw [get_of_read hordered.names_nodup hread]
  constructor
  · rintro ⟨v, hv, hr⟩
    obtain ⟨q, hq, hoverlaid⟩ := h.overlaid_of_found hv
    cases hq.symm.trans hr
    exact hoverlaid
  · exact h.found_of_overlaid

end Given

/-- Both ways come to the same profiles where each standard one is given and is itself what
comes of laying it over the standard one. -/
theorem own_eq_overlaid_iff {own overlaid : Profiles}
    (hown : ∀ name p, own.get name = .ok p ↔
      ∃ v, Entries.find? name es = some v ∧ Profile.ofValue .json v = .ok p)
    (hoverlaid : ∀ name r, overlaid.get name = .ok r ↔ Overlaid es name r) (h : Given es) :
    own = overlaid ↔ ∀ name q, standard.get name = .ok q →
      ∃ fs p, Entries.find? name es = some (.record fs) ∧
        Profile.ofValue .json (.record fs) = .ok p ∧ Profile.layout.Fills fs q p := by
  constructor
  · rintro rfl name q hq
    have hthere : ∃ r, Overlaid es name r := by
      cases hgiven : Entries.find? name es with
      | none => exact ⟨q, .kept hgiven hq⟩
      | some v =>
        obtain ⟨fs, rfl, hcomplete⟩ := h.find? hgiven
        obtain ⟨r, hr⟩ := hcomplete.exists_fills q
        exact ⟨r, .joined hq hgiven hr⟩
    obtain ⟨r, hr⟩ := hthere
    obtain ⟨v, hgiven, hread⟩ := (hown name r).mp ((hoverlaid name r).mpr hr)
    cases hr with
    | kept habsent _ => cases hgiven.symm.trans habsent
    | joined hq' hgiven' hr =>
      cases hq.symm.trans hq'
      cases hgiven.symm.trans hgiven'
      exact ⟨_, r, hgiven, hread, hr⟩
    | added hnew _ _ => exact absurd hq (hnew q)
  · intro hsame
    refine ext_get fun name p => ?_
    rw [hown, hoverlaid]
    constructor
    · rintro ⟨v, hgiven, hread⟩
      cases hq : standard.get name with
      | error e => exact .added (fun q hq' => nomatch hq.symm.trans hq') hgiven hread
      | ok q =>
        obtain ⟨fs, r, hgiven', hread', hr⟩ := hsame name q hq
        cases hgiven.symm.trans hgiven'
        cases hread.symm.trans hread'
        exact .joined hq hgiven hr
    · intro hp
      cases hp with
      | kept habsent hp =>
        obtain ⟨fs, r, hgiven, -⟩ := hsame name p hp
        cases habsent.symm.trans hgiven
      | joined hq hgiven hp =>
        obtain ⟨fs, r, hgiven', hread, hr⟩ := hsame name _ hq
        cases hgiven.symm.trans hgiven'
        cases hp.unique hr
        exact ⟨_, hgiven, hread⟩
      | added _ hgiven hread => exact ⟨_, hgiven, hread⟩

end Profiles

/-! ### Documents -/

namespace Settings

variable {es : List (String × Value)} {start s : Settings} {d : Dialect}

/-- A document that gives any of the settings. What it gives of the logs is some of them, and
its profiles are complete. -/
structure WellTyped (es : List (String × Value)) : Prop where
  nodup : (es.map (·.1)).Nodup
  space : ∀ v, Entries.find? "namespace" es = some v → ∃ s, string v = .ok s
  logging : ∀ v, Entries.find? "logging" es = some v →
    ∃ fs, v = .record fs ∧ (LogSettings.layout .json).Partial fs
  profiles : ∀ v, Entries.find? "profiles" es = some v → ∃ fs, v = .record fs ∧ Profiles.Given fs

theorem fills_iff : (layout d).Fills es start s ↔
    ReadOr string start.space (Entries.find? "namespace" es) s.space ∧
    ReadOr (LogSettings.ofValue d) start.logging (Entries.find? "logging" es) s.logging ∧
    ReadOr (Profiles.ofValue d) start.profiles (Entries.find? "profiles" es) s.profiles := by
  simp [Layout.Fills, layout]

/-- What two readings of one document have to do with each other. The document is read as it
stands to `own`, and as a layer over the standard settings to `layered`. -/
structure ReadTwice (es : List (String × Value)) (own layered : Settings) : Prop where
  space : own.space = layered.space
  logging : own.logging = layered.logging
  /-- What is given is read, and all else is as in the standard settings. -/
  given : (layout .json).Fills es standard own
  given_logging : (LogSettings.layout .json).Fills
    (Layer.recordIn (Entries.find? "logging" es)) .standard own.logging
  silent : Entries.find? "profiles" es = none → layered.profiles = .standard
  own_profiles : ∀ ps, Entries.find? "profiles" es = some (.record ps) → ∀ name p,
    own.profiles.get name = .ok p ↔
      ∃ v, Entries.find? name ps = some v ∧ Profile.ofValue .json v = .ok p
  layered_profiles : ∀ ps, Entries.find? "profiles" es = some (.record ps) → ∀ name r,
    layered.profiles.get name = .ok r ↔ Profiles.Overlaid ps name r
  /-- No standard profile is missing, and none is changed by being joined. -/
  same_profiles : ∀ ps, Entries.find? "profiles" es = some (.record ps) →
    (own.profiles = layered.profiles ↔ ∀ name q, Profiles.standard.get name = .ok q →
      ∃ fs p, Entries.find? name ps = some (.record fs) ∧
        Profile.ofValue .json (.record fs) = .ok p ∧ Profile.layout.Fills fs q p)

variable {own : Settings} {l : Layer}

/-- The entries of the standard settings as they are written out. -/
def standardEntries : List (String × Value) :=
  Entries.ofList
    [("namespace", .text standard.space), ("logging", standard.logging.toValue),
     ("profiles", standard.profiles.toValue)]

theorem ordered_standardEntries : Entries.Ordered standardEntries := Entries.ordered_ofList _

theorem mergeAll_over_standard (l : Layer) :
    Layer.mergeAll [standardLayer, l] = .record
      (Layer.mergeEntries Layer.merge standardEntries (Entries.ofList l.entries)) := by
  have hstandard : Layer.merge (.record []) standardLayer.value = .record standardEntries := by
    rw [standardLayer_value]
    refine (Layer.merge_record _ _).trans (congrArg Value.record ?_)
    exact Layer.mergeEntries_nil ordered_standardEntries
  unfold Layer.mergeAll
  rw [List.foldl_cons, hstandard, List.foldl_cons, Layer.merge_value]
  rfl

/-- A layer that says nothing changes nothing. -/
theorem mergeAll_silent {silent : Layer} (h : silent.entries = []) :
    Layer.mergeAll ([standardLayer, l] ++ [silent]) = Layer.mergeAll [standardLayer, l] := by
  rw [Layer.mergeAll_append, mergeAll_over_standard, List.foldl_cons, Layer.merge_value, h]
  rfl

namespace WellTyped

theorem logging_in (h : WellTyped es) :
    (LogSettings.layout .json).Partial (Layer.recordIn (Entries.find? "logging" es)) := by
  cases hv : Entries.find? "logging" es with
  | none => exact { nodup := List.nodup_nil, readable := nofun }
  | some v =>
    obtain ⟨fs, rfl, hfs⟩ := h.logging v hv
    exact hfs

theorem profiles_in (h : WellTyped es) :
    Profiles.Given (Layer.recordIn (Entries.find? "profiles" es)) := by
  cases hv : Entries.find? "profiles" es with
  | none => exact { nodup := List.nodup_nil, complete := nofun }
  | some v =>
    obtain ⟨fs, rfl, hfs⟩ := h.profiles v hv
    exact hfs

theorem isPartial (h : WellTyped es) : (layout .json).Partial es := by
  refine { nodup := h.nodup, readable := ?_ }
  simp only [layout, List.forall_mem_cons]
  refine ⟨h.space, fun v hv => ?_, fun v hv => ?_, List.forall_mem_nil _⟩
  · obtain ⟨fs, rfl, hfs⟩ := h.logging v hv
    obtain ⟨s, hs⟩ := hfs.exists_fills .standard
    exact ⟨s, LogSettings.ofValue_of_fills hfs hs⟩
  · obtain ⟨fs, rfl, hfs⟩ := h.profiles v hv
    exact hfs.reads .json

theorem fills_logging (h : WellTyped es) (hown : (layout .json).Fills es standard own) :
    (LogSettings.layout .json).Fills (Layer.recordIn (Entries.find? "logging" es)) .standard
      own.logging := by
  obtain ⟨s, hs⟩ := h.logging_in.exists_fills .standard
  have hread := LogSettings.ofValue_of_fills h.logging_in hs
  have hlogging := (fills_iff.mp hown).2.1
  have hsame : s = own.logging := by
    cases hv : Entries.find? "logging" es with
    | none =>
      rw [hv] at hread hlogging
      cases hread
      exact hlogging.symm
    | some v =>
      obtain ⟨fs, rfl, -⟩ := h.logging v hv
      rw [hv] at hread hlogging
      exact Except.ok.inj (hread.symm.trans hlogging)
  exact hsame ▸ hs

/-- The layer over the standard settings comes to what the document says by itself, and to
joined profiles. -/
theorem layered (h : WellTyped l.entries) (hown : (layout .json).Fills l.entries standard own) :
    ∃ ps, ofLayers [standardLayer, l] = .ok (own.withProfiles ps) ∧ ∀ name r,
      ps.get name = .ok r ↔
        Profiles.Overlaid (Layer.recordIn (Entries.find? "profiles" l.entries)) name r := by
  obtain ⟨ps, hps, hget⟩ := h.profiles_in.overlaid
  refine ⟨ps, ofLayers_eq_ok.mpr ?_, hget⟩
  have hsaid := Entries.find?_ofList h.nodup
  have hnodup := (Entries.ordered_ofList l.entries).names_nodup
  have hlogging := h.fills_logging hown
  rw [mergeAll_over_standard]
  refine Layout.Fills.record_eq (fills_iff.mpr ⟨?_, ?_, ?_⟩)
    (Layer.ordered_mergeEntries ordered_standardEntries).names_nodup (by simp [layout])
      .layered "Config"
  · have hspace := (fills_iff.mp hown).1
    have hstandard : Entries.find? "namespace" standardEntries = some (.text standard.space) := rfl
    have hplain : ∀ fs, Entries.find? "namespace" standardEntries ≠ some (.record fs) :=
      fun _ he => Value.noConfusion (Option.some.inj (hstandard.symm.trans he))
    rw [Layer.find?_merge_plain hnodup hplain, hsaid]
    cases hv : Entries.find? "namespace" l.entries with
    | none =>
      rw [hv] at hspace
      exact congrArg Except.ok hspace.symm
    | some v =>
      rw [hv] at hspace
      exact hspace
  · rw [Layer.find?_merge_section rfl hnodup, hsaid]
    · exact LogSettings.merge_eq h.logging_in.nodup hlogging
    · intro v hv
      obtain ⟨fs, hfs, -⟩ := h.logging v (hsaid "logging" ▸ hv)
      exact ⟨fs, hfs⟩
  · rw [Layer.find?_merge_section rfl hnodup, hsaid]
    · exact hps
    · intro v hv
      obtain ⟨fs, hfs, -⟩ := h.profiles v (hsaid "profiles" ▸ hv)
      exact ⟨fs, hfs⟩

theorem profiles_read (h : WellTyped es) (hown : (layout .json).Fills es standard own)
    {ps : List (String × Value)} (hps : Entries.find? "profiles" es = some (.record ps)) :
    Profiles.Given ps ∧ Profiles.ofValue .json (.record ps) = .ok own.profiles := by
  obtain ⟨fs, hfs, hgiven⟩ := h.profiles _ hps
  cases hfs
  have hprofiles := (fills_iff.mp hown).2.2
  rw [hps] at hprofiles
  exact ⟨hgiven, hprofiles⟩

theorem readTwice (h : WellTyped es) (hown : (layout .json).Fills es standard own)
    {joined : Profiles} (hjoined : ∀ name r, joined.get name = .ok r ↔
      Profiles.Overlaid (Layer.recordIn (Entries.find? "profiles" es)) name r) :
    ReadTwice es own (own.withProfiles joined) where
  space := rfl
  logging := rfl
  given := hown
  given_logging := h.fills_logging hown
  silent hnone := by
    rw [hnone] at hjoined
    exact Profiles.ext_get fun name p => (hjoined name p).trans Profiles.overlaid_nil
  own_profiles ps hps name p := by
    obtain ⟨hgiven, hread⟩ := h.profiles_read hown hps
    exact Profiles.get_of_read hgiven.nodup hread
  layered_profiles ps hps := by
    rw [hps] at hjoined
    exact hjoined
  same_profiles ps hps := by
    rw [hps] at hjoined
    obtain ⟨hgiven, hread⟩ := h.profiles_read hown hps
    exact Profiles.own_eq_overlaid_iff
      (fun _ _ => Profiles.get_of_read hgiven.nodup hread) hjoined hgiven

end WellTyped

/-- The two ways of filling in what a document leaves out. The document that gives any of the
settings is read as it stands, and as the only layer over the standard settings. Both ways come
to the same namespace and logs, and what is not given is as in the standard settings. The first
way has the profiles of the document and no others. The second has them joined with the standard
ones, so the ways agree on profiles where joining changes none of them. -/
theorem left_out_alike {l : Layer} (h : WellTyped l.entries) :
    ∃ own layered : Settings,
      Settings.ofValue .json (.record l.entries) = .ok own ∧
      Settings.ofLayers [standardLayer, l] = .ok layered ∧
      (∀ around paths, fileLayers around paths = .ok [l] →
        (Environment.layer around.env).entries = [] →
        Settings.extract around paths = .ok layered) ∧
      ReadTwice l.entries own layered := by
  obtain ⟨own, hown⟩ := h.isPartial.exists_fills standard
  obtain ⟨joined, hlayered, hjoined⟩ := h.layered hown
  refine ⟨own, own.withProfiles joined, ?_, hlayered, ?_, h.readTwice hown hjoined⟩
  · exact hown.record_eq h.nodup (by simp [layout]) .json "Config"
  · intro around paths hfiles henv
    unfold Settings.extract
    rw [hfiles]
    refine ofLayers_eq_ok.mpr ?_
    rw [mergeAll_silent henv]
    exact ofLayers_eq_ok.mp hlayered

/-- A project whose file sets the level of the logs, and more time for the replicas. -/
def patientProject : Surroundings :=
  { workingDir := "/"
    viewpoint := none
    env := []
    fileAt := fun path =>
      if path = "/c.yaml" then
        some ("logging:\n  level: debug\nprofiles:\n  replicas:\n    interval_secs: 5\n" ++
          "    timeout_secs: 60\n")
      else none }

def patientLayer : Layer :=
  { origin := .file "/c.yaml"
    entries := [("logging", .record [("level", .text "debug")]),
      ("profiles", .record [("replicas", (Profile.ofTimeout 5 60).toValue)])]
    foreign := [] }

theorem patientLayer_wellTyped : WellTyped patientLayer.entries := by
  refine
    { nodup := by decide
      space := nofun
      logging := fun v hv => ?_
      profiles := fun v hv => ?_ }
  · cases hv
    refine ⟨_, rfl, by decide, ?_⟩
    simp [LogSettings.layout, Entries.find?, string, text]
  · cases hv
    refine ⟨_, rfl, by decide, fun name w hw => ?_⟩
    cases List.mem_singleton.mp hw
    refine ⟨_, Profile.toValue_eq _, ⟨(Profile.ordered_written _).names_nodup, ?_⟩, ?_⟩
    · have hfills := Profile.fills_written (.ofTimeout 5 60)
      intro f hf u hu
      have hread := hfills f hf
      rw [hu] at hread
      exact ⟨_, hread⟩
    · simp [Profile.layout, Profile.find?_written]

set_option maxRecDepth 100000 in
/-- The time for the replicas is all that they have by the file alone, and it comes beside the
attempts where the file is laid over the standard settings. -/
theorem patient_replicas_gain_attempts :
    WellTyped patientLayer.entries ∧
      fileLayers patientProject ["/c.yaml"] = .ok [patientLayer] ∧
      ∃ own layered : Settings,
        Settings.ofValue .json (.record patientLayer.entries) = .ok own ∧
        Settings.extract patientProject ["/c.yaml"] = .ok layered ∧
        ReadTwice patientLayer.entries own layered ∧
        own.profiles.get "replicas" = .ok (.ofTimeout 5 60) ∧
        layered.profiles.get "replicas" =
          .ok { intervalSecs := 5, maxAttempts := some 24, timeoutSecs := some 60 } := by
  have hfiles : fileLayers patientProject ["/c.yaml"] = .ok [patientLayer] := rfl
  obtain ⟨own, layered, hown, -, hextract, htwice⟩ := left_out_alike patientLayer_wellTyped
  refine ⟨patientLayer_wellTyped, hfiles, own, layered, hown, hextract _ _ hfiles rfl, htwice,
    (htwice.own_profiles _ rfl "replicas" _).mpr ⟨_, rfl, Profile.ofValue_toValue _ _⟩,
    (htwice.layered_profiles _ rfl "replicas" _).mpr ?_⟩
  refine .joined (rfl : _ = Except.ok (Profile.ofAttempts 10 24)) rfl ?_
  unfold Layout.Fills Profile.layout
  simp only [List.forall_mem_cons]
  exact ⟨rfl, rfl, rfl, nofun⟩

end Settings
end Convergence
