import Convergence.Proofs.Settings.Reading
import Convergence.Settings.Loading

/-! What one profile in one layer makes of the settings. The layers are merged with the
profile and without it; from the layer of the profile on the two ways differ in it alone,
and so do the settings that are read in the end. -/
namespace Convergence

open Decode

/-- A record without one of its entries. -/
def Value.without (name : String) : Value → Value
  | .record es => .record (es.filter fun e => e.1 ≠ name)
  | v => v

namespace Layer

/-- What a layer says of the profiles. -/
def profiles? (l : Layer) : Option Value := l.value.entry? "profiles"

/-- The layer says something of the profile `name`. -/
def Mentions (l : Layer) (name : String) : Prop :=
  ∃ es v, l.profiles? = some (.record es) ∧ Entries.find? name es = some v

/-- The layer does not put anything else in the place of all profiles. -/
def KeepsProfiles (l : Layer) : Prop := ∀ v, l.profiles? = some v → ∃ es, v = .record es

/-- The layer writes the profile out under `name`. -/
def States (l : Layer) (name : String) (p : Profile) : Prop :=
  ∃ es, l.profiles? = some (.record es) ∧ Entries.find? name es = some p.toValue

/-- No profile stands twice in the layer. -/
def Tidy (l : Layer) : Prop := ∀ es, l.profiles? = some (.record es) → Entries.Ordered es

/-- The layer with nothing said of the profile `name`. -/
def without (name : String) (l : Layer) : Layer :=
  { l with
    entries := l.entries.map fun e =>
      (e.1, if e.1 = "profiles" then e.2.without name else e.2) }

theorem profiles?_eq (l : Layer) :
    l.profiles? = Entries.find? "profiles" (Entries.ofList l.entries) := rfl

theorem absent_of_not_mentions {l : Layer} {name : String} {es : List (String × Value)}
    (hl : ¬l.Mentions name) (h : l.profiles? = some (.record es)) : Entries.find? name es = none := by
  cases hfound : Entries.find? name es with
  | none => rfl
  | some v => exact absurd ⟨es, v, h, hfound⟩ hl

theorem find?_without (l : Layer) (name key : String) :
    Entries.find? key (Entries.ofList (l.without name).entries) =
      (Entries.find? key (Entries.ofList l.entries)).map fun v =>
        if key = "profiles" then v.without name else v := by
  let f := fun (key : String) (v : Value) => if key = "profiles" then v.without name else v
  exact (congrArg (Entries.find? key) (Entries.ofList_map f l.entries)).trans
    (Entries.find?_map f key _)

theorem profiles?_without {l : Layer} {es : List (String × Value)} (name : String)
    (h : l.profiles? = some (.record es)) :
    (l.without name).profiles? = some (.record (es.filter fun e => e.1 ≠ name)) := by
  rw [profiles?_eq] at h ⊢
  rw [find?_without, h]
  rfl

theorem find?_without_ne {name key : String} (l : Layer) (h : key ≠ "profiles") :
    Entries.find? key (Entries.ofList (l.without name).entries) =
      Entries.find? key (Entries.ofList l.entries) := by
  rw [find?_without]
  simp [h]

theorem merge_value (l : Layer) (es : List (String × Value)) :
    merge (.record es) l.value = .record (mergeEntries merge es (Entries.ofList l.entries)) :=
  merge_record _ _

/-- The profiles of a layer are laid over those that it is merged into. -/
theorem find?_profiles (l : Layer) (es : List (String × Value)) :
    Entries.find? "profiles" (mergeEntries merge es (Entries.ofList l.entries)) =
      l.profiles?.toList.foldl (overlay merge) (Entries.find? "profiles" es) := by
  rw [find?_mergeEntries, (Entries.ordered_ofList l.entries).named]
  rfl

theorem mergeAll_append (ls rest : List Layer) :
    mergeAll (ls ++ rest) = rest.foldl (fun v l => merge v l.value) (mergeAll ls) := by
  unfold mergeAll
  rw [List.foldl_append]

end Layer

/-! ### Before the profile -/

theorem Settings.standardLayer_profiles :
    standardLayer.profiles? = some Profiles.standard.toValue := by
  rw [Layer.profiles?_eq]
  unfold standardLayer toValue Value.ofEntries
  dsimp only
  rw [Entries.ofList_eq_self (Entries.ordered_ofList _)]
  rfl

/-- Merged layers in which only the standard settings have said something of `name`. -/
structure Untold (name : String) (es : List (String × Value)) : Prop where
  ordered : Entries.Ordered es
  profiles : Entries.Ordered (Layer.recordIn (Entries.find? "profiles" es))
  standard : ∀ v, Entries.find? name (Layer.recordIn (Entries.find? "profiles" es)) = some v →
    ∃ q, Profiles.standard.get name = .ok q ∧ v = q.toValue

namespace Untold

variable {name : String} {es : List (String × Value)} {l : Layer}

/-- A layer merged into others lays its profiles over theirs. -/
theorem of_profiles (h : Untold name es)
    (hprofiles : ∀ new, l.profiles? = some (.record new) → Entries.Ordered new ∧
      ∀ v, Entries.find? name (Layer.mergeEntries Layer.merge
        (Layer.recordIn (Entries.find? "profiles" es)) new) = some v →
          ∃ q, Profiles.standard.get name = .ok q ∧ v = q.toValue) :
    Untold name (Layer.mergeEntries Layer.merge es (Entries.ofList l.entries)) := by
  have hfound := l.find?_profiles es
  cases hl : l.profiles? with
  | none =>
    rw [hl] at hfound
    exact
      { ordered := Layer.ordered_mergeEntries h.ordered
        profiles := hfound ▸ h.profiles
        standard := hfound ▸ h.standard }
  | some v =>
    rw [hl] at hfound
    change _ = Layer.overlay Layer.merge (Entries.find? "profiles" es) v at hfound
    by_cases hrecord : ∃ new, v = .record new
    · obtain ⟨new, rfl⟩ := hrecord
      obtain ⟨hordered, hstandard⟩ := hprofiles new hl
      rw [Layer.overlay_record hordered] at hfound
      refine { ordered := Layer.ordered_mergeEntries h.ordered, profiles := ?_, standard := ?_ }
      · rw [hfound]
        exact Layer.ordered_mergeEntries h.profiles
      · rw [hfound]
        exact hstandard
    · have hempty : Layer.recordIn (some v) = [] := by
        cases v with
        | record new => exact absurd ⟨new, rfl⟩ hrecord
        | _ => rfl
      rw [Layer.overlay_of_no_record fun new hv => hrecord ⟨new, hv⟩] at hfound
      refine { ordered := Layer.ordered_mergeEntries h.ordered, profiles := ?_, standard := ?_ }
      · rw [hfound, hempty]
        exact List.Pairwise.nil
      · rw [hfound, hempty]
        exact nofun

theorem step (h : Untold name es) (htidy : l.Tidy) (hl : ¬l.Mentions name) :
    Untold name (Layer.mergeEntries Layer.merge es (Entries.ofList l.entries)) := by
  refine h.of_profiles fun new hnew => ⟨htidy new hnew, ?_⟩
  rw [Layer.find?_mergeEntries, Entries.named_of_absent (Layer.absent_of_not_mentions hl hnew)]
  exact h.standard

theorem start (name : String) :
    Untold name
      (Layer.mergeEntries Layer.merge [] (Entries.ofList Settings.standardLayer.entries)) := by
  have hempty : Untold name [] :=
    { ordered := List.Pairwise.nil, profiles := List.Pairwise.nil, standard := nofun }
  refine hempty.of_profiles fun new hnew => ?_
  have hstandard := Profiles.standard.ordered.map fun _ p => p.toValue
  rw [Settings.standardLayer_profiles] at hnew
  cases hnew
  refine ⟨hstandard, fun v hv => ?_⟩
  change Entries.find? name (Layer.mergeEntries Layer.merge [] _) = some v at hv
  rw [Layer.mergeEntries_nil hstandard, Entries.find?_map fun _ p => Profile.toValue p] at hv
  obtain ⟨q, hq, rfl⟩ := Option.map_eq_some_iff.mp hv
  exact ⟨q, Profiles.get_eq_ok.mpr hq, rfl⟩

theorem mergeAll (name : String) {before : List Layer} (htidy : ∀ l ∈ before, l.Tidy)
    (hbefore : ∀ l ∈ before, ¬l.Mentions name) :
    ∃ es, Layer.mergeAll (Settings.standardLayer :: before) = .record es ∧ Untold name es := by
  have hfold : ∀ es, Untold name es → ∃ fs,
      before.foldl (fun v l => Layer.merge v l.value) (.record es) = .record fs ∧
        Untold name fs := by
    induction before with
    | nil => exact fun es h => ⟨es, rfl, h⟩
    | cons l rest ih =>
      intro es h
      have hl := h.step (htidy l List.mem_cons_self) (hbefore l List.mem_cons_self)
      rw [List.foldl_cons, Layer.merge_value]
      exact ih (fun m hm => htidy m (List.mem_cons_of_mem _ hm))
        (fun m hm => hbefore m (List.mem_cons_of_mem _ hm)) _ hl
  unfold Layer.mergeAll
  rw [List.foldl_cons, Layer.merge_value]
  exact hfold _ (start name)

end Untold

/-! ### From the profile on -/

/-- Merged layers that have come to hold profiles. -/
structure Merged where
  entries : List (String × Value)
  profiles : List (String × Value)
  ordered : Entries.Ordered entries
  profiles_ordered : Entries.Ordered profiles
  found : Entries.find? "profiles" entries = some (.record profiles)

namespace Merged

def value (m : Merged) : Value := .record m.entries

/-- The same with one profile more, or with another one in its place. -/
def put (m : Merged) (name : String) (v : Value) : Merged :=
  { entries := Entries.insert "profiles" (.record (Entries.insert name v m.profiles)) m.entries
    profiles := Entries.insert name v m.profiles
    ordered := m.ordered.insert _ _
    profiles_ordered := m.profiles_ordered.insert _ _
    found := Entries.find?_insert_self _ _ _ }

variable {name : String} {l : Layer}

/-- A layer that lets a profile be is merged the same with it and without it. -/
theorem step (m : Merged) (hkeeps : l.KeepsProfiles) (hl : ¬l.Mentions name) :
    ∃ m' : Merged, Layer.merge m.value l.value = m'.value ∧
      Entries.find? name m'.profiles = Entries.find? name m.profiles ∧
      ∀ v, Layer.merge (m.put name v).value l.value = (m'.put name v).value := by
  have hover : ∃ profiles, Entries.Ordered profiles ∧
      Entries.find? name profiles = Entries.find? name m.profiles ∧
      l.profiles?.toList.foldl (Layer.overlay Layer.merge) (some (.record m.profiles)) =
        some (.record profiles) ∧
      ∀ v, l.profiles?.toList.foldl (Layer.overlay Layer.merge)
          (some (.record (Entries.insert name v m.profiles))) =
        some (.record (Entries.insert name v profiles)) := by
    cases hprofiles : l.profiles? with
    | none => exact ⟨m.profiles, m.profiles_ordered, rfl, rfl, fun _ => rfl⟩
    | some said =>
      obtain ⟨new, rfl⟩ := hkeeps said hprofiles
      have hnone := Entries.named_of_absent (Layer.absent_of_not_mentions hl hprofiles)
      refine ⟨Layer.mergeEntries Layer.merge m.profiles new,
        Layer.ordered_mergeEntries m.profiles_ordered, ?_,
        congrArg some (Layer.merge_record m.profiles new), fun v => ?_⟩
      · rw [Layer.find?_mergeEntries, hnone]
        rfl
      · refine congrArg some ((Layer.merge_record _ new).trans (congrArg Value.record ?_))
        refine Layer.mergeEntries_insert m.profiles_ordered ?_
        rw [hnone]
        rfl
  obtain ⟨profiles, hordered, hsame, hwithout, hwith⟩ := hover
  refine ⟨{ entries := Layer.mergeEntries Layer.merge m.entries (Entries.ofList l.entries)
            profiles
            ordered := Layer.ordered_mergeEntries m.ordered
            profiles_ordered := hordered
            found := ?_ }, Layer.merge_value l m.entries, hsame, fun v => ?_⟩
  · rw [Layer.find?_profiles, m.found]
    exact hwithout
  · refine (Layer.merge_value l _).trans (congrArg Value.record ?_)
    refine Layer.mergeEntries_insert m.ordered ?_
    rw [(Entries.ordered_ofList l.entries).named]
    exact hwith v

theorem steps (m : Merged) {after : List Layer} (hkeeps : ∀ l ∈ after, l.KeepsProfiles)
    (hafter : ∀ l ∈ after, ¬l.Mentions name) :
    ∃ m' : Merged, after.foldl (fun v l => Layer.merge v l.value) m.value = m'.value ∧
      Entries.find? name m'.profiles = Entries.find? name m.profiles ∧
      ∀ v, after.foldl (fun v l => Layer.merge v l.value) (m.put name v).value =
        (m'.put name v).value := by
  induction after generalizing m with
  | nil => exact ⟨m, rfl, rfl, fun _ => rfl⟩
  | cons l rest ih =>
    obtain ⟨next, hnext, hsame, hput⟩ :=
      m.step (hkeeps l List.mem_cons_self) (hafter l List.mem_cons_self)
    obtain ⟨last, hlast, hsame', hput'⟩ := ih next
      (fun k hk => hkeeps k (List.mem_cons_of_mem _ hk))
      (fun k hk => hafter k (List.mem_cons_of_mem _ hk))
    refine ⟨last, ?_, hsame'.trans hsame, fun v => ?_⟩
    · rw [List.foldl_cons, hnext, hlast]
    · rw [List.foldl_cons, hput, hput']

/-- What a profile comes to where it is laid over the value that there may be. -/
def laid (p : Profile) : Option Value → Value
  | some v => Layer.merge v p.toValue
  | none => p.toValue

/-- A profile among others is laid over what was under its name. -/
theorem mergeEntries_laid {old said : List (String × Value)} {p : Profile}
    (hold : Entries.Ordered old) (hsaid : Entries.Ordered said)
    (hp : Entries.find? name said = some p.toValue) :
    Layer.mergeEntries Layer.merge old said =
      Entries.insert name (laid p (Entries.find? name old))
        (Layer.mergeEntries Layer.merge old (said.filter fun e => e.1 ≠ name)) := by
  have hothers : Entries.Ordered
      (Layer.mergeEntries Layer.merge old (said.filter fun e => e.1 ≠ name)) :=
    Layer.ordered_mergeEntries hold
  refine (Layer.ordered_mergeEntries hold).ext (hothers.insert name _) fun key => ?_
  rw [Layer.find?_mergeEntries, hsaid.named, Entries.find?_insert]
  split
  · rename_i hkey
    rw [hkey, hp]
    cases Entries.find? name old <;> rfl
  · rename_i hkey
    rw [Layer.find?_mergeEntries, (hsaid.filter _).named, Entries.find?_filter_ne hkey]

/-- The layer of a profile adds it to what is merged without it. -/
theorem enter {es : List (String × Value)} {p : Profile} (hes : Untold name es) (htidy : l.Tidy)
    (hl : l.States name p) :
    ∃ m : Merged, Layer.merge (.record es) (l.without name).value = m.value ∧
      (∀ v, Entries.find? name m.profiles = some v →
        ∃ q, Profiles.standard.get name = .ok q ∧ v = q.toValue) ∧
      Layer.merge (.record es) l.value =
        (m.put name (laid p (Entries.find? name m.profiles))).value := by
  obtain ⟨said, hsaid, hp⟩ := hl
  have hordered := htidy said hsaid
  have hothers : Entries.Ordered (said.filter fun e => e.1 ≠ name) := hordered.filter _
  generalize hold : Layer.recordIn (Entries.find? "profiles" es) = old
  have hname : Entries.find? name (Layer.mergeEntries Layer.merge old
      (said.filter fun e => e.1 ≠ name)) = Entries.find? name old := by
    rw [Layer.find?_mergeEntries, Entries.named_of_absent (Entries.find?_filter_self said)]
    rfl
  let m : Merged :=
    { entries := Layer.mergeEntries Layer.merge es (Entries.ofList (l.without name).entries)
      profiles := Layer.mergeEntries Layer.merge old (said.filter fun e => e.1 ≠ name)
      ordered := Layer.ordered_mergeEntries hes.ordered
      profiles_ordered := Layer.ordered_mergeEntries (hold ▸ hes.profiles)
      found := by
        rw [Layer.find?_profiles, Layer.profiles?_without name hsaid, ← hold]
        exact Layer.overlay_record hothers _ }
  refine ⟨m, Layer.merge_value _ es, fun v hv => hes.standard v ?_, ?_⟩
  · rw [hold, ← hname]
    exact hv
  · refine (Layer.merge_value l es).trans (congrArg Value.record ?_)
    refine (Layer.ordered_mergeEntries hes.ordered).ext (m.put name _).ordered fun key => ?_
    change _ = Entries.find? key (Entries.insert "profiles" _ m.entries)
    rw [Entries.find?_insert]
    split
    · rename_i hkey
      rw [hkey, Layer.find?_profiles, hsaid]
      refine (Layer.overlay_record hordered _).trans ?_
      rw [hold, mergeEntries_laid (hold ▸ hes.profiles) hordered hp]
      change _ = some (Value.record (Entries.insert name
        (laid p (Entries.find? name (Layer.mergeEntries Layer.merge old _))) _))
      rw [hname]
    · rename_i hkey
      rw [Layer.find?_mergeEntries, Layer.find?_mergeEntries,
        (Entries.ordered_ofList _).named, (Entries.ordered_ofList _).named,
        Layer.find?_without_ne l hkey]

end Merged

/-! ### After the profiles -/

/-- Merged layers that differ in their profiles at most. -/
structure SameBeside (es fs : List (String × Value)) : Prop where
  left : Entries.Ordered es
  right : Entries.Ordered fs
  others : ∀ key, key ≠ "profiles" → Entries.find? key es = Entries.find? key fs

namespace SameBeside

variable {es fs : List (String × Value)} {l k : Layer}

theorem refl (h : Entries.Ordered es) : SameBeside es es :=
  { left := h, right := h, others := fun _ _ => rfl }

theorem step (h : SameBeside es fs)
    (hothers : ∀ key, key ≠ "profiles" →
      Entries.find? key (Entries.ofList l.entries) = Entries.find? key (Entries.ofList k.entries)) :
    SameBeside (Layer.mergeEntries Layer.merge es (Entries.ofList l.entries))
      (Layer.mergeEntries Layer.merge fs (Entries.ofList k.entries)) := by
  refine
    { left := Layer.ordered_mergeEntries h.left
      right := Layer.ordered_mergeEntries h.right
      others := fun key hkey => ?_ }
  rw [Layer.find?_mergeEntries, Layer.find?_mergeEntries, (Entries.ordered_ofList _).named,
    (Entries.ordered_ofList _).named, hothers key hkey, h.others key hkey]

theorem steps (h : SameBeside es fs) (layers : List Layer) :
    ∃ es' fs', layers.foldl (fun v l => Layer.merge v l.value) (.record es) = .record es' ∧
      layers.foldl (fun v l => Layer.merge v l.value) (.record fs) = .record fs' ∧
      SameBeside es' fs' := by
  induction layers generalizing es fs with
  | nil => exact ⟨es, fs, rfl, rfl, h⟩
  | cons l rest ih =>
    rw [List.foldl_cons, List.foldl_cons, Layer.merge_value, Layer.merge_value]
    exact ih (h.step fun _ _ => rfl)

/-- What takes the place of all profiles leaves no difference. -/
theorem replaced (h : SameBeside es fs) (hl : ¬l.KeepsProfiles) :
    Layer.merge (.record es) l.value = Layer.merge (.record fs) l.value := by
  obtain ⟨v, hother⟩ := not_forall.mp hl
  obtain ⟨hprofiles, hno⟩ := Classical.not_imp.mp hother
  have hv : ∀ es, v ≠ .record es := not_exists.mp hno
  rw [Layer.merge_value, Layer.merge_value]
  refine congrArg Value.record ?_
  refine (Layer.ordered_mergeEntries h.left).ext (Layer.ordered_mergeEntries h.right) fun key => ?_
  by_cases hkey : key = "profiles"
  · rw [hkey, Layer.find?_profiles, Layer.find?_profiles, hprofiles]
    exact (Layer.overlay_of_no_record hv _).trans (Layer.overlay_of_no_record hv _).symm
  · exact (h.step fun _ _ => rfl).others key hkey

end SameBeside

/-- A layer that puts something else in the place of all profiles hides what the layers
before it say of a profile. -/
theorem Layer.mergeAll_replaced {before between after : List Layer} {file l : Layer}
    (name : String) (hl : ¬l.KeepsProfiles) :
    mergeAll (before ++ file :: between ++ l :: after) =
      mergeAll (before ++ file.without name :: between ++ l :: after) := by
  obtain ⟨es, _, hes, -, hsame⟩ := (SameBeside.refl List.Pairwise.nil).steps before
  have hentered : SameBeside (mergeEntries merge es (Entries.ofList file.entries))
      (mergeEntries merge es (Entries.ofList (file.without name).entries)) :=
    (SameBeside.refl hsame.left).step fun key hkey => (find?_without_ne file hkey).symm
  obtain ⟨gs, hs, hgs, hhs, hlast⟩ := hentered.steps between
  simp only [List.append_assoc, mergeAll_append, List.cons_append, List.foldl_cons,
    List.foldl_append]
  unfold mergeAll
  rw [hes, merge_value, merge_value, hgs, hhs, hlast.replaced hl]

end Convergence
