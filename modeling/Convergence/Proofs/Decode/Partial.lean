import Convergence.Proofs.Decode.Layout
import Convergence.Proofs.Layer.Merge

/-! Records of which only some of the fields are given. Each field that is given is read by
itself, and the others are as they are in the record that the reader starts with. A record that
is written out before the given fields are laid over it fills them in just as well. -/
namespace Convergence

namespace Layer

variable {old new : List (String × Value)} {name : String}

/-- Nothing in the record is a record itself. -/
def Flat (es : List (String × Value)) : Prop := ∀ e ∈ es, ∀ fs, e.2 ≠ .record fs

theorem merge_over_no_record {old : Value} (h : ∀ es, old ≠ .record es) (new : Value) :
    merge old new = new := by
  cases old with
  | record es => exact absurd rfl (h es)
  | _ => rfl

/-- What is given takes the place of what was there, if that is no record. -/
theorem find?_merge_plain (hnodup : (new.map (·.1)).Nodup)
    (hold : ∀ es, Entries.find? name old ≠ some (.record es)) :
    Entries.find? name (mergeEntries merge old new) =
      (Entries.find? name new).or (Entries.find? name old) := by
  rw [find?_mergeEntries, Entries.named_eq hnodup]
  cases Entries.find? name new with
  | none => rfl
  | some v =>
    cases ho : Entries.find? name old with
    | none => rfl
    | some o =>
      rw [ho] at hold
      exact congrArg some (merge_over_no_record (fun es he => hold es (congrArg some he)) v)

theorem Flat.find?_merge (hold : Flat old) (hnodup : (new.map (·.1)).Nodup) (name : String) :
    Entries.find? name (mergeEntries merge old new) =
      (Entries.find? name new).or (Entries.find? name old) :=
  find?_merge_plain hnodup fun _ he => hold _ (Entries.mem_of_find? he) _ rfl

/-- A section of one record is laid over that of the other. -/
theorem find?_merge_section {es : List (String × Value)}
    (hold : Entries.find? name old = some (.record es)) (hnodup : (new.map (·.1)).Nodup)
    (hnew : ∀ v, Entries.find? name new = some v → ∃ fs, v = .record fs) :
    Entries.find? name (mergeEntries merge old new) =
      some (merge (.record es) (.record (recordIn (Entries.find? name new)))) := by
  rw [find?_mergeEntries, Entries.named_eq hnodup, hold]
  cases hv : Entries.find? name new with
  | none => exact congrArg some (merge_record es []).symm
  | some v =>
    obtain ⟨fs, rfl⟩ := hnew v hv
    rfl

end Layer

namespace Decode

/-- What is given is read, and where nothing is given all stays as it was. -/
def ReadOr {α : Type} (r : Reader α) (old : α) : Option Value → α → Prop
  | some v, a => r v = .ok a
  | none, a => a = old

@[simp] theorem readOr_some {α : Type} {r : Reader α} {old a : α} {v : Value} :
    ReadOr r old (some v) a ↔ r v = .ok a := Iff.rfl

@[simp] theorem readOr_none {α : Type} {r : Reader α} {old a : α} :
    ReadOr r old none a ↔ a = old := Iff.rfl

namespace Layout

variable {R : Type} {l : Layout R} {es old new : List (String × Value)} {start x y : R}

/-- The fields are read where they are given, and as in `start` where they are not. -/
def Fills (l : Layout R) (es : List (String × Value)) (start x : R) : Prop :=
  ∀ f ∈ l.fields, ReadOr f.read (f.get start) (Entries.find? f.name es) (f.get x)

/-- Each name stands once, and what is given for a field can be read. -/
structure Partial (l : Layout R) (es : List (String × Value)) : Prop where
  nodup : (es.map (·.1)).Nodup
  readable : ∀ f ∈ l.fields, ∀ v, Entries.find? f.name es = some v → ∃ a, f.read v = .ok a

/-- What is given is all that is required. -/
structure Complete (l : Layout R) (es : List (String × Value)) : Prop extends l.Partial es where
  required : ∀ f ∈ l.fields, f.need = .required → (Entries.find? f.name es).isSome

theorem Fills.unique (hx : l.Fills es start x) (hy : l.Fills es start y) : x = y := by
  refine l.ext x y fun f hf => ?_
  have hfx := hx f hf
  have hfy := hy f hf
  cases hv : Entries.find? f.name es with
  | none =>
    rw [hv] at hfx hfy
    exact hfx.trans hfy.symm
  | some v =>
    rw [hv] at hfx hfy
    exact Except.ok.inj (hfx.symm.trans hfy)

/-- The given fields are put in one after the other. None of them touches another. -/
theorem Partial.exists_fills (h : l.Partial es) (start : R) : ∃ x, l.Fills es start x := by
  suffices hsome : ∀ fs : List (Field R), (∀ f ∈ fs, f ∈ l.fields) → fs.Pairwise Field.Apart →
      ∃ x, (∀ f ∈ fs, ReadOr f.read (f.get start) (Entries.find? f.name es) (f.get x)) ∧
        ∀ g : Field R, (∀ f ∈ fs, f.Apart g) → g.get x = g.get start by
    obtain ⟨x, hx, -⟩ := hsome l.fields (fun _ hf => hf) l.apart
    exact ⟨x, hx⟩
  intro fs hfields hapart
  induction fs with
  | nil => exact ⟨start, fun f hf => absurd hf List.not_mem_nil, fun _ _ => rfl⟩
  | cons f fs ih =>
    obtain ⟨hfirst, hrest⟩ := List.pairwise_cons.mp hapart
    obtain ⟨x, hx, hothers⟩ := ih (fun g hg => hfields g (List.mem_cons_of_mem f hg)) hrest
    cases hv : Entries.find? f.name es with
    | none =>
      refine ⟨x, List.forall_mem_cons.mpr ⟨?_, hx⟩, fun g hg => ?_⟩
      · rw [hv]
        exact hothers f fun g hg => Std.Symm.symm f g (hfirst g hg)
      · exact hothers g fun k hk => hg k (List.mem_cons_of_mem f hk)
    | some v =>
      obtain ⟨a, ha⟩ := h.readable f (hfields f List.mem_cons_self) v hv
      refine ⟨f.set a x, List.forall_mem_cons.mpr ⟨?_, fun g hg => ?_⟩, fun g hg => ?_⟩
      · rw [hv, f.get_set]
        exact ha
      · rw [(hfirst g hg).get_set]
        exact hx g hg
      · rw [(hg f List.mem_cons_self).get_set]
        exact hothers g fun k hk => hg k (List.mem_cons_of_mem f hk)

/-- A record is read as its given fields over what its reader starts with. -/
theorem Fills.record_eq (h : l.Fills es start x) (hnodup : (es.map (·.1)).Nodup)
    (hneed : ∀ f ∈ l.fields, f.need = .required → (Entries.find? f.name es).isSome) (d : Dialect)
    (kind : String) : record d kind l.slots start (.record es) = .ok x := by
  refine l.record_eq d kind (fun f hf v hv => ?_) fun f hf hname => ?_
  · have hfield := h f hf
    rw [Entries.find?_of_mem hnodup hv] at hfield
    exact hfield
  · have hfield := h f hf
    rw [← Entries.find?_isSome_iff, Option.not_isSome_iff_eq_none] at hname
    rw [hname] at hfield
    refine ⟨fun hrequired => ?_, (readOr_none.mp hfield).symm⟩
    have hgiven := hneed f hf hrequired
    rw [hname] at hgiven
    cases hgiven

/-- What fills a record from another is read where it is laid over that other, written out. -/
theorem Fills.merge_eq (hold : l.Fills old start x) (hnew : l.Fills new x y)
    (hflat : Layer.Flat old) (hordered : Entries.Ordered old) (hnodup : (new.map (·.1)).Nodup)
    (hneed : ∀ f ∈ l.fields, f.need = .required → (Entries.find? f.name old).isSome) (d : Dialect)
    (kind : String) :
    record d kind l.slots start (.record (Layer.mergeEntries Layer.merge old new)) = .ok y := by
  have hfills : l.Fills (Layer.mergeEntries Layer.merge old new) start y := by
    intro f hf
    rw [hflat.find?_merge hnodup]
    have hfield := hnew f hf
    cases hv : Entries.find? f.name new with
    | some v =>
      rw [hv] at hfield
      exact hfield
    | none =>
      rw [hv] at hfield
      rw [Option.none_or, readOr_none.mp hfield]
      exact hold f hf
  refine hfills.record_eq (Layer.ordered_mergeEntries hordered).names_nodup ?_ d kind
  intro f hf hrequired
  rw [hflat.find?_merge hnodup, Option.isSome_or, hneed f hf hrequired, Bool.or_true]

end Layout
end Decode
end Convergence
