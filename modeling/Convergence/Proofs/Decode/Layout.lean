import Convergence.Proofs.Decode.Rearranged
import Convergence.Proofs.Settings.Reading
import Mathlib.Data.List.Pairwise

/-! Records as their fields. A field is written under its name, or left out where the record
starts with it anyway, and is read by itself. If each of the fields that tell a record comes
back, so does the record. -/
namespace Convergence.Decode

/-- A field of a record: how it is read, and where it stands in the record. -/
structure Field (R : Type) where
  {β : Type}
  name : String
  need : Need
  read : Reader β
  get : R → β
  set : β → R → R
  get_set : ∀ a p, get (set a p) = a := by intros; rfl

variable {R : Type}

def Field.slot (f : Field R) : Slot R :=
  { name := f.name, need := f.need, put := fun v p => (f.read v).map (f.set · p) }

/-- Neither field touches the other. -/
@[mk_iff]
structure Field.Apart (f g : Field R) : Prop where
  names : f.name ≠ g.name
  get_set : ∀ a p, g.get (f.set a p) = g.get p
  get_set' : ∀ a p, f.get (g.set a p) = f.get p

instance : Std.Symm (Field.Apart (R := R)) where
  symm _ _ h := { names := h.names.symm, get_set := h.get_set', get_set' := h.get_set }

/-- The fields of a kind of record, which tell it. -/
structure Layout (R : Type) where
  fields : List (Field R)
  apart : fields.Pairwise Field.Apart := by simp [Field.apart_iff]
  ext : ∀ p q, (∀ f ∈ fields, f.get p = f.get q) → p = q := by
    rintro ⟨⟩ ⟨⟩ h
    simpa using h

namespace Layout

variable {l : Layout R} {es : List (String × Value)} {start x : R}

def slots (l : Layout R) : List (Slot R) := l.fields.map Field.slot

theorem eq_or_apart {f g : Field R} (hf : f ∈ l.fields) (hg : g ∈ l.fields) :
    f = g ∨ f.Apart g := by
  by_cases h : f = g
  · exact .inl h
  · exact .inr (l.apart.forall hf hg h)

theorem find?_slots (name : String) :
    (l.slots.find? (·.name == name) = none ∧ ∀ f ∈ l.fields, f.name ≠ name) ∨
      ∃ f ∈ l.fields, f.name = name ∧ l.slots.find? (·.name == name) = some f.slot := by
  cases hslot : l.slots.find? (·.name == name) with
  | none =>
    refine .inl ⟨rfl, fun f hf hname => ?_⟩
    have hother := List.find?_eq_none.mp hslot f.slot (List.mem_map_of_mem hf)
    exact hother (beq_iff_eq.mpr hname)
  | some slot =>
    obtain ⟨f, hf, rfl⟩ := List.mem_map.mp (List.mem_of_find?_eq_some hslot)
    have hname : f.slot.name = name := by simpa using List.find?_some hslot
    exact .inr ⟨f, hf, hname, rfl⟩

/-- What an entry does to a draft: the field of its name is as it is in `x`, and the others
stay as they are. -/
theorem putEntry_eq {name : String} {v : Value}
    (hread : ∀ f ∈ l.fields, f.name = name → f.read v = .ok (f.get x)) (start : R) :
    ∃ draft, putEntry l.slots name v start = .ok draft ∧
      ∀ f ∈ l.fields, f.get draft = if f.name = name then f.get x else f.get start := by
  unfold putEntry
  rcases l.find?_slots name with ⟨hslot, hother⟩ | ⟨g, hg, hname, hslot⟩
  · rw [hslot]
    refine ⟨start, rfl, fun f hf => ?_⟩
    rw [if_neg (hother f hf)]
  · rw [hslot]
    refine ⟨g.set (g.get x) start, ?_, fun f hf => ?_⟩
    · change under name ((g.read v).map (g.set · start)) = _
      rw [hread g hg hname]
      rfl
    · rcases l.eq_or_apart hg hf with rfl | hapart
      · rw [if_pos hname, g.get_set]
      · have hne : f.name ≠ name := fun hsame => hapart.names (hname.trans hsame.symm)
        rw [if_neg hne, hapart.get_set]

theorem putEntries_eq
    (hread : ∀ f ∈ l.fields, ∀ v, (f.name, v) ∈ es → f.read v = .ok (f.get x)) (start : R) :
    ∃ draft, putEntries l.slots es start = .ok draft ∧
      ∀ f ∈ l.fields, f.name ∈ es.map (·.1) ∨ f.get start = f.get x → f.get draft = f.get x := by
  induction es generalizing start with
  | nil => exact ⟨start, rfl, fun f _ h => h.resolve_left List.not_mem_nil⟩
  | cons entry rest ih =>
    obtain ⟨name, v⟩ := entry
    have hfirst : ∀ f ∈ l.fields, f.name = name → f.read v = .ok (f.get x) := by
      rintro f hf rfl
      exact hread f hf v List.mem_cons_self
    obtain ⟨next, hnext, hfields⟩ := putEntry_eq hfirst start
    obtain ⟨draft, hdraft, hlast⟩ :=
      ih (fun f hf u hu => hread f hf u (List.mem_cons_of_mem _ hu)) next
    refine ⟨draft, ?_, fun f hf h => hlast f hf ?_⟩
    · rw [putEntries_cons, hnext]
      exact hdraft
    · rw [hfields f hf]
      by_cases hname : f.name = name
      · rw [if_pos hname]
        exact .inr rfl
      · rw [if_neg hname]
        exact h.imp_left fun hmem => (List.mem_cons.mp hmem).resolve_left hname

theorem missing?_eq_none (h : ∀ f ∈ l.fields, f.need = .required → f.name ∈ es.map (·.1)) :
    missing? l.slots es = none := by
  unfold missing?
  rw [Option.map_eq_none_iff, List.find?_eq_none]
  intro slot hslot
  obtain ⟨f, hf, rfl⟩ := List.mem_map.mp hslot
  unfold Field.slot
  simp only [Bool.and_eq_true, beq_iff_eq, Bool.not_eq_true', not_and, Bool.not_eq_false,
    List.any_eq_true]
  intro hneed
  obtain ⟨entry, hentry, hname⟩ := List.mem_map.mp (h f hf hneed)
  exact ⟨entry, hentry, hname⟩

theorem record_eq (d : Dialect) (kind : String)
    (hread : ∀ f ∈ l.fields, ∀ v, (f.name, v) ∈ es → f.read v = .ok (f.get x))
    (habsent : ∀ f ∈ l.fields, f.name ∉ es.map (·.1) →
      f.need ≠ .required ∧ f.get start = f.get x) :
    record d kind l.slots start (.record es) = .ok x := by
  obtain ⟨draft, hdraft, hfields⟩ := l.putEntries_eq hread start
  have hmissing : missing? l.slots es = none := by
    refine missing?_eq_none fun f hf hneed => ?_
    by_contra hname
    exact (habsent f hf hname).1 hneed
  have hx : draft = x := by
    refine l.ext draft x fun f hf => hfields f hf ?_
    by_cases hname : f.name ∈ es.map (·.1)
    · exact .inl hname
    · exact .inr (habsent f hf hname).2
  unfold record
  dsimp only
  rw [hdraft, hmissing, hx]
  rfl

/-- The field comes back from what is written under its name. It may be left out if it is not
required and the record starts with it. -/
def Kept (f : Field R) (es : List (String × Value)) (start x : R) : Prop :=
  match Entries.find? f.name es with
  | some v => Reads f.read v (f.get x)
  | none => f.need ≠ .required ∧ f.get start = f.get x

/-- A record comes back from its entries, in whatever order they come. -/
theorem reads (d : Dialect) (kind : String) (hnodup : (es.map (·.1)).Nodup)
    (h : ∀ f ∈ l.fields, Kept f es start x) :
    Reads (record d kind l.slots start) (.ofEntries es) x := by
  intro w hw
  obtain ⟨fs, rfl, hnames, hunder⟩ := hw.entries (Entries.ordered_ofList es).names_nodup
  have hmem : ∀ name, name ∈ fs.map (·.1) ↔ (Entries.find? name es).isSome := by
    intro name
    rw [hnames.mem_iff, ← Entries.find?_isSome_iff, Entries.find?_ofList hnodup]
  refine record_eq d kind (fun f hf u hu => ?_) fun f hf hname => ?_
  · obtain ⟨v, hv⟩ := Option.isSome_iff_exists.mp
      ((hmem f.name).mp (List.mem_map.mpr ⟨_, hu, rfl⟩))
    have hkept := h f hf
    unfold Kept at hkept
    rw [hv] at hkept
    rw [← Entries.find?_ofList hnodup] at hv
    exact hkept u (hunder f.name v u (Entries.mem_of_find? hv) hu)
  · have hnone : Entries.find? f.name es = none := by
      rw [← Option.not_isSome_iff_eq_none, ← hmem]
      exact hname
    have hkept := h f hf
    unfold Kept at hkept
    rw [hnone] at hkept
    exact hkept

end Layout
end Convergence.Decode
