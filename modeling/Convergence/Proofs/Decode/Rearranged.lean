import Convergence.Decode.Reader
import Convergence.Proofs.Entries
import Convergence.Proofs.Results
import Mathlib.Data.List.Forall2

/-! Values that are handed on. The entries of a record may come in another order than the one
in which they were written, here and in all that stands under them. A reader gets a value back
if it reads every such arrangement as the value. -/
namespace Convergence

open Decode

namespace Value

/-- The same value but for the order of the entries in its records. -/
inductive Rearranged : Value → Value → Prop where
  | same (v : Value) : Rearranged v v
  | list {vs ws : List Value} (h : List.Forall₂ Rearranged vs ws) : Rearranged (.list vs) (.list ws)
  | record {es fs : List (String × Value)} (hnodup : (es.map (·.1)).Nodup)
      (hnames : (fs.map (·.1)).Perm (es.map (·.1)))
      (h : ∀ name v w, (name, v) ∈ es → (name, w) ∈ fs → Rearranged v w) :
      Rearranged (.record es) (.record fs)

def isScalar : Value → Bool
  | list _ | record _ => false
  | _ => true

namespace Rearranged

variable {v w : Value} {vs : List Value} {es : List (String × Value)}

theorem eq_of_scalar (h : v.Rearranged w) (hv : v.isScalar = true) : w = v := by
  cases h with
  | same => rfl
  | list => cases hv
  | record => cases hv

theorem ne_null (h : v.Rearranged w) (hv : v ≠ .null) : w ≠ .null := by
  cases h with
  | same => exact hv
  | list => nofun
  | record => nofun

theorem items (h : (Value.list vs).Rearranged w) :
    ∃ ws, w = .list ws ∧ List.Forall₂ Rearranged vs ws := by
  cases h with
  | same => exact ⟨vs, rfl, List.forall₂_same.mpr fun v _ => same v⟩
  | list h => exact ⟨_, rfl, h⟩

theorem entries (h : (Value.record es).Rearranged w) (hnodup : (es.map (·.1)).Nodup) :
    ∃ fs, w = .record fs ∧ (fs.map (·.1)).Perm (es.map (·.1)) ∧
      ∀ name v w, (name, v) ∈ es → (name, w) ∈ fs → v.Rearranged w := by
  cases h with
  | same =>
    refine ⟨es, rfl, List.Perm.refl _, fun name v w hv hw => ?_⟩
    have hsame := (Entries.find?_of_mem hnodup hv).symm.trans (Entries.find?_of_mem hnodup hw)
    cases hsame
    exact same v
  | record _ hnames h => exact ⟨_, rfl, hnames, h⟩

theorem single {name : String} (h : (Value.record [(name, v)]).Rearranged w) :
    ∃ u, w = .record [(name, u)] ∧ v.Rearranged u := by
  obtain ⟨fs, rfl, hnames, hunder⟩ := h.entries (by simp)
  obtain ⟨⟨other, u⟩, rfl, hname⟩ := List.map_eq_singleton_iff.mp (List.perm_singleton.mp hnames)
  cases hname
  exact ⟨u, rfl, hunder name v u List.mem_cons_self List.mem_cons_self⟩

end Rearranged
end Value

namespace Decode

variable {α : Type} {r : Reader α} {v w : Value} {a : α}

/-- However the value is arranged, this comes of reading it. -/
def Reads (r : Reader α) (v : Value) (a : α) : Prop := ∀ w, v.Rearranged w → r w = .ok a

/-- The reader gets back whatever is written. -/
def Undoes (r : Reader α) (write : α → Value) : Prop := ∀ a, Reads r (write a) a

theorem Undoes.read {write : α → Value} (h : Undoes r write) (a : α) : r (write a) = .ok a :=
  h a _ (.same _)

theorem Reads.of_scalar (hv : v.isScalar = true) (h : r v = .ok a) : Reads r v a := by
  intro w hw
  rw [hw.eq_of_scalar hv]
  exact h

theorem undoes_text (expected : String) : Undoes (text expected) .text :=
  fun _ => .of_scalar rfl rfl

theorem undoes_bool : Undoes bool .bool := fun _ => .of_scalar rfl rfl

theorem option_of_ne_null (r : Reader α) (hv : v ≠ .null) : option r v = (r v).map some := by
  cases v with
  | null => exact absurd rfl hv
  | _ => rfl

theorem Reads.some (h : Reads r v a) (hv : v ≠ .null) : Reads (option r) v (some a) := by
  intro w hw
  rw [option_of_ne_null r (hw.ne_null hv), h w hw]
  rfl

theorem Undoes.option {write : α → Value} (h : Undoes r write) (hwrite : ∀ a, write a ≠ .null) :
    Undoes (Decode.option r) (.ofOption write) := by
  intro o
  cases o with
  | none => exact .of_scalar rfl rfl
  | some a => exact (h a).some (hwrite a)

theorem undoes_text? (expected : String) : Undoes (option (text expected)) .ofText? :=
  (undoes_text expected).option fun _ => Value.noConfusion

theorem Undoes.list {write : α → Value} (h : Undoes r write) :
    Undoes (Decode.list r) fun as => .list (as.map write) := by
  intro as w hw
  obtain ⟨ws, rfl, hws⟩ := hw.items
  clear hw
  change items r ws = .ok as
  induction as generalizing ws with
  | nil =>
    cases hws
    rfl
  | cons a rest ih =>
    obtain ⟨u, us, hu, hus, rfl⟩ := List.forall₂_cons_left_iff.mp hws
    rw [items, h a u hu, ih us hus]
    rfl

end Decode
end Convergence
