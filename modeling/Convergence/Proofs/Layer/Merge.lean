import Convergence.Layer.Basic
import Convergence.Proofs.Entries

/-! What is found in layers that have been merged. Under each name it is what was found
there before, with all that stands under the name in the new layer laid over it. -/
namespace Convergence.Layer

/-- A value, laid over the one that there may be. -/
def overlay (inner : Value → Value → Value) (old : Option Value) (new : Value) : Option Value :=
  match old with
  | some o => some (inner o new)
  | none => some new

variable {inner other : Value → Value → Value} {old new es fs : List (String × Value)}
  {name : String}

theorem find?_mergeEntries (inner : Value → Value → Value) (name : String)
    (old new : List (String × Value)) :
    Entries.find? name (mergeEntries inner old new) =
      (Entries.named name new).foldl (overlay inner) (Entries.find? name old) := by
  induction new generalizing old with
  | nil => rfl
  | cons entry rest ih =>
    obtain ⟨key, v⟩ := entry
    unfold mergeEntries
    rw [ih, Entries.find?_insert]
    unfold Entries.named
    by_cases hname : key = name
    · subst hname
      rw [List.filter_cons_of_pos (by simp), if_pos rfl, List.map_cons, List.foldl_cons]
      unfold overlay
      cases Entries.find? key old <;> rfl
    · rw [List.filter_cons_of_neg (by simpa using hname), if_neg (Ne.symm hname)]

theorem ordered_mergeEntries (h : Entries.Ordered old) :
    Entries.Ordered (mergeEntries inner old new) := by
  induction new generalizing old with
  | nil => exact h
  | cons entry rest ih => exact ih (h.insert _ _)

theorem mergeEntries_congr (h : ∀ name v, (name, v) ∈ new → ∀ o, inner o v = other o v) :
    mergeEntries inner old new = mergeEntries other old new := by
  induction new generalizing old with
  | nil => rfl
  | cons entry rest ih =>
    obtain ⟨name, v⟩ := entry
    have hinner : (inner · v) = (other · v) := funext (h name v List.mem_cons_self)
    unfold mergeEntries
    rw [hinner]
    exact ih fun key w hw => h key w (List.mem_cons_of_mem _ hw)

theorem mergeEntries_nil (h : Entries.Ordered new) : mergeEntries inner [] new = new := by
  refine (ordered_mergeEntries List.Pairwise.nil).ext h fun name => ?_
  rw [find?_mergeEntries, h.named]
  cases Entries.find? name new <;> rfl

/-- An entry that is there before the merge stays, as far as what is laid over it lets it. -/
theorem mergeEntries_insert {v w : Value} (h : Entries.Ordered old)
    (hw : (Entries.named name new).foldl (overlay inner) (some v) = some w) :
    mergeEntries inner (Entries.insert name v old) new =
      Entries.insert name w (mergeEntries inner old new) := by
  refine (ordered_mergeEntries (h.insert name v)).ext
    ((ordered_mergeEntries h).insert name w) fun key => ?_
  rw [find?_mergeEntries, Entries.find?_insert, Entries.find?_insert, find?_mergeEntries]
  split
  · rename_i hkey
    rw [hkey, hw]
  · rfl

/-! ### Depth -/

theorem depth_le_of_mem {v : Value} (h : (name, v) ∈ es) : depth v ≤ depthEntries es := by
  induction es with
  | nil => cases h
  | cons entry rest ih =>
    obtain ⟨key, w⟩ := entry
    unfold depthEntries
    rcases List.mem_cons.mp h with hhead | htail
    · cases hhead
      split <;> omega
    · have hle := ih htail
      split <;> omega

/-- Values are merged in full by any fuel above the depth of the new one. -/
theorem mergeValues_eq {fuel enough : Nat} (old : Value) {new : Value} (h : depth new < fuel)
    (henough : depth new < enough) : mergeValues fuel old new = mergeValues enough old new := by
  induction fuel generalizing enough old new with
  | zero => omega
  | succ fuel ih =>
    obtain ⟨enough, rfl⟩ := Nat.exists_eq_add_one_of_ne_zero (Nat.ne_zero_of_lt henough)
    cases new with
    | record new =>
      cases old with
      | record old =>
        unfold depth at h henough
        refine congrArg Value.record (mergeEntries_congr fun name v hv o => ?_)
        have hdepth := depth_le_of_mem hv
        exact ih o (by omega) (by omega)
      | _ => rfl
    | _ => cases old <;> rfl

/-- Records are merged name by name. -/
theorem merge_record (old new : List (String × Value)) :
    merge (.record old) (.record new) = .record (mergeEntries merge old new) := by
  refine congrArg Value.record (mergeEntries_congr fun name v hv o => ?_)
  have hdepth := depth_le_of_mem hv
  have hrecord : depth (.record new) = depthEntries new + 1 := by
    unfold depth
    rfl
  exact mergeValues_eq o (by omega) (Nat.lt_succ_self _)

theorem merge_of_no_record {new : Value} (h : ∀ es, new ≠ .record es) (old : Value) :
    merge old new = new := by
  cases new with
  | record es => exact absurd rfl (h es)
  | _ => cases old <;> rfl

/-- What is no record takes the place of all that was there. -/
theorem overlay_of_no_record {new : Value} (h : ∀ es, new ≠ .record es) (old : Option Value) :
    overlay merge old new = some new := by
  cases old with
  | none => rfl
  | some o => exact congrArg some (merge_of_no_record h o)

/-- The entries of a record. There are none in anything else. -/
def recordIn : Option Value → List (String × Value)
  | some (.record es) => es
  | _ => []

theorem overlay_record (h : Entries.Ordered new) (old : Option Value) :
    overlay merge old (.record new) = some (.record (mergeEntries merge (recordIn old) new)) := by
  cases old with
  | none => exact congrArg (some ∘ Value.record) (mergeEntries_nil h).symm
  | some v =>
    cases v with
    | record old => exact congrArg some (merge_record old new)
    | _ => exact congrArg (some ∘ Value.record) (mergeEntries_nil h).symm

end Convergence.Layer
