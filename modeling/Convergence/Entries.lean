import Convergence.Text.Order

/-! Entries under names, kept in the order of the names with one entry a
name. A later entry under a name replaces the earlier one. -/
namespace Convergence.Entries

/-- Each name comes before all the names after it, so no name stands twice. -/
def Ordered (entries : List (String × α)) : Prop :=
  entries.Pairwise fun a b => Text.before a.1 b.1 = true

def insert (name : String) (value : α) : List (String × α) → List (String × α)
  | [] => [(name, value)]
  | (key, old) :: rest =>
    if name = key then (name, value) :: rest
    else if Text.before name key then (name, value) :: (key, old) :: rest
    else (key, old) :: insert name value rest

def find? (name : String) : List (String × α) → Option α
  | [] => none
  | (key, value) :: rest => if name = key then some value else find? name rest

/-- Entries in any order; of two under one name the later counts. -/
def ofList (entries : List (String × α)) : List (String × α) :=
  entries.foldl (fun done (name, value) => insert name value done) []

@[simp] theorem find?_insert_self (name : String) (value : α) (entries : List (String × α)) :
    find? name (insert name value entries) = some value := by
  induction entries with
  | nil => simp [insert, find?]
  | cons entry rest ih =>
    simp only [insert]
    split
    · simp [find?]
    · split
      · simp [find?]
      · simp_all [find?]

@[simp] theorem find?_insert_ne {name other : String} (h : other ≠ name) (value : α)
    (entries : List (String × α)) :
    find? other (insert name value entries) = find? other entries := by
  induction entries with
  | nil => simp [insert, find?, h]
  | cons entry rest ih =>
    simp only [insert]
    split
    · simp_all [find?]
    · split
      · simp [find?, h]
      · simp [find?, ih]

theorem mem_insert {name : String} {value : α} {entries : List (String × α)} {e : String × α}
    (h : e ∈ insert name value entries) : e = (name, value) ∨ e ∈ entries := by
  induction entries with
  | nil => exact .inl (by simpa [insert] using h)
  | cons entry rest ih =>
    simp only [insert] at h
    split at h
    · rcases List.mem_cons.mp h with h | h
      · exact .inl h
      · exact .inr (List.mem_cons_of_mem _ h)
    · split at h
      · rcases List.mem_cons.mp h with h | h
        · exact .inl h
        · exact .inr h
      · rcases List.mem_cons.mp h with h | h
        · exact .inr (h ▸ List.mem_cons_self)
        · rcases ih h with h | h
          · exact .inl h
          · exact .inr (List.mem_cons_of_mem _ h)

theorem Ordered.insert {entries : List (String × α)} (h : Ordered entries) (name : String)
    (value : α) : Ordered (Entries.insert name value entries) := by
  induction entries with
  | nil => simp [Ordered, Entries.insert]
  | cons entry rest ih =>
    have hrest : Ordered rest := (List.pairwise_cons.mp h).2
    have hfirst := (List.pairwise_cons.mp h).1
    simp only [Entries.insert]
    split
    · rename_i heq
      subst heq
      exact List.pairwise_cons.mpr ⟨hfirst, hrest⟩
    · rename_i hne
      split
      · rename_i hlt
        refine List.pairwise_cons.mpr ⟨fun e he => ?_, h⟩
        rcases List.mem_cons.mp he with he | he
        · exact he ▸ hlt
        · exact Text.before_trans hlt (hfirst e he)
      · rename_i hge
        refine List.pairwise_cons.mpr ⟨fun e he => ?_, ih hrest⟩
        rcases mem_insert he with he | he
        · subst he
          cases hlt : Text.before entry.1 name with
          | true => rfl
          | false => exact absurd (Text.before_total (by simpa using hge) hlt) hne
        · exact hfirst e he

theorem ordered_ofList (entries : List (String × α)) : Ordered (ofList entries) := by
  suffices ∀ done, Ordered done →
      Ordered (entries.foldl (fun done (name, value) => insert name value done) done) from
    this [] List.Pairwise.nil
  induction entries with
  | nil => exact fun _ h => h
  | cons entry rest ih => exact fun done h => ih _ (h.insert entry.1 entry.2)

end Convergence.Entries
