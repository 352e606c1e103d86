import Convergence.Entries
import Mathlib.Data.List.Basic
import Mathlib.Data.List.Perm.Basic

/-! Ordered entries are told apart by what is found in them. What is put together in the
order of the names is the same however it was put together. -/
namespace Convergence

theorem Text.before_asymm {a b : String} (h : before a b = true) : ¬before b a = true := by
  intro hback
  have hloop := before_trans h hback
  rw [before_irrefl] at hloop
  cases hloop

namespace Entries

variable {α β : Type} {name other : String} {value : α} {es fs : List (String × α)}

theorem find?_insert (name other : String) (value : α) (es : List (String × α)) :
    find? other (insert name value es) = if other = name then some value else find? other es := by
  split
  · rename_i h
    rw [h, find?_insert_self]
  · rename_i h
    exact find?_insert_ne h value es

theorem mem_of_find? (h : find? name es = some value) : (name, value) ∈ es := by
  induction es with
  | nil => cases h
  | cons entry rest ih =>
    unfold find? at h
    split at h
    · rename_i hname
      cases h
      subst hname
      exact List.mem_cons_self
    · exact List.mem_cons_of_mem _ (ih h)

theorem find?_eq_none : find? name es = none ↔ ∀ e ∈ es, e.1 ≠ name := by
  induction es with
  | nil => simp [find?]
  | cons entry rest ih =>
    unfold find?
    split
    · rename_i hname
      simp [hname]
    · rename_i hname
      rw [ih, List.forall_mem_cons]
      exact ⟨fun h => ⟨Ne.symm hname, h⟩, And.right⟩

theorem Ordered.tail {e : String × α} (h : Ordered (e :: es)) : Ordered es :=
  (List.pairwise_cons.mp h).2

theorem Ordered.find?_tail {e : String × α} (h : Ordered (e :: es)) : find? e.1 es = none := by
  rw [find?_eq_none]
  intro f hf hname
  have hbefore := (List.pairwise_cons.mp h).1 f hf
  rw [hname, Text.before_irrefl] at hbefore
  cases hbefore

theorem Ordered.find?_of_mem (h : Ordered es) (hmem : (name, value) ∈ es) :
    find? name es = some value := by
  induction es with
  | nil => cases hmem
  | cons entry rest ih =>
    unfold find?
    rcases List.mem_cons.mp hmem with hhead | htail
    · rw [← hhead, if_pos rfl]
    · rw [if_neg, ih h.tail htail]
      intro hname
      have habsent := find?_eq_none.mp (Ordered.find?_tail h) _ htail
      exact habsent hname

theorem Ordered.nodup (h : Ordered es) : es.Nodup := by
  refine List.Pairwise.imp ?_ h
  intro a b hbefore hsame
  rw [hsame, Text.before_irrefl] at hbefore
  cases hbefore

theorem Ordered.names_nodup (h : Ordered es) : (es.map (·.1)).Nodup := by
  have hnames : (es.map (·.1)).Pairwise fun a b => Text.before a b = true :=
    List.pairwise_map.mpr h
  refine hnames.imp ?_
  intro a b hbefore hsame
  rw [hsame, Text.before_irrefl] at hbefore
  cases hbefore

/-- Ordered entries in which the same is found are the same. -/
theorem Ordered.ext (hes : Ordered es) (hfs : Ordered fs)
    (h : ∀ name, find? name es = find? name fs) : es = fs := by
  have hperm : es.Perm fs := by
    refine (List.perm_ext_iff_of_nodup hes.nodup hfs.nodup).mpr fun ⟨name, value⟩ => ?_
    constructor
    · intro hmem
      exact mem_of_find? (h name ▸ hes.find?_of_mem hmem)
    · intro hmem
      exact mem_of_find? ((h name).symm ▸ hfs.find?_of_mem hmem)
  exact hperm.eq_of_pairwise (fun a b _ _ hab hba => absurd hba (Text.before_asymm hab)) hes hfs

theorem Ordered.filter (h : Ordered es) (keep : String × α → Bool) : Ordered (es.filter keep) :=
  List.Pairwise.filter keep h

theorem Ordered.map (h : Ordered es) (f : String → α → β) :
    Ordered (es.map fun e => (e.1, f e.1 e.2)) :=
  List.pairwise_map.mpr h

theorem find?_map (f : String → α → β) (name : String) (es : List (String × α)) :
    find? name (es.map fun e => (e.1, f e.1 e.2)) = (find? name es).map (f name) := by
  induction es with
  | nil => rfl
  | cons entry rest ih =>
    simp only [List.map_cons, find?]
    split
    · rename_i hname
      rw [hname]
      rfl
    · exact ih

theorem find?_filter_ne (h : other ≠ name) (es : List (String × α)) :
    find? other (es.filter fun e => e.1 ≠ name) = find? other es := by
  induction es with
  | nil => rfl
  | cons entry rest ih =>
    by_cases hentry : entry.1 = name
    · rw [List.filter_cons_of_neg (by simpa using hentry), ih]
      exact (if_neg fun hother => h (hother.trans hentry)).symm
    · rw [List.filter_cons_of_pos (by simpa using hentry)]
      unfold find?
      rw [ih]

theorem find?_filter_self (es : List (String × α)) :
    find? name (es.filter fun e => e.1 ≠ name) = none := by
  rw [find?_eq_none]
  intro e he
  simpa using (List.mem_filter.mp he).2

/-- All that stands under a name. -/
def named (name : String) (es : List (String × α)) : List α :=
  (es.filter fun e => e.1 = name).map (·.2)

theorem named_of_absent (h : find? name es = none) : named name es = [] := by
  unfold named
  rw [List.map_eq_nil_iff, List.filter_eq_nil_iff]
  intro e he
  simpa using find?_eq_none.mp h e he

theorem named_eq (h : (es.map (·.1)).Nodup) (name : String) :
    named name es = (find? name es).toList := by
  induction es with
  | nil => rfl
  | cons entry rest ih =>
    obtain ⟨hfirst, hrest⟩ := List.nodup_cons.mp h
    by_cases hname : entry.1 = name
    · have habsent : find? name rest = none := by
        rw [find?_eq_none]
        rintro e he rfl
        exact hfirst (List.mem_map.mpr ⟨e, he, hname.symm⟩)
      have hnone := named_of_absent habsent
      unfold named at hnone ⊢
      unfold find?
      rw [List.filter_cons_of_pos (by simpa using hname), List.map_cons, hnone,
        if_pos hname.symm]
      rfl
    · have hothers := ih hrest
      unfold named at hothers ⊢
      rw [List.filter_cons_of_neg (by simpa using hname), hothers]
      exact congrArg Option.toList (if_neg (Ne.symm hname)).symm

theorem Ordered.named (h : Ordered es) (name : String) :
    Entries.named name es = (find? name es).toList :=
  named_eq h.names_nodup name

theorem mem_of_mem_ofList {e : String × α} (h : e ∈ ofList es) : e ∈ es := by
  have hfold : ∀ done : List (String × α),
      e ∈ es.foldl (fun done (name, value) => insert name value done) done → e ∈ done ∨ e ∈ es := by
    clear h
    induction es with
    | nil => exact fun done h => .inl h
    | cons entry rest ih =>
      intro done h
      rcases ih (insert entry.1 entry.2 done) h with hdone | hrest
      · rcases mem_insert hdone with rfl | hold
        · exact .inr List.mem_cons_self
        · exact .inl hold
      · exact .inr (List.mem_cons_of_mem _ hrest)
  exact (hfold [] h).resolve_left nofun

theorem insert_map (f : String → α → β) (name : String) (value : α) (es : List (String × α)) :
    insert name (f name value) (es.map fun e => (e.1, f e.1 e.2)) =
      (insert name value es).map fun e => (e.1, f e.1 e.2) := by
  induction es with
  | nil => rfl
  | cons entry rest ih =>
    simp only [List.map_cons, insert]
    split
    · rfl
    · split
      · rfl
      · rw [List.map_cons, ih]

theorem ofList_map (f : String → α → β) (es : List (String × α)) :
    ofList (es.map fun e => (e.1, f e.1 e.2)) = (ofList es).map fun e => (e.1, f e.1 e.2) := by
  unfold ofList
  have hfold : ∀ done : List (String × α), (es.map fun e => (e.1, f e.1 e.2)).foldl
      (fun done (name, value) => insert name value done) (done.map fun e => (e.1, f e.1 e.2)) =
        (es.foldl (fun done (name, value) => insert name value done) done).map
          fun e => (e.1, f e.1 e.2) := by
    induction es with
    | nil => exact fun _ => rfl
    | cons entry rest ih =>
      intro done
      rw [List.map_cons, List.foldl_cons, List.foldl_cons, ← ih]
      exact congrArg (List.foldl _ · _) (insert_map f entry.1 entry.2 done)
  exact hfold []

theorem insert_last (h : ∀ e ∈ es, Text.before e.1 name = true) :
    insert name value es = es ++ [(name, value)] := by
  induction es with
  | nil => rfl
  | cons entry rest ih =>
    have hbefore := h entry List.mem_cons_self
    have hne : name ≠ entry.1 := by
      rintro rfl
      rw [Text.before_irrefl] at hbefore
      cases hbefore
    unfold insert
    rw [if_neg hne, if_neg (Text.before_asymm hbefore), ih fun e he => h e (List.mem_cons_of_mem _ he)]
    rfl

/-- What is put under a name further on leaves the first entry where it is. -/
theorem Ordered.insert_tail {e : String × α} {old : α} (h : Ordered (e :: es))
    (hfound : find? name es = some old) (value : α) :
    Entries.insert name value (e :: es) = e :: Entries.insert name value es := by
  have hbefore := (List.pairwise_cons.mp h).1 _ (mem_of_find? hfound)
  have hne : name ≠ e.1 := by
    rintro rfl
    rw [Text.before_irrefl] at hbefore
    cases hbefore
  exact (if_neg hne).trans (if_neg (Text.before_asymm hbefore))

theorem ofList_eq_self (h : Ordered es) : ofList es = es := by
  have hfold : ∀ done, Ordered (done ++ es) →
      es.foldl (fun done (name, value) => insert name value done) done = done ++ es := by
    clear h
    induction es with
    | nil => exact fun done _ => (List.append_nil done).symm
    | cons entry rest ih =>
      intro done h
      have hlast := (List.pairwise_append.mp h).2.2
      have hinsert : insert entry.1 entry.2 done = done ++ [entry] :=
        insert_last fun e he => hlast e he entry List.mem_cons_self
      have hdone : Ordered ((done ++ [entry]) ++ rest) := by
        rw [List.append_assoc]
        exact h
      have hrest := ih _ hdone
      rw [List.append_assoc] at hrest
      rw [List.foldl_cons]
      change rest.foldl _ (insert entry.1 entry.2 done) = _
      rw [hinsert]
      exact hrest
  exact hfold [] h

theorem find?_of_mem (hnodup : (es.map (·.1)).Nodup) (hmem : (name, value) ∈ es) :
    find? name es = some value := by
  induction es with
  | nil => cases hmem
  | cons entry rest ih =>
    obtain ⟨hfirst, hrest⟩ := List.nodup_cons.mp hnodup
    unfold find?
    rcases List.mem_cons.mp hmem with hhead | htail
    · rw [← hhead, if_pos rfl]
    · rw [if_neg, ih hrest htail]
      rintro rfl
      exact hfirst (List.mem_map.mpr ⟨_, htail, rfl⟩)

theorem find?_isSome_iff : (find? name es).isSome ↔ name ∈ es.map (·.1) := by
  rw [Option.isSome_iff_ne_none, ne_eq, find?_eq_none, List.mem_map]
  simp only [not_forall, not_not, exists_prop]

theorem find?_append (name : String) (es fs : List (String × α)) :
    find? name (es ++ fs) = (find? name es).or (find? name fs) := by
  induction es with
  | nil => rfl
  | cons entry rest ih =>
    simp only [List.cons_append, find?]
    split
    · rfl
    · exact ih

theorem find?_reverse (hnodup : (es.map (·.1)).Nodup) (name : String) :
    find? name es.reverse = find? name es := by
  have hreversed : (es.reverse.map (·.1)).Nodup := by
    rw [List.map_reverse]
    exact (List.reverse_perm _).nodup_iff.mpr hnodup
  ext value
  constructor
  · intro h
    exact find?_of_mem hnodup (List.mem_reverse.mp (mem_of_find? h))
  · intro h
    exact find?_of_mem hreversed (List.mem_reverse.mpr (mem_of_find? h))

/-- Of entries that are put in one after another, the last under a name is found. -/
theorem find?_insertAll (name : String) (es done : List (String × α)) :
    find? name (es.foldl (fun done e => insert e.1 e.2 done) done) =
      (find? name es.reverse).or (find? name done) := by
  induction es generalizing done with
  | nil => rfl
  | cons entry rest ih =>
    rw [List.foldl_cons, ih, find?_insert, List.reverse_cons, find?_append, Option.or_assoc]
    simp only [find?]
    split <;> simp

theorem find?_ofList (hnodup : (es.map (·.1)).Nodup) (name : String) :
    find? name (ofList es) = find? name es := by
  rw [← find?_reverse hnodup, ← Option.or_none (o := find? name es.reverse)]
  exact find?_insertAll name es []

/-- Where a search finds nothing, what is added is all that it can find. -/
theorem findSome?_insert {f : String × α → Option β} (h : es.findSome? f = none) (name : String)
    (value : α) : (insert name value es).findSome? f = f (name, value) := by
  induction es with
  | nil => simp [insert]
  | cons entry rest ih =>
    obtain ⟨hfirst, hrest⟩ := List.forall_mem_cons.mp (List.findSome?_eq_none_iff.mp h)
    have hnone := List.findSome?_eq_none_iff.mpr hrest
    unfold insert
    split
    · rw [List.findSome?_cons, hnone]
      cases f (name, value) <;> rfl
    · split
      · rw [List.findSome?_cons, List.findSome?_cons, hfirst, hnone]
        cases f (name, value) <;> rfl
      · rw [List.findSome?_cons, hfirst, ih hnone]

end Entries
end Convergence
