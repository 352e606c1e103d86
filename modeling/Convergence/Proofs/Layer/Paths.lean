import Convergence.Proofs.Layer.Neat
import Mathlib.Data.List.Induction

/-! What stands at a path in merged layers. It is what the layers say there, each laid over
the ones before it, as long as there are records all along the path. The last layer that says
anything decides, unless it says a record: that is joined with the records right before it. -/
namespace Convergence

/-- There are records all along the path, up to where it ends or leads to nothing. -/
def Value.Leads : List String → Value → Prop
  | [], _ => True
  | name :: path, v => ∃ es, v = .record es ∧ ∀ w, Entries.find? name es = some w → w.Leads path

namespace Layer

variable {name : String} {path : List String} {old new v : Value} {values : List Value}
  {layers : List Layer}

/-- Values, each laid over those before it. -/
def laid (values : List Value) : Option Value := values.foldl (overlay merge) none

/-- All that layers say at a path, in their order. -/
def said (layers : List Layer) (path : List String) : List Value :=
  layers.filterMap fun l => find? path l.value

/-- What the last layer says that says anything at the path. -/
def strongest? (layers : List Layer) (path : List String) : Option Value :=
  (said layers path).getLast?

theorem find?_cons (name : String) (path : List String) (es : List (String × Value)) :
    find? (name :: path) (.record es) = (Entries.find? name es).bind (find? path) := rfl

theorem find?_append (front back : List String) (v : Value) :
    find? (front ++ back) v = (find? front v).bind (find? back) := by
  induction front generalizing v with
  | nil => rfl
  | cons name front ih =>
    change (child? name v).bind (find? (front ++ back)) = ((child? name v).bind _).bind _
    rw [Option.bind_assoc, funext ih]

theorem leads_append (front back : List String) (h : v.Leads (front ++ back)) :
    v.Leads front ∧ ∀ w, find? front v = some w → w.Leads back := by
  induction front generalizing v with
  | nil =>
    refine ⟨trivial, ?_⟩
    rintro _ ⟨⟩
    exact h
  | cons name front ih =>
    obtain ⟨es, rfl, hes⟩ := h
    refine ⟨⟨es, rfl, fun u hu => (ih (hes u hu)).1⟩, fun w hw => ?_⟩
    obtain ⟨u, hu, hw⟩ := Option.bind_eq_some_iff.mp hw
    exact (ih (hes u hu)).2 w hw

/-! ### Merging along a path -/

theorem leads_merge (hold : old.Leads path) (hnew : new.Leads path) (hneat : new.Neat) :
    (merge old new).Leads path := by
  induction path generalizing old new with
  | nil => trivial
  | cons name path ih =>
    obtain ⟨es, rfl, hes⟩ := hold
    obtain ⟨fs, rfl, hfs⟩ := hnew
    refine ⟨mergeEntries merge es fs, merge_record es fs, fun w hw => ?_⟩
    rw [find?_mergeEntries, hneat.ordered.named] at hw
    cases hover : Entries.find? name fs with
    | none =>
      rw [hover] at hw
      exact hes w hw
    | some u =>
      rw [hover] at hw
      cases hunder : Entries.find? name es with
      | none =>
        rw [hunder] at hw
        exact Option.some.inj hw ▸ hfs u hover
      | some o =>
        rw [hunder] at hw
        exact Option.some.inj hw ▸ ih (hes o hunder) (hfs u hover) (hneat.find? hover)

/-- What the new value says at the path is laid over what stood there. -/
theorem find?_merge (hold : old.Leads path) (hnew : new.Leads path) (hneat : new.Neat) :
    find? path (merge old new) = (find? path new).toList.foldl (overlay merge) (find? path old) := by
  induction path generalizing old new with
  | nil => rfl
  | cons name path ih =>
    obtain ⟨es, rfl, hes⟩ := hold
    obtain ⟨fs, rfl, hfs⟩ := hnew
    rw [merge_record, find?_cons, find?_cons, find?_cons, find?_mergeEntries,
      hneat.ordered.named]
    cases hover : Entries.find? name fs with
    | none => rfl
    | some u =>
      cases hunder : Entries.find? name es with
      | none =>
        change find? path u = (find? path u).toList.foldl (overlay merge) none
        cases find? path u <;> rfl
      | some o => exact ih (hes o hunder) (hfs u hover) (hneat.find? hover)

theorem said_cons (l : Layer) (layers : List Layer) (path : List String) :
    said (l :: layers) path = (find? path l.value).toList ++ said layers path := by
  unfold said
  cases hl : find? path l.value with
  | none => exact List.filterMap_cons_none hl
  | some v => exact List.filterMap_cons_some hl

theorem mergeAll_neat (hneat : ∀ l ∈ layers, l.value.Neat) : (mergeAll layers).Neat := by
  unfold mergeAll
  rw [← List.foldl_map]
  apply Value.Neat.mergeAll (.record List.Pairwise.nil nofun)
  intro v hv
  obtain ⟨l, hl, rfl⟩ := List.mem_map.mp hv
  exact hneat l hl

/-- The induction is on the layers, from what has been merged before them. -/
theorem find?_mergeAll (hpath : path ≠ []) (hneat : ∀ l ∈ layers, l.value.Neat)
    (hleads : ∀ l ∈ layers, l.value.Leads path) :
    (mergeAll layers).Leads path ∧ find? path (mergeAll layers) = laid (said layers path) := by
  have hfold : ∀ start : Value, start.Leads path →
      let merged := layers.foldl (fun v l => merge v l.value) start
      merged.Leads path ∧
        find? path merged = (said layers path).foldl (overlay merge) (find? path start) := by
    induction layers with
    | nil => exact fun _ hstart => ⟨hstart, rfl⟩
    | cons l rest ih =>
      intro start hstart
      obtain ⟨hl, hrest⟩ := List.forall_mem_cons.mp hneat
      obtain ⟨hleadsTo, hothers⟩ := List.forall_mem_cons.mp hleads
      have hmerged := ih hrest hothers _ (leads_merge hstart hleadsTo hl)
      rw [find?_merge hstart hleadsTo hl] at hmerged
      rw [said_cons, List.foldl_append]
      exact hmerged
  obtain ⟨name, path, rfl⟩ := List.exists_cons_of_ne_nil hpath
  exact hfold (.record []) ⟨[], rfl, nofun⟩

/-- What a path along records leads to is as neat as the whole. -/
theorem neat_of_find? {w : Value} (hv : v.Neat) (hleads : v.Leads path)
    (hfound : find? path v = some w) : w.Neat := by
  induction path generalizing v with
  | nil => exact Option.some.inj hfound ▸ hv
  | cons name path ih =>
    obtain ⟨es, rfl, hes⟩ := hleads
    obtain ⟨u, hu, hfound⟩ := Option.bind_eq_some_iff.mp hfound
    exact ih (hv.find? hu) (hes u hu) hfound

theorem said_neat (hneat : ∀ l ∈ layers, l.value.Neat) (hleads : ∀ l ∈ layers, l.value.Leads path) :
    ∀ v ∈ said layers path, v.Neat := by
  intro v hv
  obtain ⟨l, hl, hfound⟩ := List.mem_filterMap.mp hv
  exact neat_of_find? (hneat l hl) (hleads l hl) hfound

/-! ### Values laid over one another -/

theorem laid_cons (v : Value) (rest : List Value) : laid (v :: rest) = some (rest.foldl merge v) := by
  have hfold : ∀ o : Value, rest.foldl (overlay merge) (some o) = some (rest.foldl merge o) := by
    induction rest with
    | nil => exact fun _ => rfl
    | cons w rest ih => exact fun o => ih (merge o w)
  exact hfold v

theorem laid_concat (values : List Value) (v : Value) :
    laid (values ++ [v]) = overlay merge (laid values) v := by
  unfold laid
  rw [List.foldl_append]
  rfl

theorem laid_eq_none : laid values = none ↔ values = [] := by
  cases values with
  | nil => simp [laid]
  | cons v rest => simp [laid_cons]

theorem laid_neat (h : ∀ v ∈ values, v.Neat) (hlaid : laid values = some v) : v.Neat := by
  cases values with
  | nil => cases hlaid
  | cons first rest =>
    obtain ⟨hfirst, hrest⟩ := List.forall_mem_cons.mp h
    rw [laid_cons] at hlaid
    exact Option.some.inj hlaid ▸ hfirst.mergeAll hrest

/-- What is no record counts alone. -/
theorem laid_of_last (hlast : values.getLast? = some v) (hplain : ∀ es, v ≠ .record es) :
    laid values = some v := by
  obtain ⟨before, rfl⟩ := List.getLast?_eq_some_iff.mp hlast
  rw [laid_concat]
  exact overlay_of_no_record hplain _

/-! ### Records laid over one another -/

/-- The records that a list of values begins with. -/
def firstRecords : List Value → List (List (String × Value))
  | .record es :: rest => es :: firstRecords rest
  | _ => []

/-- The records that no other value comes after, the last one first. -/
def lastRecords (values : List Value) : List (List (String × Value)) := firstRecords values.reverse

theorem lastRecords_concat (values : List Value) (es : List (String × Value)) :
    lastRecords (values ++ [.record es]) = es :: lastRecords values := by
  unfold lastRecords
  rw [List.reverse_append]
  rfl

theorem lastRecords_of_no_record (values : List Value) (h : ∀ es, v ≠ .record es) :
    lastRecords (values ++ [v]) = [] := by
  unfold lastRecords
  rw [List.reverse_append]
  cases v with
  | record es => exact absurd rfl (h es)
  | _ => rfl

theorem recordIn_of_no_record (h : ∀ es, v ≠ .record es) : recordIn (some v) = [] := by
  cases v with
  | record es => exact absurd rfl (h es)
  | _ => rfl

/-- The joined record has the names of all the records, and no other name. -/
theorem find?_lastRecords (h : ∀ v ∈ values, v.Neat) (name : String) :
    (Entries.find? name (recordIn (laid values))).isSome ↔
      ∃ es ∈ lastRecords values, (Entries.find? name es).isSome := by
  induction values using List.reverseRecOn with
  | nil => simp [laid, recordIn, lastRecords, firstRecords, Entries.find?]
  | append_singleton values v ih =>
    obtain ⟨hvalues, hlast⟩ := List.forall_mem_append.mp h
    have hv : v.Neat := hlast v List.mem_cons_self
    by_cases hrecord : ∃ es, v = .record es
    · obtain ⟨es, rfl⟩ := hrecord
      rw [laid_concat, overlay_record hv.ordered, lastRecords_concat, List.exists_mem_cons_iff,
        ← ih hvalues]
      change (Entries.find? name (mergeEntries merge (recordIn (laid values)) es)).isSome ↔ _
      rw [find?_mergeEntries, hv.ordered.named]
      cases Entries.find? name es with
      | none => simp
      | some w => cases Entries.find? name (recordIn (laid values)) <;> simp [overlay]
    · have hplain : ∀ es, v ≠ .record es := not_exists.mp hrecord
      rw [laid_concat, overlay_of_no_record hplain, recordIn_of_no_record hplain,
        lastRecords_of_no_record values hplain]
      simp [Entries.find?]

/-- Of all names in the records none comes before this one, which is in one of them. -/
structure LeastName (records : List (List (String × Value))) (name : String) : Prop where
  mem : ∃ es ∈ records, (Entries.find? name es).isSome
  least : ∀ es ∈ records, ∀ other, (Entries.find? other es).isSome →
    other = name ∨ Text.before name other = true

/-- A record that stands last is joined with those right before it. -/
theorem laid_of_record {es : List (String × Value)} (h : ∀ v ∈ values, v.Neat)
    (hlast : values.getLast? = some (.record es)) :
    ∃ joined, laid values = some (.record joined) ∧ Entries.Ordered joined ∧
      ∀ name, (Entries.find? name joined).isSome ↔
        ∃ es ∈ lastRecords values, (Entries.find? name es).isSome := by
  have hnames := find?_lastRecords h
  obtain ⟨before, rfl⟩ := List.getLast?_eq_some_iff.mp hlast
  have hes : Value.Neat (.record es) := h _ (List.mem_append_right _ List.mem_cons_self)
  have hlaid : laid (before ++ [.record es]) =
      some (.record (mergeEntries merge (recordIn (laid before)) es)) := by
    rw [laid_concat, overlay_record hes.ordered]
  rw [hlaid] at hnames
  exact ⟨_, hlaid, (laid_neat h hlaid).ordered, hnames⟩

/-- The first name in the joined record is the least of all. -/
theorem leastName_of_joined {key : String} {v : Value} {rest : List (String × Value)}
    {records : List (List (String × Value))} (hordered : Entries.Ordered ((key, v) :: rest))
    (hnames : ∀ name, (Entries.find? name ((key, v) :: rest)).isSome ↔
      ∃ es ∈ records, (Entries.find? name es).isSome) : LeastName records key := by
  constructor
  · rw [← hnames]
    simp [Entries.find?]
  · intro es hes other hother
    have hjoined := (hnames other).mpr ⟨es, hes, hother⟩
    obtain ⟨w, hw⟩ := Option.isSome_iff_exists.mp hjoined
    rcases List.mem_cons.mp (Entries.mem_of_find? hw) with hfirst | hlater
    · exact .inl (congrArg Prod.fst hfirst)
    · exact .inr ((List.pairwise_cons.mp hordered).1 _ hlater)

end Layer
end Convergence
