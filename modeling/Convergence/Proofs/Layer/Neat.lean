import Convergence.Layer.Environment
import Convergence.Proofs.Layer.Merge

/-! Values whose records hold their names in order, all the way down. Merging keeps them
so, and what the variables of the environment come to is so however they are written. -/
namespace Convergence

/-- A record has its entries in order, and so has each record below it. -/
inductive Value.Neat : Value → Prop where
  | plain {v : Value} (hplain : ∀ es, v ≠ .record es) : v.Neat
  | record {es : List (String × Value)} (hordered : Entries.Ordered es)
      (hinner : ∀ e ∈ es, e.2.Neat) : Neat (.record es)

namespace Value.Neat

variable {v old new : Value} {es : List (String × Value)} {name : String}

theorem ordered (h : Neat (.record es)) : Entries.Ordered es := by
  cases h with
  | plain hplain => exact absurd rfl (hplain es)
  | record hordered _ => exact hordered

theorem inner (h : Neat (.record es)) : ∀ e ∈ es, e.2.Neat := by
  cases h with
  | plain hplain => exact absurd rfl (hplain es)
  | record _ hinner => exact hinner

theorem find? (h : Neat (.record es)) (hv : Entries.find? name es = some v) : v.Neat :=
  h.inner (name, v) (Entries.mem_of_find? hv)

theorem ofEntries (h : ∀ e ∈ es, e.2.Neat) : (Value.ofEntries es).Neat := by
  apply Neat.record
  · apply Entries.ordered_ofList
  · intro e he
    exact h e (Entries.mem_of_mem_ofList he)

theorem nest (h : v.Neat) (path : List String) : (Value.nest path v).Neat := by
  induction path with
  | nil => exact h
  | cons name path ih =>
    apply Neat.record
    · exact List.pairwise_singleton _ _
    · intro e he
      cases List.mem_singleton.mp he
      exact ih

/-- The induction is on the value that is laid over the other, as far down as both are
records. -/
theorem merge (hold : old.Neat) (hnew : new.Neat) : (Layer.merge old new).Neat := by
  induction hnew generalizing old with
  | plain hplain =>
    rw [Layer.merge_of_no_record hplain]
    exact .plain hplain
  | @record new hordered hinner ih =>
    cases old with
    | record old =>
      rw [Layer.merge_record]
      have hmerged : Entries.Ordered (Layer.mergeEntries Layer.merge old new) :=
        Layer.ordered_mergeEntries hold.ordered
      refine .record hmerged fun ⟨name, v⟩ he => ?_
      have hv := hmerged.find?_of_mem he
      rw [Layer.find?_mergeEntries, hordered.named] at hv
      cases hnew : Entries.find? name new with
      | none =>
        rw [hnew] at hv
        exact hold.find? hv
      | some w =>
        rw [hnew] at hv
        have hw := Entries.mem_of_find? hnew
        cases hunder : Entries.find? name old with
        | none =>
          rw [hunder] at hv
          exact Option.some.inj hv ▸ hinner _ hw
        | some o =>
          rw [hunder] at hv
          exact Option.some.inj hv ▸ ih _ hw (hold.find? hunder)
    | _ => exact .record hordered hinner

theorem mergeAll {values : List Value} (hold : old.Neat) (h : ∀ v ∈ values, v.Neat) :
    (values.foldl Layer.merge old).Neat := by
  induction values generalizing old with
  | nil => exact hold
  | cons v rest ih =>
    obtain ⟨hv, hrest⟩ := List.forall_mem_cons.mp h
    exact ih (hold.merge hv) hrest

end Value.Neat

/-! ### Variables of the environment -/

namespace EnvValue

/-- With so much fuel all that is read is neat. -/
structure ReadsNeat (fuel : Nat) : Prop where
  value : ∀ chars v rest, value? fuel chars = some (v, rest) → v.Neat
  entries : ∀ chars es rest, entries? fuel chars = some (es, rest) → ∀ e ∈ es, e.2.Neat

theorem bare_neat (chars : List Char) : (bare chars).Neat := by
  apply Value.Neat.plain
  intro es
  unfold bare
  grind

/-- The blanks after a value do not change it. -/
theorem of_blanks_skipped {read : Option (Value × List Char)} {v : Value} {rest : List Char}
    (h : (read >>= fun (v, rest) => some (v, skipBlanks rest)) = some (v, rest)) :
    ∃ after, read = some (v, after) := by
  obtain ⟨⟨w, after⟩, hw, h⟩ := Option.bind_eq_some_iff.mp h
  cases h
  exact ⟨after, hw⟩

theorem neat_of_wrapped {α : Type} {read : Option (α × List Char)} {wrap : α → Value} {v : Value}
    {rest : List Char} (h : (read.map fun (a, rest) => (wrap a, rest)) = some (v, rest))
    (hwrap : ∀ a rest, read = some (a, rest) → (wrap a).Neat) : v.Neat := by
  obtain ⟨⟨a, after⟩, ha, h⟩ := Option.map_eq_some_iff.mp h
  cases h
  exact hwrap a _ ha

theorem ReadsNeat.value_succ {fuel : Nat} (ih : ReadsNeat fuel) {chars rest : List Char}
    {v : Value} (h : value? (fuel + 1) chars = some (v, rest)) : v.Neat := by
  rw [value?] at h
  dsimp only at h
  split at h
  · cases h
    exact .plain nofun
  · cases h
    exact .plain nofun
  · obtain ⟨after, h⟩ := of_blanks_skipped h
    exact neat_of_wrapped h fun _ _ _ => .plain nofun
  · obtain ⟨after, h⟩ := of_blanks_skipped h
    exact neat_of_wrapped h fun _ _ _ => .plain nofun
  · cases h
    exact .plain nofun
  · cases h
  · split at h
    · obtain ⟨after, h⟩ := of_blanks_skipped h
      exact neat_of_wrapped h fun es _ hes => .ofEntries (ih.entries _ _ _ hes)
    · cases h
      apply bare_neat
  · cases h
    exact bare_neat []

theorem ReadsNeat.entries_succ {fuel : Nat} (ih : ReadsNeat fuel) {chars rest : List Char}
    {es : List (String × Value)} (h : entries? (fuel + 1) chars = some (es, rest)) :
    ∀ e ∈ es, e.2.Neat := by
  rw [entries?] at h
  split at h
  · cases h
    exact nofun
  · obtain ⟨⟨name, afterKey⟩, -, h⟩ := Option.bind_eq_some_iff.mp h
    obtain ⟨⟨v, afterValue⟩, hv, h⟩ := Option.bind_eq_some_iff.mp h
    obtain ⟨next, -, h⟩ := Option.bind_eq_some_iff.mp h
    obtain ⟨⟨others, last⟩, hothers, h⟩ := Option.bind_eq_some_iff.mp h
    cases h
    exact List.forall_mem_cons.mpr ⟨ih.value _ _ _ hv, ih.entries _ _ _ hothers⟩

theorem readsNeat (fuel : Nat) : ReadsNeat fuel := by
  induction fuel with
  | zero => exact { value := fun _ _ _ => nofun, entries := fun _ _ _ => nofun }
  | succ fuel ih =>
    exact
      { value := fun _ _ _ => ih.value_succ
        entries := fun _ _ _ => ih.entries_succ }

theorem ofText_neat (s : String) : (ofText s).Neat := by
  unfold ofText
  split
  · rename_i v hv
    exact (readsNeat _).value _ _ _ hv
  · exact .plain nofun

end EnvValue

namespace Environment

theorem setting?_neat {name value : String} {v : Value} (h : setting? name value = some v) :
    v.Neat := by
  obtain ⟨path, -, rfl⟩ := Option.map_eq_some_iff.mp h
  exact (EnvValue.ofText_neat value).nest path

theorem layer_neat (env : List (String × String)) : (layer env).value.Neat := by
  apply Value.Neat.ofEntries
  unfold layer
  dsimp only
  generalize hsettings : (Entries.ofList env).filterMap _ = settings
  have hmerged : (settings.foldl Layer.merge (.record [])).Neat := by
    apply Value.Neat.mergeAll (.record List.Pairwise.nil nofun)
    intro v hv
    rw [← hsettings] at hv
    obtain ⟨entry, -, hsetting⟩ := List.mem_filterMap.mp hv
    exact setting?_neat hsetting
  split
  · rename_i es hes
    rw [hes] at hmerged
    exact hmerged.inner
  · exact nofun

end Environment

end Convergence
