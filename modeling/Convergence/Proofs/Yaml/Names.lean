import Convergence.Proofs.Layer.Neat
import Convergence.Proofs.Results
import Convergence.Yaml.Document

/-! Mappings as they are read from a document. However a mapping is written, its names
stand in their order when it has been read, so none of them stands twice. -/
namespace Convergence

namespace Yaml

theorem neat_of_map {α : Type} {wrap : α → Value} {a? : Option α} {v : Value}
    (h : a?.map wrap = some v) (hwrap : ∀ a, (wrap a).Neat) : v.Neat := by
  obtain ⟨a, -, rfl⟩ := Option.map_eq_some_iff.mp h
  exact hwrap a

theorem int?_neat {chars : List Char} {v : Value} (h : int? chars = some v) : v.Neat := by
  unfold int? at h
  split at h
  · cases h
  · split at h
    · exact neat_of_map h fun _ => .plain nofun
    · exact neat_of_map h fun _ => .plain nofun
    · exact neat_of_map h fun _ => .plain nofun

theorem resolvePlain_neat (s : String) : (resolvePlain s).Neat := by
  unfold resolvePlain
  split
  · exact .plain nofun
  · split
    · exact .plain nofun
    · split
      · rename_i hint
        exact int?_neat hint
      · split
        · exact .plain nofun
        · split <;> exact .plain nofun

theorem untagged_neat (s : String) (style : ScalarStyle) : (untagged s style).Neat := by
  unfold untagged
  split
  · exact resolvePlain_neat s
  · exact .plain nofun

theorem neat_of_demanded {s what : String} {v? : Option Value} {v : Value}
    (h : demanded s v? what = .ok v) (hv : ∀ v, v? = some v → v.Neat) : v.Neat := by
  cases v? with
  | none => cases h
  | some w =>
    cases h
    exact hv v rfl

theorem resolve_neat {tag : Option TagName} {s : String} {style : ScalarStyle} {v : Value}
    (h : resolve tag s style = .ok v) : v.Neat := by
  unfold resolve at h
  split at h
  · cases h
    exact untagged_neat s style
  · split at h
    · exact neat_of_demanded h fun _ hv => neat_of_map hv fun _ => .plain nofun
    · split at h
      · exact neat_of_demanded h fun _ => int?_neat
      · split at h
        · exact neat_of_demanded h fun _ hv => neat_of_map hv fun _ => .plain nofun
        · split at h
          · refine neat_of_demanded h fun w hw => ?_
            split at hw <;> cases hw
            exact .plain nofun
          · split at h
            · cases h
              exact resolvePlain_neat s
            · cases h
              exact .plain nofun

/-! ### Nodes -/

theorem Fields.neat {es : List (String × Node)} (h : ∀ e ∈ es, e.2.value.Neat) :
    ∀ e ∈ (Fields.ofEntries es).entries, e.2.Neat := by
  intro e he
  obtain ⟨⟨name, n⟩, hn, rfl⟩ := List.mem_map.mp he
  exact h _ (Entries.mem_of_mem_ofList hn)

namespace Node

variable {n : Node} {es : List (String × Node)}

theorem tagged_neat (tag : Option TagName) (h : n.value.Neat) :
    (n.tagged tag).value.Neat := by
  unfold tagged
  split
  · exact h
  · exact h.nest _

theorem ofEntries_neat (h : ∀ e ∈ es, e.2.value.Neat) : (ofEntries es).value.Neat := by
  unfold ofEntries
  dsimp only
  split
  · rename_i n hn
    have hvalue := h _ (Entries.mem_of_mem_ofList (Entries.mem_of_find? hn))
    split
    · unfold ofOrigin
      split <;> exact hvalue
    · exact hvalue
  · apply Value.Neat.record
    · exact (Entries.ordered_ofList _).map fun _ (n : Node) => n.value
    · exact Fields.neat fun e he => h e (Entries.mem_of_mem_ofList (List.mem_of_mem_filter he))

end Node

namespace DocumentReader

variable {d : DocumentReader} {fuel : Nat}

/-- With so much fuel all that is read is neat. -/
structure ReadsNeat (d : DocumentReader) (fuel : Nat) : Prop where
  node : ∀ path depth r n after, d.node path depth r fuel = .ok (n, after) → n.value.Neat
  entries : ∀ path depth inside r es after, d.entries path depth inside r fuel = .ok (es, after) →
    ∀ e ∈ es, e.2.value.Neat

theorem ReadsNeat.node_succ (ih : d.ReadsNeat fuel) {path : Path} {depth : Nat}
    {r after : Reading} {n : Node} (h : d.node path depth r (fuel + 1) = .ok (n, after)) :
    n.value.Neat := by
  rw [DocumentReader.node, bind_eq_ok] at h
  obtain ⟨⟨event, mark⟩, -, h⟩ := h
  cases event with
  | «alias» place =>
    obtain ⟨followed, -, h⟩ := bind_eq_ok.mp h
    obtain ⟨⟨m, rest⟩, hm, h⟩ := bind_eq_ok.mp h
    cases h
    exact ih.node _ _ _ _ _ hm
  | scalar tag text style =>
    dsimp only at h
    split at h
    · cases h
      exact Node.tagged_neat tag (untagged_neat text style)
    · split at h
      · rename_i v hv
        cases h
        exact resolve_neat hv
      · cases h
  | sequenceStart tag =>
    dsimp only at h
    split at h
    · cases h
    · obtain ⟨⟨ns, rest⟩, -, h⟩ := bind_eq_ok.mp h
      cases h
      exact Node.tagged_neat tag (.plain nofun)
  | mappingStart tag =>
    dsimp only at h
    split at h
    · cases h
    · obtain ⟨⟨es, rest⟩, hes, h⟩ := bind_eq_ok.mp h
      cases h
      exact Node.tagged_neat tag (Node.ofEntries_neat (ih.entries _ _ _ _ _ _ hes))
  | absent =>
    cases h
    exact .plain nofun
  | sequenceEnd => cases h
  | mappingEnd => cases h

theorem ReadsNeat.entries_succ (ih : d.ReadsNeat fuel) {path : Path} {depth : Nat}
    {inside : Bool} {r after : Reading} {es : List (String × Node)}
    (h : d.entries path depth inside r (fuel + 1) = .ok (es, after)) :
    ∀ e ∈ es, e.2.value.Neat := by
  rw [DocumentReader.entries, bind_eq_ok] at h
  obtain ⟨⟨event, mark⟩, -, h⟩ := h
  dsimp only at h
  split at h
  · cases h
    exact nofun
  · obtain ⟨⟨name, afterKey⟩, -, h⟩ := bind_eq_ok.mp h
    dsimp only at h
    split at h
    · obtain ⟨⟨n, rest⟩, hn, h⟩ := bind_eq_ok.mp h
      obtain ⟨⟨others, last⟩, hothers, h⟩ := bind_eq_ok.mp h
      cases h
      refine List.forall_mem_cons.mpr ⟨?_, ih.entries _ _ _ _ _ _ hothers⟩
      obtain ⟨number, -, hnumber⟩ := map_eq_ok.mp hn
      cases hnumber
      exact .plain nofun
    · obtain ⟨⟨n, rest⟩, hn, h⟩ := bind_eq_ok.mp h
      obtain ⟨⟨others, last⟩, hothers, h⟩ := bind_eq_ok.mp h
      cases h
      exact List.forall_mem_cons.mpr ⟨ih.node _ _ _ _ _ hn, ih.entries _ _ _ _ _ _ hothers⟩

theorem readsNeat (d : DocumentReader) (fuel : Nat) : d.ReadsNeat fuel := by
  induction fuel with
  | zero => exact { node := fun _ _ _ _ _ => nofun, entries := fun _ _ _ _ _ _ => nofun }
  | succ fuel ih =>
    exact
      { node := fun _ _ _ _ _ => ih.node_succ
        entries := fun _ _ _ _ _ _ => ih.entries_succ }

end DocumentReader

theorem root_neat {d : DocumentReader} {fields : Fields} (h : d.root = .ok fields) :
    ∀ e ∈ fields.entries, e.2.Neat := by
  have hempty : ∀ e ∈ (Fields.ofEntries []).entries, e.2.Neat := Fields.neat nofun
  unfold DocumentReader.root at h
  obtain ⟨⟨event, mark⟩, -, h⟩ := bind_eq_ok.mp h
  cases event with
  | absent =>
    cases h
    exact hempty
  | mappingStart tag =>
    obtain ⟨⟨es, rest⟩, hes, h⟩ := bind_eq_ok.mp h
    cases h
    exact Fields.neat ((DocumentReader.readsNeat d _).entries _ _ _ _ _ _ hes)
  | scalar tag text style =>
    dsimp only at h
    split at h
    · cases h
      exact hempty
    · split at h <;> cases h
  | sequenceStart tag => cases h
  | «alias» place => cases h
  | sequenceEnd => cases h
  | mappingEnd => cases h

/-- Each value of a document that is a mapping holds its names in order, and so do the
values below it. -/
theorem readMapping_neat {text : String} {fields : Fields} (h : readMapping text = .ok fields) :
    ∀ e ∈ fields.entries, e.2.Neat := by
  unfold readMapping at h
  generalize Document.ofEvents _ = read at h
  obtain ⟨document, more⟩ := read
  obtain ⟨found, hfound, h⟩ := bind_eq_ok.mp h
  have hsame : found = fields := by
    cases hfailure : document.failure with
    | some fault =>
      rw [hfailure] at h
      cases h
    | none =>
      rw [hfailure] at h
      dsimp only at h
      split at h
      · cases h
        rfl
      · split at h <;> cases h
        rfl
  exact hsame ▸ root_neat hfound

end Yaml
end Convergence
