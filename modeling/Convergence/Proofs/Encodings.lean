import Convergence.Cluster.Encoding
import Convergence.Proofs.Decode.Layout
import Convergence.Proofs.Settings.Precedence

/-! What is written as a value is read back as it was: settings, what a cluster tells, and how
it fails. A profile mentions the limits that it sets and no others, so the layer below all
others is read as the standard settings. -/
namespace Convergence

open Decode

namespace Decode

variable {α : Type} {r : Reader α} {es : List (String × Value)}

theorem undoes_string : Undoes string .text := undoes_text "a string"

theorem undoes_string? : Undoes (option string) .ofText? := undoes_text? "a string"

theorem undoes_count : Undoes uint32 count := fun n =>
  .of_scalar rfl (Profile.uint32_unsigned n)

theorem undoes_count? : Undoes (option uint32) (.ofOption count) :=
  undoes_count.option fun _ => Value.noConfusion

theorem exists_entries (h : ∀ e ∈ es, ∃ a, r e.2 = .ok a) : ∃ qs, entries r es = .ok qs := by
  induction es with
  | nil => exact ⟨[], rfl⟩
  | cons entry rest ih =>
    obtain ⟨⟨a, ha⟩, hrest⟩ := List.forall_mem_cons.mp h
    obtain ⟨qs, hqs⟩ := ih hrest
    exact ⟨_, entries_cons.mpr ⟨a, qs, ha, hqs, rfl⟩⟩

/-- Entries come back under their names, and are the same once they are in order. -/
theorem Undoes.entries {write : α → Value} (h : Undoes r write) {as : List (String × α)}
    (hordered : Entries.Ordered as) {w : Value}
    (hw : (Value.record (as.map fun e => (e.1, write e.2))).Rearranged w) :
    ∃ qs, map r w = .ok qs ∧ Entries.ofList qs = as := by
  have hwritten := hordered.map fun _ => write
  obtain ⟨fs, rfl, hnames, hunder⟩ := hw.entries hwritten.names_nodup
  have hread : ∀ name u, (name, u) ∈ fs → ∃ a, Entries.find? name as = some a ∧ r u = .ok a := by
    intro name u hu
    have hname := hnames.mem_iff.mp (List.mem_map.mpr ⟨_, hu, rfl⟩)
    obtain ⟨e, he, hsame⟩ := List.mem_map.mp hname
    obtain ⟨⟨other, a⟩, ha, rfl⟩ := List.mem_map.mp he
    cases hsame
    exact ⟨a, hordered.find?_of_mem ha, h a u (hunder name _ u he hu)⟩
  obtain ⟨qs, hqs⟩ := exists_entries fun e he => by
    obtain ⟨a, -, ha⟩ := hread e.1 e.2 he
    exact ⟨a, ha⟩
  have hnodup : (qs.map (·.1)).Nodup := by
    rw [entries_names hqs, hnames.nodup_iff]
    exact hwritten.names_nodup
  refine ⟨qs, hqs, (Entries.ordered_ofList qs).ext hordered fun name => ?_⟩
  rw [Entries.find?_ofList hnodup]
  have hfound := entries_find? hqs name
  cases hu : Entries.find? name fs with
  | none =>
    have habsent : Entries.find? name as = none := by
      have hname : name ∉ fs.map (·.1) := by
        rw [← Entries.find?_isSome_iff, hu]
        exact Bool.false_ne_true
      rw [hnames.mem_iff, ← Entries.find?_isSome_iff, Entries.find?_map fun _ => write,
        Option.isSome_map, Option.not_isSome_iff_eq_none] at hname
      exact hname
    rw [hu] at hfound
    rw [habsent]
    exact Option.map_eq_none_iff.mp hfound.symm
  | some u =>
    obtain ⟨a, ha, hu'⟩ := hread name u (Entries.mem_of_find? hu)
    rw [hu, Option.map_some, hu'] at hfound
    obtain ⟨b, hb, hsame⟩ := Option.map_eq_some_iff.mp hfound.symm
    cases hsame
    exact hb.trans ha.symm

end Decode

/-! ### Objects of a cluster -/

namespace Container

def layout : Layout Container where
  fields :=
    [{ name := "name", need := .required, read := string, get := name
       set := fun s c => { c with name := s } },
     { name := "terminated", need := .required, read := bool, get := terminated
       set := fun b c => { c with terminated := b } }]

theorem undoes : Undoes ofValue toValue := by
  intro c
  refine layout.reads .json "ContainerStatus" (by simp) ?_
  simpa [layout, Layout.Kept, Entries.find?] using
    ⟨undoes_string c.name, undoes_bool c.terminated⟩

end Container

namespace Pod

def layout : Layout Pod where
  fields :=
    [{ name := "name", need := .required, read := string, get := name
       set := fun s p => { p with name := s } },
     { name := "phase", need := .optional, read := option string, get := phase
       set := fun s p => { p with phase := s } },
     { name := "container_statuses", need := .defaulted, read := list Container.ofValue
       get := containers
       set := fun cs p => { p with containers := cs } }]

theorem undoes : Undoes ofValue toValue := by
  intro p
  refine layout.reads .json "PodStatus" (by simp) ?_
  simpa [layout, Layout.Kept, Entries.find?] using
    ⟨undoes_string p.name, undoes_string? p.phase, Container.undoes.list p.containers⟩

end Pod

namespace Deployment

def layout : Layout Deployment where
  fields :=
    [{ name := "replicas", need := .optional, read := option uint32, get := replicas
       set := fun n d => { d with replicas := n } },
     { name := "ready_replicas", need := .optional, read := option uint32, get := ready
       set := fun n d => { d with ready := n } },
     { name := "available_replicas", need := .optional, read := option uint32, get := available
       set := fun n d => { d with available := n } }]

theorem undoes : Undoes ofValue toValue := by
  intro d
  refine layout.reads .json "DeploymentStatus" (by simp) ?_
  simpa [layout, Layout.Kept, Entries.find?] using
    ⟨undoes_count? d.replicas, undoes_count? d.ready, undoes_count? d.available⟩

end Deployment

namespace Taint

def layout : Layout Taint where
  fields :=
    [{ name := "key", need := .required, read := string, get := key
       set := fun s t => { t with key := s } },
     { name := "value", need := .optional, read := option string, get := value
       set := fun s t => { t with value := s } },
     { name := "effect", need := .required, read := string, get := effect
       set := fun s t => { t with effect := s } }]

theorem undoes : Undoes ofValue toValue := by
  intro t
  refine layout.reads .json "Taint" (by simp) ?_
  simpa [layout, Layout.Kept, Entries.find?] using
    ⟨undoes_string t.key, undoes_string? t.value, undoes_string t.effect⟩

end Taint

namespace Node

def layout : Layout Node where
  fields :=
    [{ name := "name", need := .required, read := string, get := name
       set := fun s n => { n with name := s } },
     { name := "taints", need := .defaulted, read := list Taint.ofValue, get := taints
       set := fun ts n => { n with taints := ts } }]

theorem undoes : Undoes ofValue toValue := by
  intro n
  refine layout.reads .json "NodeInfo" (by simp) ?_
  simpa [layout, Layout.Kept, Entries.find?] using
    ⟨undoes_string n.name, Taint.undoes.list n.taints⟩

end Node

namespace ResourceKind

def layout : Layout ResourceKind where
  fields :=
    [{ name := "group", need := .required, read := string, get := group
       set := fun s k => { k with group := s } },
     { name := "version", need := .required, read := string, get := version
       set := fun s k => { k with version := s } },
     { name := "plural", need := .required, read := string, get := plural
       set := fun s k => { k with plural := s } }]

theorem undoes : Undoes ofValue toValue := by
  intro k
  refine layout.reads .json "CustomResourceRef" (by simp) ?_
  simpa [layout, Layout.Kept, Entries.find?] using
    ⟨undoes_string k.group, undoes_string k.version, undoes_string k.plural⟩

end ResourceKind

namespace ClusterFault

def statusLayout : Layout (UInt16 × String) where
  fields :=
    [{ name := "status", need := .required, read := uint16, get := Prod.fst
       set := fun code s => (code, s.2) },
     { name := "message", need := .required, read := string, get := Prod.snd
       set := fun message s => (s.1, message) }]

theorem undoes_code : Undoes uint16 fun code => .unsigned code.toNat := by
  refine fun code => .of_scalar rfl ?_
  unfold uint16
  rw [Profile.below_unsigned code.toNat_lt]
  exact congrArg Except.ok UInt16.ofNat_toNat

theorem reads_status (code : UInt16) (message : String) :
    Reads statusOfValue
      (.ofEntries [("status", .unsigned code.toNat), ("message", .text message)])
      (status code message) := by
  have hrecord : Reads (record .json "Api" statusLayout.slots (0, ""))
      (.ofEntries [("status", .unsigned code.toNat), ("message", .text message)])
      (code, message) := by
    refine statusLayout.reads .json "Api" (by simp) ?_
    simpa [statusLayout, Layout.Kept, Entries.find?] using
      ⟨undoes_code code, undoes_string message⟩
  intro w hw
  obtain ⟨fs, rfl, -⟩ := hw.entries (Entries.ordered_ofList _).names_nodup
  change (record .json "Api" statusLayout.slots (0, "") (.record fs)).map _ = _
  rw [hrecord _ hw]
  rfl

theorem undoes : Undoes ofValue toValue := by
  intro fault w hw
  cases fault with
  | status code message =>
    obtain ⟨u, rfl, hu⟩ := hw.single
    exact reads_status code message u hu
  | transport detail =>
    obtain ⟨u, rfl, hu⟩ := hw.single
    exact congrArg (Except.map transport) (undoes_string detail u hu)
  | undecodable detail =>
    obtain ⟨u, rfl, hu⟩ := hw.single
    exact congrArg (Except.map undecodable) (undoes_string detail u hu)

end ClusterFault

/-! ### Settings -/

namespace Profile

def layout : Layout Profile where
  fields :=
    [{ name := "interval_secs", need := .required, read := uint64, get := intervalSecs
       set := fun n p => { p with intervalSecs := n } },
     { name := "max_attempts", need := .defaulted, read := option uint32, get := maxAttempts
       set := fun n p => { p with maxAttempts := n } },
     { name := "timeout_secs", need := .defaulted, read := option uint64, get := timeoutSecs
       set := fun n p => { p with timeoutSecs := n } }]

theorem undoes_secs : Undoes uint64 fun n => .unsigned n.toNat := fun n =>
  .of_scalar rfl (uint64_unsigned n)

/-- What is left out where it is not set comes back all the same. -/
theorem reads_limit {β : Type} {r : Reader β} {write : β → Value} (h : Undoes r write)
    (hwrite : ∀ b, write b ≠ .null) (o : Option β) :
    match o.map write with
    | some v => Reads (option r) v o
    | none => none = o := by
  cases o with
  | none => rfl
  | some b => exact (h b).some (hwrite b)

theorem undoes (d : Dialect) : Undoes (ofValue d) toValue := by
  intro p
  have hwritten : p.toValue = .ofEntries p.written := rfl
  rw [hwritten]
  refine layout.reads d "WaitProfile" p.ordered_written.names_nodup ?_
  simpa [layout, Layout.Kept, find?_written] using
    ⟨undoes_secs p.intervalSecs,
      reads_limit undoes_count (fun _ => Value.noConfusion) p.maxAttempts,
      reads_limit undoes_secs (fun _ => Value.noConfusion) p.timeoutSecs⟩

/-- What a written profile mentions: its interval, and the limits that it sets. -/
theorem mentions (p : Profile) (name : String) :
    (p.toValue.entry? name).isSome ↔
      name = "interval_secs" ∨ (name = "max_attempts" ∧ p.maxAttempts.isSome) ∨
        (name = "timeout_secs" ∧ p.timeoutSecs.isSome) := by
  rw [toValue_eq]
  change (Entries.find? name p.written).isSome ↔ _
  rw [find?_written]
  split
  · simp_all
  · split
    · simp_all
    · split <;> simp_all

end Profile

theorem Profiles.undoes (d : Dialect) : Undoes (ofValue d) toValue := by
  intro ps w hw
  obtain ⟨qs, hread, hsame⟩ := (Profile.undoes d).entries ps.ordered hw
  unfold ofValue
  rw [hread]
  unfold Except.map ofList
  simp only [hsame]

theorem LogFormat.undoes (d : Dialect) : Undoes (ofValue d) fun format => .text format.code := by
  intro format
  refine .of_scalar rfl ?_
  cases format <;> rfl

theorem Rotation.undoes (d : Dialect) : Undoes (ofValue d) fun rotation => .text rotation.code := by
  intro rotation
  refine .of_scalar rfl ?_
  cases rotation <;> rfl

namespace LogSettings

def layout (d : Dialect) : Layout LogSettings where
  fields :=
    [{ name := "level", need := .defaulted, read := string, get := level
       set := fun level s => { s with level } },
     { name := "format", need := .defaulted, read := LogFormat.ofValue d, get := format
       set := fun format s => { s with format } },
     { name := "log_dir", need := .defaulted, read := option (text "path string"), get := logDir
       set := fun dir s => { s with logDir := dir } },
     { name := "enable_stderr", need := .defaulted, read := bool, get := toStderr
       set := fun b s => { s with toStderr := b } },
     { name := "rotation", need := .defaulted, read := Rotation.ofValue d, get := rotation
       set := fun rotation s => { s with rotation } }]

theorem undoes (d : Dialect) : Undoes (ofValue d) toValue := by
  intro s
  unfold ofValue
  rw [filled_fields]
  refine (layout d).reads d "LogConfig" (by simp) ?_
  simpa [layout, Layout.Kept, Entries.find?] using
    ⟨undoes_string s.level, LogFormat.undoes d s.format, undoes_text? "path string" s.logDir,
      undoes_bool s.toStderr, Rotation.undoes d s.rotation⟩

end LogSettings

namespace Settings

def layout (d : Dialect) : Layout Settings where
  fields :=
    [{ name := "namespace", need := .defaulted, read := string, get := space
       set := fun space s => { s with space } },
     { name := "logging", need := .defaulted, read := LogSettings.ofValue d, get := logging
       set := fun logging s => { s with logging } },
     { name := "profiles", need := .defaulted, read := Profiles.ofValue d, get := profiles
       set := fun profiles s => { s with profiles } }]

theorem undoes (d : Dialect) : Undoes (ofValue d) toValue := by
  intro s
  refine (layout d).reads d "Config" (by simp) ?_
  simpa [layout, Layout.Kept, Entries.find?] using
    ⟨undoes_string s.space, LogSettings.undoes d s.logging, Profiles.undoes d s.profiles⟩

end Settings

/-- Whatever is written is read back, in whatever order the entries of its records come, and
settings from a document as well as from a layer. A written profile mentions the limits that it
sets and no others. So the layer below all others is read as the standard settings. -/
theorem readers_undo_writers :
    (∀ d, Undoes (Profile.ofValue d) Profile.toValue) ∧
    (∀ d, Undoes (Profiles.ofValue d) Profiles.toValue) ∧
    (∀ d, Undoes (LogSettings.ofValue d) LogSettings.toValue) ∧
    (∀ d, Undoes (Settings.ofValue d) Settings.toValue) ∧
    Undoes Pod.ofValue Pod.toValue ∧ Undoes Deployment.ofValue Deployment.toValue ∧
    Undoes Node.ofValue Node.toValue ∧ Undoes ResourceKind.ofValue ResourceKind.toValue ∧
    Undoes ClusterFault.ofValue ClusterFault.toValue ∧
    (∀ (p : Profile) (name : String), (p.toValue.entry? name).isSome ↔
      name = "interval_secs" ∨ (name = "max_attempts" ∧ p.maxAttempts.isSome) ∨
        (name = "timeout_secs" ∧ p.timeoutSecs.isSome)) ∧
    Settings.standardLayer.value = Settings.standard.toValue ∧
    Settings.ofLayers [Settings.standardLayer] = .ok .standard :=
  ⟨Profile.undoes, Profiles.undoes, LogSettings.undoes, Settings.undoes, Pod.undoes,
    Deployment.undoes, Node.undoes, ResourceKind.undoes, ClusterFault.undoes, Profile.mentions,
    Settings.standardLayer_value, Settings.ofLayers_standard⟩

end Convergence
