import Convergence.Proofs.Settings.Leaves
import Convergence.Proofs.Settings.Written

/-! The strongest layer wins, leaf by leaf. Where the sections in the layers are records,
the settings that are loaded have at each leaf what the last layer says that says anything
there, and only where none does what the standard settings have; nothing beside a leaf is
lost. A record at a leaf is the one exception. It is joined with the records that the layers
right before it say there, and stands for the first name in all of them. -/
namespace Convergence

open Decode

def Value.isRecord : Value → Bool
  | .record _ => true
  | _ => false

namespace Layer

/-- Each section of which the layer says anything is a record. -/
structure Sectioned (l : Layer) : Prop where
  logging : ∀ v, find? ["logging"] l.value = some v → ∃ es, v = .record es
  profiles : ∀ v, find? ["profiles"] l.value = some v → ∃ es, v = .record es
  profile : ∀ name v, find? ["profiles", name] l.value = some v → ∃ es, v = .record es

variable {α : Type} {l : Layer}

theorem leads_of_records {path : List String} {name : String} {v : Value} (hv : v.Leads path)
    (hrecord : ∀ w, find? path v = some w → ∃ es, w = .record es) : v.Leads (path ++ [name]) := by
  induction path generalizing v with
  | nil =>
    obtain ⟨es, rfl⟩ := hrecord v rfl
    exact ⟨es, rfl, fun _ _ => trivial⟩
  | cons first path ih =>
    obtain ⟨es, rfl, hes⟩ := hv
    refine ⟨es, rfl, fun w hw => ih (hes w hw) fun u hu => hrecord u ?_⟩
    rw [find?_cons, hw]
    exact hu

/-- In such a layer all that stands on the way to a leaf is a record. -/
theorem Sectioned.leads (h : l.Sectioned) (leaf : Leaf α) : l.value.Leads leaf.path := by
  have htop : ∀ name, l.value.Leads [name] := fun _ => ⟨_, rfl, fun _ _ => trivial⟩
  have hlogging : ∀ name, l.value.Leads ["logging", name] := fun _ =>
    leads_of_records (htop "logging") h.logging
  have hprofiles : ∀ profile, l.value.Leads ["profiles", profile] := fun _ =>
    leads_of_records (htop "profiles") h.profiles
  have hprofile : ∀ profile name, l.value.Leads ["profiles", profile, name] := fun profile _ =>
    leads_of_records (hprofiles profile) (h.profile profile)
  cases leaf with
  | space => exact htop _
  | interval profile => exact hprofile profile _
  | attempts profile => exact hprofile profile _
  | timeout profile => exact hprofile profile _
  | _ => exact hlogging _

/-- The same as something that can be computed. -/
def isSectioned (l : Layer) : Bool :=
  (find? ["logging"] l.value).all Value.isRecord &&
    (find? ["profiles"] l.value).all fun v => v.isRecord && (recordIn (some v)).all (·.2.isRecord)

theorem sectioned_of_isSectioned (h : l.isSectioned) : l.Sectioned := by
  have hrecord : ∀ {v : Value}, v.isRecord = true → ∃ es, v = .record es := by
    intro v hv
    cases v with
    | record es => exact ⟨es, rfl⟩
    | _ => cases hv
  obtain ⟨hlogging, hprofiles⟩ := Bool.and_eq_true_iff.mp h
  refine { logging := fun v hv => ?_, profiles := fun v hv => ?_, profile := fun name v hv => ?_ }
  · rw [hv] at hlogging
    exact hrecord hlogging
  · rw [hv] at hprofiles
    exact hrecord (Bool.and_eq_true_iff.mp hprofiles).1
  · obtain ⟨u, hu, hv⟩ := Option.bind_eq_some_iff.mp
      ((find?_append ["profiles"] [name] l.value).symm.trans hv)
    rw [hu] at hprofiles
    obtain ⟨hsection, hall⟩ := Bool.and_eq_true_iff.mp hprofiles
    obtain ⟨ps, rfl⟩ := hrecord hsection
    have hfound : Entries.find? name ps = some v := (Option.bind_fun_some _).symm.trans hv
    exact hrecord (List.all_eq_true.mp hall _ (Entries.mem_of_find? hfound))

end Layer

namespace Settings

open Layer

/-- The settings have at each leaf what the strongest of the standard settings and the
layers says there. -/
structure FollowLayers (s : Settings) (layers : List Layer) : Prop where
  /-- Anything but a record decides alone, a null too. -/
  plain : ∀ {α : Type} (leaf : Leaf α) v, strongest? (standardLayer :: layers) leaf.path = some v →
    (∀ es, v ≠ .record es) → leaf.read v = .ok (leaf.get s)
  /-- A record is possible at two leaves, where it is joined with those right before it. -/
  record : ∀ {α : Type} (leaf : Leaf α) es,
    strongest? (standardLayer :: layers) leaf.path = some (.record es) →
      (leaf.path = ["logging", "format"] ∨ leaf.path = ["logging", "rotation"]) ∧
        ∃ name, LeastName (lastRecords (said (standardLayer :: layers) leaf.path)) name ∧
          leaf.read (.text name) = .ok (leaf.get s)
  unsaid : ∀ {α : Type} (leaf : Leaf α), strongest? (standardLayer :: layers) leaf.path = none →
    leaf.get s = none
  /-- What the layers leave alone stays as it is without them. -/
  standard : ∀ {α : Type} (leaf : Leaf α), (∀ l ∈ layers, find? leaf.path l.value = none) →
    leaf.get s = leaf.get standard
  /-- A profile that any layer has is there. -/
  names : ∀ name, (∃ p, s.profiles.get name = .ok p) ↔
    ∃ l ∈ standardLayer :: layers, (find? ["profiles", name] l.value).isSome

/-! ### The standard settings -/

theorem toValue_neat (s : Settings) : s.toValue.Neat := by
  have hprofile : ∀ p : Profile, p.toValue.Neat := by
    intro p
    apply Value.Neat.ofEntries
    cases p.maxAttempts <;> cases p.timeoutSecs <;> simp [Value.Neat.plain]
  have hprofiles : s.profiles.toValue.Neat := by
    apply Value.Neat.record (s.profiles.ordered.map fun _ p => p.toValue)
    intro e he
    obtain ⟨entry, -, rfl⟩ := List.mem_map.mp he
    exact hprofile entry.2
  have hlogging : s.logging.toValue.Neat := by
    apply Value.Neat.ofEntries
    cases s.logging.logDir <;> simp [Value.Neat.plain, Value.ofText?, Value.ofOption]
  apply Value.Neat.ofEntries
  simp [hlogging, hprofiles, Value.Neat.plain]

theorem standardLayer_value : standardLayer.value = standard.toValue :=
  congrArg Value.record (Entries.ofList_eq_self (Entries.ordered_ofList _))

theorem toValue_profiles (s : Settings) : find? ["profiles"] s.toValue = some s.profiles.toValue := rfl

theorem toValue_profile (s : Settings) (name : String) :
    find? ["profiles", name] s.toValue =
      (Entries.find? name s.profiles.entries).map Profile.toValue := by
  refine (find?_append ["profiles"] [name] s.toValue).trans ?_
  rw [toValue_profiles]
  refine (Option.bind_fun_some _).trans ?_
  exact Entries.find?_map (fun _ p => p.toValue) name s.profiles.entries

theorem standardLayer_sectioned : standardLayer.Sectioned where
  logging v hv := by
    rw [standardLayer_value] at hv
    exact ⟨_, (Option.some.inj hv).symm⟩
  profiles v hv := by
    rw [standardLayer_value] at hv
    exact ⟨_, (Option.some.inj hv).symm⟩
  profile name v hv := by
    rw [standardLayer_value, toValue_profile] at hv
    obtain ⟨p, -, rfl⟩ := Option.map_eq_some_iff.mp hv
    exact ⟨_, rfl⟩

/-- The standard settings say something at each leaf beside the profiles. -/
theorem standard_beside {α : Type} (leaf : Leaf α) (h : leaf.path.head? ≠ some "profiles") :
    (find? leaf.path standardLayer.value).isSome := by
  rw [standardLayer_value]
  cases leaf with
  | interval profile => exact absurd rfl h
  | attempts profile => exact absurd rfl h
  | timeout profile => exact absurd rfl h
  | _ => decide +kernel

theorem ofLayers_standard : ofLayers [standardLayer] = .ok standard := by decide +kernel

/-! ### What is read from the layers -/

variable {α : Type} {s : Settings} {layers : List Layer}

/-- Layers that can be looked at leaf by leaf. -/
structure Legible (layers : List Layer) : Prop where
  neat : ∀ l ∈ layers, l.value.Neat
  sectioned : ∀ l ∈ layers, l.Sectioned

namespace Legible

theorem standard (h : Legible layers) : Legible (standardLayer :: layers) where
  neat := List.forall_mem_cons.mpr ⟨standardLayer_value ▸ toValue_neat Settings.standard, h.neat⟩
  sectioned := List.forall_mem_cons.mpr ⟨standardLayer_sectioned, h.sectioned⟩

theorem leads (h : Legible layers) (leaf : Leaf α) : ∀ l ∈ layers, l.value.Leads leaf.path :=
  fun l hl => (h.sectioned l hl).leads leaf

/-- Something stands in the merged layers where it stands in one of them. -/
theorem found_iff (h : Legible layers) {path : List String} (hpath : path ≠ [])
    (hleads : ∀ l ∈ layers, l.value.Leads path) :
    (find? path (mergeAll layers)).isSome ↔ ∃ l ∈ layers, (find? path l.value).isSome := by
  rw [(find?_mergeAll hpath h.neat hleads).2, Option.isSome_iff_ne_none, ne_eq, laid_eq_none]
  unfold said
  simp [List.filterMap_eq_nil_iff, Option.isSome_iff_ne_none]

theorem profiles_found (h : Legible layers) :
    (find? ["profiles"] (mergeAll (standardLayer :: layers))).isSome := by
  have hleads : ∀ l ∈ standardLayer :: layers, l.value.Leads ["profiles"] := fun _ _ =>
    ⟨_, rfl, fun _ _ => trivial⟩
  rw [h.standard.found_iff (List.cons_ne_nil _ _) hleads]
  refine ⟨standardLayer, List.mem_cons_self, ?_⟩
  rw [standardLayer_value, toValue_profiles]
  rfl

/-- At a leaf the settings have what comes of all that the layers say there. -/
theorem read_laid (h : Legible layers) (hs : ofLayers (standardLayer :: layers) = .ok s)
    (leaf : Leaf α) :
    (∀ v, laid (said (standardLayer :: layers) leaf.path) = some v →
      leaf.read v = .ok (leaf.get s)) ∧
    (laid (said (standardLayer :: layers) leaf.path) = none → leaf.get s = none) := by
  have hneat := mergeAll_neat h.standard.neat
  have hread := ofLayers_eq_ok.mp hs
  obtain ⟨hleads, hfound⟩ := find?_mergeAll leaf.path_ne_nil h.standard.neat (h.standard.leads leaf)
  rw [← hfound]
  refine ⟨fun v => leaf.read_found hneat hleads hread, fun hnone => ?_⟩
  by_cases hprofile : leaf.path.head? = some "profiles"
  · exact leaf.get_absent hneat hleads hread h.profiles_found hprofile hnone
  · have hthere := (h.standard.found_iff leaf.path_ne_nil (h.standard.leads leaf)).mpr
      ⟨standardLayer, List.mem_cons_self, standard_beside leaf hprofile⟩
    rw [hnone] at hthere
    cases hthere

/-- What the layers leave alone stays as the standard settings have it. -/
theorem get_standard (h : Legible layers) (hs : ofLayers (standardLayer :: layers) = .ok s)
    (leaf : Leaf α) (hnone : ∀ l ∈ layers, find? leaf.path l.value = none) :
    leaf.get s = leaf.get Settings.standard := by
  have halone : Legible [] := { neat := nofun, sectioned := nofun }
  have hsaid : said (standardLayer :: layers) leaf.path = said [standardLayer] leaf.path := by
    rw [said_cons, said_cons]
    exact congrArg (_ ++ ·) (List.filterMap_eq_nil_iff.mpr hnone)
  have hhere := h.read_laid hs leaf
  have hthere := halone.read_laid ofLayers_standard leaf
  rw [hsaid] at hhere
  cases hlaid : laid (said [standardLayer] leaf.path) with
  | none => rw [hhere.2 hlaid, hthere.2 hlaid]
  | some v => exact Except.ok.inj ((hhere.1 v hlaid).symm.trans (hthere.1 v hlaid))

theorem profile_iff (h : Legible layers) (hs : ofLayers (standardLayer :: layers) = .ok s)
    (name : String) : (∃ p, s.profiles.get name = .ok p) ↔
      ∃ l ∈ standardLayer :: layers, (find? ["profiles", name] l.value).isSome := by
  have hleads : ∀ l ∈ standardLayer :: layers, l.value.Leads ["profiles", name] := fun l hl =>
    (leads_append ["profiles", name] ["interval_secs"] (h.standard.leads (.interval name) l hl)).1
  have hpath : ["profiles", name] ≠ [] := List.cons_ne_nil _ _
  have hread := profile_read (mergeAll_neat h.standard.neat)
    (find?_mergeAll hpath h.standard.neat hleads).1 (ofLayers_eq_ok.mp hs) h.profiles_found
  rw [← h.standard.found_iff hpath hleads]
  simp only [Profiles.get_eq_ok, ← Option.isSome_iff_exists]
  rw [← Option.isSome_map (f := Except.ok (ε := Fault)), ← hread, Option.isSome_map]

theorem follow (h : Legible layers) (hs : ofLayers (standardLayer :: layers) = .ok s) :
    FollowLayers s layers where
  plain leaf v hlast hplain := (h.read_laid hs leaf).1 v (laid_of_last hlast hplain)
  record leaf es hlast := by
    have hneat := Layer.said_neat h.standard.neat (h.standard.leads leaf)
    obtain ⟨joined, hlaid, hordered, hnames⟩ := laid_of_record hneat hlast
    obtain ⟨hleaf, name, v, rest, rfl, hname⟩ := leaf.read_record ((h.read_laid hs leaf).1 _ hlaid)
    exact ⟨hleaf, name, leastName_of_joined hordered hnames, hname⟩
  unsaid leaf hnone := (h.read_laid hs leaf).2 (laid_eq_none.mpr (List.getLast?_eq_none_iff.mp hnone))
  standard leaf := h.get_standard hs leaf
  names := h.profile_iff hs

end Legible

/-! ### Loading -/

variable {around : Surroundings} {path : String} {paths : List String}

theorem extract_of_loadFiles {context : String} (h : loadFiles around context paths = .ok s) :
    extract around paths = .ok s := by
  unfold loadFiles at h
  split at h
  · cases h
  · rename_i hextract
    split at h
    · cases h
    · exact Except.ok.inj h ▸ hextract

/-- The layers of files are those of the first file, if there is one, and of the others. -/
theorem filterMap_fileLayer_cons
    (h : (path :: paths).filterMap (fileLayer around) = layers.map .ok) :
    ∃ file rest, fileLayer around path = Option.map Except.ok file ∧
      paths.filterMap (fileLayer around) = rest.map .ok ∧ layers = file.toList ++ rest := by
  cases hfile : fileLayer around path with
  | none =>
    rw [List.filterMap_cons_none hfile] at h
    exact ⟨none, layers, rfl, h, rfl⟩
  | some read =>
    rw [List.filterMap_cons_some hfile] at h
    obtain ⟨l, rest, rfl, rfl, hrest⟩ := List.map_eq_cons_iff.mp h.symm
    exact ⟨some l, rest, rfl, hrest.symm, rfl⟩

theorem exists_layers {context : String} (h : loadFiles around context paths = .ok s) :
    ∃ files, paths.filterMap (fileLayer around) = files.map .ok ∧
      ((∀ l ∈ files ++ [Environment.layer around.env], l.Sectioned) →
        FollowLayers s (files ++ [Environment.layer around.env])) := by
  obtain ⟨files, hfiles, hs⟩ := bind_eq_ok.mp (extract_of_loadFiles h)
  refine ⟨files, filterMap_fileLayer hfiles, fun hsections => ?_⟩
  have hneat : ∀ l ∈ files ++ [Environment.layer around.env], l.value.Neat := by
    rw [List.forall_mem_append, List.forall_mem_singleton]
    exact ⟨fileLayers_neat hfiles, Environment.layer_neat around.env⟩
  exact Legible.follow { neat := hneat, sectioned := hsections } hs

theorem loadFiles_of_layers {context : String} (hfiles : fileLayers around paths = .ok layers)
    (hs : ofLayers (standardLayer :: layers ++ [Environment.layer around.env]) = .ok s)
    (hvalid : s.fault? = none) : loadFiles around context paths = .ok s := by
  have hextract : extract around paths = .ok s := bind_eq_ok.mpr ⟨layers, hfiles, hs⟩
  rw [loadFiles_of_extract hextract, hvalid]

theorem fileLayers_project {shared own : Layer}
    (hshared : fileLayer around ".kubewait/config.yaml" = some (.ok shared))
    (hown : fileLayer around ".kubewait/local.yaml" = some (.ok own)) :
    fileLayers around projectFiles = .ok [shared, own] := by
  unfold fileLayers projectFiles
  simp [hshared, hown]

/-- What is loaded follows the layers, leaf by leaf: the environment first, then the local
file, the shared file and the standard settings, or the environment and the one file that
was asked for. A file that is not there makes no layer, and none that is there is passed
over. -/
theorem load_follows (around : Surroundings) :
    (∀ s, load around = .ok s → ∃ shared own : Option Layer,
      fileLayer around ".kubewait/config.yaml" = shared.map .ok ∧
      fileLayer around ".kubewait/local.yaml" = own.map .ok ∧
      ((∀ l ∈ shared.toList ++ own.toList ++ [Environment.layer around.env], l.Sectioned) →
        FollowLayers s (shared.toList ++ own.toList ++ [Environment.layer around.env]))) ∧
    ∀ path s, loadFrom around path = .ok s → ∃ file : Option Layer,
      fileLayer around path = file.map .ok ∧
      ((∀ l ∈ file.toList ++ [Environment.layer around.env], l.Sectioned) →
        FollowLayers s (file.toList ++ [Environment.layer around.env])) := by
  constructor
  · intro s hs
    obtain ⟨files, hfiles, hfollow⟩ := exists_layers hs
    obtain ⟨shared, others, hshared, hothers, rfl⟩ := filterMap_fileLayer_cons hfiles
    obtain ⟨own, none, hown, hnone, rfl⟩ := filterMap_fileLayer_cons hothers
    cases List.map_eq_nil_iff.mp hnone.symm
    rw [List.append_nil] at hfollow
    exact ⟨shared, own, hshared, hown, hfollow⟩
  · intro path s hs
    obtain ⟨files, hfiles, hfollow⟩ := exists_layers hs
    obtain ⟨file, none, hfile, hnone, rfl⟩ := filterMap_fileLayer_cons hfiles
    cases List.map_eq_nil_iff.mp hnone.symm
    rw [List.append_nil] at hfollow
    exact ⟨file, hfile, hfollow⟩

/-- A project in which every layer says something of the logs or of the profiles. -/
def layeredProject : Surroundings :=
  { workingDir := "/"
    viewpoint := none
    env := [("KUBEWAIT_LOGGING__LEVEL", "warn"), ("KUBEWAIT_PROFILES__SLOW__INTERVAL_SECS", "1"),
      ("KUBEWAIT_PROFILES__SLOW__MAX_ATTEMPTS", "2")]
    fileAt := fun path =>
      if path = "/.kubewait/config.yaml" then
        some ("logging:\n  level: debug\n  log_dir: logs\n" ++
          "profiles:\n  canary:\n    interval_secs: 5\n    timeout_secs: 60\n")
      else if path = "/.kubewait/local.yaml" then
        some "logging:\n  log_dir: ~\nprofiles:\n  replicas:\n    interval_secs: 7\n"
      else none }

def layeredShared : Layer :=
  { origin := .file "/.kubewait/config.yaml"
    entries :=
      [("logging", .record [("level", .text "debug"), ("log_dir", .text "logs")]),
       ("profiles", .record [("canary", (Profile.ofTimeout 5 60).toValue)])]
    foreign := [] }

def layeredOwn : Layer :=
  { origin := .file "/.kubewait/local.yaml"
    entries :=
      [("logging", .record [("log_dir", .null)]),
       ("profiles", .record [("replicas", .record [("interval_secs", .unsigned 7)])])]
    foreign := [] }

set_option maxRecDepth 100000 in
theorem layered_shared :
    fileLayer layeredProject ".kubewait/config.yaml" = some (.ok layeredShared) := by
  unfold fileLayer
  rw [show layeredProject.workingDir = "/" from rfl, Search.candidates_root rfl]
  rfl

set_option maxRecDepth 100000 in
theorem layered_own : fileLayer layeredProject ".kubewait/local.yaml" = some (.ok layeredOwn) := by
  unfold fileLayer
  rw [show layeredProject.workingDir = "/" from rfl, Search.candidates_root rfl]
  rfl

def layeredLayers : List Layer :=
  [layeredShared, layeredOwn, Environment.layer layeredProject.env]

def layeredSettings : Settings :=
  { standard with
    logging := { LogSettings.standard with level := "warn" }
    profiles :=
      ((Profiles.standard.insert "canary" (.ofTimeout 5 60)).insert "replicas"
        (.ofAttempts 7 24)).insert "slow" (.ofAttempts 1 2) }

/-- The environment sets the level over the shared file, the local file takes the directory
back with a null, and the replicas keep their attempts. -/
theorem load_follows_story :
    load layeredProject = .ok layeredSettings ∧ (∀ l ∈ layeredLayers, l.Sectioned) ∧
      FollowLayers layeredSettings layeredLayers := by
  have hload : load layeredProject = .ok layeredSettings :=
    loadFiles_of_layers (fileLayers_project layered_shared layered_own) (by decide +kernel)
      (by decide +kernel)
  have hsections : ∀ l ∈ layeredLayers, l.Sectioned := by
    have hall : layeredLayers.all isSectioned = true := by decide +kernel
    intro l hl
    exact sectioned_of_isSectioned (List.all_eq_true.mp hall l hl)
  obtain ⟨shared, own, hshared, hown, hfollow⟩ := (load_follows layeredProject).1 _ hload
  cases shared with
  | none => cases layered_shared.symm.trans hshared
  | some l =>
    cases layered_shared.symm.trans hshared
    cases own with
    | none => cases layered_own.symm.trans hown
    | some k =>
      cases layered_own.symm.trans hown
      exact ⟨hload, hsections, hfollow hsections⟩

/-- A project whose files both give the format of the logs as a map. -/
def contestedProject : Surroundings :=
  { workingDir := "/"
    viewpoint := none
    env := []
    fileAt := fun path =>
      if path = "/.kubewait/config.yaml" then some "logging:\n  format:\n    json:\n"
      else if path = "/.kubewait/local.yaml" then some "logging:\n  format:\n    pretty:\n"
      else none }

def formatLayer (path name : String) : Layer :=
  { origin := .file path
    entries := [("logging", .record [("format", .record [(name, .null)])])]
    foreign := [] }

def contestedFiles : List Layer :=
  [formatLayer "/.kubewait/config.yaml" "json", formatLayer "/.kubewait/local.yaml" "pretty"]

def contestedLayers : List Layer := contestedFiles ++ [Environment.layer contestedProject.env]

def contestedSettings : Settings :=
  { standard with logging := { LogSettings.standard with format := .json } }

set_option maxRecDepth 100000 in
theorem contested_files : fileLayers contestedProject projectFiles = .ok contestedFiles := by
  apply fileLayers_project
  · unfold fileLayer
    rw [show contestedProject.workingDir = "/" from rfl, Search.candidates_root rfl]
    rfl
  · unfold fileLayer
    rw [show contestedProject.workingDir = "/" from rfl, Search.candidates_root rfl]
    rfl

/-- The local file says that the format is the pretty one, and no layer is stronger. What is
loaded is the other format, whose name comes first in the joined map. -/
theorem strongest_not_loaded :
    fileLayers contestedProject projectFiles = .ok contestedFiles ∧
      (∀ l ∈ contestedLayers, l.Sectioned) ∧ load contestedProject = .ok contestedSettings ∧
      ∃ v, strongest? (standardLayer :: contestedLayers) Leaf.format.path = some v ∧
        Leaf.format.read v = .ok (some .pretty) ∧
        Leaf.format.get contestedSettings = some .json := by
  refine ⟨contested_files, ?_, ?_, .record [("pretty", .null)], rfl, rfl, rfl⟩
  · have hall : contestedLayers.all isSectioned = true := by decide +kernel
    intro l hl
    exact sectioned_of_isSectioned (List.all_eq_true.mp hall l hl)
  · exact loadFiles_of_layers contested_files (by decide +kernel) (by decide +kernel)

end Settings
end Convergence
