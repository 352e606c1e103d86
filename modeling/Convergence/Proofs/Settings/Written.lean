import Convergence.Proofs.Settings.Layers
import Convergence.Proofs.Yaml.Names
import Mathlib

/-! A profile written out in a file. It takes effect as it is written, unless it meets
the standard profile of its name with a limit of the other kind: then the limits of both
stand in what the layers come to, and the settings are refused. Only a layer that does
away with all profiles hides it. -/
namespace Convergence

/-! ### Files -/

namespace Search

theorem components_root : components "/" = [] := by cbv

/-- From the top directory a relative path leads to one place. -/
theorem candidates_root {path : String} (h : isAbsolute path = false) :
    candidates "/" path = ["/" ++ path] := by
  unfold candidates ancestors
  rw [h, components_root]
  rfl

end Search

namespace Settings

variable {around : Surroundings} {paths : List String} {layers : List Layer}

theorem fileLayer_neat {path : String} {l : Layer} (h : fileLayer around path = some (.ok l)) :
    l.value.Neat := by
  unfold fileLayer at h
  obtain ⟨⟨place, text⟩, -, h⟩ := Option.map_eq_some_iff.mp h
  dsimp only at h
  cases hread : Yaml.readMapping text with
  | error fault =>
    rw [hread] at h
    cases h
  | ok fields =>
    rw [hread] at h
    cases h
    exact .ofEntries (Yaml.readMapping_neat hread)

/-- Where all files can be read that there are, each of them makes a layer. -/
theorem filterMap_fileLayer (h : fileLayers around paths = .ok layers) :
    paths.filterMap (fileLayer around) = layers.map .ok := by
  unfold fileLayers at h
  generalize paths.filterMap (fileLayer around) = read at h
  dsimp only at h
  split at h
  · rename_i hnone
    cases h
    induction read with
    | nil => rfl
    | cons first rest ih =>
      cases first with
      | error fault => cases hnone
      | ok l => exact congrArg (Except.ok l :: ·) (ih hnone)
  · cases h

theorem fileLayers_neat (h : fileLayers around paths = .ok layers) :
    ∀ l ∈ layers, l.value.Neat := by
  intro l hl
  have hread : Except.ok l ∈ paths.filterMap (fileLayer around) := by
    rw [filterMap_fileLayer h]
    exact List.mem_map_of_mem hl
  obtain ⟨path, -, hpath⟩ := List.mem_filterMap.mp hread
  exact fileLayer_neat hpath

theorem fileLayers_tidy (h : fileLayers around paths = .ok layers) : ∀ l ∈ layers, l.Tidy := by
  intro l hl es hes
  exact ((fileLayers_neat h l hl).find? hes).ordered

/-! ### Faults -/

/-- Of settings without a fault and a profile, the profile alone can be at fault. -/
theorem fault?_withProfile {s : Settings} (h : s.fault? = none) (name : String) (p : Profile) :
    (s.withProfiles (s.profiles.insert name p)).fault? = p.fault? name := by
  unfold fault? withProfiles Profiles.insert at *
  dsimp only
  split at h
  · cases h
  · split at h
    · cases h
    · rename_i hspace hlevel
      rw [if_neg hspace, if_neg hlevel]
      exact Entries.findSome?_insert h name p

end Settings

namespace Profile

variable {p q : Profile} {name : String}

theorem setsOneLimit_of_valid (h : p.fault? name = none) : p.SetsOneLimit := by
  have hvalid : p.cadence.fault? name = none ∧ p.SetsOneLimit := fault?_eq_none.mp h
  exact hvalid.2

/-- Of two limits of one kind the upper one hides the other. -/
theorem onto_of_same (hp : p.fault? name = none) (hq : q.fault? name = none)
    (h : q.maxAttempts.isSome = p.maxAttempts.isSome) : p.onto q = p := by
  have hp := setsOneLimit_of_valid hp
  have hq := setsOneLimit_of_valid hq
  obtain ⟨interval, attempts, timeout⟩ := p
  obtain ⟨_, attempts', timeout'⟩ := q
  unfold SetsOneLimit at hp hq
  unfold onto
  cases attempts <;> cases timeout <;> cases attempts' <;> cases timeout' <;> simp_all

/-- Limits of different kinds stand beside each other. -/
theorem onto_of_other (hp : p.fault? name = none) (hq : q.fault? name = none)
    (h : q.maxAttempts.isSome ≠ p.maxAttempts.isSome) :
    (p.onto q).fault? name = some (.ambiguousLimit name) := by
  have hinterval : p.intervalSecs ≠ 0 := by
    intro hzero
    unfold fault? at hp
    rw [if_pos hzero] at hp
    cases hp
  have hp := setsOneLimit_of_valid hp
  have hq := setsOneLimit_of_valid hq
  obtain ⟨interval, attempts, timeout⟩ := p
  obtain ⟨_, attempts', timeout'⟩ := q
  unfold SetsOneLimit at hp hq
  unfold fault? onto
  cases attempts <;> cases timeout <;> cases attempts' <;> cases timeout' <;> simp_all

end Profile

namespace Merged

theorem read {m : Merged} {d : Dialect} {rest : Settings} (h : Settings.ofValue d m.value = .ok rest) :
    (∀ name, (Entries.find? name m.profiles).map (Profile.ofValue d) =
      (Entries.find? name rest.profiles.entries).map .ok) ∧
    ∀ name v p, Profile.ofValue d v = .ok p →
      Settings.ofValue d (m.put name v).value =
        .ok (rest.withProfiles (rest.profiles.insert name p)) := by
  unfold value at h
  rw [Settings.ofValue_record] at h
  obtain ⟨hprofiles, hput⟩ := Settings.putEntries_insert m.ordered m.found h
  refine ⟨Profiles.ofValue_find? m.profiles_ordered.names_nodup hprofiles, fun name v p hv => ?_⟩
  refine (Settings.ofValue_record d _).trans ?_
  exact hput _ _ (Profiles.ofValue_insert m.profiles_ordered hprofiles hv)

end Merged

namespace Settings

/-- Of the files at `paths` one writes the profile out under `name`, which nothing else
mentions. Without it the layers come to the settings `rest`, which are without a fault. -/
structure Written (around : Surroundings) (paths : List String) (name : String) (p : Profile)
    (before : List Layer) (file : Layer) (after : List Layer) (rest : Settings) : Prop where
  files : fileLayers around paths = .ok (before ++ file :: after)
  states : file.States name p
  before_silent : ∀ l ∈ before, ¬l.Mentions name
  after_silent : ∀ l ∈ after ++ [Environment.layer around.env], ¬l.Mentions name
  others : ofLayers (standardLayer :: (before ++ file.without name :: after) ++
    [Environment.layer around.env]) = .ok rest
  valid : rest.fault? = none

/-- The standard profile of the name still stands, and is limited in the other way. -/
def Clashes (rest : Settings) (name : String) (p : Profile) : Prop :=
  ∃ q, rest.profiles.get name = .ok q ∧ Profiles.standard.get name = .ok q ∧
    q.maxAttempts.isSome ≠ p.maxAttempts.isSome

/-- What comes of a profile that is written out, where without it the settings `rest`
would be loaded and `later` are the layers after it. -/
structure TakesUp (loaded : Except LoadError Settings) (name : String) (p : Profile)
    (later : List Layer) (rest : Settings) : Prop where
  taken : (∀ l ∈ later, l.KeepsProfiles) → ¬rest.Clashes name p →
    ∃ s, loaded = .ok s ∧ s.profiles.get name = .ok p ∧
      s = rest.withProfiles (rest.profiles.insert name p)
  refused : (∀ l ∈ later, l.KeepsProfiles) → rest.Clashes name p →
    loaded = .error (.invalid (.ambiguousLimit name))
  lost : (∃ l ∈ later, ¬l.KeepsProfiles) → loaded = .ok rest

variable {around : Surroundings} {paths : List String} {name : String} {p : Profile}
  {before after : List Layer} {file : Layer} {rest : Settings}

theorem ofLayers_eq_ok {layers : List Layer} {s : Settings} :
    ofLayers layers = .ok s ↔ Settings.ofValue .layered (Layer.mergeAll layers) = .ok s := by
  unfold ofLayers
  cases Settings.ofValue .layered (Layer.mergeAll layers) <;> simp

theorem Written.merged (h : Written around paths name p before file after rest)
    (hkeeps : ∀ l ∈ after ++ [Environment.layer around.env], l.KeepsProfiles) :
    ∃ m : Merged, Settings.ofValue .layered m.value = .ok rest ∧
      (∀ v, Entries.find? name m.profiles = some v →
        ∃ q, Profiles.standard.get name = .ok q ∧ v = q.toValue) ∧
      Layer.mergeAll (standardLayer :: (before ++ file :: after) ++ [Environment.layer around.env]) =
        (m.put name (Merged.laid p (Entries.find? name m.profiles))).value := by
  have htidy := fileLayers_tidy h.files
  obtain ⟨es, hes, huntold⟩ := Untold.mergeAll name
    (fun l hl => htidy l (List.mem_append_left _ hl)) h.before_silent
  obtain ⟨m, hwithout, hstandard, hwith⟩ :=
    Merged.enter huntold (htidy file (by simp)) h.states
  obtain ⟨last, hlast, hsame, hput⟩ := m.steps hkeeps h.after_silent
  have hmerge : ∀ l : Layer,
      Layer.mergeAll (standardLayer :: (before ++ l :: after) ++ [Environment.layer around.env]) =
        (after ++ [Environment.layer around.env]).foldl (fun v l => Layer.merge v l.value)
          (Layer.merge (.record es) l.value) := by
    intro l
    rw [← hes, ← List.foldl_cons, ← Layer.mergeAll_append]
    simp
  refine ⟨last, ?_, ?_, ?_⟩
  · rw [← hlast, ← hwithout, ← hmerge]
    exact ofLayers_eq_ok.mp h.others
  · rw [hsame]
    exact hstandard
  · rw [hmerge, hwith, hput, hsame]

/-- The settings with the profile, laid over the standard one where that still stands. -/
theorem Written.extract (h : Written around paths name p before file after rest)
    (hkeeps : ∀ l ∈ after ++ [Environment.layer around.env], l.KeepsProfiles) :
    (∃ q, rest.profiles.get name = .ok q ∧ Profiles.standard.get name = .ok q ∧
      Settings.extract around paths =
        .ok (rest.withProfiles (rest.profiles.insert name (p.onto q)))) ∨
    (∀ q, rest.profiles.get name ≠ .ok q) ∧
      Settings.extract around paths =
        .ok (rest.withProfiles (rest.profiles.insert name p)) := by
  obtain ⟨m, hrest, hstandard, hmerged⟩ := h.merged hkeeps
  obtain ⟨hfound, hput⟩ := Merged.read hrest
  have hextract : ∀ r, Profile.ofValue .layered (Merged.laid p (Entries.find? name m.profiles)) =
      .ok r → Settings.extract around paths =
        .ok (rest.withProfiles (rest.profiles.insert name r)) := by
    intro r hr
    unfold Settings.extract
    rw [h.files]
    exact ofLayers_eq_ok.mpr (hmerged ▸ hput name _ r hr)
  have hsame := hfound name
  cases hv : Entries.find? name m.profiles with
  | none =>
    rw [hv] at hsame hextract
    refine .inr ⟨fun q hq => ?_, hextract p (Profile.ofValue_toValue _ p)⟩
    rw [Profiles.get_eq_ok.mp hq] at hsame
    cases hsame
  | some v =>
    obtain ⟨q, hq, rfl⟩ := hstandard v hv
    rw [hv] at hsame hextract
    refine .inl ⟨q, ?_, hq, hextract (p.onto q) ?_⟩
    · rw [Option.map_some, Profile.ofValue_toValue] at hsame
      obtain ⟨r, hr, hqr⟩ := Option.map_eq_some_iff.mp hsame.symm
      cases hqr
      exact Profiles.get_eq_ok.mpr hr
    · exact (congrArg _ (Profile.merge_toValue q p)).trans (Profile.ofValue_toValue _ _)

theorem loadFiles_of_extract {context : String} {s : Settings}
    (h : Settings.extract around paths = .ok s) :
    loadFiles around context paths =
      match s.fault? with
      | some fault => .error (.invalid fault)
      | none => .ok s := by
  cases hfault : s.fault? <;> simp only [loadFiles, h, hfault]

theorem Written.extract_lost (h : Written around paths name p before file after rest)
    (hlost : ∃ l ∈ after ++ [Environment.layer around.env], ¬l.KeepsProfiles) :
    Settings.extract around paths = .ok rest := by
  obtain ⟨l, hmem, hl⟩ := hlost
  obtain ⟨between, later, hsplit⟩ := List.append_of_mem hmem
  have hlayers : ∀ k : Layer,
      standardLayer :: (before ++ k :: after) ++ [Environment.layer around.env] =
        (standardLayer :: before) ++ k :: between ++ l :: later := by
    intro k
    simp [hsplit]
  have hrest := ofLayers_eq_ok.mp h.others
  rw [hlayers, ← Layer.mergeAll_replaced name hl, ← hlayers] at hrest
  unfold Settings.extract
  rw [h.files]
  exact ofLayers_eq_ok.mpr hrest

theorem Written.takesUp (h : Written around paths name p before file after rest)
    (hp : p.fault? name = none) (context : String) :
    TakesUp (loadFiles around context paths) name p (after ++ [Environment.layer around.env])
      rest := by
  have hget : (rest.withProfiles (rest.profiles.insert name p)).profiles.get name = .ok p :=
    Profiles.get_eq_ok.mpr (Entries.find?_insert_self _ _ _)
  refine { taken := fun hkeeps hclash => ?_, refused := fun hkeeps hclash => ?_, lost := ?_ }
  · refine ⟨_, ?_, hget, rfl⟩
    rcases h.extract hkeeps with ⟨q, hq, hstandard, hextract⟩ | ⟨-, hextract⟩
    · have hvalid := fault?_of_get h.valid hq
      have hsame : q.maxAttempts.isSome = p.maxAttempts.isSome := by
        by_contra hother
        exact hclash ⟨q, hq, hstandard, hother⟩
      rw [loadFiles_of_extract hextract, fault?_withProfile h.valid,
        Profile.onto_of_same hp hvalid hsame, hp]
    · rw [loadFiles_of_extract hextract, fault?_withProfile h.valid, hp]
  · obtain ⟨q, hq, -, hother⟩ := hclash
    rcases h.extract hkeeps with ⟨r, hr, -, hextract⟩ | ⟨habsent, -⟩
    · cases hq.symm.trans hr
      rw [loadFiles_of_extract hextract, fault?_withProfile h.valid,
        Profile.onto_of_other hp (fault?_of_get h.valid hq) hother]
    · exact absurd hq (habsent q)
  · intro hlost
    rw [loadFiles_of_extract (h.extract_lost hlost), h.valid]

/-- A profile that is accepted by itself and written out in a file takes effect as it is
written, and leaves all else as it is. There are two ways in which it does not. Where the
standard profile of its name still stands and is limited in the other way, the settings
are refused for having both limits; and where a later layer puts something else in the
place of all profiles, it is lost with them. -/
theorem written_profile_loaded (hp : p.fault? name = none) :
    (∀ path, Written around [path] name p before file after rest →
      TakesUp (loadFrom around path) name p (after ++ [Environment.layer around.env]) rest) ∧
    (Written around projectFiles name p before file after rest →
      TakesUp (load around) name p (after ++ [Environment.layer around.env]) rest) :=
  ⟨fun path h => h.takesUp hp ("Failed to load config from " ++ path),
    fun h => h.takesUp hp "Failed to extract configuration from figment"⟩

deriving instance DecidableEq for Profiles
deriving instance DecidableEq for Settings

/-- A file with one profile, which has a minute's time. -/
def oneProfile (name : String) : Surroundings :=
  { workingDir := "/"
    viewpoint := none
    env := []
    fileAt := fun path =>
      if path = "/c.yaml" then
        some ("profiles:\n  " ++ name ++ ":\n    interval_secs: 5\n    timeout_secs: 60\n")
      else none }

def oneProfileLayer (name : String) : Layer :=
  { origin := .file "/c.yaml"
    entries := [("profiles", .record [(name, (Profile.ofTimeout 5 60).toValue)])]
    foreign := [] }

theorem oneProfile_written (name : String)
    (hread : fileLayers (oneProfile name) ["/c.yaml"] = .ok [oneProfileLayer name])
    (hothers : ofLayers [standardLayer, (oneProfileLayer name).without name,
      Environment.layer []] = .ok standard) :
    Written (oneProfile name) ["/c.yaml"] name (.ofTimeout 5 60) [] (oneProfileLayer name) []
      standard :=
  { files := hread
    states := ⟨_, rfl, by simp [Entries.find?]⟩
    before_silent := nofun
    after_silent := by
      rintro l hl ⟨es, v, hprofiles, -⟩
      cases List.mem_singleton.mp hl
      cases hprofiles
    others := hothers
    valid := by decide +kernel }

theorem oneProfile_kept : ∀ l ∈ [] ++ [Environment.layer []], l.KeepsProfiles := by
  intro l hl v hv
  cases List.mem_singleton.mp hl
  cases hv

set_option maxRecDepth 100000 in
theorem written_scale_down_loaded :
    (Profile.ofTimeout 5 60).fault? "scale_down" = none ∧
      ∃ s, loadFrom (oneProfile "scale_down") "/c.yaml" = .ok s ∧
        s.profiles.get "scale_down" = .ok (.ofTimeout 5 60) := by
  have hp : (Profile.ofTimeout 5 60).fault? "scale_down" = none := by decide
  have hwritten := oneProfile_written "scale_down" rfl (by decide +kernel)
  have hclash : ¬standard.Clashes "scale_down" (.ofTimeout 5 60) := by
    rintro ⟨q, hq, -, hother⟩
    cases hq.symm.trans (rfl : _ = Except.ok (Profile.ofTimeout 60 600))
    exact hother rfl
  obtain ⟨s, hs, hget, -⟩ :=
    ((written_profile_loaded hp).1 "/c.yaml" hwritten).taken oneProfile_kept hclash
  exact ⟨hp, s, hs, hget⟩

/-- A project whose local file does away with the profiles of the shared one, while the
environment has another. -/
def clearing : Surroundings :=
  { workingDir := "/"
    viewpoint := none
    env := [("KUBEWAIT_PROFILES__SLOW__INTERVAL_SECS", "1"),
      ("KUBEWAIT_PROFILES__SLOW__MAX_ATTEMPTS", "2")]
    fileAt := fun path =>
      if path = "/.kubewait/config.yaml" then
        some "profiles:\n  canary:\n    interval_secs: 5\n    timeout_secs: 60\n"
      else if path = "/.kubewait/local.yaml" then some "profiles: 5\n"
      else none }

def sharedLayer : Layer :=
  { origin := .file "/.kubewait/config.yaml"
    entries := [("profiles", .record [("canary", (Profile.ofTimeout 5 60).toValue)])]
    foreign := [] }

def clearingLayer : Layer :=
  { origin := .file "/.kubewait/local.yaml"
    entries := [("profiles", .unsigned 5)]
    foreign := [] }

def slowOnly : Settings := standard.withProfiles (.ofList [("slow", .ofAttempts 1 2)])

set_option maxRecDepth 100000 in
theorem clearing_files :
    fileLayers clearing projectFiles = .ok [sharedLayer, clearingLayer] := by
  have hshared : fileLayer clearing ".kubewait/config.yaml" = some (.ok sharedLayer) := by
    unfold fileLayer
    rw [show clearing.workingDir = "/" from rfl, Search.candidates_root rfl]
    rfl
  have hclearing : fileLayer clearing ".kubewait/local.yaml" = some (.ok clearingLayer) := by
    unfold fileLayer
    rw [show clearing.workingDir = "/" from rfl, Search.candidates_root rfl]
    rfl
  unfold fileLayers projectFiles
  simp [hshared, hclearing]

theorem clearing_silent :
    ∀ l ∈ [clearingLayer] ++ [Environment.layer clearing.env], ¬l.Mentions "canary" := by
  have henv : ((Environment.layer clearing.env).profiles?.bind fun v =>
      v.entry? "canary").isSome = false := by
    decide +kernel
  rintro l hl ⟨es, v, hprofiles, hfound⟩
  rcases List.mem_cons.mp hl with rfl | hl
  · cases hprofiles
  · cases List.mem_singleton.mp hl
    rw [hprofiles] at henv
    change (Entries.find? "canary" es).isSome = false at henv
    rw [hfound] at henv
    cases henv

theorem clearing_written :
    Written clearing projectFiles "canary" (.ofTimeout 5 60) [] sharedLayer [clearingLayer]
      slowOnly :=
  { files := clearing_files
    states := ⟨_, rfl, by simp [Entries.find?]⟩
    before_silent := nofun
    after_silent := clearing_silent
    others := by decide +kernel
    valid := by decide +kernel }

set_option maxRecDepth 100000 in
/-- A minute's time for the replicas stands beside the attempts that they have had, and
the profile of a canary goes with all profiles. -/
theorem written_profile_not_loaded :
    ((Profile.ofTimeout 5 60).fault? "replicas" = none ∧
      Written (oneProfile "replicas") ["/c.yaml"] "replicas" (.ofTimeout 5 60) []
        (oneProfileLayer "replicas") [] standard ∧
      ¬∃ s, loadFrom (oneProfile "replicas") "/c.yaml" = .ok s ∧
        s.profiles.get "replicas" = .ok (.ofTimeout 5 60)) ∧
    (Profile.ofTimeout 5 60).fault? "canary" = none ∧
      Written clearing projectFiles "canary" (.ofTimeout 5 60) [] sharedLayer [clearingLayer]
        slowOnly ∧
      ¬∃ s, load clearing = .ok s ∧ s.profiles.get "canary" = .ok (.ofTimeout 5 60) := by
  have hreplicas : (Profile.ofTimeout 5 60).fault? "replicas" = none := by decide
  have hcanary : (Profile.ofTimeout 5 60).fault? "canary" = none := by decide
  have hwritten := oneProfile_written "replicas" rfl (by decide +kernel)
  refine ⟨⟨hreplicas, hwritten, ?_⟩, hcanary, clearing_written, ?_⟩
  · rintro ⟨s, hs, -⟩
    have hrefused := (hwritten.takesUp hreplicas "Failed to load config from /c.yaml").refused
      oneProfile_kept ⟨.ofAttempts 10 24, rfl, rfl, by decide⟩
    cases hrefused.symm.trans hs
  · rintro ⟨s, hs, hget⟩
    have hlost := (clearing_written.takesUp hcanary
      "Failed to extract configuration from figment").lost
        ⟨clearingLayer, List.mem_cons_self, fun hkeeps => nomatch hkeeps _ rfl⟩
    cases hlost.symm.trans hs
    cases hget

end Settings
end Convergence
