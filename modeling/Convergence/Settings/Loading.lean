import Convergence.ErrorReport
import Convergence.Layer.Environment
import Convergence.Layer.Search
import Convergence.Settings.Decoding
import Convergence.Settings.Validity
import Convergence.Yaml.Document

/-! Settings put together from the standard ones, from files and from the
environment, each stronger than the one before. They are read from what the
layers come to, and then looked over. -/
namespace Convergence

structure Surroundings where
  workingDir : String
  viewpoint : Option String
  env : List (String × String)
  fileAt : String → Option String

inductive LoadError where
  /-- The settings could not be read: what was being done, and why it failed. -/
  | unreadable (context cause : String)
  | invalid (error : SettingsError)
deriving DecidableEq, Repr

def LoadError.report : LoadError → ErrorReport
  | unreadable context cause => (ErrorReport.ofMessage cause).within context
  | invalid error => .ofMessage error.message

namespace Settings

def standardLayer : Layer :=
  { origin := .standard
    foreign := []
    entries :=
      match standard.toValue with
      | .record es => es
      | _ => [] }

/-- The layer of a file, or why it cannot be read; no file makes no layer. -/
def fileLayer (s : Surroundings) (path : String) : Option (Except String Layer) :=
  (Search.firstFile? s.fileAt (Search.candidates s.workingDir path)).map fun (place, text) =>
    let origin := Origin.file (Search.shown s.viewpoint place)
    match Yaml.readMapping text with
    | .ok fields => .ok { origin, entries := fields.entries, foreign := fields.foreign }
    | .error fault => .error (fault.message ++ " in " ++ origin.text)

/-- The layers of the files, or all that is wrong with them, a line each. -/
def fileLayers (s : Surroundings) (paths : List String) : Except String (List Layer) :=
  let read := paths.filterMap (fileLayer s)
  let faults := read.filterMap fun
    | .error fault => some fault
    | .ok _ => none
  if faults.isEmpty then
    .ok <| read.filterMap fun
      | .error _ => none
      | .ok layer => some layer
  else .error (String.intercalate "\n" faults)

def faultText (layers : List Layer) (f : Fault) : String :=
  f.message .layered ++
    match Layer.originOf layers f.path with
    | .unknown => ""
    | origin =>
      (if f.path.isEmpty then "" else " for key " ++ Text.quoted (origin.keyText f.path)) ++
        " in " ++ origin.text

def ofLayers (layers : List Layer) : Except String Settings :=
  match Settings.ofValue .layered (Layer.mergeAll layers) with
  | .ok s => .ok s
  | .error f => .error (faultText layers f)

def extract (s : Surroundings) (paths : List String) : Except String Settings := do
  let files ← fileLayers s paths
  ofLayers (standardLayer :: files ++ [Environment.layer s.env])

def loadFiles (s : Surroundings) (context : String) (paths : List String) :
    Except LoadError Settings :=
  match extract s paths with
  | .error cause => .error (.unreadable context cause)
  | .ok settings =>
    match settings.fault? with
    | some fault => .error (.invalid fault)
    | none => .ok settings

/-- The files of a project: what is shared, and what is local and stronger. -/
def projectFiles : List String := [".kubewait/config.yaml", ".kubewait/local.yaml"]

def places (workingDir : String) (config : Option String) : List String :=
  (config.elim projectFiles ([·])).flatMap (Search.candidates workingDir)

def load (s : Surroundings) : Except LoadError Settings :=
  loadFiles s "Failed to extract configuration from figment" projectFiles

def loadFrom (s : Surroundings) (path : String) : Except LoadError Settings :=
  loadFiles s ("Failed to load config from " ++ path) [path]

end Settings
end Convergence
