import Convergence.Layer.EnvValue

/-! Layers of settings. A later layer wins over an earlier one: maps are merged
entry by entry, and everything else, a null too, takes the place of what was there. -/
namespace Convergence

inductive Origin where
  | standard
  | file (path : String)
  | environment
  | unknown
deriving DecidableEq, Repr

structure Layer where
  origin : Origin
  entries : List (String × Value)
  /-- The paths below which values say that they come from elsewhere. -/
  foreign : List (List String)

namespace Layer

/-- One level of a merge, where `inner` merges what is below it. -/
def mergeEntries (inner : Value → Value → Value) (old : List (String × Value)) :
    List (String × Value) → List (String × Value)
  | [] => old
  | (name, v) :: rest =>
    let merged :=
      match Entries.find? name old with
      | some o => inner o v
      | none => v
    mergeEntries inner (Entries.insert name merged old) rest

/-- Merges values, maps no deeper than `fuel`. -/
def mergeValues : Nat → Value → Value → Value
  | fuel + 1, .record old, .record new => .record (mergeEntries (mergeValues fuel) old new)
  | _, _, new => new

mutual
def depth : Value → Nat
  | .list vs => depthItems vs + 1
  | .record es => depthEntries es + 1
  | _ => 0
def depthItems : List Value → Nat
  | [] => 0
  | v :: rest => if depthItems rest < depth v then depth v else depthItems rest
def depthEntries : List (String × Value) → Nat
  | [] => 0
  | (_, v) :: rest => if depthEntries rest < depth v then depth v else depthEntries rest
end

def merge (old new : Value) : Value := mergeValues (depth new + 1) old new

def value (l : Layer) : Value := .ofEntries l.entries

/-- All layers as one value, the last one the strongest. -/
def mergeAll (ls : List Layer) : Value := ls.foldl (fun v l => merge v l.value) (.record [])

/-- What a step of a path leads to: an entry under its name, an item under its place. -/
def child? (name : String) : Value → Option Value
  | .list vs => (vs.zipIdx.find? fun (_, i) => toString i == name).map (·.1)
  | v => v.entry? name

def find? : List String → Value → Option Value
  | [], v => some v
  | name :: path, v => (child? name v).bind (find? path)

def originAt (l : Layer) (path : List String) : Origin :=
  if l.foreign.any (·.isPrefixOf path) then .unknown else l.origin

/-- The origin of what stands at a path: the last layer that says anything there. -/
def originOf (ls : List Layer) (path : List String) : Origin :=
  match ls.reverse.find? fun l => (find? path l.value).isSome with
  | some l => l.originAt path
  | none => .standard

end Layer

namespace Origin

def keyText (path : List String) : Origin → String
  | environment => String.intercalate "." (path.map String.toUpper)
  | _ => String.intercalate "." ("default" :: path)

def text : Origin → String
  | standard => "standard settings"
  | file path => path ++ " YAML file"
  | environment => "`KUBEWAIT_` environment variable(s)"
  | unknown => ""

end Origin
end Convergence
