import Convergence.Layer.Basic

/-! The layer of the environment. Two low lines in the name of a variable lead one
level down, and so does a point. -/
namespace Convergence.Environment

def marker : List Char := "KUBEWAIT_".toList

/-- What follows the marker, whose letters may be small. -/
def afterMarker? (name : List Char) : Option (List Char) :=
  if (name.take marker.length).map Char.toUpper = marker then some (name.drop marker.length)
  else none

def pointed : List Char → List Char
  | '_' :: '_' :: rest => '.' :: pointed rest
  | c :: rest => c :: pointed rest
  | [] => []

def parts : List Char → List (List Char)
  | [] => [[]]
  | c :: rest =>
    if c = '.' then [] :: parts rest
    else
      match parts rest with
      | first :: others => (c :: first) :: others
      | [] => [[c]]

def path? (name : String) : Option (List String) := do
  let rest ← afterMarker? (Text.trimChars name.toList)
  let names := parts (Text.trimChars (pointed rest))
  if names.any (·.isEmpty) then none
  else some (names.map fun chars => String.ofList (chars.map Char.toLower))

def setting? (name value : String) : Option Value :=
  (path? name).map fun path => .nest path (EnvValue.ofText value)

def layer (env : List (String × String)) : Layer :=
  let settings := (Entries.ofList env).filterMap fun (name, value) => setting? name value
  { origin := .environment
    foreign := []
    entries :=
      match settings.foldl Layer.merge (.record []) with
      | .record es => es
      | _ => [] }

end Convergence.Environment
