import Convergence.Text.Order

/-! Where files are looked for. A relative path is tried in the working directory
and then in each directory above it; the first file found is the one. -/
namespace Convergence.Search

def components (path : String) : List String :=
  (path.splitOn "/").filter fun part => part ≠ "" ∧ part ≠ "."

def isAbsolute (path : String) : Bool := path.toList.head? == some '/'

def ancestors (directory : String) : List String :=
  let parts := components directory
  (List.range (parts.length + 1)).map fun n =>
    "/" ++ String.intercalate "/" (parts.take (parts.length - n))

def join (directory path : String) : String :=
  if directory = "/" then "/" ++ path else directory ++ "/" ++ path

def candidates (workingDir path : String) : List String :=
  if isAbsolute path then [path] else (ancestors workingDir).map (join · path)

def firstFile? (fileAt : String → Option String) : List String → Option (String × String)
  | [] => none
  | place :: rest =>
    match fileAt place with
    | some text => some (place, text)
    | none => firstFile? fileAt rest

def wayFrom : List String → List String → List String
  | d :: ds, p :: ps =>
    if d = p then wayFrom ds ps else List.replicate (ds.length + 1) ".." ++ p :: ps
  | ds, ps => List.replicate ds.length ".." ++ ps

/-- How a path is shown: as the way from a directory, where that has fewer parts. -/
def shown (viewpoint : Option String) (path : String) : String :=
  match viewpoint with
  | none => path
  | some directory =>
    let way := wayFrom (components directory) (components path)
    if way.length < (components path).length + 1 then String.intercalate "/" way else path

end Convergence.Search
