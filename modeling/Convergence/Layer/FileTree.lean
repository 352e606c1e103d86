import Convergence.Layer.Search

/-! Files kept in memory, and found as a file system finds them: a path is followed part
by part, and each part on the way has to be a directory. -/
namespace Convergence

structure FileTree where
  /-- The texts of the files by the parts of their paths. -/
  files : List (List String × String)
  directories : List (List String)
deriving DecidableEq, Repr

namespace FileTree

/-- All beginnings of a list, which are the directories above a place. -/
def beginnings : List α → List (List α)
  | [] => [[]]
  | a :: rest => [] :: (beginnings rest).map (a :: ·)

/-- Whether a part of a path stays where it is. So does the end of a path that ends with
a slash. -/
def stays (part : String) : Bool := part == "" || part == "."

/-- The place that parts mean where all on the way are directories. The parts already
`gone` have the last one first. -/
def placeOf : List String → List String → List String
  | gone, [] => gone.reverse
  | gone, part :: rest =>
    if stays part then placeOf gone rest
    else if part = ".." then placeOf (gone.drop 1) rest
    else placeOf (part :: gone) rest

def parts (path : String) : List String := path.splitOn "/"

def settled (path : String) : String := "/" ++ String.intercalate "/" (placeOf [] (parts path))

def ofFiles (directory : String) (files : List (String × String)) : FileTree :=
  { files := files.map fun (path, text) => (placeOf [] (parts path), text)
    directories :=
      (parts directory :: files.map fun (path, _) => (parts path).dropLast).flatMap fun way =>
        (beginnings way).map (placeOf []) }

/-- The place to which parts lead from the parts already gone, the last of these first.
Whatever is left by another part has to be a directory. -/
def place? (t : FileTree) : List String → List String → Option (List String)
  | gone, [] => some gone.reverse
  | gone, part :: rest =>
    if !t.directories.contains gone.reverse then none
    else if stays part then t.place? gone rest
    else if part = ".." then t.place? (gone.drop 1) rest
    else t.place? (part :: gone) rest

def maxPathLength : Nat := 4095

def textAt? (t : FileTree) (path : String) : Option String :=
  if maxPathLength < path.utf8ByteSize then none
  else do
    let place ← t.place? [] (parts path)
    (t.files.find? (·.1 == place)).map (·.2)

end FileTree
end Convergence
