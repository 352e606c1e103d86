import Convergence.Text.Width

/-! Tables in a frame of box characters. Each column is as wide as its widest
line, with a blank on either side, and a cell may have several lines. -/
namespace Convergence

structure Table where
  header : List String
  rows : List (List String)

namespace Table

def cellLines (cell : String) : List String :=
  (cell.splitOn "\n")

def cellWidth (cell : String) : Nat :=
  ((cellLines cell).map Text.columns).foldl (fun a b => if a < b then b else a) 0

def widths (t : Table) : List Nat :=
  let widen (w : Nat) (cell : String) : Nat := if w < cellWidth cell then cellWidth cell else w
  t.rows.foldl (List.zipWith widen) (t.header.map cellWidth)

def repeated (n : Nat) (s : String) : String := String.join (List.replicate n s)

def rule (left line crossing right : String) (ws : List Nat) : String :=
  left ++ String.intercalate crossing (ws.map fun w => repeated (w + 2) line) ++ right

def paddedLine (w : Nat) (line : String) : String :=
  " " ++ line ++ repeated (w - Text.columns line) " " ++ " "

/-- The lines of a row; a cell with fewer lines than another is filled with blanks. -/
def rowLines (ws : List Nat) (row : List String) : List String :=
  let cells := row.map cellLines
  let height := (cells.map (·.length)).foldl (fun a b => if a < b then b else a) 0
  (List.range height).map fun i =>
    "│" ++ String.intercalate "┆"
      (List.zipWith (fun w lines => paddedLine w (lines[i]?.getD "")) ws cells) ++ "│"

def lines (t : Table) : List String :=
  let ws := t.widths
  [rule "┌" "─" "┬" "┐" ws] ++ rowLines ws t.header ++ [rule "╞" "═" "╪" "╡" ws] ++
    t.rows.flatMap (rowLines ws) ++ [rule "└" "─" "┴" "┘" ws]

def text (t : Table) : String := String.intercalate "\n" t.lines

end Table
end Convergence
