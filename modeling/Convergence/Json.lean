import Convergence.Decimal.Shortest
import Convergence.Text.Hexadecimal
import Convergence.Value

/-! Values as JSON text, on one line or with two blanks for each level. -/
namespace Convergence.Json

def escaped (c : Char) : List Char :=
  match c with
  | '"' => ['\\', '"']
  | '\\' => ['\\', '\\']
  | '\n' => ['\\', 'n']
  | '\r' => ['\\', 'r']
  | '\t' => ['\\', 't']
  | c =>
    if c.toNat = 8 then ['\\', 'b']
    else if c.toNat = 12 then ['\\', 'f']
    else if c.toNat < 32 then
      ['\\', 'u', '0', '0', Text.hexDigit (c.toNat / 16), Text.hexDigit (c.toNat % 16)]
    else [c]

def quoted (s : String) : String :=
  String.ofList ('"' :: s.toList.flatMap escaped ++ ['"'])

def scalar : Value → String
  | .null => "null"
  | .bool b => if b then "true" else "false"
  | .unsigned n => toString n
  | .signed n => toString n
  | .float x => if x.isFinite then x.marked else "null"
  | .char c => quoted c.toString
  | .text s => quoted s
  | .list _ => "[]"
  | .record _ => "\x7b\x7d"

mutual
def compact : Value → String
  | .list items => "[" ++ String.intercalate "," (compactItems items) ++ "]"
  | .record entries => "\x7b" ++ String.intercalate "," (compactEntries entries) ++ "\x7d"
  | v => scalar v
def compactItems : List Value → List String
  | [] => []
  | v :: rest => compact v :: compactItems rest
def compactEntries : List (String × Value) → List String
  | [] => []
  | (name, v) :: rest => (quoted name ++ ":" ++ compact v) :: compactEntries rest
end

def margin (depth : Nat) : String := String.ofList (List.replicate (2 * depth) ' ')

def block (opening closing : String) (depth : Nat) (lines : List String) : String :=
  if lines.isEmpty then opening ++ closing
  else
    opening ++ "\n" ++ String.intercalate ",\n" (lines.map (margin (depth + 1) ++ ·)) ++ "\n" ++
      margin depth ++ closing

mutual
def prettyAt (depth : Nat) : Value → String
  | .list items => block "[" "]" depth (prettyItems (depth + 1) items)
  | .record entries => block "\x7b" "\x7d" depth (prettyEntries (depth + 1) entries)
  | v => scalar v
def prettyItems (depth : Nat) : List Value → List String
  | [] => []
  | v :: rest => prettyAt depth v :: prettyItems depth rest
def prettyEntries (depth : Nat) : List (String × Value) → List String
  | [] => []
  | (name, v) :: rest => (quoted name ++ ": " ++ prettyAt depth v) :: prettyEntries depth rest
end

def pretty (v : Value) : String := prettyAt 0 v

end Convergence.Json
