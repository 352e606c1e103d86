import Convergence.Decimal.Reading

/-! A place in a YAML text: what is still to be read, and where that begins. -/
namespace Convergence.Yaml

/-- Lines and columns count from zero, and so does the number of bytes before. -/
structure Mark where
  index : Nat
  line : Nat
  column : Nat
deriving DecidableEq, Repr, Inhabited

namespace Mark

def zero : Mark := { index := 0, line := 0, column := 0 }

def isOrigin (m : Mark) : Bool := m.line == 0 && m.column == 0

def text (m : Mark) : String :=
  if m.isOrigin then "position " ++ toString m.index
  else "line " ++ toString (m.line + 1) ++ " column " ++ toString (m.column + 1)

def past (m : Mark) (c : Char) : Mark :=
  { m with index := m.index + c.utf8Size, column := m.column + 1 }

def pastAll (m : Mark) (chars : List Char) : Mark := chars.foldl past m

def down (m : Mark) (chars : List Char) : Mark :=
  { index := (m.pastAll chars).index, line := m.line + 1, column := 0 }

end Mark

structure Cursor where
  rest : List Char
  mark : Mark

/-- What is wrong with a text, and what was being read when it was found. -/
structure Problem where
  problem : String
  mark : Mark
  /-- The number of bytes before a character that no text may hold. -/
  offset : Nat
  context : Option (String × Mark)
deriving Repr

namespace Problem

def plain (problem : String) (mark : Mark) : Problem :=
  { problem, mark, offset := 0, context := none }

def during (context : String) (start : Mark) (problem : String) (mark : Mark) : Problem :=
  { problem, mark, offset := 0, context := some (context, start) }

def placeText (p : Problem) : String :=
  if !p.mark.isOrigin then " at " ++ p.mark.text
  else if p.offset ≠ 0 then " at position " ++ toString p.offset
  else ""

def contextText (p : Problem) : String :=
  match p.context with
  | none => ""
  | some (context, start) =>
    ", " ++ context ++
      (if !start.isOrigin && (start.line != p.mark.line || start.column != p.mark.column) then
        " at " ++ start.text
      else "")

def message (p : Problem) : String := p.problem ++ p.placeText ++ p.contextText

end Problem

/-! Classes of characters. Line breaks are more than two: next line, line
separator and paragraph separator count too. -/

def isBreak (c : Char) : Bool :=
  c == '\n' || c == '\r' || c.toNat == 0x85 || c.toNat == 0x2028 || c.toNat == 0x2029

def isByteOrderMark (c : Char) : Bool := c.toNat == 0xFEFF

def isBlank (c : Char) : Bool := c == ' ' || c == '\t'

def isSpace (c : Char) : Bool := isBlank c || isBreak c

def endsWord : List Char → Bool
  | [] => true
  | c :: _ => isSpace c

def isNameChar (c : Char) : Bool := c.isAlphanum || c == '-' || c == '_'

/-- A break as a text holds it: all are one line feed but the two separators. -/
def normalBreak (c : Char) : Char :=
  if c.toNat = 0x2028 ∨ c.toNat = 0x2029 then c else '\n'

def isDocumentMark (c : Char) : List Char → Bool
  | a :: b :: d :: rest => a == c && b == c && d == c && endsWord rest
  | _ => false

def startsDocument (chars : List Char) : Bool := isDocumentMark '-' chars

def endsDocument (chars : List Char) : Bool := isDocumentMark '.' chars

namespace Cursor

def peek? (c : Cursor) : Option Char := c.rest.head?

def skip (c : Cursor) (n : Nat) : Cursor :=
  { rest := c.rest.drop n, mark := c.mark.pastAll (c.rest.take n) }

def skipBreak (c : Cursor) : Cursor :=
  match c.rest with
  | '\r' :: '\n' :: rest => { rest, mark := c.mark.down ['\r', '\n'] }
  | b :: rest => if isBreak b then { rest, mark := c.mark.down [b] } else c
  | [] => c

/-- Past all characters of a class that holds no breaks, and what they are. -/
def span (c : Cursor) (p : Char → Bool) : List Char × Cursor :=
  let taken := c.rest.takeWhile p
  (taken, { rest := c.rest.dropWhile p, mark := c.mark.pastAll taken })

def skipWhile (c : Cursor) (p : Char → Bool) : Cursor := (c.span p).2

def skipBlanksAndComment (c : Cursor) : Cursor :=
  let c := c.skipWhile isBlank
  if c.peek? = some '#' then c.skipWhile (!isBreak ·) else c

def atLineEnd (c : Cursor) : Bool :=
  match c.rest with
  | [] => true
  | b :: _ => isBreak b

end Cursor

def isAllowed (c : Char) : Bool :=
  let n := c.toNat
  n == 9 || n == 10 || n == 13 || (0x20 ≤ n && n ≤ 0x7E) || n == 0x85 ||
    (0xA0 ≤ n && n ≤ 0xFFFD) || 0x10000 ≤ n

def forbiddenAt? (offset : Nat) : List Char → Option Nat
  | [] => none
  | c :: rest => if isAllowed c then forbiddenAt? (offset + c.utf8Size) rest else some offset

end Convergence.Yaml
