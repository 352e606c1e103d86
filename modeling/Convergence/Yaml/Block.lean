import Convergence.Yaml.Plain

/-! Block scalars: lines below a header, all indented alike. A literal one keeps
its line breaks, a folded one turns a break between two plain lines into a space.
The header says what becomes of the breaks at the end. -/
namespace Convergence.Yaml

inductive Chomping where
  | strip
  | clip
  | keep
deriving DecidableEq, Repr

structure BlockHeader where
  literal : Bool
  chomping : Chomping
  /-- How much deeper the lines are than what surrounds the scalar, if it is said. -/
  increment : Option Nat
deriving Repr

def scanningBlock (start : Mark) (problem : String) (mark : Mark) : Problem :=
  .during "while scanning a block scalar" start problem mark

def chomping? (c : Cursor) : Option Chomping :=
  match c.peek? with
  | some '+' => some .keep
  | some '-' => some .strip
  | _ => none

def increment? (start : Mark) (c : Cursor) : Except Problem (Option Nat) :=
  match c.peek? with
  | some d =>
    if d = '0' then
      .error (scanningBlock start "found an indentation indicator equal to 0" c.mark)
    else if Decimal.isDigit d then .ok (some (Decimal.digitValue d))
    else .ok none
  | none => .ok none

def skipIf (present : Bool) (c : Cursor) : Cursor := if present then c.skip 1 else c

/-- The header with the line that it stands on. -/
def readHeader (c : Cursor) : Except Problem (BlockHeader × Cursor) := do
  let start := c.mark
  let literal := c.peek? = some '|'
  let c := c.skip 1
  let early := chomping? c
  let c := skipIf early.isSome c
  let increment ← increment? start c
  let c := skipIf increment.isSome c
  let late := if early.isNone && increment.isSome then chomping? c else none
  let c := (skipIf late.isSome c).skipBlanksAndComment
  if c.atLineEnd then
    return ({ literal, chomping := (early.or late).getD .clip, increment }, c.skipBreak)
  else .error (scanningBlock start "did not find expected comment or line break" c.mark)

structure BlockState where
  text : List Char
  indent : Option Nat
  deepest : Nat
  lastBreak : List Char
  blankLines : List Char
  blankFirst : Bool
  inLine : Bool
  mark : Mark
  stop : Mark

structure BlockScalar where
  text : String
  stop : Mark
  cursor : Cursor

structure BlockContext where
  header : BlockHeader
  start : Mark
  least : Nat

namespace BlockState

def finish (s : BlockState) (x : BlockContext) (rest : List Char) : BlockScalar :=
  let tail :=
    match x.header.chomping with
    | .strip => []
    | .clip => s.lastBreak
    | .keep => s.lastBreak ++ s.blankLines
  { text := String.ofList (s.text.reverse ++ tail), stop := s.stop
    cursor := { rest, mark := s.mark } }

def isIndenting (s : BlockState) : Bool :=
  match s.indent with
  | none => true
  | some n => s.mark.column < n

def seen (s : BlockState) : BlockState :=
  { s with deepest := if s.deepest < s.mark.column then s.mark.column else s.deepest }

def addBlankLine (s : BlockState) (c : Char) (taken : List Char) : BlockState :=
  { s.seen with blankLines := s.blankLines ++ [normalBreak c], mark := s.mark.down taken
                stop := s.mark.down taken }

def endLine (s : BlockState) (c : Char) (taken : List Char) : BlockState :=
  { s with lastBreak := [normalBreak c], inLine := false, deepest := 0
           mark := s.mark.down taken, stop := s.mark.down taken }

/-- The column of the lines, taken from the first of them where it is not known. -/
def settleIndent (s : BlockState) (x : BlockContext) : BlockState :=
  match s.indent with
  | some _ => s
  | none =>
    let deepest := s.seen.deepest
    { s with indent := some (if deepest < x.least then x.least else deepest) }

def addChar (s : BlockState) (c : Char) : BlockState :=
  { s with text := c :: s.text, mark := s.mark.past c, inLine := true }

def beginLine (s : BlockState) (x : BlockContext) (c : Char) : BlockState :=
  let folds := !x.header.literal && s.lastBreak == ['\n'] && !s.blankFirst && !isBlank c
  let gap :=
    if folds then (if s.blankLines.isEmpty then [' '] else s.blankLines)
    else s.lastBreak ++ s.blankLines
  { s with text := gap.reverse ++ s.text, lastBreak := [], blankLines := []
           blankFirst := isBlank c }.addChar c

end BlockState

def readLines (x : BlockContext) (s : BlockState) : List Char → Except Problem BlockScalar
  | [] =>
    let s := if s.inLine then { s with inLine := false, stop := s.mark } else s
    .ok (s.finish x [])
  | '\r' :: '\n' :: rest =>
    let taken := ['\r', '\n']
    readLines x (if s.inLine then s.endLine '\n' taken else s.addBlankLine '\n' taken) rest
  | c :: rest =>
    if s.inLine then
      if isBreak c then readLines x (s.endLine c [c]) rest else readLines x (s.addChar c) rest
    else if s.isIndenting && c == ' ' then readLines x { s with mark := s.mark.past c } rest
    else if s.isIndenting && c == '\t' then
      .error (scanningBlock x.start
        "found a tab character where an indentation space is expected" s.mark)
    else if isBreak c then readLines x (s.addBlankLine c [c]) rest
    else
      let s := s.settleIndent x
      if some s.mark.column = s.indent then readLines x (s.beginLine x c) rest
      else .ok (s.finish x (c :: rest))

/-- Reads a block scalar; `parent` is the column of what surrounds it. -/
def readBlock (parent : Option Nat) (c : Cursor) : Except Problem BlockScalar := do
  let (header, body) ← readHeader c
  let x : BlockContext :=
    { header, start := c.mark
      least := match parent with
        | some n => n + 1
        | none => 1 }
  readLines x
    { text := [], indent := header.increment.map (· + parent.getD 0), deepest := 0
      lastBreak := [], blankLines := [], blankFirst := false, inLine := false
      mark := body.mark, stop := body.mark }
    body.rest

end Convergence.Yaml
