import Convergence.Yaml.Token

/-! Plain scalars: words without quotes. Blanks between two words are kept, and
breaks between two lines are folded. -/
namespace Convergence.Yaml

/-- White space that may or may not turn out to stand between two words. -/
structure Gap where
  blanks : List Char
  /-- Whether there was a break, after which blanks no longer count. -/
  broken : Bool
  first : List Char
  more : List Char
deriving Repr

namespace Gap

def none : Gap := { blanks := [], broken := false, first := [], more := [] }

def isNone (g : Gap) : Bool := g.blanks.isEmpty && !g.broken

def addBlank (g : Gap) (c : Char) : Gap :=
  if g.broken then g else { g with blanks := g.blanks ++ [c] }

def addBreak (g : Gap) (c : Char) : Gap :=
  if g.broken then { g with more := g.more ++ [normalBreak c] }
  else { blanks := [], broken := true, first := [normalBreak c], more := [] }

/-- A break that is taken away altogether, though what follows is a new line. -/
def escapedBreak : Gap := { blanks := [], broken := true, first := [], more := [] }

/-- What the gap puts between two words: one line feed becomes a space, and of
several the first is dropped. -/
def text (g : Gap) : List Char :=
  if !g.broken then g.blanks
  else if g.first = ['\n'] then (if g.more.isEmpty then [' '] else g.more)
  else g.first ++ g.more

end Gap

/-- How far a plain scalar has been read. The text is kept backwards. -/
structure PlainState where
  text : List Char
  gap : Gap
  mark : Mark
  stop : Mark

structure PlainContext where
  start : Mark
  /-- The least column at which a new line can go on with the scalar. -/
  indent : Nat
  flow : Bool

/-- A plain scalar that has been read: its text, whether a break came after it,
where its last word ends, and where reading goes on. -/
structure PlainScalar where
  text : String
  brokeAfter : Bool
  stop : Mark
  cursor : Cursor

def PlainState.finish (s : PlainState) (rest : List Char) : PlainScalar :=
  { text := String.ofList s.text.reverse, brokeAfter := s.gap.broken, stop := s.stop
    cursor := { rest, mark := s.mark } }

def PlainState.addChar (s : PlainState) (c : Char) : PlainState :=
  { text := c :: s.gap.text.reverse ++ s.text, gap := .none, mark := s.mark.past c
    stop := s.mark.past c }

def isFlowIndicator (c : Char) : Bool :=
  c == ',' || c == '[' || c == ']' || c.toNat == 0x7B || c.toNat == 0x7D

def PlainContext.stopsWord (x : PlainContext) (s : PlainState) (chars : List Char) : Bool :=
  !s.gap.isNone &&
    ((!x.flow && s.mark.column < x.indent) ||
      (s.mark.column == 0 && (startsDocument chars || endsDocument chars)) ||
      chars.head? == some '#')

def PlainContext.endsAt (x : PlainContext) (c : Char) (rest : List Char) : Bool :=
  (c == ':' && endsWord rest) || (x.flow && isFlowIndicator c)

def readPlain (x : PlainContext) (s : PlainState) : List Char → Except Problem PlainScalar
  | [] => .ok (s.finish [])
  | '\r' :: '\n' :: rest =>
    readPlain x { s with gap := s.gap.addBreak '\n', mark := s.mark.down ['\r', '\n'] } rest
  | c :: rest =>
    if isBlank c then
      if s.gap.broken && s.mark.column < x.indent && c == '\t' then
        .error (.during "while scanning a plain scalar" x.start
          "found a tab character that violates indentation" s.mark)
      else readPlain x { s with gap := s.gap.addBlank c, mark := s.mark.past c } rest
    else if isBreak c then
      readPlain x { s with gap := s.gap.addBreak c, mark := s.mark.down [c] } rest
    else if x.stopsWord s (c :: rest) then .ok (s.finish (c :: rest))
    else if x.flow && c == ':' && rest.head?.any fun d => isFlowIndicator d || d == '?' then
      .error (.during "while scanning a plain scalar" x.start "found unexpected ':'" s.mark)
    else if x.endsAt c rest then .ok (s.finish (c :: rest))
    else readPlain x (s.addChar c) rest

end Convergence.Yaml
