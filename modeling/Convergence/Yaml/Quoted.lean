import Convergence.Text.Hexadecimal
import Convergence.Yaml.Plain

/-! Quoted scalars. In single quotes only the quote itself is special; in double
quotes a backslash introduces a character or takes away a line break. -/
namespace Convergence.Yaml

inductive Escape where
  | char (c : Char)
  /-- A code of so many hexadecimal digits follows. -/
  | code (digits : Nat)
deriving Repr

def escape? (c : Char) : Option Escape :=
  match c with
  | '0' => some (.char (Char.ofNat 0))
  | 'a' => some (.char (Char.ofNat 0x07))
  | 'b' => some (.char (Char.ofNat 0x08))
  | 't' => some (.char '\t')
  | '\t' => some (.char '\t')
  | 'n' => some (.char '\n')
  | 'v' => some (.char (Char.ofNat 0x0B))
  | 'f' => some (.char (Char.ofNat 0x0C))
  | 'r' => some (.char '\r')
  | 'e' => some (.char (Char.ofNat 0x1B))
  | ' ' => some (.char ' ')
  | '"' => some (.char '"')
  | '/' => some (.char '/')
  | '\\' => some (.char '\\')
  | 'N' => some (.char (Char.ofNat 0x85))
  | '_' => some (.char (Char.ofNat 0xA0))
  | 'L' => some (.char (Char.ofNat 0x2028))
  | 'P' => some (.char (Char.ofNat 0x2029))
  | 'x' => some (.code 2)
  | 'u' => some (.code 4)
  | 'U' => some (.code 8)
  | _ => none

inductive QuotedPhase where
  | text
  | escape
  /-- Within a code that began at a mark: digits still to come, and the value so far. -/
  | code (start : Mark) (digits value : Nat)
  /-- After a single quote, which ends the scalar unless another one follows. -/
  | quote
deriving Repr

structure QuotedState where
  text : List Char
  gap : Gap
  phase : QuotedPhase
  mark : Mark

structure QuotedScalar where
  text : String
  cursor : Cursor

namespace QuotedState

def finish (s : QuotedState) (rest : List Char) : QuotedScalar :=
  { text := String.ofList (s.gap.text.reverse ++ s.text).reverse
    cursor := { rest, mark := s.mark } }

def closeGap (s : QuotedState) : QuotedState :=
  { s with text := s.gap.text.reverse ++ s.text, gap := .none }

def addChar (s : QuotedState) (c : Char) (mark : Mark) : QuotedState :=
  { text := c :: s.text, gap := .none, phase := .text, mark }

end QuotedState

def scanningQuoted (start : Mark) (problem : String) (mark : Mark) : Problem :=
  .during "while scanning a quoted scalar" start problem mark

def parsingQuoted (start : Mark) (problem : String) (mark : Mark) : Problem :=
  .during "while parsing a quoted scalar" start problem mark

def isUnicode (n : Nat) : Bool := n < 0xD800 || (0xDFFF < n && n ≤ 0x10FFFF)

def doubleQuotedChar (start : Mark) (s : QuotedState) (c : Char) :
    Except Problem QuotedState :=
  match s.phase with
  | .escape =>
    if isBreak c then
      .ok { s with gap := .escapedBreak, phase := .text, mark := (s.mark.past '\\').down [c] }
    else
      match escape? c with
      | some (.char e) => .ok (s.addChar e (s.mark.pastAll ['\\', c]))
      | some (.code digits) =>
        let m := s.mark.pastAll ['\\', c]
        .ok { s with phase := .code m digits 0, mark := m }
      | none => .error (parsingQuoted start "found unknown escape character" s.mark)
  | .code codeStart digits value =>
    match Text.hexValue? c with
    | none => .error (parsingQuoted start "did not find expected hexadecimal number" codeStart)
    | some n =>
      let value := value * 16 + n
      if 1 < digits then
        .ok { s with phase := .code codeStart (digits - 1) value, mark := s.mark.past c }
      else if isUnicode value then .ok (s.addChar (Char.ofNat value) (s.mark.past c))
      else
        .error (parsingQuoted start "found invalid Unicode character escape code" codeStart)
  | _ => if c = '\\' then .ok { s with phase := .escape } else .ok (s.addChar c (s.mark.past c))

def atEnd (start : Mark) (s : QuotedState) : Problem :=
  match s.phase with
  | .escape => parsingQuoted start "found unknown escape character" s.mark
  | .code codeStart _ _ => parsingQuoted start "did not find expected hexadecimal number" codeStart
  | _ => scanningQuoted start "found unexpected end of stream" s.mark

def readDouble (start : Mark) (s : QuotedState) : List Char → Except Problem QuotedScalar
  | [] => .error (atEnd start s)
  | '\r' :: '\n' :: rest =>
    match s.phase with
    | .text =>
      readDouble start
        { s with gap := s.gap.addBreak '\n', mark := s.mark.down ['\r', '\n'] } rest
    | .escape =>
      readDouble start
        { s with gap := .escapedBreak, phase := .text,
                 mark := (s.mark.past '\\').down ['\r', '\n'] }
        rest
    | _ => .error (atEnd start s)
  | c :: rest =>
    match s.phase with
    | .text =>
      if isBlank c then
        readDouble start { s with gap := s.gap.addBlank c, mark := s.mark.past c } rest
      else if isBreak c then
        readDouble start { s with gap := s.gap.addBreak c, mark := s.mark.down [c] } rest
      else if c = '"' then .ok ({ s with mark := s.mark.past c }.finish rest)
      else if s.mark.column == 0 && (startsDocument (c :: rest) || endsDocument (c :: rest)) then
        .error (scanningQuoted start "found unexpected document indicator" s.mark)
      else
        match doubleQuotedChar start s.closeGap c with
        | .ok s => readDouble start s rest
        | .error p => .error p
    | _ =>
      match doubleQuotedChar start s c with
      | .ok s => readDouble start s rest
      | .error p => .error p

def readSingle (start : Mark) (s : QuotedState) : List Char → Except Problem QuotedScalar
  | [] =>
    match s.phase with
    | .quote => .ok (s.finish [])
    | _ => .error (atEnd start s)
  | '\r' :: '\n' :: rest =>
    match s.phase with
    | .quote => .ok (s.finish ('\r' :: '\n' :: rest))
    | _ =>
      readSingle start
        { s with gap := s.gap.addBreak '\n', mark := s.mark.down ['\r', '\n'] } rest
  | c :: rest =>
    match s.phase with
    | .quote =>
      if c = '\'' then readSingle start (s.closeGap.addChar '\'' (s.mark.past c)) rest
      else .ok (s.finish (c :: rest))
    | _ =>
      if isBlank c then
        readSingle start { s with gap := s.gap.addBlank c, mark := s.mark.past c } rest
      else if isBreak c then
        readSingle start { s with gap := s.gap.addBreak c, mark := s.mark.down [c] } rest
      else if c = '\'' then
        readSingle start { s with phase := .quote, mark := s.mark.past c } rest
      else if s.mark.column == 0 && (startsDocument (c :: rest) || endsDocument (c :: rest)) then
        .error (scanningQuoted start "found unexpected document indicator" s.mark)
      else readSingle start (s.closeGap.addChar c (s.mark.past c)) rest

def readQuoted (single : Bool) (c : Cursor) : Except Problem QuotedScalar :=
  let s : QuotedState :=
    { text := [], gap := .none, phase := .text, mark := c.mark.pastAll (c.rest.take 1) }
  if single then readSingle c.mark s (c.rest.drop 1) else readDouble c.mark s (c.rest.drop 1)

end Convergence.Yaml
