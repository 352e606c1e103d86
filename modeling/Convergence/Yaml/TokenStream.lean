import Convergence.Yaml.Block
import Convergence.Yaml.Tag

/-! The tokens of a whole text. Where a mapping has no visible beginning, one is
put before its first key once the colon after that key is seen, so a token is
only handed on when nothing can be put before it any more. -/
namespace Convergence.Yaml

/-- The tokens that can be handed on, and what stopped the reading, if anything did. -/
structure TokenStream where
  tokens : List Token
  failure : Option Problem

/-- A place where a key may begin that is only known as one by its colon. -/
structure SimpleKey where
  /-- At the column of a block mapping nothing but a key can stand. -/
  required : Bool
  number : Nat
  mark : Mark
deriving Repr

structure Lexer where
  cursor : Cursor
  /-- The column of the innermost block collection, or -1. -/
  indent : Int
  indents : List Int
  flow : Nat
  keyAllowed : Bool
  /-- The possible key of every open flow collection, the innermost first. -/
  keys : List (Option SimpleKey)
  /-- Tokens before which another may still be put. -/
  waiting : List Token
  done : List Token

namespace Lexer

def start (chars : List Char) : Lexer :=
  { cursor := { rest := chars, mark := .zero }, indent := -1, indents := [], flow := 0
    keyAllowed := true, keys := [none], waiting := [], done := [] }

def mark (l : Lexer) : Mark := l.cursor.mark

def inFlow (l : Lexer) : Bool := l.flow != 0

def handedOn (l : Lexer) : Nat := l.done.length

def push (l : Lexer) (t : Token) : Lexer := { l with waiting := l.waiting ++ [t] }

def noKey (k : SimpleKey) : Problem :=
  .during "while scanning a simple key" k.mark "could not find expected ':'" .zero

def missingColon (l : Lexer) (k : SimpleKey) : Problem := { noKey k with mark := l.mark }

/-- A key must end on its line and within 1024 bytes. -/
def isStale (l : Lexer) (k : SimpleKey) : Bool :=
  k.mark.line < l.mark.line || k.mark.index + 1024 < l.mark.index

def dropStaleKey (l : Lexer) : Option SimpleKey → Except Problem (Option SimpleKey)
  | none => .ok none
  | some k =>
    if l.isStale k then (if k.required then .error (l.missingColon k) else .ok none)
    else .ok (some k)

def dropStale (l : Lexer) : Except Problem Lexer := do
  return { l with keys := ← l.keys.mapM l.dropStaleKey }

def removeKey (l : Lexer) : Except Problem Lexer :=
  match l.keys with
  | some k :: rest =>
    if k.required then .error (l.missingColon k) else .ok { l with keys := none :: rest }
  | _ => .ok l

def saveKey (l : Lexer) : Except Problem Lexer :=
  if l.keyAllowed then do
    let key : SimpleKey :=
      { required := !l.inFlow && l.indent == l.mark.column
        number := l.handedOn + l.waiting.length
        mark := l.mark }
    let l ← l.removeKey
    return { l with keys := some key :: l.keys.drop 1 }
  else .ok l

def insertAt (l : Lexer) (number : Nat) (t : Token) : Lexer :=
  let n := number - l.handedOn
  { l with waiting := l.waiting.take n ++ t :: l.waiting.drop n }

def point (kind : TokenKind) (m : Mark) : Token := { kind, start := m, stop := m }

/-- Opens a block collection at a deeper column, before the token with a number
or after all of them. -/
def roll (l : Lexer) (column : Nat) (before : Option Nat) (kind : TokenKind) (m : Mark) : Lexer :=
  if l.inFlow || !(l.indent < column) then l
  else
    let l := { l with indents := l.indent :: l.indents, indent := column }
    match before with
    | some number => l.insertAt number (point kind m)
    | none => l.push (point kind m)

/-- The block collections that end before a column: how many, and what is left. -/
def unrolled (column : Int) : Int → List Int → Nat × Int × List Int
  | indent, [] => (0, indent, [])
  | indent, parent :: rest =>
    if column < indent then
      let (n, indent, rest) := unrolled column parent rest
      (n + 1, indent, rest)
    else (0, indent, parent :: rest)

def unroll (l : Lexer) (column : Int) : Lexer :=
  if l.inFlow then l
  else
    let (n, indent, indents) := unrolled column l.indent l.indents
    { l with
      indent, indents
      waiting := l.waiting ++ List.replicate n (point .blockEnd l.mark) }

/-- Passes over blanks, comments and line breaks. A new line may begin with a key,
unless a flow collection is open; it may also begin with a byte order mark. -/
def skipToToken (flow : Bool) (comment keyAllowed : Bool) (m : Mark) :
    List Char → Bool × Cursor
  | [] => (keyAllowed, { rest := [], mark := m })
  | '\r' :: '\n' :: rest => skipToToken flow false (keyAllowed || !flow) (m.down ['\r', '\n']) rest
  | c :: rest =>
    if isBreak c then skipToToken flow false (keyAllowed || !flow) (m.down [c]) rest
    else if comment then skipToToken flow true keyAllowed (m.past c) rest
    else if c == ' ' || (c == '\t' && (flow || !keyAllowed)) ||
        (isByteOrderMark c && m.column == 0) then
      skipToToken flow false keyAllowed (m.past c) rest
    else if c == '#' then skipToToken flow true keyAllowed (m.past c) rest
    else (keyAllowed, { rest := c :: rest, mark := m })

def pushMarker (l : Lexer) (kind : TokenKind) (n : Nat) : Lexer :=
  let after := l.cursor.skip n
  { l.push (.between kind l.cursor after) with cursor := after }

def allowKey (l : Lexer) (allowed : Bool) : Lexer := { l with keyAllowed := allowed }

def readDocumentMark (l : Lexer) (kind : TokenKind) : Except Problem Lexer := do
  let l ← (l.unroll (-1)).removeKey
  return (l.allowKey false).pushMarker kind 3

def readDirectiveToken (l : Lexer) : Except Problem Lexer := do
  let l ← (l.unroll (-1)).removeKey
  let (token, after) ← readDirective l.cursor
  return { (l.allowKey false).push token with cursor := after }

def openFlow (l : Lexer) (kind : TokenKind) : Except Problem Lexer := do
  let l ← l.saveKey
  return { l.allowKey true with flow := l.flow + 1, keys := none :: l.keys }.pushMarker kind 1

def closeFlow (l : Lexer) (kind : TokenKind) : Except Problem Lexer := do
  let l ← l.removeKey
  let l :=
    if l.inFlow then { l with flow := l.flow - 1, keys := l.keys.drop 1 } else l
  return (l.allowKey false).pushMarker kind 1

def readFlowEntry (l : Lexer) : Except Problem Lexer := do
  return ((← l.removeKey).allowKey true).pushMarker .flowEntry 1

/-- A marker of a block collection, which it opens where it is deeper. -/
def readBlockMarker (l : Lexer) (what : String) (opens kind : TokenKind) (keyAfter : Bool) :
    Except Problem Lexer :=
  if !l.inFlow && !l.keyAllowed then
    .error (.plain (what ++ " are not allowed in this context") l.mark)
  else do
    let l := l.roll l.mark.column none opens l.mark
    return ((← l.removeKey).allowKey keyAfter).pushMarker kind 1

def readValueMarker (l : Lexer) : Except Problem Lexer :=
  match l.keys with
  | some k :: rest =>
    let l := l.insertAt k.number (point .key k.mark)
    let l := l.roll k.mark.column (some k.number) .blockMappingStart k.mark
    .ok (({ l with keys := none :: rest }.allowKey false).pushMarker .value 1)
  | _ =>
    if !l.inFlow && !l.keyAllowed then
      .error (.plain "mapping values are not allowed in this context" l.mark)
    else
      let l := l.roll l.mark.column none .blockMappingStart l.mark
      .ok ((l.allowKey (!l.inFlow)).pushMarker .value 1)

def readAnchorToken (l : Lexer) (isAlias : Bool) : Except Problem Lexer := do
  let l ← l.saveKey
  let (token, after) ← readAnchor isAlias l.cursor
  return { (l.allowKey false).push token with cursor := after }

def readTagToken (l : Lexer) : Except Problem Lexer := do
  let l ← l.saveKey
  let (token, after) ← readTag l.inFlow l.cursor
  return { (l.allowKey false).push token with cursor := after }

def readBlockScalar (l : Lexer) : Except Problem Lexer := do
  let l ← l.removeKey
  let s ← readBlock (if l.indent < 0 then none else some l.indent.toNat) l.cursor
  let token : Token := { kind := .scalar s.text .block, start := l.mark, stop := s.stop }
  return { (l.allowKey true).push token with cursor := s.cursor }

def readQuotedScalar (l : Lexer) (single : Bool) : Except Problem Lexer := do
  let l ← l.saveKey
  let s ← readQuoted single l.cursor
  let token := Token.between (.scalar s.text .quoted) l.cursor s.cursor
  return { (l.allowKey false).push token with cursor := s.cursor }

def readPlainScalar (l : Lexer) : Except Problem Lexer := do
  let l ← l.saveKey
  let x : PlainContext :=
    { start := l.mark, indent := (l.indent + 1).toNat, flow := l.inFlow }
  let s ← readPlain x { text := [], gap := .none, mark := l.mark, stop := l.mark } l.cursor.rest
  let token : Token := { kind := .scalar s.text .plain, start := l.mark, stop := s.stop }
  return { (l.allowKey s.brokeAfter).push token with cursor := s.cursor }

def startsPlain (l : Lexer) (c : Char) (rest : List Char) : Bool :=
  !(isSpace c || "-?:,[]#&*!|>'\"%@`".toList.contains c || isFlowIndicator c) ||
    (c == '-' && !(rest.head?.any isBlank)) ||
    (!l.inFlow && (c == '?' || c == ':') && !endsWord rest)

def readToken (l : Lexer) (c : Char) (rest : List Char) : Except Problem Lexer :=
  if l.mark.column == 0 && c == '%' then l.readDirectiveToken
  else if l.mark.column == 0 && startsDocument (c :: rest) then l.readDocumentMark .documentStart
  else if l.mark.column == 0 && endsDocument (c :: rest) then l.readDocumentMark .documentEnd
  else if c == '[' then l.openFlow .flowSequenceStart
  else if c.toNat == 0x7B then l.openFlow .flowMappingStart
  else if c == ']' then l.closeFlow .flowSequenceEnd
  else if c.toNat == 0x7D then l.closeFlow .flowMappingEnd
  else if c == ',' then l.readFlowEntry
  else if c == '-' && endsWord rest then
    l.readBlockMarker "block sequence entries" .blockSequenceStart .blockEntry true
  else if c == '?' && (l.inFlow || endsWord rest) then
    l.readBlockMarker "mapping keys" .blockMappingStart .key (!l.inFlow)
  else if c == ':' && (l.inFlow || endsWord rest) then l.readValueMarker
  else if c == '*' then l.readAnchorToken true
  else if c == '&' then l.readAnchorToken false
  else if c == '!' then l.readTagToken
  else if (c == '|' || c == '>') && !l.inFlow then l.readBlockScalar
  else if c == '\'' then l.readQuotedScalar true
  else if c == '"' then l.readQuotedScalar false
  else if l.startsPlain c rest then l.readPlainScalar
  else
    .error (.during "while scanning for the next token" l.mark
      "found character that cannot start any token" l.mark)

/-- The end of the text, which is also the end of its last line. -/
def readEnd (l : Lexer) : Except Problem Lexer := do
  let m := if l.mark.column = 0 then l.mark else l.mark.down []
  let l := { l with cursor := { rest := [], mark := m } }
  let l ← (l.unroll (-1)).removeKey
  return (l.allowKey false).push (point .streamEnd m)

/-- Reads one more token; tells whether it was the last. -/
def step (l : Lexer) : Except Problem (Bool × Lexer) := do
  let (keyAllowed, cursor) := skipToToken l.inFlow false l.keyAllowed l.mark l.cursor.rest
  let l ← { l with keyAllowed, cursor }.dropStale
  let l := l.unroll l.mark.column
  match l.cursor.rest with
  | [] => return (true, ← l.readEnd)
  | c :: rest => return (false, ← l.readToken c rest)

/-- Whether a token may still have to be put before the one with a number. -/
def isOpen (l : Lexer) (number : Nat) : Bool :=
  l.keys.any fun key => key.any (·.number == number)

/-- Hands on what can be handed on, one token for each of `fuel`. -/
def handOn : Nat → Lexer → Lexer
  | 0, l => l
  | fuel + 1, l =>
    match l.waiting with
    | [] => l
    | t :: rest =>
      if l.isOpen l.handedOn then l
      else handOn fuel { l with waiting := rest, done := t :: l.done }

/-- Reads tokens to the end. Every step reads a character or ends the text, so
`fuel` need not be more than the number of characters and one. -/
def run : Nat → Lexer → TokenStream
  | 0, l => { tokens := l.done.reverse, failure := none }
  | fuel + 1, l =>
    match l.step with
    | .error p => { tokens := l.done.reverse, failure := some p }
    | .ok (last, next) =>
      match next.dropStale with
      | .error p => { tokens := next.done.reverse, failure := some p }
      | .ok next =>
        let next := handOn next.waiting.length next
        if last then { tokens := next.done.reverse, failure := none } else run fuel next

end Lexer

def withoutByteOrderMark : List Char → Nat × List Char
  | c :: rest => if isByteOrderMark c then (3, rest) else (0, c :: rest)
  | [] => (0, [])

def TokenStream.ofText (text : String) : TokenStream :=
  let (skipped, chars) := withoutByteOrderMark text.toList
  match forbiddenAt? skipped chars with
  | some offset =>
    { tokens := []
      failure := some
        { problem := "control characters are not allowed", mark := .zero, offset
          context := none } }
  | none => Lexer.run (chars.length + 1) (.start chars)

end Convergence.Yaml
