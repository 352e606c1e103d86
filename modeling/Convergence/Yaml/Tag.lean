import Convergence.Yaml.Quoted

/-! Tags, and the directives that give them short names. -/
namespace Convergence.Yaml

def isUriChar (verbatim : Bool) (c : Char) : Bool :=
  isNameChar c || ";/?:@&=+$.%!~*'()".toList.contains c ||
    (verbatim && (c == ',' || c == '[' || c == ']'))

def escapedByte? : List Char → Option (Nat × List Char)
  | '%' :: a :: b :: rest => do return ((← Text.hexValue? a) * 16 + (← Text.hexValue? b), rest)
  | _ => none

/-- How many bytes a character takes whose first byte is given, and what of the
byte belongs to it. -/
def leadingByte? (n : Nat) : Option (Nat × Nat) :=
  if n < 0x80 then some (1, n)
  else if n / 32 = 6 then some (2, n % 32)
  else if n / 16 = 14 then some (3, n % 16)
  else if n / 8 = 30 then some (4, n % 8)
  else none

/-- Where in a tag something is wrong depends on whether a directive is read. -/
structure TagContext where
  start : Mark
  directive : Bool

def TagContext.parsing (x : TagContext) (problem : String) (mark : Mark) : Problem :=
  .during (if x.directive then "while parsing a %TAG directive" else "while parsing a tag")
    x.start problem mark

def moreBytes (x : TagContext) : Nat → Nat → Cursor → Except Problem (Nat × Cursor)
  | 0, value, c => .ok (value, c)
  | n + 1, value, c =>
    match escapedByte? c.rest with
    | none => .error (x.parsing "did not find URI escaped octet" c.mark)
    | some (byte, _) =>
      if byte / 64 = 2 then moreBytes x n (value * 64 + byte % 64) (c.skip 3)
      else .error (x.parsing "found an incorrect trailing UTF-8 octet" c.mark)

/-- The character with a code, unless the code needs fewer bytes than were given
or is none of a character. -/
def charIn? (width code : Nat) : Option Char :=
  if isUnicode code && (Char.ofNat code).utf8Size = width then some (Char.ofNat code) else none

def readEscaped (x : TagContext) (c : Cursor) : Except Problem (Option Char × Cursor) :=
  match escapedByte? c.rest with
  | none => .error (x.parsing "did not find URI escaped octet" c.mark)
  | some (byte, _) =>
    match leadingByte? byte with
    | none => .error (x.parsing "found an incorrect leading UTF-8 octet" c.mark)
    | some (width, value) => do
      let (value, c) ← moreBytes x (width - 1) value (c.skip 3)
      return (charIn? width value, c)

/-- The characters of a tag from here on, as far as they are any; `fuel` bounds
their number. -/
def readUriChars (x : TagContext) (verbatim : Bool) :
    Nat → List (Option Char) → Cursor → Except Problem (List (Option Char) × Cursor)
  | 0, text, c => .ok (text.reverse, c)
  | fuel + 1, text, c =>
    match c.rest with
    | [] => .ok (text.reverse, c)
    | d :: _ =>
      if d = '%' then do
        let (e, c) ← readEscaped x c
        readUriChars x verbatim fuel (e :: text) c
      else if isUriChar verbatim d then readUriChars x verbatim fuel (some d :: text) (c.skip 1)
      else .ok (text.reverse, c)

/-- A zero among the characters ends the name. -/
def TagName.ofChars (chars : List (Option Char)) : TagName :=
  let chars := chars.takeWhile fun c => c != some (Char.ofNat 0)
  { text := String.ofList (chars.map (·.getD (Char.ofNat 0xFFFD)))
    isReadable := chars.all (·.isSome) }

/-- A tag or the rest of one. Only what goes on after a `head` may be empty. -/
def readUri (x : TagContext) (verbatim : Bool) (head : List Char) (c : Cursor) :
    Except Problem (TagName × Cursor) := do
  let (chars, after) ← readUriChars x verbatim c.rest.length [] c
  if head.isEmpty && chars.isEmpty then
    .error (x.parsing "did not find expected tag URI" after.mark)
  else return (.ofChars ((head.drop 1).map some ++ chars), after)

/-- An exclamation mark, name characters, and perhaps a second exclamation mark. -/
def readHandle (x : TagContext) (c : Cursor) : Except Problem (List Char × Cursor) :=
  if c.peek? ≠ some '!' then
    .error
      (.during (if x.directive then "while scanning a tag directive" else "while scanning a tag")
        x.start "did not find expected '!'" c.mark)
  else
    let (name, after) := (c.skip 1).span isNameChar
    if after.peek? = some '!' then .ok ('!' :: name ++ ['!'], after.skip 1)
    else if x.directive && !name.isEmpty then
      .error
        (.during "while parsing a tag directive" x.start "did not find expected '!'" after.mark)
    else .ok ('!' :: name, after)

def readVerbatim (x : TagContext) (c : Cursor) : Except Problem (TokenKind × Cursor) := do
  let (suffix, after) ← readUri x true [] (c.skip 2)
  if after.peek? = some '>' then return (.tag "" suffix, after.skip 1)
  else .error (.during "while scanning a tag" x.start "did not find the expected '>'" after.mark)

/-- A tag with a handle, or with the exclamation mark alone for one. -/
def readShorthand (x : TagContext) (c : Cursor) : Except Problem (TokenKind × Cursor) := do
  let (handle, after) ← readHandle x c
  if 1 < handle.length && handle.getLast? == some '!' then
    let (suffix, after) ← readUri x false [] after
    return (.tag (String.ofList handle) suffix, after)
  else
    let (suffix, after) ← readUri x false handle after
    return (if suffix.text.isEmpty then .tag "" (.ofText "!") else .tag "!" suffix, after)

def readTag (flow : Bool) (c : Cursor) : Except Problem (Token × Cursor) := do
  let x : TagContext := { start := c.mark, directive := false }
  let (kind, after) ←
    if (c.skip 1).peek? = some '<' then readVerbatim x c else readShorthand x c
  if endsWord after.rest || (flow && after.peek? == some ',') then
    return (.between kind c after, after)
  else
    .error (.during "while scanning a tag" c.mark
      "did not find expected whitespace or line break" after.mark)

def readVersionNumber (start : Mark) (c : Cursor) : Except Problem (Nat × Cursor) :=
  let (digits, after) := c.span Decimal.isDigit
  if digits.isEmpty then
    .error (.during "while scanning a %YAML directive" start
      "did not find expected version number" after.mark)
  else if 9 < digits.length then
    .error (.during "while scanning a %YAML directive" start
      "found extremely long version number" (c.skip 9).mark)
  else .ok (Decimal.ofDigits digits, after)

def readVersion (start : Mark) (c : Cursor) : Except Problem (TokenKind × Cursor) := do
  let (major, c) ← readVersionNumber start (c.skipWhile isBlank)
  if c.peek? ≠ some '.' then
    .error (.during "while scanning a %YAML directive" start
      "did not find expected digit or '.' character" c.mark)
  else
    let (minor, c) ← readVersionNumber start (c.skip 1)
    return (.version major minor, c)

def readTagDirective (start : Mark) (c : Cursor) : Except Problem (TokenKind × Cursor) := do
  let x : TagContext := { start, directive := true }
  let (handle, c) ← readHandle x (c.skipWhile isBlank)
  if !(c.peek?.any isBlank) then
    .error (.during "while scanning a %TAG directive" start
      "did not find expected whitespace" c.mark)
  else
    let (expansion, c) ← readUri x true [] (c.skipWhile isBlank)
    if endsWord c.rest then return (.tagDirective (String.ofList handle) expansion, c)
    else
      .error (.during "while scanning a %TAG directive" start
        "did not find expected whitespace or line break" c.mark)

def scanningDirective (start : Mark) (problem : String) (mark : Mark) : Problem :=
  .during "while scanning a directive" start problem mark

def readDirective (c : Cursor) : Except Problem (Token × Cursor) := do
  let start := c.mark
  let (name, after) := (c.skip 1).span isNameChar
  if name.isEmpty then
    .error (scanningDirective start "could not find expected directive name" after.mark)
  else if !endsWord after.rest then
    .error (scanningDirective start "found unexpected non-alphabetical character" after.mark)
  else
    let (kind, after) ←
      match String.ofList name with
      | "YAML" => readVersion start after
      | "TAG" => readTagDirective start after
      | _ => .error (scanningDirective start "found unknown directive name" after.mark)
    let token := Token.between kind c after
    let after := after.skipBlanksAndComment
    if after.atLineEnd then return (token, after.skipBreak)
    else
      .error (scanningDirective start "did not find expected comment or line break" after.mark)

def readAnchor (isAlias : Bool) (c : Cursor) : Except Problem (Token × Cursor) :=
  let (name, after) := (c.skip 1).span isNameChar
  let ends := endsWord after.rest || after.peek?.any fun d => "?:,]%@`".toList.contains d ||
    d.toNat == 0x7D
  if name.isEmpty || !ends then
    .error (.during (if isAlias then "while scanning an alias" else "while scanning an anchor")
      c.mark "did not find expected alphabetic or numeric character" after.mark)
  else
    let text := String.ofList name
    .ok (.between (if isAlias then .alias text else .anchor text) c after, after)

end Convergence.Yaml
