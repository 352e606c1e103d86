import Convergence.Decimal.Reading
import Convergence.Text.Blank
import Convergence.Value
import Convergence.Yaml.Quoted

/-! Values in environment variables: booleans, numbers, quoted texts, lists in
brackets and maps in braces. What cannot be read to its end is a text as it stands. -/
namespace Convergence.EnvValue

def isBlank (c : Char) : Bool :=
  c == ' ' || c == '\t' || c == '\n' || c == '\r' || c.toNat == 0x0C

def isOpenBrace (c : Char) : Bool := c.toNat == 0x7B

def isCloseBrace (c : Char) : Bool := c.toNat == 0x7D

def isSeparator (c : Char) : Bool :=
  c == ',' || c == '[' || c == ']' || isOpenBrace c || isCloseBrace c

def isNameChar (c : Char) : Bool := c.isAlphanum || c == '_' || c == '-'

def skipBlanks (chars : List Char) : List Char := chars.dropWhile isBlank

def hexChar? (digits : Nat) (chars : List Char) : Option (Char × List Char) := do
  let code := chars.take digits
  if code.length ≠ digits then none
  else
    let n ← Text.numberIn? 16 code
    if Yaml.isUnicode n then some (Char.ofNat n, chars.drop digits) else none

def escape? : List Char → Option (Char × List Char)
  | [] => none
  | c :: rest =>
    match c with
    | '"' => some ('"', rest)
    | '\\' => some ('\\', rest)
    | 'b' => some (Char.ofNat 8, rest)
    | 'f' => some (Char.ofNat 12, rest)
    | 'n' => some ('\n', rest)
    | 'r' => some ('\r', rest)
    | 't' => some ('\t', rest)
    | 'u' => hexChar? 4 rest
    | 'U' => hexChar? 8 rest
    | _ => none

/-- Characters that may stand in quotes as they are. -/
def isPlainChar (c : Char) : Bool := c == '\t' || (0x20 ≤ c.toNat && c.toNat != 0x7F)

/-- The rest of a text, from an escape in it on; `fuel` bounds the number of its
characters. -/
def escaped? : Nat → List Char → List Char → Option (String × List Char)
  | 0, _, _ => none
  | fuel + 1, text, chars =>
    match chars with
    | [] => none
    | '"' :: rest => some (String.ofList text.reverse, rest)
    | '\\' :: rest => do
      let (c, rest) ← escape? rest
      escaped? fuel (c :: text) rest
    | c :: rest => if isPlainChar c then escaped? fuel (c :: text) rest else none

def fitting : Nat → List Char → List Char
  | _, [] => []
  | bytes, c :: rest => if c.utf8Size ≤ bytes then c :: fitting (bytes - c.utf8Size) rest else []

/-- A text after its opening quote. What stands before the first escape is kept up to
as many bytes as it has characters. -/
def quoted? (chars : List Char) : Option (String × List Char) :=
  let isOrdinary (c : Char) : Bool := c != '"' && c != '\\' && isPlainChar c
  let front := chars.takeWhile isOrdinary
  match chars.dropWhile isOrdinary with
  | '"' :: rest => some (String.ofList front, rest)
  | '\\' :: rest => escaped? (rest.length + 2) (fitting front.length front).reverse ('\\' :: rest)
  | _ => none

def bare (chars : List Char) : Value :=
  let chars := Text.trimChars chars
  let number : Value :=
    match Decimal.int? chars with
    | some n =>
      if chars.head? = some '-' then
        if -9223372036854775808 ≤ n then .signed n else .text (String.ofList chars)
      else if n ≤ 18446744073709551615 then .unsigned n.toNat
      else .text (String.ofList chars)
    | none => .text (String.ofList chars)
  if chars.contains '.' then
    match Decimal.float? chars with
    | some x => .float x
    | none => number
  else number

def key? (chars : List Char) : Option (String × List Char) := do
  let chars := skipBlanks chars
  let (name, rest) ←
    match chars with
    | '"' :: rest => quoted? rest
    | chars =>
      let name := chars.takeWhile isNameChar
      if name.isEmpty then none else some (String.ofList name, chars.dropWhile isNameChar)
  match skipBlanks rest with
  | '=' :: rest => some (name, rest)
  | _ => none

/-- Passes over the comma after an item, unless the collection ends there. -/
def afterItem? (isEnd : Char → Bool) : List Char → Option (List Char)
  | [] => none
  | c :: rest => if c = ',' then some rest else if isEnd c then some (c :: rest) else none

mutual
/-- A value and what follows it; `fuel` bounds the nesting of calls. -/
def value? : Nat → List Char → Option (Value × List Char)
  | 0, _ => none
  | fuel + 1, chars => do
    let chars := skipBlanks chars
    let (v, rest) ←
      match chars with
      | 't' :: 'r' :: 'u' :: 'e' :: rest => some (Value.bool true, rest)
      | 'f' :: 'a' :: 'l' :: 's' :: 'e' :: rest => some (Value.bool false, rest)
      | '[' :: rest => (items? fuel rest).map fun (vs, rest) => (Value.list vs, rest)
      | '"' :: rest => (quoted? rest).map fun (s, rest) => (Value.text s, rest)
      | '\'' :: c :: '\'' :: rest => some (Value.char c, rest)
      | '\'' :: _ => none
      | c :: rest =>
        if isOpenBrace c then
          (entries? fuel rest).map fun (es, rest) => (Value.ofEntries es, rest)
        else
          let chars := c :: rest
          some (bare (chars.takeWhile (!isSeparator ·)), chars.dropWhile (!isSeparator ·))
      | [] => some (bare [], [])
    return (v, skipBlanks rest)
def items? : Nat → List Char → Option (List Value × List Char)
  | 0, _ => none
  | fuel + 1, chars =>
    match chars with
    | ']' :: rest => some ([], rest)
    | chars => do
      let (v, rest) ← value? fuel chars
      let rest ← afterItem? (· == ']') rest
      let (vs, rest) ← items? fuel rest
      return (v :: vs, rest)
def entries? : Nat → List Char → Option (List (String × Value) × List Char)
  | 0, _ => none
  | fuel + 1, chars =>
    if chars.head?.any isCloseBrace then some ([], chars.drop 1)
    else do
      let (name, rest) ← key? chars
      let (v, rest) ← value? fuel rest
      let rest ← afterItem? isCloseBrace rest
      let (es, rest) ← entries? fuel rest
      return ((name, v) :: es, rest)
end

def ofText (s : String) : Value :=
  match value? (2 * s.toList.length + 2) s.toList with
  | some (v, []) => v
  | _ => .text s

end Convergence.EnvValue
