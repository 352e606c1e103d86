import Convergence.Url.Encoding

/-! Numeric addresses of hosts, of four bytes or of eight pieces. Either kind has many
spellings and is written in the shortest. -/
namespace Convergence.Url

def splitAt (isSeparator : Char → Bool) : List Char → List (List Char)
  | [] => [[]]
  | c :: rest =>
    if isSeparator c then [] :: splitAt isSeparator rest
    else
      match splitAt isSeparator rest with
      | first :: others => (c :: first) :: others
      | [] => [[c]]

/-! ### Four bytes -/

/-- One number of an address: decimal, octal after a zero, hexadecimal after `0x`. -/
def addressNumber? : List Char → Option Nat
  | [] => none
  | '0' :: 'x' :: rest => Text.numberIn? 16 rest
  | '0' :: 'X' :: rest => Text.numberIn? 16 rest
  | '0' :: rest => Text.numberIn? 8 rest
  | chars => Text.numberIn? 10 chars

def withoutLastEmpty (labels : List (List Char)) : List (List Char) :=
  match labels.reverse with
  | [] :: rest => if rest.isEmpty then labels else rest.reverse
  | _ => labels

/-- Whether a name can only be meant as a numeric address. -/
def endsInNumber (labels : List (List Char)) : Bool :=
  match (withoutLastEmpty labels).getLast? with
  | some label => !label.isEmpty && (label.all Decimal.isDigit || (addressNumber? label).isSome)
  | none => false

/-- Up to four numbers as one; the last stands for all the bytes that are left. -/
def joinNumbers? : List Nat → Option Nat
  | [d] => if d < 4294967296 then some d else none
  | [a, d] => if a < 256 ∧ d < 16777216 then some (a * 16777216 + d) else none
  | [a, b, d] =>
    if a < 256 ∧ b < 256 ∧ d < 65536 then some (a * 16777216 + b * 65536 + d) else none
  | [a, b, c, d] =>
    if a < 256 ∧ b < 256 ∧ c < 256 ∧ d < 256 then
      some (a * 16777216 + b * 65536 + c * 256 + d)
    else none
  | _ => none

def fourBytes? (labels : List (List Char)) : Option Nat :=
  ((withoutLastEmpty labels).mapM addressNumber?).bind joinNumbers?

def decimalDigits (n : Nat) : List Char := Nat.toDigits 10 n

def fourBytesText (n : Nat) : List Char :=
  List.intercalate ['.']
    [decimalDigits (n / 16777216), decimalDigits (n / 65536 % 256), decimalDigits (n / 256 % 256),
     decimalDigits (n % 256)]

/-! ### Eight pieces -/

def piece? (chars : List Char) : Option Nat :=
  if chars.isEmpty || 4 < chars.length then none else Text.numberIn? 16 chars

/-- A decimal byte without useless zeros. -/
def byte? (chars : List Char) : Option Nat :=
  if 3 < chars.length || (1 < chars.length && chars.head? == some '0') then none
  else (Decimal.nat? chars).filter (· ≤ 255)

def dottedPieces? (chars : List Char) : Option (List Nat) := do
  match ← (splitAt (· == '.') chars).mapM byte? with
  | [a, b, c, d] => some [a * 256 + b, c * 256 + d]
  | _ => none

/-- Pieces between colons; only the last of them may be dotted. -/
def pieces? : List (List Char) → Option (List Nat)
  | [] => some []
  | [last] => if last.contains '.' then dottedPieces? last else (piece? last).map ([·])
  | first :: rest => do return (← piece? first) :: (← pieces? rest)

def splitAtPair : List Char → List Char × Option (List Char)
  | ':' :: ':' :: rest => ([], some rest)
  | c :: rest =>
    let (before, after) := splitAtPair rest
    (c :: before, after)
  | [] => ([], none)

def someOf (chars : List Char) : Option (List Nat) :=
  if chars.isEmpty then some [] else pieces? (splitAt (· == ':') chars)

/-- A pair of colons stands for the zeros that are missing. -/
def eightPieces? (chars : List Char) : Option (List Nat) := do
  match splitAtPair chars with
  | (before, none) =>
    let pieces ← pieces? (splitAt (· == ':') before)
    if pieces.length = 8 then some pieces else none
  | (before, some after) =>
    let front ← if before.contains '.' then none else someOf before
    let back ← someOf after
    if front.length + back.length < 8 then
      some (front ++ List.replicate (8 - front.length - back.length) 0 ++ back)
    else none

def zerosAtStart (pieces : List Nat) : Nat := (pieces.takeWhile (· == 0)).length

/-- The place and the length of the first longest run of zeros. -/
def longestZeros : Nat → List Nat → Nat × Nat
  | _, [] => (0, 0)
  | place, p :: rest =>
    let here := zerosAtStart (p :: rest)
    let (later, length) := longestZeros (place + 1) rest
    if length ≤ here then (place, here) else (later, length)

def piecesText (pieces : List Nat) : List Char :=
  List.intercalate [':'] (pieces.map (Nat.toDigits 16))

def eightPiecesText (pieces : List Nat) : List Char :=
  let (place, length) := longestZeros 0 pieces
  if length < 2 then '[' :: piecesText pieces ++ [']']
  else
    '[' :: piecesText (pieces.take place) ++ [':', ':'] ++
      piecesText (pieces.drop (place + length)) ++ [']']

end Convergence.Url
