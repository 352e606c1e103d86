/-! Text as bytes. Bytes that are no text at all can still be read: each run that
begins like a character and then breaks off becomes one replacement character. -/
namespace Convergence.Text

def utf8Bytes (c : Char) : List Nat :=
  let n := c.toNat
  if n < 0x80 then [n]
  else if n < 0x800 then [0xC0 + n / 64, 0x80 + n % 64]
  else if n < 0x10000 then [0xE0 + n / 4096, 0x80 + n / 64 % 64, 0x80 + n % 64]
  else [0xF0 + n / 262144, 0x80 + n / 4096 % 64, 0x80 + n / 64 % 64, 0x80 + n % 64]

/-- A character of which some bytes are still to come; the next must lie between
the bounds. -/
structure Partial where
  missing : Nat
  value : Nat
  low : Nat
  high : Nat
deriving DecidableEq, Repr

def replacement : Char := Char.ofNat 0xFFFD

def firstByte (b : Nat) : List Char × Option Partial :=
  if b < 0x80 then ([Char.ofNat b], none)
  else if 0xC2 ≤ b ∧ b ≤ 0xDF then ([], some ⟨1, b % 32, 0x80, 0xBF⟩)
  else if b = 0xE0 then ([], some ⟨2, 0, 0xA0, 0xBF⟩)
  else if b = 0xED then ([], some ⟨2, 13, 0x80, 0x9F⟩)
  else if 0xE1 ≤ b ∧ b ≤ 0xEF then ([], some ⟨2, b % 16, 0x80, 0xBF⟩)
  else if b = 0xF0 then ([], some ⟨3, 0, 0x90, 0xBF⟩)
  else if 0xF1 ≤ b ∧ b ≤ 0xF3 then ([], some ⟨3, b % 8, 0x80, 0xBF⟩)
  else if b = 0xF4 then ([], some ⟨3, 4, 0x80, 0x8F⟩)
  else ([replacement], none)

def nextByte (p : Partial) (b : Nat) : List Char × Option Partial :=
  if p.low ≤ b ∧ b ≤ p.high then
    let value := p.value * 64 + b % 64
    if p.missing ≤ 1 then ([Char.ofNat value], none)
    else ([], some ⟨p.missing - 1, value, 0x80, 0xBF⟩)
  else
    let (chars, next) := firstByte b
    (replacement :: chars, next)

def decodeFrom : Option Partial → List Nat → List Char
  | none, [] => []
  | some _, [] => [replacement]
  | none, b :: rest =>
    let (chars, next) := firstByte b
    chars ++ decodeFrom next rest
  | some p, b :: rest =>
    let (chars, next) := nextByte p b
    chars ++ decodeFrom next rest

def decodeBytes (bytes : List Nat) : String := String.ofList (decodeFrom none bytes)

end Convergence.Text
