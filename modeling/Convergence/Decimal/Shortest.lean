import Convergence.Decimal.Binary64

/-! The fewest decimal digits that still round to a given double, and of those
the ones nearest to it. Two ways to write them out follow. -/
namespace Convergence.Binary64

structure Digits where
  digits : Nat
  exponent : Int
deriving DecidableEq, Repr

/-- The bounds of the numbers that round to `x`, and `x` itself, as multiples of
a quarter of its unit. -/
def quarterBounds (x : Binary64) : Nat × Nat × Nat :=
  let m := x.significand
  let below := if m = twoTo 52 ∧ 1 < x.exponentBits then 1 else 2
  (4 * m - below, 4 * m, 4 * m + 2)

/-- The multiple of ten to the power `k` that rounds to `x` and is nearest to it. -/
def onGrid? (x : Binary64) (k : Int) : Option Nat :=
  let (low, mid, high) := x.quarterBounds
  let unit : Int := (x.unitBits : Int) - 1076
  let up := twoTo unit.toNat * tenTo (-k).toNat
  let step := tenTo k.toNat * twoTo (-unit).toNat
  let inside (d : Nat) : Bool :=
    if x.significand % 2 = 0 then low * up ≤ d * step && d * step ≤ high * up
    else low * up < d * step && d * step < high * up
  let d := mid * up / step
  let rest := mid * up % step
  match inside d && d != 0, inside (d + 1) with
  | true, true => some (if 2 * rest < step then d else if step < 2 * rest then d + 1
      else if d % 2 = 0 then d else d + 1)
  | true, false => some d
  | false, true => some (d + 1)
  | false, false => none

/-- Looks on finer and finer grids, `fuel` of them at most. -/
def searchGrids (x : Binary64) : Nat → Int → Digits
  | 0, k => ⟨x.significand, k⟩
  | fuel + 1, k =>
    match x.onGrid? k with
    | some d => ⟨d, k⟩
    | none => searchGrids x fuel (k - 1)

def dropZeros : Nat → Digits → Digits
  | 0, d => d
  | fuel + 1, d =>
    if d.digits ≠ 0 ∧ d.digits % 10 = 0 then dropZeros fuel ⟨d.digits / 10, d.exponent + 1⟩ else d

def shortest (x : Binary64) : Digits :=
  if x.significand = 0 then ⟨0, 0⟩
  else
    let top : Int := (x.significand.log2 : Int) + (x.unitBits : Int) - 1074
    dropZeros 20 (searchGrids x 24 ((top + 1) * 30103 / 100000 + 1))

def zeros (n : Nat) : List Char := List.replicate n '0'

/-- All digits in their places, a point only where a fraction follows. -/
def positional (d : Digits) : List Char :=
  let digits := Nat.toDigits 10 d.digits
  if 0 ≤ d.exponent then digits ++ (if d.digits = 0 then [] else zeros d.exponent.toNat)
  else
    let places := (-d.exponent).toNat
    if places < digits.length then
      digits.take (digits.length - places) ++ '.' :: digits.drop (digits.length - places)
    else '0' :: '.' :: zeros (places - digits.length) ++ digits

def powerChars (e : Int) : List Char :=
  let digits := Nat.toDigits 10 e.natAbs
  'e' :: (if e < 0 then '-' else '+') :: zeros (2 - digits.length) ++ digits

def scientific (d : Digits) : List Char :=
  match Nat.toDigits 10 d.digits with
  | [] => []
  | first :: rest =>
    first :: (if rest.isEmpty then [] else '.' :: rest) ++ powerChars (d.exponent + rest.length)

def withSign (x : Binary64) (body : List Char) : String :=
  String.ofList (if x.isNegative then '-' :: body else body)

/-- A float that is always recognised as one: with a point, or with a power of ten
outside 10^-5 to 10^16. -/
def marked (x : Binary64) : String :=
  let d := x.shortest
  let top := d.exponent + (Nat.toDigits 10 d.digits).length
  withSign x <|
    if d.digits ≠ 0 ∧ (top ≤ -5 ∨ 16 < top) then scientific d
    else if 0 ≤ d.exponent then positional d ++ ['.', '0']
    else positional d

def plain (x : Binary64) : String :=
  if x.isNaN then "NaN"
  else if x.isFinite then withSign x (positional x.shortest)
  else withSign x ['i', 'n', 'f']

end Convergence.Binary64
