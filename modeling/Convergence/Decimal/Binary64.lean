/-! Double precision numbers as their 64 bits, with the one operation that makes
them: a ratio of whole numbers goes to the nearest double, a tie to the one
whose last bit is zero. -/
namespace Convergence

def twoTo (n : Nat) : Nat := Nat.pow 2 n

def tenTo (n : Nat) : Nat := Nat.pow 10 n

structure Binary64 where
  bits : UInt64
deriving DecidableEq, Repr, Inhabited

namespace Binary64

def isNegative (x : Binary64) : Bool := 9223372036854775808 ≤ x.bits.toNat

def exponentBits (x : Binary64) : Nat := x.bits.toNat / twoTo 52 % 2048

def fractionBits (x : Binary64) : Nat := x.bits.toNat % twoTo 52

def isFinite (x : Binary64) : Bool := x.exponentBits < 2047

def isNaN (x : Binary64) : Bool := x.exponentBits == 2047 && x.fractionBits != 0

/-- A finite double is this many units, leaving its sign aside. -/
def significand (x : Binary64) : Nat :=
  if x.exponentBits = 0 then x.fractionBits else x.fractionBits + twoTo 52

/-- The unit of `significand` is two to this power, less 1074. -/
def unitBits (x : Binary64) : Nat := if x.exponentBits = 0 then 0 else x.exponentBits - 1

def isZero (x : Binary64) : Bool := x.isFinite && x.significand == 0

def ofMagnitude (negative : Bool) (magnitude : Nat) : Binary64 :=
  let kept := if magnitude < 2047 * twoTo 52 then magnitude else 2047 * twoTo 52
  ⟨(if negative then twoTo 63 + kept else kept).toUInt64⟩

def infinity (negative : Bool) : Binary64 := ofMagnitude negative (2047 * twoTo 52)

def nan : Binary64 := ⟨(2047 * twoTo 52 + twoTo 51 : Nat).toUInt64⟩

/-- The whole number nearest to `num / den`, a tie to the even one. -/
def roundEven (num den : Nat) : Nat :=
  let low := num / den
  let rest := 2 * (num % den)
  if rest < den then low
  else if den < rest then low + 1
  else if low % 2 = 0 then low else low + 1

def floorLog2 (num den : Nat) : Int :=
  let guess : Int := (num.log2 : Int) - (den.log2 : Int)
  let reached :=
    if 0 ≤ guess then den * twoTo guess.toNat ≤ num else den ≤ num * twoTo (-guess).toNat
  if reached then guess else guess - 1

def ofRatio (negative : Bool) (num den : Nat) : Binary64 :=
  if num = 0 then ofMagnitude negative 0
  else
    let unit : Int := floorLog2 num den - 52
    let unit := if unit < -1074 then -1074 else unit
    let units :=
      if 0 ≤ unit then roundEven num (den * twoTo unit.toNat)
      else roundEven (num * twoTo (-unit).toNat) den
    ofMagnitude negative ((unit + 1074).toNat * twoTo 52 + units)

/-- The double nearest to `digits` times ten to the power `exponent`. -/
def ofDecimal (negative : Bool) (digits : Nat) (exponent : Int) : Binary64 :=
  if digits = 0 then ofMagnitude negative 0
  else
    let places : Int := (Nat.toDigits 10 digits).length
    if 310 < places + exponent then infinity negative
    else if places + exponent < -330 then ofMagnitude negative 0
    else if 0 ≤ exponent then ofRatio negative (digits * tenTo exponent.toNat) 1
    else ofRatio negative digits (tenTo (-exponent).toNat)

/-- Equality of numbers: both zeros are one number, and no number is not a number. -/
def sameNumber (x y : Binary64) : Bool :=
  !x.isNaN && !y.isNaN && (x.bits == y.bits || (x.isZero && y.isZero))

end Binary64
end Convergence
