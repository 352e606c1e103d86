import Convergence.Decimal.Binary64

/-! Decimal numbers as people write them: a sign, digits with one point
anywhere among them, and a power of ten. -/
namespace Convergence.Decimal

def isDigit (c : Char) : Bool := '0'.toNat ≤ c.toNat && c.toNat ≤ '9'.toNat

def digitValue (c : Char) : Nat := c.toNat - '0'.toNat

def ofDigits (digits : List Char) : Nat := digits.foldl (fun n c => n * 10 + digitValue c) 0

/-- A whole number of nothing but digits, of which there is at least one. -/
def nat? (chars : List Char) : Option Nat :=
  if chars.isEmpty then none
  else if chars.all isDigit then some (ofDigits chars)
  else none

def int? : List Char → Option Int
  | '-' :: rest => (nat? rest).map fun n => -(n : Int)
  | '+' :: rest => (nat? rest).map fun n => (n : Int)
  | chars => (nat? chars).map fun n => (n : Int)

/-- The power of ten at the end of a number: nothing, or a mark and a whole number. -/
def power? : List Char → Option Int
  | [] => some 0
  | mark :: rest => if mark = 'e' ∨ mark = 'E' then int? rest else none

def smallAscii (c : Char) : Char := if c.isUpper then c.toLower else c

def magnitude? (negative : Bool) (chars : List Char) : Option Binary64 :=
  let whole := chars.takeWhile isDigit
  let afterWhole := chars.dropWhile isDigit
  let (places, afterPlaces) :=
    match afterWhole with
    | '.' :: rest => (rest.takeWhile isDigit, rest.dropWhile isDigit)
    | rest => ([], rest)
  if whole.isEmpty && places.isEmpty then none
  else
    (power? afterPlaces).map fun e =>
      Binary64.ofDecimal negative (ofDigits (whole ++ places)) (e - places.length)

def unsignedFloat? (negative : Bool) (chars : List Char) : Option Binary64 :=
  match String.ofList (chars.map smallAscii) with
  | "inf" => some (Binary64.infinity negative)
  | "infinity" => some (Binary64.infinity negative)
  | "nan" => some Binary64.nan
  | _ => magnitude? negative chars

def float? : List Char → Option Binary64
  | '-' :: rest => unsignedFloat? true rest
  | '+' :: rest => unsignedFloat? false rest
  | chars => unsignedFloat? false chars

end Convergence.Decimal
