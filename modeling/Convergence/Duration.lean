/-! Spans of time as exact counts of nanoseconds. Written text keeps every
digit: the unit is the largest whose whole part is not zero, and only the
zeros at the end of the fraction are dropped. -/
namespace Convergence

structure Duration where
  nanos : Nat
deriving DecidableEq, Repr, Inhabited

namespace Duration

def zero : Duration := ⟨0⟩

def ofSecs (n : Nat) : Duration := ⟨n * 1000000000⟩

def ofMillis (n : Nat) : Duration := ⟨n * 1000000⟩

def longest : Duration := ⟨18446744073709551616 * 1000000000 - 1⟩

def secs (d : Duration) : Nat := d.nanos / 1000000000

def subsecNanos (d : Duration) : Nat := d.nanos % 1000000000

def millis (d : Duration) : Nat := d.nanos / 1000000

/-- Whole milliseconds, a rest counted as one more. -/
def millisUp (d : Duration) : Nat := (d.nanos + 999999) / 1000000

def add (a b : Duration) : Duration := ⟨a.nanos + b.nanos⟩

def timesSat (d : Duration) (n : Nat) : Duration :=
  if d.nanos * n ≤ longest.nanos then ⟨d.nanos * n⟩ else longest

/-- The digits of `n` as a fraction with `width` places, without the zeros at its end. -/
def fraction (n width : Nat) : List Char :=
  let digits := Nat.toDigits 10 n
  let padded := List.replicate (width - digits.length) '0' ++ digits
  (padded.reverse.dropWhile (· == '0')).reverse

/-- `whole` units and `rest` smaller ones, of which `10 ^ width` make a unit. -/
def inUnit (whole rest width : Nat) (unit : String) : String :=
  match fraction rest width with
  | [] => toString whole ++ unit
  | digits => toString whole ++ "." ++ String.ofList digits ++ unit

def text (d : Duration) : String :=
  let n := d.nanos
  if 1000000000 ≤ n then inUnit (n / 1000000000) (n % 1000000000) 9 "s"
  else if 1000000 ≤ n then inUnit (n / 1000000) (n % 1000000) 6 "ms"
  else if 1000 ≤ n then inUnit (n / 1000) (n % 1000) 3 "µs"
  else inUnit n 0 0 "ns"

theorem timesSat_of_le {d : Duration} {n : Nat} (h : d.nanos * n ≤ longest.nanos) :
    (d.timesSat n).nanos = d.nanos * n := by
  simp [timesSat, h]

end Duration
end Convergence
