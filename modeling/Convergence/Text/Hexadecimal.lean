import Convergence.Decimal.Reading

/-! Hexadecimal digits. Both cases are read; what is written fixes one. -/
namespace Convergence.Text

def hexValue? (c : Char) : Option Nat :=
  if Decimal.isDigit c then some (Decimal.digitValue c)
  else if 'a'.toNat ≤ c.toNat && c.toNat ≤ 'f'.toNat then some (c.toNat - 'a'.toNat + 10)
  else if 'A'.toNat ≤ c.toNat && c.toNat ≤ 'F'.toNat then some (c.toNat - 'A'.toNat + 10)
  else none

def hexDigit (n : Nat) : Char := if n < 10 then Char.ofNat (48 + n) else Char.ofNat (87 + n)

def capitalHexDigit (n : Nat) : Char := if n < 10 then Char.ofNat (48 + n) else Char.ofNat (55 + n)

def numberIn? (base : Nat) (chars : List Char) : Option Nat :=
  chars.foldlM (fun n c => ((hexValue? c).filter (· < base)).map (n * base + ·)) 0

end Convergence.Text
