import Convergence.Text.Hexadecimal
import Convergence.Text.Utf8

/-! Percent escapes: a byte as a percent sign and two hexadecimal digits. Every
part of an address has its own set of characters that must be escaped. -/
namespace Convergence.Url

def escapedByte (b : Nat) : List Char :=
  ['%', Text.capitalHexDigit (b / 16), Text.capitalHexDigit (b % 16)]

def isControl (c : Char) : Bool := c.toNat < 0x20 || 0x7F ≤ c.toNat

def isOneOf (s : String) (c : Char) : Bool := s.toList.contains c

def isBrace (c : Char) : Bool := c.toNat == 0x7B || c.toNat == 0x7D

def inFragment (c : Char) : Bool := isControl c || isOneOf " \"<>`" c

def inPath (c : Char) : Bool := inFragment c || isOneOf "#?" c || isBrace c

def inUser (c : Char) : Bool := inPath c || isOneOf "/:;=@[\\]^|" c

def inQuery (c : Char) : Bool := isControl c || isOneOf " \"#<>" c

def inSpecialQuery (c : Char) : Bool := inQuery c || c == '\''

def escape (mustEscape : Char → Bool) (chars : List Char) : List Char :=
  chars.flatMap fun c =>
    if mustEscape c then (Text.utf8Bytes c).flatMap escapedByte else [c]

def unescape : List Char → List Nat
  | '%' :: a :: b :: rest =>
    match Text.hexValue? a, Text.hexValue? b with
    | some x, some y => (x * 16 + y) :: unescape rest
    | _, _ => 0x25 :: unescape (a :: b :: rest)
  | c :: rest => Text.utf8Bytes c ++ unescape rest
  | [] => []

end Convergence.Url
