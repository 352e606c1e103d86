import Convergence.Http.Exchange

/-! Heads of answers as they go over a connection: a line with the status, and fields. -/
namespace Convergence
namespace Wire

/-! ### Lines -/

/-- The line whose bytes have come last first, without its end. -/
def lineOf (reversed : List Nat) : String :=
  Text.decodeBytes <|
    match reversed with
    | 13 :: rest => rest.reverse
    | bytes => bytes.reverse

/-- The lines up to an empty one, and what follows it. Empty lines before the first one are
passed over. -/
def head? : List Nat → List String → List Nat → Option (List String × List Nat)
  | _, _, [] => none
  | line, lines, b :: rest =>
    if b = 10 then
      if (lineOf line).isEmpty then
        if lines.isEmpty then head? [] [] rest else some (lines.reverse, rest)
      else head? [] (lineOf line :: lines) rest
    else head? (b :: line) lines rest

/-- What is left of the bytes is shorter than they are. -/
theorem length_of_head? {line : List Nat} {lines : List String} {bytes : List Nat}
    {found : List String} {behind : List Nat}
    (h : head? line lines bytes = some (found, behind)) : behind.length < bytes.length := by
  fun_induction head? line lines bytes with
  | case1 => cases h
  | case3 =>
    cases h
    exact Nat.lt_succ_self _
  | case2 _ _ _ _ _ ih => exact Nat.lt_succ_of_lt (ih h)
  | case4 _ _ _ _ ih => exact Nat.lt_succ_of_lt (ih h)
  | case5 _ _ _ _ _ ih => exact Nat.lt_succ_of_lt (ih h)

/-! ### Heads -/

structure Head where
  /-- The digit behind the main version, which is one. -/
  minor : Nat
  status : Nat
  /-- Names in small letters, and what is told under them. -/
  fields : List (String × String)
deriving DecidableEq, Repr

/-- The version and the status, with a reason behind them or none. -/
def statusLine? (line : String) : Option (Nat × Nat) :=
  match line.toList with
  | 'H' :: 'T' :: 'T' :: 'P' :: '/' :: '1' :: '.' :: minor :: ' ' :: a :: b :: c :: reason =>
    if (minor == '0' || minor == '1') && reason.all isHeaderChar && reason.head?.all (· == ' ')
    then (Decimal.nat? [a, b, c]).map (Decimal.digitValue minor, ·)
    else none
  | _ => none

def isNameChar (c : Char) : Bool :=
  ('a' ≤ c && c ≤ 'z') || ('A' ≤ c && c ≤ 'Z') || Decimal.isDigit c ||
    "!#$%&'*+-.^_\x60|~".toList.contains c

def isLineBlank (c : Char) : Bool := c == ' ' || c == '\t'

def trimmed (chars : List Char) : List Char :=
  ((chars.dropWhile isLineBlank).reverse.dropWhile isLineBlank).reverse

def field? (line : String) : Option (String × String) :=
  let isName (c : Char) : Bool := c != ':'
  let name := line.toList.takeWhile isName
  match line.toList.dropWhile isName with
  | [] => none
  | _ :: value =>
    if !name.isEmpty && name.all isNameChar && value.all isHeaderChar then
      some (String.ofList (name.map Char.toLower), String.ofList (trimmed value))
    else none

def maxFields : Nat := 100

def Head.ofLines? : List String → Option Head
  | [] => none
  | first :: lines => do
    let (minor, status) ← statusLine? first
    let fields ← lines.mapM field?
    if fields.length ≤ maxFields then some { minor, status, fields } else none

namespace Head

def values (h : Head) (name : String) : List String :=
  h.fields.filterMap fun (key, value) => if key = name then some value else none

def hasBody (h : Head) : Bool := !([101, 204, 304].contains h.status)

end Head

end Wire
end Convergence
