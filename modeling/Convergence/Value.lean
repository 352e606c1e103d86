import Convergence.Decimal.Binary64
import Convergence.Entries

/-! Values of no fixed shape: settings before they are read, and what a cluster
or a caller hands over as it stands. -/
namespace Convergence

inductive Value where
  | null
  | bool (b : Bool)
  /-- A whole number written without a minus sign. -/
  | unsigned (n : Nat)
  /-- A whole number written with a minus sign. -/
  | signed (n : Int)
  | float (x : Binary64)
  | char (c : Char)
  | text (s : String)
  | list (items : List Value)
  | record (entries : List (String × Value))
deriving Repr, Inhabited

namespace Value

/-- A record of entries in any order; of two under one name the later counts. -/
def ofEntries (entries : List (String × Value)) : Value := record (Entries.ofList entries)

def ofOption (wrap : α → Value) : Option α → Value
  | none => null
  | some a => wrap a

def ofText? : Option String → Value := ofOption text

def nest : List String → Value → Value
  | [], v => v
  | name :: path, v => record [(name, nest path v)]

def entry? (name : String) : Value → Option Value
  | record entries => Entries.find? name entries
  | _ => none

def text? : Value → Option String
  | text s => some s
  | _ => none

mutual
/-- Equality of values; floats are compared as numbers. -/
def same : Value → Value → Bool
  | null, null => true
  | bool a, bool b => a == b
  | unsigned a, unsigned b => a == b
  | signed a, signed b => a == b
  | float a, float b => a.sameNumber b
  | char a, char b => a == b
  | text a, text b => a == b
  | list a, list b => sameItems a b
  | record a, record b => sameEntries a b
  | _, _ => false
def sameItems : List Value → List Value → Bool
  | [], [] => true
  | a :: as, b :: bs => same a b && sameItems as bs
  | _, _ => false
def sameEntries : List (String × Value) → List (String × Value) → Bool
  | [], [] => true
  | (name, a) :: as, (other, b) :: bs => name == other && same a b && sameEntries as bs
  | _, _ => false
end

end Value
end Convergence
