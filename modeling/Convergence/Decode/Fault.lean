import Convergence.Decimal.Shortest
import Convergence.Text.Quoted
import Convergence.Value

/-! What can be wrong with a value that is read as something of a known shape. -/
namespace Convergence

/-- Where values come from decides how strictly they are read and how faults are
worded: from a JSON document, or from the layers of the settings. -/
inductive Dialect where
  | json
  | layered
deriving DecidableEq, Repr

inductive Fault.Cause where
  | wrongType (found : Value) (expected : String)
  | outOfRange (found : Value) (expected : String)
  | tooShort (present : Nat) (record : String) (fields : Nat)
  | tooLong (present : Nat)
  | missingField (name : String)
  | unknownVariant (name : String) (known : List String)
  /-- A name alone, where the variant also needs something of the given kind. -/
  | bareVariant (expected : String)
  | notSingle

/-- A cause, and the names on the way to the value that it is about. -/
structure Fault where
  path : List String
  cause : Fault.Cause

def Fault.under (name : String) (f : Fault) : Fault := { f with path := name :: f.path }

def codeQuoted (s : String) : String := "`" ++ s ++ "`"

namespace Value

def wordMax : Nat := 18446744073709551615

def describeJson : Value → String
  | null => "null"
  | bool b => "boolean " ++ codeQuoted (if b then "true" else "false")
  | unsigned n => "integer " ++ codeQuoted (toString n)
  | signed n => "integer " ++ codeQuoted (toString n)
  | float x => "floating point " ++ codeQuoted x.marked
  | char c => "string " ++ Text.quoted c.toString
  | text s => "string " ++ Text.quoted s
  | list _ => "sequence"
  | record _ => "map"

def describeLayered : Value → String
  | null => "unit"
  | bool b => "bool " ++ (if b then "true" else "false")
  | unsigned n =>
    if n ≤ wordMax then "unsigned int " ++ codeQuoted (toString n)
    else "integer " ++ codeQuoted (toString n) ++ " as u128"
  | signed n =>
    if -9223372036854775808 ≤ n then "signed int " ++ codeQuoted (toString n)
    else "integer " ++ codeQuoted (toString n) ++ " as i128"
  | float x => "float " ++ codeQuoted x.plain
  | char c => "string " ++ Text.quoted c.toString
  | text s => "string " ++ Text.quoted s
  | list _ => "sequence"
  | record _ => "map"

def describe : Dialect → Value → String
  | .json => describeJson
  | .layered => describeLayered

end Value

namespace Fault

def oneOf (known : List String) : String :=
  match known with
  | [a, b] => codeQuoted a ++ " or " ++ codeQuoted b
  | [a] => codeQuoted a
  | names => "one of " ++ String.intercalate ", " (names.map codeQuoted)

def tooShortText (present : Nat) (record : String) (fields : Nat) : String :=
  "invalid length " ++ toString present ++ ", expected struct " ++ record ++ " with " ++
    toString fields ++ (if fields = 1 then " element" else " elements")

def Cause.jsonText : Cause → String
  | wrongType found expected => "invalid type: " ++ found.describe .json ++ ", expected " ++ expected
  | outOfRange found expected =>
    "invalid value: " ++ found.describe .json ++ ", expected " ++ expected
  | tooShort present record fields => tooShortText present record fields
  | tooLong present =>
    "invalid length " ++ toString present ++ ", expected fewer elements in array"
  | missingField name => "missing field " ++ codeQuoted name
  | unknownVariant name known =>
    "unknown variant " ++ codeQuoted name ++ ", expected " ++ oneOf known
  | bareVariant expected => "invalid type: unit variant, expected " ++ expected
  | notSingle => "invalid value: map, expected map with a single key"

def Cause.layeredText : Cause → String
  | wrongType found expected =>
    "invalid type: found " ++ found.describe .layered ++ ", expected " ++ expected
  | outOfRange found expected =>
    "invalid value " ++ found.describe .layered ++ ", expected " ++ expected
  | unknownVariant name known =>
    "unknown variant: found " ++ codeQuoted name ++ ", expected " ++ codeQuoted (oneOf known)
  | cause => cause.jsonText

def message (f : Fault) : Dialect → String
  | .json => f.cause.jsonText
  | .layered => f.cause.layeredText

end Fault
end Convergence
