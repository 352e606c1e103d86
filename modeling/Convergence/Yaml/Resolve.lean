import Convergence.Decimal.Shortest
import Convergence.Text.Quoted
import Convergence.Yaml.Event
import Convergence.Value

/-! What scalars stand for. A plain one may be a null, a boolean or a number; with
a tag it must be what the tag says. -/
namespace Convergence.Yaml

def isNullWord (s : String) : Bool := s == "null" || s == "Null" || s == "NULL" || s == "~"

def boolWord? (s : String) : Option Bool :=
  if s == "true" || s == "True" || s == "TRUE" then some true
  else if s == "false" || s == "False" || s == "FALSE" then some false
  else none

def radixDigit? (radix : Nat) (c : Char) : Option Nat :=
  let n? :=
    if Decimal.isDigit c then some (Decimal.digitValue c)
    else if 'a'.toNat ≤ c.toNat && c.toNat ≤ 'z'.toNat then some (c.toNat - 'a'.toNat + 10)
    else if 'A'.toNat ≤ c.toNat && c.toNat ≤ 'Z'.toNat then some (c.toNat - 'A'.toNat + 10)
    else none
  n?.filter (· < radix)

def radixFrom (radix n : Nat) : List Char → Option Nat
  | [] => some n
  | c :: rest => (radixDigit? radix c).bind fun d => radixFrom radix (n * radix + d) rest

def radixNat? (radix : Nat) (chars : List Char) : Option Nat :=
  if chars.isEmpty then none else radixFrom radix 0 chars

/-- Zero and a digit more make text of what could be a number. -/
def hasLeadingZero (chars : List Char) : Bool :=
  let digits := match chars with
    | '-' :: rest => rest
    | '+' :: rest => rest
    | chars => chars
  1 < digits.length && digits.head? == some '0' && digits.all Decimal.isDigit

/-- A number without a sign: hexadecimal, octal, binary, or decimal. -/
def magnitude? : List Char → Option Nat
  | '0' :: 'x' :: rest => radixNat? 16 rest
  | '0' :: 'o' :: rest => radixNat? 8 rest
  | '0' :: 'b' :: rest => radixNat? 2 rest
  | chars => radixNat? 10 chars

def unsigned128 : Nat := 340282366920938463463374607431768211456

def signed128 : Nat := 170141183460469231731687303715884105728

def int? (chars : List Char) : Option Value :=
  if hasLeadingZero chars then none
  else
    match chars with
    | '-' :: rest =>
      ((magnitude? rest).filter (· ≤ signed128)).map fun n => .signed (-(n : Int))
    | '+' :: rest => ((magnitude? rest).filter (· < unsigned128)).map .unsigned
    | chars => ((magnitude? chars).filter (· < unsigned128)).map .unsigned

def infinityWords : List String := [".inf", ".Inf", ".INF"]

def nanWords : List String := [".nan", ".NaN", ".NAN"]

/-- A float. Those that are no finite numbers have words of their own. -/
def floatWord? (s : String) : Option Binary64 :=
  let chars := s.toList
  let (chars, plus) := match chars with
    | '+' :: rest => (rest, true)
    | chars => (chars, false)
  if plus && (chars.head? == some '+' || chars.head? == some '-') then none
  else if infinityWords.contains (String.ofList chars) then some (Binary64.infinity false)
  else if (infinityWords.map ("-" ++ ·)).contains s then some (Binary64.infinity true)
  else if nanWords.contains s then some Binary64.nan
  else (Decimal.float? chars).filter (·.isFinite)

def resolvePlain (s : String) : Value :=
  if s.isEmpty || isNullWord s then .null
  else
    match boolWord? s with
    | some b => .bool b
    | none =>
      match int? s.toList with
      | some v => v
      | none =>
        if hasLeadingZero s.toList then .text s
        else
          match floatWord? s with
          | some x => .float x
          | none => .text s

/-- The kind that a tag demands, and what a scalar of that kind is called. -/
def demanded (s : String) : Option Value → String → Except String Value
  | some v, _ => .ok v
  | none, what => .error ("invalid value: string " ++ Text.quoted s ++ ", expected " ++ what)

def standardTag (name : String) : String := "tag:yaml.org,2002:" ++ name

/-- What a scalar stands for where no tag is looked at. -/
def untagged (s : String) (style : ScalarStyle) : Value :=
  if style = .plain then resolvePlain s else .text s

def resolve (tag : Option TagName) (s : String) (style : ScalarStyle) : Except String Value :=
  match tag.map (·.text) with
  | none => .ok (untagged s style)
  | some t =>
    if t = standardTag "bool" then demanded s ((boolWord? s).map .bool) "a boolean"
    else if t = standardTag "int" then demanded s (int? s.toList) "an integer"
    else if t = standardTag "float" then demanded s ((floatWord? s).map .float) "a float"
    else if t = standardTag "null" then
      demanded s (if isNullWord s then some .null else none) "null"
    else if t.startsWith "!" && style = .plain then .ok (resolvePlain s)
    else .ok (.text s)

/-- The name that a tag of one's own gives to a value: what follows its exclamation
mark, or the mark itself where nothing follows. -/
def ownName? (tag : Option TagName) : Option String :=
  match tag with
  | none => none
  | some t =>
    match t.isReadable, t.text.toList with
    | true, ['!'] => some "!"
    | true, '!' :: name => some (String.ofList name)
    | _, _ => none

def describe : Value → String
  | .null => "unit value"
  | .bool b => "boolean `" ++ (if b then "true" else "false") ++ "`"
  | .unsigned n =>
    "integer `" ++ toString n ++ "`" ++ (if n < 18446744073709551616 then "" else " as u128")
  | .signed n =>
    "integer `" ++ toString n ++ "`" ++ (if -9223372036854775808 ≤ n then "" else " as i128")
  | .float x =>
    let text := x.plain
    "floating point `" ++ text ++
      (if x.isFinite && !text.toList.contains '.' then ".0" else "") ++ "`"
  | .char c => "string " ++ Text.quoted c.toString
  | .text s => "string " ++ Text.quoted s
  | .list _ => "sequence"
  | .record _ => "map"

end Convergence.Yaml
