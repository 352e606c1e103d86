import Convergence.Decimal.Reading
import Convergence.Logging.Notice
import Convergence.Text.Alphanumeric
import Convergence.Text.Blank
import Convergence.Text.Pattern

/-! Which notices are logged. Rules name origins by the beginning of their names; the
rule with the longest name that fits decides, and what fits no rule is not logged. A
rule may also name waits: it lets pass what is told during them, wherever it comes
from. -/
namespace Convergence

/-- The least urgent level that is logged, if any is. -/
abbrev Threshold := Option Level

namespace Threshold

def allows (t : Threshold) (level : Level) : Bool := t.any (·.urgency ≤ level.urgency)

def wider (a b : Threshold) : Threshold :=
  match a, b with
  | some x, some y => if x.urgency ≤ y.urgency then some x else some y
  | none, b => b
  | a, none => a

def widest (ts : List Threshold) : Threshold := ts.foldl wider none

end Threshold

inductive FieldTest where
  | literal
  | like (source : String) (pattern : Text.Pattern)
deriving DecidableEq, Repr

def FieldTest.passes (s : String) : FieldTest → Bool
  | literal => false
  | like _ pattern => pattern.describes s

structure FieldDemand where
  name : String
  test : Option FieldTest
deriving DecidableEq, Repr

structure LogRule where
  origin : Option String
  wait : Option String
  field : Option FieldDemand
  threshold : Threshold
deriving DecidableEq, Repr

abbrev LogFilter := List LogRule

/-! ### Reading -/

def Threshold.ofNumber? : Nat → Option Threshold
  | 0 => some none
  | 1 => some (some .error)
  | 2 => some (some .warn)
  | 3 => some (some .info)
  | 4 => some (some .debug)
  | 5 => some (some .trace)
  | _ => none

def asciiSmall (chars : List Char) : String := String.ofList (chars.map Char.toLower)

def unsignedNumber? : List Char → Option Nat
  | '+' :: digits => Decimal.nat? digits
  | digits => Decimal.nat? digits

def Threshold.ofText? (chars : List Char) : Option Threshold :=
  match (unsignedNumber? chars).bind Threshold.ofNumber? with
  | some t => some t
  | none =>
    match asciiSmall chars with
    | "off" => some none
    | name => (Level.ofSmallName? name).map some

def FieldTest.ofText? (s : String) : Option FieldTest :=
  if s == "true" || s == "false" || (Decimal.float? s.toList).isSome then some literal
  else (Text.Pattern.ofText? s).map (like s)

def FieldDemand.ofText? (s : String) : Option FieldDemand :=
  match s.splitOn "=" with
  | [] => none
  | [name] => some { name, test := none }
  | name :: test :: _ => (FieldTest.ofText? test).map fun test => { name, test := some test }

def isRuleStart (c : Char) : Bool :=
  c == '-' || c == ':' || c == '_' || Text.isAlphanumeric c

namespace LogRule

/-- A word that names no threshold names an origin, of which everything is logged. -/
def ofWord (chars : List Char) : LogRule :=
  match Threshold.ofText? chars with
  | some threshold => { origin := none, wait := none, field := none, threshold }
  | none =>
    { origin := some (String.ofList chars), wait := none, field := none, threshold := some .trace }

def withLevel? (r : LogRule) (level : List Char) : Option LogRule :=
  if level.isEmpty then some r
  else (Threshold.ofText? level).map fun threshold => { r with threshold }

def withEnd? (chars : List Char) (r : LogRule) (place : Nat) : List Char → Option LogRule
  | [] => some r
  | '=' :: _ => r.withLevel? (chars.drop (place + 1))
  | _ => none

/-- A field in braces, which are closed just before the bracket of the wait is. -/
def withField? (chars : List Char) (r : LogRule) (place : Nat) (inside : List Char) :
    Option LogRule :=
  let field := inside.takeWhile (·.toNat != 0x7D)
  match inside.drop field.length with
  | _ :: ']' :: rest =>
    if field.isEmpty then none
    else do
      let demand ← FieldDemand.ofText? (String.ofList ((chars.drop place).take field.length))
      withEnd? chars { r with field := some demand } (place + field.length + 2) rest
  | _ => none

def withWait? (chars : List Char) (r : LogRule) (place : Nat) (inside : List Char) :
    Option LogRule :=
  let name := inside.takeWhile fun c => c != ']' && c.toNat != 0x7B
  let wait := String.ofList ((chars.drop place).take name.length)
  let after := place + name.length + 1
  match inside.drop name.length with
  | ']' :: rest => withEnd? chars { r with wait := some wait } after rest
  | _ :: rest =>
    withField? chars (if name.isEmpty then r else { r with wait := some wait }) after rest
  | [] => none

/-- One rule, or nothing for a text that is none. The parts are cut where the signs
stand in the text without its blanks. -/
def ofText? (chars : List Char) : Option LogRule :=
  let trimmed := Text.trimChars chars
  let name := trimmed.takeWhile fun c => c != '=' && c != '['
  let named : LogRule :=
    { origin := if name.isEmpty then none else some (String.ofList (chars.take name.length))
      wait := none, field := none, threshold := some .trace }
  match trimmed, trimmed.drop name.length with
  | [], _ => none
  | c :: _, mark =>
    if !(isRuleStart c || c == '[') then none
    else
      match mark with
      | [] => some (ofWord chars)
      | '[' :: inside => withWait? chars named (name.length + 1) inside
      | mark => withEnd? chars named name.length mark

end LogRule

namespace LogFilter

def pieces : List Char → List (List Char)
  | [] => [[]]
  | c :: rest =>
    match c, pieces rest with
    | ',', others => [] :: others
    | c, first :: others => (c :: first) :: others
    | c, [] => [[c]]

/-- The rules in a text between commas; where there are none, one rule for all. -/
def ofText (standard : Level) (s : String) : LogFilter :=
  let rules := (pieces s.toList).filterMap LogRule.ofText?
  if rules.isEmpty then
    [{ origin := none, wait := none, field := none, threshold := some standard }]
  else rules

end LogFilter

/-! ### Origins

A rule that names no wait and asks for no certain text is about all notices from an
origin; if it asks for a field, about those that have it. -/

namespace LogRule

def fitsOrigin (r : LogRule) (origin : String) : Bool :=
  match r.origin with
  | none => true
  | some name => name.toList.isPrefixOf origin.toList

def fitsFields (r : LogRule) (names : List String) : Bool :=
  r.field.all fun demand => names.contains demand.name

def isGeneral (r : LogRule) : Bool := r.wait.isNone && r.field.all (·.test.isNone)

def weight (r : LogRule) : Nat :=
  match r.origin with
  | none => 0
  | some name => name.utf8ByteSize + 1

/-- Whether a rule decides before another that fits too: by a longer name, then by a
field, then by the later name of the field. -/
def isBefore (r other : LogRule) : Bool :=
  if r.weight ≠ other.weight then other.weight < r.weight
  else
    match r.field, other.field with
    | some a, some b => Text.before b.name a.name
    | some _, none => true
    | none, _ => false

end LogRule

namespace LogFilter

/-- The first to decide of the rules that fit. Of two rules for the same the later one
counts. -/
def deciding? (fits : LogRule → Bool) : LogFilter → Option LogRule
  | [] => none
  | r :: rest =>
    match deciding? fits rest with
    | some best => if fits r && r.isBefore best then some r else some best
    | none => if fits r then some r else none

def allowsFrom (f : LogFilter) (fits : LogRule → Bool) (level : Level) : Bool :=
  match f.deciding? fun r => r.isGeneral && fits r with
  | none => false
  | some r => r.threshold.allows level

end LogFilter

/-! ### Waits

A wait is itself announced, at the level of information, from one origin and with one
field. Where it is announced, the notices made during it are told under it. -/

def Notice.waitOrigin : String := "kubewait::services::convergence_waiter"

def Notice.waitName : String := "wait"

def Notice.waitField : String := "description"

namespace LogRule

def isAboutWaits (r : LogRule) : Bool := r.wait.isSome || r.field.isSome

def namesWait (r : LogRule) : Bool :=
  r.isAboutWaits && r.fitsOrigin Notice.waitOrigin && r.wait.all (· == Notice.waitName) &&
    r.fitsFields [Notice.waitField]

def describesWait (r : LogRule) (description : String) : Bool :=
  r.field.all fun demand => demand.test.all (·.passes description)

/-- Whether two rules differ in their levels at most. -/
def sameSubject (a b : LogRule) : Bool :=
  a.origin == b.origin && a.wait == b.wait && a.field == b.field

end LogRule

namespace LogFilter

/-- The rules about waits; of two for the same the later one. -/
def waitRules : LogFilter → List LogRule
  | [] => []
  | r :: rest =>
    if r.namesWait && !rest.any r.sameSubject then r :: waitRules rest else waitRules rest

/-- What can pass at all. A rule that asks for a certain text has to see everything. -/
def reach (f : LogFilter) : Threshold :=
  if f.any fun r => r.field.any (·.test.isSome) then some .trace
  else .widest (f.map (·.threshold))

def announcesWaits (f : LogFilter) : Bool :=
  f.reach.allows .info &&
    (!f.waitRules.isEmpty || f.allowsFrom (·.fitsOrigin Notice.waitOrigin) .info)

def duringWait (f : LogFilter) (description : String) : Threshold :=
  if f.announcesWaits then
    .widest ((f.waitRules.filter (·.describesWait description)).map (·.threshold))
  else none

def allows (f : LogFilter) (wait : Option String) (n : Notice) : Bool :=
  wait.any (fun description => (f.duringWait description).allows n.level) ||
    f.allowsFrom (fun r => r.fitsOrigin n.origin && r.fitsFields n.fieldNames) n.level

end LogFilter
end Convergence
