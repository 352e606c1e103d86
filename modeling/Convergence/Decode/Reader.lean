import Convergence.Decode.Fault

/-! Readers of values. A record is read field by field in the order in which its
entries stand, so the first bad entry is the one reported; only then are missing
fields looked for, in the order in which they are declared. A list may stand for
a record, its items in the order of the declaration. -/
namespace Convergence.Decode

abbrev Reader (α : Type) := Value → Except Fault α

def fail (cause : Fault.Cause) : Except Fault α := .error { path := [], cause }

def wrongType (found : Value) (expected : String) : Except Fault α :=
  fail (.wrongType found expected)

def under (name : String) : Except Fault α → Except Fault α
  | .ok a => .ok a
  | .error f => .error (f.under name)

def text (expected : String) : Reader String
  | .text s => .ok s
  | .char c => .ok c.toString
  | v => wrongType v expected

def string : Reader String := text "a string"

def bool : Reader Bool
  | .bool b => .ok b
  | v => wrongType v "a boolean"

def below (bound : Nat) (expected : String) : Reader Nat
  | .unsigned n =>
    if n < bound then .ok n
    else if n ≤ Value.wordMax then fail (.outOfRange (.unsigned n) expected)
    else wrongType (.unsigned n) expected
  | .signed n =>
    if 0 ≤ n ∧ n.toNat < bound then .ok n.toNat
    else if -9223372036854775808 ≤ n then fail (.outOfRange (.signed n) expected)
    else wrongType (.signed n) expected
  | v => wrongType v expected

def uint16 : Reader UInt16 := fun v => (below 65536 "u16" v).map (·.toUInt16)

def uint32 : Reader UInt32 := fun v => (below 4294967296 "u32" v).map (·.toUInt32)

def uint64 : Reader UInt64 := fun v => (below 18446744073709551616 "u64" v).map (·.toUInt64)

def option (r : Reader α) : Reader (Option α)
  | .null => .ok none
  | v => (r v).map some

def items (r : Reader α) : List Value → Except Fault (List α)
  | [] => .ok []
  | v :: rest => do return (← r v) :: (← items r rest)

def list (r : Reader α) : Reader (List α)
  | .list vs => items r vs
  | v => wrongType v "a sequence"

def entries (r : Reader α) : List (String × Value) → Except Fault (List (String × α))
  | [] => .ok []
  | (name, v) :: rest => do return (name, ← under name (r v)) :: (← entries r rest)

def map (r : Reader α) : Reader (List (String × α))
  | .record es => entries r es
  | v => wrongType v "a map"

inductive Need where
  | required
  | optional
  | defaulted
deriving DecidableEq, Repr

/-- A field of a record: how its value is put into a draft of the record. -/
structure Slot (R : Type) where
  name : String
  need : Need
  put : Value → R → Except Fault R

/-- A field with a default of its own, which a draft gets before anything is read. -/
structure DefaultSlot (R : Type) extends Slot R where
  fill : R → R

def filled (slots : List (DefaultSlot R)) (start : R) : R :=
  slots.foldl (fun draft slot => slot.fill draft) start

def putEntries (slots : List (Slot R)) : List (String × Value) → R → Except Fault R
  | [], draft => .ok draft
  | (name, v) :: rest, draft =>
    match slots.find? (·.name == name) with
    | none => putEntries slots rest draft
    | some slot => do putEntries slots rest (← under name (slot.put v draft))

def missing? (slots : List (Slot R)) (es : List (String × Value)) : Option String :=
  (slots.find? fun slot => slot.need == .required && !es.any (·.1 == slot.name)).map (·.name)

/-- Puts items into their slots; `taken` slots are filled already. -/
def putItems (d : Dialect) (tooShort : Nat → Fault.Cause) (total : Nat) :
    Nat → List (Slot R) → List Value → R → Except Fault R
  | _, [], [], draft => .ok draft
  | _, [], _ :: _, draft =>
    match d with
    | .json => fail (.tooLong total)
    | .layered => .ok draft
  | taken, slot :: slots, [], draft =>
    if slot.need = .defaulted then putItems d tooShort total (taken + 1) slots [] draft
    else fail (tooShort taken)
  | taken, slot :: slots, v :: vs, draft => do
    putItems d tooShort total (taken + 1) slots vs (← under (toString taken) (slot.put v draft))

/-- A record of the given fields. The draft that is started with holds the
defaults, and anything at all where a field is required. -/
def record (d : Dialect) (name : String) (slots : List (Slot R)) (start : R) : Reader R
  | .record es => do
    let draft ← putEntries slots es start
    match missing? slots es with
    | some field => fail (.missingField field)
    | none => return draft
  | .list vs => putItems d (.tooShort · name slots.length) vs.length 0 slots vs start
  | v => wrongType v ("struct " ++ name)

def variant (variants : List (String × α)) (name : String) : Except Fault α :=
  match variants.find? (·.1 == name) with
  | some (_, a) => .ok a
  | none => fail (.unknownVariant name (variants.map (·.1)))

def unit : Reader Unit
  | .null => .ok ()
  | v => wrongType v "unit"

/-- One of several names. It may also be the only name of a record, over nothing. -/
def choice (d : Dialect) (name : String) (variants : List (String × α)) : Reader α
  | .text s => variant variants s
  | .record es =>
    match d, es with
    | .json, [(key, v)] => do
      let a ← variant variants key
      unit v
      return a
    | .json, _ => fail .notSingle
    | .layered, (key, v) :: _ =>
      under key do
        let a ← variant variants key
        unit v
        return a
    | .layered, [] => wrongType (.record []) "enum"
  | v => wrongType v (match d with | .json => "string or map" | .layered => "enum " ++ name)

end Convergence.Decode
