import Convergence.Yaml.Resolve

/-! Documents: the value that the events of a text describe. The text must hold
one document, and that must be a mapping; a text without any is an empty one.
An alias stands for the node that its anchor marks, read anew at every place. -/
namespace Convergence.Yaml

/-- A step on the way to a value: a name, a place in a list, or a key that is no
name. -/
inductive PathStep where
  | name (s : String)
  | index (n : Nat)
  | unknown
deriving DecidableEq, Repr

abbrev Path := List PathStep

def pathText : Path → String
  | [] => "."
  | [.name s] => s
  | [.unknown] => "?"
  | .name s :: parent => pathText parent ++ "." ++ s
  | .unknown :: parent => pathText parent ++ ".?"
  | .index n :: parent => pathText parent ++ "[" ++ toString n ++ "]"

inductive DocumentFault where
  | malformed (p : Problem)
  | unsuitable (message : String) (path : Path) (mark : Mark)
  | unknownAnchor (mark : Mark)
  | tooDeep (mark : Mark)
  | tooManyAliases
  | manyDocuments
  | ended

namespace DocumentFault

def placeText (m : Mark) : String := if m.isOrigin then "" else " at " ++ m.text

def message : DocumentFault → String
  | malformed p => p.message
  | unsuitable message path mark =>
    (if path.isEmpty then "" else pathText path ++ ": ") ++ message ++ placeText mark
  | unknownAnchor mark => "unknown anchor" ++ placeText mark
  | tooDeep mark => "recursion limit exceeded" ++ placeText mark
  | tooManyAliases => "repetition limit exceeded"
  | manyDocuments => "deserializing from YAML containing more than one document is not supported"
  | ended => "EOF while parsing a value"

end DocumentFault

/-- An event inside a document, with aliases resolved to the places of their nodes. -/
inductive NodeEvent where
  | alias (place : Nat)
  | scalar (tag : Option TagName) (text : String) (style : ScalarStyle)
  | sequenceStart (tag : Option TagName)
  | sequenceEnd
  | mappingStart (tag : Option TagName)
  | mappingEnd
  | absent
deriving DecidableEq, Repr

/-- The events of the first document, and what stopped the reading of it. -/
structure Document where
  events : List (NodeEvent × Mark)
  failure : Option DocumentFault

/-- The anchors of a document. A number is given to each new name; a name that is
given anew takes the next number, which may be that of another name. -/
structure Anchors where
  numbers : List (String × Nat)
  places : List (Nat × Nat)

namespace Anchors

def empty : Anchors := { numbers := [], places := [] }

def add (a : Anchors) (place : Nat) : Option String → Anchors
  | none => a
  | some name =>
    let number := a.numbers.length
    { numbers := (name, number) :: a.numbers.filter (·.1 != name)
      places := (number, place) :: a.places.filter (·.1 != number) }

def number? (a : Anchors) (name : String) : Option Nat :=
  (a.numbers.find? (·.1 == name)).map (·.2)

def place (a : Anchors) (number : Nat) : Nat :=
  ((a.places.find? (·.1 == number)).map (·.2)).getD 0

end Anchors

namespace Document

/-- Events whose aliases still are numbers; the places are known in the end. -/
def collect (failure : Option Problem) (a : Anchors) (done : List (NodeEvent × Mark)) :
    List Event → Document × Anchors × List Event
  | [] =>
    ({ events := done.reverse, failure := failure.map .malformed }, a, [])
  | e :: rest =>
    let add (node : NodeEvent) (anchor : Option String) :=
      collect failure (a.add done.length anchor) ((node, e.mark) :: done) rest
    match e.kind with
    | .documentStart => collect failure a done rest
    | .documentEnd => ({ events := done.reverse, failure := none }, a, rest)
    | .streamEnd =>
      ({ events := if done.isEmpty then [(.absent, e.mark)] else done.reverse, failure := none },
        a, e :: rest)
    | .alias name =>
      match a.number? name with
      | some n => add (.alias n) none
      | none =>
        ({ events := done.reverse, failure := some (.unknownAnchor e.mark) }, a, rest)
    | .scalar anchor tag text style => add (.scalar tag text style) anchor
    | .sequenceStart anchor tag => add (.sequenceStart tag) anchor
    | .sequenceEnd => add .sequenceEnd none
    | .mappingStart anchor tag => add (.mappingStart tag) anchor
    | .mappingEnd => add .mappingEnd none

/-- The first document of a text, and whether anything but its end comes after it. -/
def ofEvents (s : EventStream) : Document × Bool :=
  let (d, a, rest) := collect s.failure .empty [] s.events
  let placed := d.events.map fun (e, m) =>
    match e with
    | .alias n => (NodeEvent.alias (a.place n), m)
    | e => (e, m)
  let more :=
    match rest with
    | [e] => e.kind ≠ .streamEnd
    | _ => true
  ({ d with events := placed }, more)

end Document

/-! ### Nodes

A value may say that it comes from elsewhere, by the number of an origin. No number
but zero is the number of an origin that is known. -/

/-- The entry of a mapping under which the number of an origin stands. -/
def originKey : String := "___figment_value_id"

/-- The entry of a mapping that stands for the whole mapping. -/
def standInKey : String := "___figment_value_value"

/-- A value with the paths in it below which it comes from elsewhere. -/
structure Node where
  value : Value
  foreign : List (List String)

/-- Entries of a mapping, each name once, and the paths below which they come from
elsewhere. -/
structure Fields where
  entries : List (String × Value)
  foreign : List (List String)

def Fields.ofEntries (es : List (String × Node)) : Fields :=
  let es := Entries.ofList es
  { entries := es.map fun (name, n) => (name, n.value)
    foreign := es.flatMap fun (name, n) => n.foreign.map (name :: ·) }

namespace Node

def ofValue (value : Value) : Node := { value, foreign := [] }

def ofItems (ns : List Node) : Node :=
  { value := .list (ns.map (·.value))
    foreign := ns.zipIdx.flatMap fun (n, i) => n.foreign.map (toString i :: ·) }

def ofOrigin (number : Value) (n : Node) : Node :=
  match number with
  | .unsigned 0 => { n with foreign := [] }
  | _ => { n with foreign := [[]] }

/-- A mapping, or what stands for it. Its origin counts in the second case only. -/
def ofEntries (es : List (String × Node)) : Node :=
  let es := Entries.ofList es
  match Entries.find? standInKey es with
  | some n =>
    match Entries.find? originKey es with
    | some number => n.ofOrigin number.value
    | none => n
  | none =>
    let fields := Fields.ofEntries (es.filter (·.1 != originKey))
    { value := .record fields.entries, foreign := fields.foreign }

/-- A tag of one's own leads to a value through records: a point in its name divides
one from the next, up to the first that would have no name. -/
def tagged (tag : Option TagName) (n : Node) : Node :=
  match ownName? tag with
  | none => n
  | some name =>
    let path := (name.splitOn ".").takeWhile (!·.isEmpty)
    { value := .nest path n.value, foreign := n.foreign.map (path ++ ·) }

end Node

/-- Where the reading of a document stands: the place of the next event, and how
many aliases have been followed. -/
structure Reading where
  place : Nat
  followed : Nat

def depthLimit : Nat := 128

structure DocumentReader where
  events : Array (NodeEvent × Mark)
  failure : Option DocumentFault

namespace DocumentReader

def event (d : DocumentReader) (place : Nat) : Except DocumentFault (NodeEvent × Mark) :=
  match d.events[place]? with
  | some e => .ok e
  | none => .error (d.failure.getD .ended)

def follow (d : DocumentReader) (r : Reading) : Except DocumentFault Reading :=
  if d.events.size * 100 < r.followed + 1 then .error .tooManyAliases
  else .ok { r with followed := r.followed + 1 }

def noText (what : String) (path : Path) (mark : Mark) : DocumentFault :=
  .unsuitable ("invalid type: " ++ what ++ ", expected a string") path mark

def noOrigin (kind what : String) : String :=
  kind ++ what ++ ", expected a 64-bit metadata id integer"

/-- The node at a place or, where an alias stands there, the node that it stands for;
and the reading as it goes on from that node. -/
def target (d : DocumentReader) (r : Reading) :
    Except DocumentFault (NodeEvent × Mark × Reading) := do
  let (event, mark) ← d.event r.place
  match event with
  | .alias place =>
    let followed ← d.follow r
    let (event, mark) ← d.event place
    return (event, mark, followed)
  | event => return (event, mark, r)

def key (d : DocumentReader) (path : Path) (r : Reading) :
    Except DocumentFault (String × Reading) := do
  let (event, mark, r) ← d.target r
  match event with
  | .scalar _ text _ => return (text, { r with place := r.place + 1 })
  | .sequenceStart _ => .error (noText "sequence" path mark)
  | _ => .error (noText "map" path mark)

def originNumber : Value → Except String Nat
  | .unsigned n =>
    if n ≤ 18446744073709551615 then .ok n
    else .error (noOrigin "invalid type: " (describe (.unsigned n)))
  | .signed n =>
    if -9223372036854775808 ≤ n then .error (noOrigin "invalid value: " (describe (.signed n)))
    else .error (noOrigin "invalid type: " (describe (.signed n)))
  | v => .error (noOrigin "invalid type: " (describe v))

def originAt (d : DocumentReader) (path : Path) (depth : Nat) (r : Reading) :
    Except DocumentFault (Nat × Reading) := do
  let (event, mark, r) ← d.target r
  let refuse (what : String) : Except DocumentFault (Nat × Reading) :=
    .error (.unsuitable (noOrigin "invalid type: " what) path mark)
  let collection (tag : Option TagName) (what : String) : Except DocumentFault (Nat × Reading) :=
    if (ownName? tag).isSome then refuse "enum"
    else if depth = 0 then .error (.tooDeep mark)
    else refuse what
  match event with
  | .scalar tag text style =>
    if (ownName? tag).isSome then refuse "enum"
    else
      match (resolve tag text style).bind originNumber with
      | .ok n => return (n, { r with place := r.place + 1 })
      | .error message => .error (.unsuitable message path mark)
  | .sequenceStart tag => collection tag "sequence"
  | .mappingStart tag => collection tag "map"
  | _ => .error .ended

mutual
/-- The node at a place, and where the reading stands after it. `fuel` bounds the
nesting of calls. -/
def node (d : DocumentReader) (path : Path) (depth : Nat) (r : Reading) :
    Nat → Except DocumentFault (Node × Reading)
  | 0 => .error .ended
  | fuel + 1 => do
    let (event, mark) ← d.event r.place
    let next : Reading := { r with place := r.place + 1 }
    match event with
    | .alias place =>
      let followed ← d.follow r
      let (n, after) ← node d path depth { followed with place } fuel
      return (n, { next with followed := after.followed })
    | .scalar tag text style =>
      if (ownName? tag).isSome then return (.tagged tag (.ofValue (untagged text style)), next)
      else
        match resolve tag text style with
        | .ok v => return (.ofValue v, next)
        | .error message => .error (.unsuitable message path mark)
    | .sequenceStart tag =>
      if depth = 0 then .error (.tooDeep mark)
      else
        let (ns, after) ← items d path (depth - 1) 0 next fuel
        return (.tagged tag (.ofItems ns), after)
    | .mappingStart tag =>
      if depth = 0 then .error (.tooDeep mark)
      else
        let (es, after) ← entries d path (depth - 1) true next fuel
        return (.tagged tag (.ofEntries es), after)
    | .absent => return (.ofValue .null, next)
    | .sequenceEnd => .error .ended
    | .mappingEnd => .error .ended
termination_by structural fuel => fuel
def items (d : DocumentReader) (path : Path) (depth index : Nat) (r : Reading) :
    Nat → Except DocumentFault (List Node × Reading)
  | 0 => .error .ended
  | fuel + 1 => do
    let (event, _) ← d.event r.place
    if event = .sequenceEnd then return ([], { r with place := r.place + 1 })
    else
      let (n, after) ← node d (.index index :: path) depth r fuel
      let (rest, after) ← items d path depth (index + 1) after fuel
      return (n :: rest, after)
termination_by structural fuel => fuel
/-- The entries of a mapping. Every key must be a scalar, and its text is the name.
A mapping `inside` another may tell an origin. -/
def entries (d : DocumentReader) (path : Path) (depth : Nat) (inside : Bool) (r : Reading) :
    Nat → Except DocumentFault (List (String × Node) × Reading)
  | 0 => .error .ended
  | fuel + 1 => do
    let (event, _) ← d.event r.place
    if event = .mappingEnd then return ([], { r with place := r.place + 1 })
    else
      let (name, afterKey) ← key d path r
      let step :=
        match event with
        | .scalar _ text _ => PathStep.name text
        | _ => .unknown
      let (n, after) ←
        if inside && name == originKey then
          (originAt d (step :: path) depth afterKey).map fun (n, after) =>
            (Node.ofValue (.unsigned n), after)
        else node d (step :: path) depth afterKey fuel
      let (rest, after) ← entries d path depth inside after fuel
      return ((name, n) :: rest, after)
termination_by structural fuel => fuel
end

def noMap (what : String) (mark : Mark) : DocumentFault :=
  .unsuitable ("invalid type: " ++ what ++ ", expected a map") [] mark

/-- The mapping that the document is. Where nothing is written it is empty. -/
def root (d : DocumentReader) : Except DocumentFault Fields := do
  let (event, mark) ← d.event 0
  match event with
  | .absent => return .ofEntries []
  | .mappingStart _ =>
    let (es, _) ← entries d [] (depthLimit - 1) false { place := 1, followed := 0 }
      ((d.events.size + 4) * (depthLimit + 4))
    return .ofEntries es
  | .scalar tag text style =>
    if text.isEmpty && style = .plain then return .ofEntries []
    else
      match resolve tag text style with
      | .ok v => .error (noMap (describe v) mark)
      | .error message => .error (.unsuitable message [] mark)
  | .sequenceStart _ => .error (noMap "sequence" mark)
  | _ => .error .ended

end DocumentReader

def readMapping (text : String) : Except DocumentFault Fields := do
  let (d, more) := Document.ofEvents (.ofTokens (.ofText text))
  let fields ← DocumentReader.root { events := d.events.toArray, failure := d.failure }
  match d.failure with
  | some fault => .error fault
  | none =>
    match d.events with
    | [(.absent, _)] => return fields
    | _ => if more then .error .manyDocuments else return fields

end Convergence.Yaml
