import Convergence.Yaml.TokenStream

/-! The events of a YAML text: what its collections and scalars are, in the order
in which they begin and end. Tokens are read one after the other, with a stack of
what is to be read once the present node has ended. -/
namespace Convergence.Yaml

inductive EventKind where
  | documentStart
  | documentEnd
  | streamEnd
  | alias (name : String)
  | scalar (anchor : Option String) (tag : Option TagName) (text : String) (style : ScalarStyle)
  | sequenceStart (anchor : Option String) (tag : Option TagName)
  | sequenceEnd
  | mappingStart (anchor : Option String) (tag : Option TagName)
  | mappingEnd
deriving DecidableEq, Repr

structure Event where
  kind : EventKind
  mark : Mark
deriving Repr

inductive Expect where
  | implicitDocument
  | document
  | documentContent
  | documentEnd
  | blockNode
  | blockEntry (first : Bool)
  | indentlessEntry
  | blockKey (first : Bool)
  | blockValue
  | flowEntry (first : Bool)
  | flowPairKey
  | flowPairValue
  | flowPairEnd
  | flowKey (first : Bool)
  | flowValue (empty : Bool)
  | nothing
deriving DecidableEq, Repr

structure EventReader where
  tokens : List Token
  failure : Option Problem
  next : Expect
  after : List Expect
  opened : List Mark
  handles : List (String × TagName)

namespace EventReader

def start (s : TokenStream) : EventReader :=
  { tokens := s.tokens, failure := s.failure, next := .implicitDocument, after := []
    opened := [], handles := [] }

/-- The next token, or what prevents it from being read. -/
def peek (r : EventReader) : Except Problem Token :=
  match r.tokens with
  | t :: _ => .ok t
  | [] => .error (r.failure.getD (.plain "did not find expected <stream-end>" .zero))

def skip (r : EventReader) : EventReader := { r with tokens := r.tokens.drop 1 }

def expect (r : EventReader) (next : Expect) : EventReader := { r with next }

def pop (r : EventReader) : EventReader :=
  match r.after with
  | next :: after => { r with next, after }
  | [] => { r with next := .nothing }

def later (r : EventReader) (next : Expect) : EventReader := { r with after := next :: r.after }

def openMark (r : EventReader) (m : Mark) : EventReader := { r with opened := m :: r.opened }

def closeMark (r : EventReader) : EventReader := { r with opened := r.opened.drop 1 }

def openedAt (r : EventReader) : Mark := r.opened.head?.getD .zero

abbrev Step := Except Problem (Event × EventReader)

def emit (kind : EventKind) (mark : Mark) (r : EventReader) : Step := .ok ({ kind, mark }, r)

def empty (mark : Mark) (r : EventReader) : Step := emit (.scalar none none "" .plain) mark r

def unexpected (r : EventReader) (context problem : String) (t : Token) : Step :=
  .error (.during context r.openedAt problem t.start)

def close (kind : EventKind) (t : Token) (r : EventReader) : Step :=
  emit kind t.start r.closeMark.pop.skip

def standardHandles : List (String × TagName) :=
  [("!", .ofText "!"), ("!!", .ofText "tag:yaml.org,2002:")]

def readDirectives : List Token → Bool → List (String × TagName) →
    Except Problem (List Token × List (String × TagName))
  | [], _, handles => .ok ([], handles)
  | t :: rest, versioned, handles =>
    match t.kind with
    | .version major minor =>
      if versioned then .error (.plain "found duplicate %YAML directive" t.start)
      else if major ≠ 1 ∨ (minor ≠ 1 ∧ minor ≠ 2) then
        .error (.plain "found incompatible YAML document" t.start)
      else readDirectives rest true handles
    | .tagDirective handle expansion =>
      if handles.any (·.1 == handle) then
        .error (.plain "found duplicate %TAG directive" t.start)
      else readDirectives rest versioned (handles ++ [(handle, expansion)])
    | _ => .ok (t :: rest, handles)

def isDirective : TokenKind → Bool
  | .version .. | .tagDirective .. => true
  | _ => false

def dropDocumentEnds : List Token → List Token
  | [] => []
  | t :: rest => if t.kind = .documentEnd then dropDocumentEnds rest else t :: rest

def readDocumentStart (r : EventReader) (implicit : Bool) : Step := do
  let r := if implicit then r else { r with tokens := dropDocumentEnds r.tokens }
  let t ← r.peek
  if t.kind = .streamEnd then emit .streamEnd t.start (r.expect .nothing).skip
  else if implicit && t.kind ≠ .documentStart && !isDirective t.kind then
    emit .documentStart t.start
      ({ r with handles := standardHandles }.later .documentEnd |>.expect .blockNode)
  else
    let (tokens, handles) ← readDirectives r.tokens false []
    let r := { r with tokens, handles := handles ++ standardHandles }
    let s ← r.peek
    if s.kind = .documentStart then
      emit .documentStart t.start ((r.later .documentEnd).expect .documentContent).skip
    else .error (.plain "did not find expected <document start>" s.start)

def readDocumentEnd (r : EventReader) : Step := do
  let t ← r.peek
  let r := if t.kind = .documentEnd then r.skip else r
  emit .documentEnd t.start (r.expect .document)

structure Properties where
  anchor : Option String
  tag : Option (String × TagName × Mark)
  start : Option Mark

def readProperties (r : EventReader) : Except Problem (Properties × EventReader) := do
  let t ← r.peek
  match t.kind with
  | .anchor name =>
    let r := r.skip
    let u ← r.peek
    match u.kind with
    | .tag handle suffix =>
      return ({ anchor := some name, tag := some (handle, suffix, u.start), start := some t.start },
        r.skip)
    | _ => return ({ anchor := some name, tag := none, start := some t.start }, r)
  | .tag handle suffix =>
    let r := r.skip
    let u ← r.peek
    let tag := some (handle, suffix, t.start)
    match u.kind with
    | .anchor name => return ({ anchor := some name, tag, start := some t.start }, r.skip)
    | _ => return ({ anchor := none, tag, start := some t.start }, r)
  | _ => return ({ anchor := none, tag := none, start := none }, r)

def resolveTag (r : EventReader) (start : Mark) :
    Option (String × TagName × Mark) → Except Problem (Option TagName)
  | none => .ok none
  | some (handle, suffix, mark) =>
    if handle = "" then .ok (some suffix)
    else
      match r.handles.find? (·.1 == handle) with
      | some (_, expansion) => .ok (some (expansion.append suffix))
      | none =>
        .error (.during "while parsing a node" start "found undefined tag handle" mark)

def readNode (r : EventReader) (block indentless : Bool) : Step := do
  let t ← r.peek
  match t.kind with
  | .alias name => emit (.alias name) t.start r.pop.skip
  | _ =>
    let (properties, r) ← r.readProperties
    let t ← r.peek
    let start := properties.start.getD t.start
    let tag ← r.resolveTag start properties.tag
    let anchor := properties.anchor
    match t.kind with
    | .scalar text style =>
      emit (.scalar anchor tag text style) start r.pop.skip
    | .flowSequenceStart => emit (.sequenceStart anchor tag) start (r.expect (.flowEntry true))
    | .flowMappingStart => emit (.mappingStart anchor tag) start (r.expect (.flowKey true))
    | kind =>
      if indentless && kind = .blockEntry then
        emit (.sequenceStart anchor tag) start (r.expect .indentlessEntry)
      else if block && kind = .blockSequenceStart then
        emit (.sequenceStart anchor tag) start (r.expect (.blockEntry true))
      else if block && kind = .blockMappingStart then
        emit (.mappingStart anchor tag) start (r.expect (.blockKey true))
      else if anchor.isSome || tag.isSome then
        emit (.scalar anchor tag "" .plain) start r.pop
      else
        .error
          (.during (if block then "while parsing a block node" else "while parsing a flow node")
            start "did not find expected node content" t.start)

/-- A node, after which `next` is expected; where one of `ends` comes instead, the
node is empty. -/
def nodeOrEmpty (r : EventReader) (ends : List TokenKind) (next : Expect) (mark : Mark)
    (block indentless : Bool) : Step := do
  let t ← r.peek
  if ends.contains t.kind then empty mark (r.expect next)
  else (r.later next).readNode block indentless

def readDocumentContent (r : EventReader) : Step := do
  let t ← r.peek
  if isDirective t.kind || [.documentStart, .documentEnd, .streamEnd].contains t.kind then
    empty t.start r.pop
  else r.readNode true false

def enter (r : EventReader) (first : Bool) : Except Problem EventReader := do
  if first then
    let t ← r.peek
    return (r.openMark t.start).skip
  else return r

def readBlockEntry (r : EventReader) (first : Bool) : Step := do
  let r ← r.enter first
  let t ← r.peek
  match t.kind with
  | .blockEntry =>
    r.skip.nodeOrEmpty [.blockEntry, .blockEnd] (.blockEntry false) t.stop true false
  | .blockEnd => close .sequenceEnd t r
  | _ => r.unexpected "while parsing a block collection" "did not find expected '-' indicator" t

def readIndentlessEntry (r : EventReader) : Step := do
  let t ← r.peek
  match t.kind with
  | .blockEntry =>
    r.skip.nodeOrEmpty [.blockEntry, .key, .value, .blockEnd] .indentlessEntry t.stop true false
  | _ => emit .sequenceEnd t.start r.pop

def readBlockKey (r : EventReader) (first : Bool) : Step := do
  let r ← r.enter first
  let t ← r.peek
  match t.kind with
  | .key => r.skip.nodeOrEmpty [.key, .value, .blockEnd] .blockValue t.stop true true
  | .blockEnd => close .mappingEnd t r
  | _ => r.unexpected "while parsing a block mapping" "did not find expected key" t

def readBlockValue (r : EventReader) : Step := do
  let t ← r.peek
  match t.kind with
  | .value => r.skip.nodeOrEmpty [.key, .value, .blockEnd] (.blockKey false) t.stop true true
  | _ => empty t.start (r.expect (.blockKey false))

def readComma (r : EventReader) (first : Bool) (ends : TokenKind) (context problem : String) :
    Except Problem EventReader := do
  let t ← r.peek
  if first || t.kind = ends then return r
  else if t.kind = .flowEntry then return r.skip
  else .error (.during context r.openedAt problem t.start)

def readFlowEntry (r : EventReader) (first : Bool) : Step := do
  let r ← r.enter first
  let r ← r.readComma first .flowSequenceEnd "while parsing a flow sequence"
    "did not find expected ',' or ']'"
  let t ← r.peek
  match t.kind with
  | .flowSequenceEnd => close .sequenceEnd t r
  | .key => emit (.mappingStart none none) t.start (r.expect .flowPairKey).skip
  | _ => (r.later (.flowEntry false)).readNode false false

/-- The key of a mapping of one entry that stands in a sequence without braces. -/
def readFlowPairKey (r : EventReader) : Step := do
  let t ← r.peek
  if [.value, .flowEntry, .flowSequenceEnd].contains t.kind then
    empty t.stop (r.expect .flowPairValue).skip
  else (r.later .flowPairValue).readNode false false

def readFlowPairValue (r : EventReader) : Step := do
  let t ← r.peek
  if t.kind = .value then
    let r := r.skip
    let t ← r.peek
    r.nodeOrEmpty [.flowEntry, .flowSequenceEnd] .flowPairEnd t.start false false
  else empty t.start (r.expect .flowPairEnd)

def readFlowPairEnd (r : EventReader) : Step := do
  let t ← r.peek
  emit .mappingEnd t.start (r.expect (.flowEntry false))

def readFlowKey (r : EventReader) (first : Bool) : Step := do
  let r ← r.enter first
  let r ← r.readComma first .flowMappingEnd "while parsing a flow mapping"
    "did not find expected ',' or '\x7d'"
  let t ← r.peek
  match t.kind with
  | .flowMappingEnd => close .mappingEnd t r
  | .key =>
    let r := r.skip
    let t ← r.peek
    r.nodeOrEmpty [.value, .flowEntry, .flowMappingEnd] (.flowValue false) t.start false false
  | _ => (r.later (.flowValue true)).readNode false false

def readFlowValue (r : EventReader) (isEmpty : Bool) : Step := do
  let t ← r.peek
  if !isEmpty && t.kind = .value then
    let r := r.skip
    let t ← r.peek
    r.nodeOrEmpty [.flowEntry, .flowMappingEnd] (.flowKey false) t.start false false
  else empty t.start (r.expect (.flowKey false))

def step (r : EventReader) : Step :=
  match r.next with
  | .implicitDocument => r.readDocumentStart true
  | .document => r.readDocumentStart false
  | .documentContent => r.readDocumentContent
  | .documentEnd => r.readDocumentEnd
  | .blockNode => r.readNode true false
  | .blockEntry first => r.readBlockEntry first
  | .indentlessEntry => r.readIndentlessEntry
  | .blockKey first => r.readBlockKey first
  | .blockValue => r.readBlockValue
  | .flowEntry first => r.readFlowEntry first
  | .flowPairKey => r.readFlowPairKey
  | .flowPairValue => r.readFlowPairValue
  | .flowPairEnd => r.readFlowPairEnd
  | .flowKey first => r.readFlowKey first
  | .flowValue isEmpty => r.readFlowValue isEmpty
  | .nothing => .error (.plain "did not find expected <stream-end>" .zero)

end EventReader

/-- The events up to a fault, and the fault. -/
structure EventStream where
  events : List Event
  failure : Option Problem

/-- At most `fuel` events, the last of which ends the text. -/
def EventReader.run : Nat → EventReader → EventStream
  | 0, _ => { events := [], failure := none }
  | fuel + 1, r =>
    match r.step with
    | .error p => { events := [], failure := some p }
    | .ok (event, next) =>
      if event.kind = .streamEnd then { events := [event], failure := none }
      else
        let rest := run fuel next
        { rest with events := event :: rest.events }

/-- A token gives rise to a few events at most. -/
def EventStream.ofTokens (s : TokenStream) : EventStream :=
  EventReader.run (8 * s.tokens.length + 16) (.start s)

end Convergence.Yaml
