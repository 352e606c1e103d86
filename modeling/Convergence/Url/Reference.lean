import Convergence.Url.Reading

/-! References: addresses in full, or from another address on. Their grammar is strict,
and their parts are kept as they are written. -/
namespace Convergence.Url

structure Reference where
  scheme : Option String
  authority : Option (List Char)
  path : List Char
  query : Option (List Char)
  fragment : Option (List Char)
deriving DecidableEq, Repr

namespace Reference

/-! ### Grammar -/

def isNameChar (c : Char) : Bool := c.isAlphanum || isOneOf "-._~!$&'()*+,;=" c

def isUserChar (c : Char) : Bool := isNameChar c || c == ':'

def isPathChar (c : Char) : Bool := isUserChar c || c == '@' || c == '/'

def isQueryChar (c : Char) : Bool := isPathChar c || c == '?'

def isHexDigit (c : Char) : Bool := (Text.hexValue? c).isSome

def consistsOf (isMember : Char → Bool) : List Char → Bool
  | '%' :: a :: b :: rest => isHexDigit a && isHexDigit b && consistsOf isMember rest
  | c :: rest => isMember c && consistsOf isMember rest
  | [] => true

/-- A numeric address of a kind that is still to come: its version, a dot and the rest. -/
def isFutureAddress : List Char → Bool
  | v :: rest =>
    let version := rest.takeWhile isHexDigit
    match rest.dropWhile isHexDigit with
    | '.' :: name =>
      (v == 'v' || v == 'V') && !version.isEmpty && !name.isEmpty && name.all isUserChar
    | _ => false
  | [] => false

def isPort : List Char → Bool
  | ':' :: digits => digits.all Decimal.isDigit
  | rest => rest.isEmpty

def isPlace : List Char → Bool
  | '[' :: rest =>
    let isInside (c : Char) : Bool := c != ']'
    let inside := rest.takeWhile isInside
    ((eightPieces? inside).isSome || isFutureAddress inside) &&
      match rest.dropWhile isInside with
      | _ :: port => isPort port
      | [] => false
  | place =>
    let isName (c : Char) : Bool := c != ':'
    consistsOf isNameChar (place.takeWhile isName) && isPort (place.dropWhile isName)

def isAuthority (chars : List Char) : Bool :=
  match splitAt (· == '@') chars with
  | [place] => isPlace place
  | [user, place] => consistsOf isUserChar user && isPlace place
  | _ => false

def isGrammatical (r : Reference) : Bool :=
  r.authority.all isAuthority && consistsOf isPathChar r.path &&
    r.query.all (consistsOf isQueryChar) && r.fragment.all (consistsOf isQueryChar)

/-! ### Reading -/

def cutAt (mark : Char) (chars : List Char) : List Char × Option (List Char) :=
  let isBefore (c : Char) : Bool := c != mark
  match chars.dropWhile isBefore with
  | [] => (chars, none)
  | _ :: rest => (chars.takeWhile isBefore, some rest)

def splitAuthority : List Char → Option (List Char) × List Char
  | '/' :: '/' :: rest =>
    let isPlaced (c : Char) : Bool := c != '/'
    (some (rest.takeWhile isPlaced), rest.dropWhile isPlaced)
  | path => (none, path)

def ofText? (text : String) : Option Reference := do
  let (chars, fragment) := cutAt '#' text.toList
  let (chars, query) := cutAt '?' chars
  let (scheme, chars) :=
    match splitScheme? chars with
    | some (scheme, rest) => (some scheme, rest)
    | none => (none, chars)
  let (authority, path) := splitAuthority chars
  let r : Reference := { scheme, authority, path, query, fragment }
  -- A colon in the first segment would end a scheme.
  let isClear := scheme.isSome || !(cutAt '/' path).1.contains ':'
  if isClear && r.isGrammatical then some r else none

/-! ### Text -/

def marked (mark : Char) : Option (List Char) → List Char
  | none => []
  | some chars => mark :: chars

def text (r : Reference) : String := String.ofList <|
  (match r.scheme with
    | none => []
    | some scheme => scheme.toList ++ [':']) ++
    (match r.authority with
      | none => []
      | some authority => '/' :: '/' :: authority) ++
    r.path ++ marked '?' r.query ++ marked '#' r.fragment

def target (r : Reference) : String :=
  String.ofList ((if r.path.isEmpty then ['/'] else r.path) ++ marked '?' r.query)

def ofUrl (u : Url) : Reference :=
  { scheme := some u.scheme, authority := some u.place, path := u.pathText, query := u.query
    fragment := none }

/-! ### Resolution -/

/-- A path from the root after its steps have been taken. -/
def withoutSteps : List Char → List Char
  | '/' :: rest =>
    let add (done : List (List Char)) (name : List Char) : List (List Char) := done ++ [name]
    (follow List.dropLast add [] (splitAt (· == '/') rest)).flatMap ('/' :: ·)
  | path => path

/-- A path with another one in the place of its last segment. -/
def besidePath (path other : List Char) : List Char :=
  (splitAt (· == '/') path).dropLast.flatMap (· ++ ['/']) ++ other

def resolve (base r : Reference) : Reference :=
  if r.scheme.isSome then { r with path := withoutSteps r.path }
  else if r.authority.isSome then { r with scheme := base.scheme, path := withoutSteps r.path }
  else
    let (path, query) :=
      match r.path with
      | [] => (base.path, r.query <|> base.query)
      | '/' :: _ => (withoutSteps r.path, r.query)
      | path => (withoutSteps (besidePath base.path path), r.query)
    { scheme := base.scheme, authority := base.authority, path, query, fragment := r.fragment }

end Reference

end Convergence.Url
