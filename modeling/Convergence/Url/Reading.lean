import Convergence.Url.Basic

/-! Addresses read from text. Nearly every text can be read; what is refused lacks a
scheme, or has a host or a port that cannot exist. -/
namespace Convergence.Url

/-! ### Paths -/

def withoutDot? : List Char → Option (List Char)
  | '.' :: rest => some rest
  | '%' :: '2' :: 'e' :: rest => some rest
  | '%' :: '2' :: 'E' :: rest => some rest
  | _ => none

def isHere (segment : List Char) : Bool := withoutDot? segment == some []

def isParent (segment : List Char) : Bool := (withoutDot? segment).bind withoutDot? == some []

/-- A letter and a colon, where a path begins with a drive. -/
def isDrive : List Char → Bool
  | [c, d] => c.isAlpha && (d == ':' || d == '|')
  | _ => false

/-- One step up, but not out of a drive. -/
def stepUp (done : List (List Char)) : List (List Char) :=
  if done.getLast?.any isDrive then done else done.dropLast

def segmentText (k : SchemeKind) (done : List (List Char)) (raw : List Char) : List Char :=
  match raw with
  | [letter, _] =>
    if k == .file && done.isEmpty && isDrive raw then [letter, ':'] else escape inPath raw
  | raw => escape inPath raw

/-- Follows segments from the ones that are done already, with `up` for a step up and `add`
for a name. -/
def follow (up : List (List Char) → List (List Char))
    (add : List (List Char) → List Char → List (List Char)) :
    List (List Char) → List (List Char) → List (List Char)
  | done, [] => done
  | done, raw :: rest =>
    let ending := if rest.isEmpty then [[]] else []
    let next :=
      if isParent raw then up done ++ ending
      else if isHere raw then done ++ ending
      else add done raw
    follow up add next rest

/-- The path of a file begins with no empty segments. -/
def withoutEmpty : List (List Char) → List (List Char)
  | [] :: second :: rest => withoutEmpty (second :: rest)
  | names => names

def pathOf (k : SchemeKind) (chars : List Char) : List (List Char) :=
  let add (done : List (List Char)) (raw : List Char) : List (List Char) :=
    done ++ [segmentText k done raw]
  let names := follow stepUp add [] (splitAt k.isSlash chars)
  if k == .file then withoutEmpty names else names

/-! ### Parts -/

def splitPath (chars : List Char) : List Char × List Char :=
  let isPath (c : Char) : Bool := c != '?' && c != '#'
  (chars.takeWhile isPath, chars.dropWhile isPath)

def withEnd (u : Url) (chars : List Char) : Url :=
  let isQuery (c : Char) : Bool := c != '#'
  let mustEscape := if u.kind.isSpecial then inSpecialQuery else inQuery
  let query :=
    match chars.takeWhile isQuery with
    | '?' :: rest => some (escape mustEscape rest)
    | _ => none
  let fragment :=
    match chars.dropWhile isQuery with
    | '#' :: rest => some (escape inFragment rest)
    | _ => none
  { u with query, fragment }

def withPath (u : Url) (chars : List Char) : Url :=
  let (path, rest) := splitPath chars
  withEnd { u with path := .segments (pathOf u.kind path) } rest

/-- The path after an authority, which begins with a slash or is not there. -/
def withAbsolutePath (u : Url) (chars : List Char) : Url :=
  match chars with
  | c :: rest =>
    if u.kind.isSlash c then withPath u rest
    else if u.kind.isSpecial then withPath u chars
    else withEnd { u with path := .segments [] } chars
  | [] => if u.kind.isSpecial then withPath u [] else { u with path := .segments [] }

def splitUser (chars : List Char) : Option (List Char) × List Char :=
  match splitAt (· == '@') chars with
  | [] => (none, [])
  | [only] => (none, only)
  | parts => (some (List.intercalate ['@'] parts.dropLast), parts.getLastD [])

/-- What stands before the colon of the port, which is no colon in brackets. -/
def splitPort : Bool → List Char → List Char × Option (List Char)
  | _, [] => ([], none)
  | bracketed, c :: rest =>
    if c == ':' && !bracketed then ([], some rest)
    else
      let (host, port) := splitPort ((bracketed || c == '[') && c != ']') rest
      (c :: host, port)

def port? (k : SchemeKind) (chars : List Char) : Option (Option Nat) :=
  if chars.isEmpty then some none
  else do
    let n ← Decimal.nat? chars
    if 65535 < n then none
    else if k.defaultPort? = some n then some none
    else some (some n)

def withAuthority? (u : Url) (chars : List Char) : Option Url := do
  let (user, place) := splitUser chars
  let (host, port) := splitPort false place
  if host.isEmpty && (u.kind.isSpecial || user.any (!·.isEmpty) || port.isSome) then none
  else
    let host ← u.kind.host? host
    let port ← port? u.kind (port.getD [])
    match user with
    | none => some { u with host := some host, port }
    | some user =>
      let isName (c : Char) : Bool := c != ':'
      let password :=
        match user.dropWhile isName with
        | _ :: p :: rest => some (escape inUser (p :: rest))
        | _ => none
      some
        { u with user := escape inUser (user.takeWhile isName), password, host := some host, port }

def afterSlashes? (u : Url) (chars : List Char) : Option Url := do
  let inAuthority (c : Char) : Bool := !u.kind.isSlash c && c != '?' && c != '#'
  let u ← withAuthority? u (chars.takeWhile inAuthority)
  some (withAbsolutePath u (chars.dropWhile inAuthority))

/-- What follows the scheme of a file. This machine needs no name. -/
def afterFile? (u : Url) (chars : List Char) : Option Url :=
  let isSlash := SchemeKind.file.isSlash
  let u := { u with host := some [] }
  match chars with
  | a :: b :: rest =>
    if isSlash a && isSlash b then
      let inHost (c : Char) : Bool := !isSlash c && c != '?' && c != '#'
      let name := rest.takeWhile inHost
      let path := rest.dropWhile inHost
      if name.isEmpty then some (withAbsolutePath u path)
      else if isDrive name then some (withPath u rest)
      else do
        let host ← webHost? name
        let host := if host = "localhost".toList then [] else host
        some (withAbsolutePath { u with host := some host } path)
    else some (withAbsolutePath u chars)
  | _ => some (withAbsolutePath u chars)

/-! ### Whole addresses -/

def isSchemeChar (c : Char) : Bool := c.isAlphanum || c == '+' || c == '-' || c == '.'

def splitScheme? (chars : List Char) : Option (String × List Char) :=
  match chars, chars.dropWhile isSchemeChar with
  | c :: _, ':' :: rest =>
    if c.isAlpha then
      some (String.ofList ((chars.takeWhile isSchemeChar).map Char.toLower), rest)
    else none
  | _, _ => none

/-- Line breaks and tabs do not count, nor do blanks at the ends. -/
def cleaned (s : String) : List Char :=
  let isBlank (c : Char) : Bool := c.toNat ≤ 0x20
  let inner := ((s.toList.dropWhile isBlank).reverse.dropWhile isBlank).reverse
  inner.filter fun c => c != '\t' && c != '\n' && c != '\r'

def empty (scheme : String) : Url :=
  { scheme, user := [], password := none, host := none, port := none
    path := .segments [], query := none, fragment := none }

def afterScheme? (scheme : String) (rest : List Char) : Option Url :=
  let u := empty scheme
  match SchemeKind.of scheme with
  | .web _ => afterSlashes? u (rest.dropWhile (SchemeKind.of scheme).isSlash)
  | .file => afterFile? u rest
  | .other =>
    match rest with
    | '/' :: '/' :: rest => afterSlashes? u rest
    | '/' :: rest => some (withPath u rest)
    | rest =>
      let (path, rest) := splitPath rest
      some (withEnd { u with path := .piece (escape isControl path) } rest)

def ofText? (s : String) : Option Url := do
  let (scheme, rest) ← splitScheme? (cleaned s)
  afterScheme? scheme rest

end Convergence.Url
