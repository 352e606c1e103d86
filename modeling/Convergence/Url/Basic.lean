import Convergence.Url.Host

/-! Addresses in their parts. The schemes of the web have a host, a default port and a
path in segments; other schemes may have a path that is one piece. -/
namespace Convergence

inductive UrlPath where
  /-- One piece, for an address that has no hierarchy. -/
  | piece (chars : List Char)
  | segments (names : List (List Char))
deriving DecidableEq, Repr

structure Url where
  scheme : String
  user : List Char
  password : Option (List Char)
  host : Option (List Char)
  port : Option Nat
  path : UrlPath
  query : Option (List Char)
  fragment : Option (List Char)
deriving DecidableEq, Repr

namespace Url

inductive SchemeKind where
  | web (defaultPort : Nat)
  | file
  | other
deriving DecidableEq, Repr

def SchemeKind.of : String → SchemeKind
  | "http" | "ws" => .web 80
  | "https" | "wss" => .web 443
  | "ftp" => .web 21
  | "file" => .file
  | _ => .other

namespace SchemeKind

/-- Whether a backslash divides as a slash does, and a path is never empty. -/
def isSpecial (k : SchemeKind) : Bool := k != .other

def isSlash (k : SchemeKind) (c : Char) : Bool := c == '/' || (k.isSpecial && c == '\\')

def defaultPort? : SchemeKind → Option Nat
  | web port => some port
  | _ => none

def host? (k : SchemeKind) (chars : List Char) : Option (List Char) :=
  if k.isSpecial then Url.webHost? chars else Url.otherHost? chars

end SchemeKind

def kind (u : Url) : SchemeKind := .of u.scheme

def connectPort (u : Url) : Option Nat := u.port <|> u.kind.defaultPort?

def withoutUser (u : Url) : Url := { u with user := [], password := none }

/-! ### Text -/

def userText (u : Url) : List Char :=
  match u.password with
  | none => if u.user.isEmpty then [] else u.user ++ ['@']
  | some password => u.user ++ ':' :: password ++ ['@']

/-- The host, and the port if it is not the default one. -/
def place (u : Url) : List Char :=
  u.host.getD [] ++
    match u.port with
    | none => []
    | some port => ':' :: decimalDigits port

def authorityText (u : Url) : List Char :=
  if u.host.isNone then [] else '/' :: '/' :: u.userText ++ u.place

/-- A path that would be taken for a host is kept apart from the scheme. -/
def pathText (u : Url) : List Char :=
  match u.path with
  | .piece chars => chars
  | .segments names =>
    let text := names.flatMap ('/' :: ·)
    if u.host.isNone && text.take 2 == ['/', '/'] then '/' :: '.' :: text else text

def queryText (u : Url) : List Char :=
  match u.query with
  | none => []
  | some query => '?' :: query

def fragmentText (u : Url) : List Char :=
  match u.fragment with
  | none => []
  | some fragment => '#' :: fragment

def text (u : Url) : String :=
  u.scheme ++
    String.ofList (':' :: u.authorityText ++ u.pathText ++ u.queryText ++ u.fragmentText)

end Url
end Convergence
