import Convergence.Text.Utf8
import Convergence.Url.Name

/-! Hosts: names, which are written in small letters and in ASCII, and numeric
addresses. -/
namespace Convergence.Url

def isForbidden (c : Char) : Bool := c.toNat == 0 || isOneOf "\t\n\r #/:<>?@[\\]^|" c

def bracketed? (inside : List Char) : Option (List Char) :=
  if inside.getLast? = some ']' then (eightPieces? inside.dropLast).map eightPiecesText else none

def webHost? : List Char → Option (List Char)
  | '[' :: inside => bracketed? inside
  | chars => do
    let name ← asciiName? (Text.decodeBytes (unescape chars)).toList
    let labels := splitAt (· == '.') name
    if name.isEmpty || name.any (fun c => isForbidden c || isControl c || c == '%') then none
    else if endsInNumber labels then (fourBytes? labels).map fourBytesText
    else some name

/-- A host of another kind of address, which may also be empty. -/
def otherHost? : List Char → Option (List Char)
  | '[' :: inside => bracketed? inside
  | chars => if chars.any isForbidden then none else some (escape isControl chars)

/-- Whether a request can name a host, which may have fewer signs than an address. -/
def isRequestable (host : List Char) : Bool :=
  host.all fun c => c.isAlphanum || isOneOf "!#$&'()*+,-./:;=?@[]_~" c

end Convergence.Url
