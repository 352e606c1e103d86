import Convergence.Http.Message
import Convergence.Text.Base64

/-! An exchange: a request, and further ones for as long as the answers say that the
thing asked for is somewhere else. -/
namespace Convergence

inductive HttpError where
  /-- The address or the token is none that can be sent. -/
  | unsendable
  /-- An address for which there are no requests. -/
  | refused (url : Url)
  | unanswered (url : Url)
  | tooManyMoves (last : Url)
  | cutBody
deriving DecidableEq, Repr

namespace HttpError

/-- The kinds of errors that a client tells apart. No exchange comes to one of kind `status`,
`body` or `upgrade`: a status is not taken for an error, and a body that breaks off while its
text is read is one that cannot be decoded. -/
inductive Kind where
  | builder
  | request
  | redirect
  | status (code : UInt16)
  | body
  | decode
  | upgrade
deriving DecidableEq, Repr

namespace Kind

def status? : Kind → Option UInt16
  | status code => some code
  | _ => none

def isMalformed (k : Kind) : Bool := k == builder || k == redirect || k == decode

end Kind

def kind : HttpError → Kind
  | unsendable | refused _ => .builder
  | unanswered _ => .request
  | tooManyMoves _ => .redirect
  | cutBody => .decode

def message : HttpError → String
  | unsendable => "builder error"
  | refused url => "builder error for url (" ++ url.text ++ ")"
  | unanswered url => "error sending request for url (" ++ url.text ++ ")"
  | tooManyMoves last => "error following redirect for url (" ++ last.text ++ ")"
  | cutBody => "error decoding response body"

end HttpError

/-! ### The first request -/

def Url.credentials? (u : Url) : Option String :=
  if u.user.isEmpty && u.password.isNone then none
  else
    let bytes (chars : List Char) : List Nat := Url.unescape chars
    let pair := bytes u.user ++ 0x3A :: bytes (u.password.getD [])
    some ("Basic " ++ String.ofList (Text.base64 pair))

def isHeaderChar (c : Char) : Bool := c == '\t' || (0x20 ≤ c.toNat && c.toNat != 0x7F)

def isWeb (u : Url) : Bool := u.scheme == "http" || u.scheme == "https"

def maxAddressLength : Nat := 65534

def isRequestAddress (u : Url) : Bool :=
  u.host.all Url.isRequestable && u.text.utf8ByteSize ≤ maxAddressLength

/-- The request for an address in words, with a token for the one who asks. An address
without a host is refused before the token is looked at, another that cannot be asked
for after. -/
def HttpRequest.compose (address : String) (token : Option String) :
    Except HttpError HttpRequest := do
  let url ← (Url.ofText? address).elim (.error .unsendable) .ok
  if url.host.all List.isEmpty then .error (.refused url)
  else if token.any (!·.toList.all isHeaderChar) then .error .unsendable
  else
    let url' := url.withoutUser
    if !(isWeb url && isRequestAddress url') then .error (.refused url')
    else
      let authorization := url.credentials? <|> token.map ("Bearer " ++ ·)
      .ok { address := .ofUrl url', url := url', authorization }

/-! ### Moves -/

def isMove (status : Nat) : Bool := [301, 302, 303, 307, 308].contains status

/-- Whether there is a host to ask, without escapes in its name. An address without an
authority passes where it could be one itself. -/
def Url.Reference.isSendable (r : Reference) : Bool :=
  let words := r.authority.getD r.text.toList
  let place := (splitUser words).2
  let couldBe := r.authority.isSome || (!words.any (isOneOf "/?#") && place.count ':' ≤ 1)
  couldBe && !place.isEmpty && !place.contains '%' && r.text.utf8ByteSize ≤ maxAddressLength

def HttpAnswer.move? (a : HttpAnswer) (asked : Url.Reference) : Option Url.Reference := do
  let location ← a.location
  let base ← Url.Reference.ofText? asked.text
  let target := base.resolve (← Url.Reference.ofText? location)
  if isMove a.status && target.isSendable then some { target with fragment := none } else none

/-- The request after a move. The `secret` of the start goes along within a host, and not
from one host to another. -/
def HttpRequest.moveTo (r : HttpRequest) (secret : Option String) (address : Url.Reference)
    (url : Url) : HttpRequest :=
  let same := url.host == r.url.host && url.connectPort == r.url.connectPort
  { address, url, authorization := if same then secret else none }

def maxMoves : Nat := 10

/-- Sends a request and follows up to `left` moves from it. Nobody answers where there
is no authority to ask. -/
def HttpServer.followFrom [Monad m] (server : HttpServer m) (start : HttpRequest) :
    Nat → HttpRequest → m (Except HttpError HttpAnswer)
  | left, request => do
    match ← server request with
    | .unanswered => return .error (.unanswered start.url)
    | .answered answer =>
      match answer.move? request.address with
      | none => return .ok answer
      | some address =>
        match Url.ofText? address.text with
        | none => return .error (.refused start.url)
        | some url =>
          match left with
          | 0 => return .error (.tooManyMoves request.url)
          | left + 1 =>
            if !isWeb url then return .error (.refused url)
            else if address.authority.isNone then return .error (.unanswered start.url)
            else server.followFrom start left (request.moveTo start.authorization address url)

def HttpServer.exchange [Monad m] (server : HttpServer m) (address : String)
    (token : Option String) : m (Except HttpError HttpAnswer) :=
  match HttpRequest.compose address token with
  | .error e => return .error e
  | .ok request => server.followFrom request maxMoves request

def HttpAnswer.text (a : HttpAnswer) : Except HttpError String :=
  match a.body with
  | .whole bytes => .ok (Text.decodeBytes bytes)
  | .cut => .error .cutBody

end Convergence
