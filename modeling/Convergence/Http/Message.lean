import Convergence.Text.Utf8
import Convergence.Url.Reference

/-! Requests for an address, and what comes back. -/
namespace Convergence

structure HttpRequest where
  address : Url.Reference
  /-- The address in its normal form, by which hosts are told apart. -/
  url : Url
  authorization : Option String
deriving DecidableEq, Repr

def HttpRequest.line (r : HttpRequest) : String := "GET " ++ r.address.target ++ " HTTP/1.1"

inductive HttpBody where
  | whole (bytes : List Nat)
  /-- The connection ended before all of the body was there. -/
  | cut
deriving DecidableEq, Repr

structure HttpAnswer where
  status : Nat
  location : Option String
  body : HttpBody
deriving DecidableEq, Repr

inductive HttpReply where
  | answered (answer : HttpAnswer)
  /-- No connection, no answer in time, or none that can be understood. -/
  | unanswered
deriving DecidableEq, Repr

/-- Statuses that end an exchange: of the interim ones only the change of the protocol. -/
def isFinalStatus (status : Nat) : Bool := status == 101 || (200 ≤ status && status ≤ 999)

def HttpReply.ofAnswer (a : HttpAnswer) : HttpReply :=
  if isFinalStatus a.status then .answered a else .unanswered

/-- Whatever answers requests, with an effect that each of them may have. -/
def HttpServer (m : Type → Type) : Type := HttpRequest → m HttpReply

/-- A body without what came after its first `length` bytes; it is cut if it has fewer. -/
def HttpBody.ofLength (bytes : List Nat) (length : Nat) : HttpBody :=
  if bytes.length < length then .cut else .whole (bytes.take length)

def HttpAnswer.ofLength (status : Nat) (location : Option String) (bytes : List Nat)
    (length : Nat) : HttpAnswer :=
  { status, location, body := .ofLength bytes length }

end Convergence
