import Convergence.Http.Body

/-! Requests and answers as they go over a connection that serves one request and is
closed then, unless it breaks off before. -/
namespace Convergence

namespace HttpRequest

def headLines (r : HttpRequest) : List String :=
  [r.line, "host: " ++ String.ofList r.url.place, "accept: */*", "connection: close"] ++
    r.authorization.toList.map ("authorization: " ++ ·)

def text (r : HttpRequest) : String := String.intercalate "\r\n" (r.headLines ++ ["", ""])

end HttpRequest

namespace Wire

/-! ### Framing -/

/-- The parts of a text between its commas, if it has no other characters than simple ones. -/
def listed (value : String) : List (List Char) :=
  if value.toList.all (·.toNat < 0x7F) then (Url.splitAt (· == ',') value.toList).map trimmed
  else []

/-- Whether the last coding told of is the one that cuts a body in chunks. -/
def endsChunked (codings : List String) : Bool :=
  (codings.getLast?.bind fun coding => (listed coding).getLast?).any fun last =>
    last.map Char.toLower == "chunked".toList

def maxLength : Nat := 18446744073709551613

/-- The length that all of them tell of. -/
def length? (values : List String) : Option Nat := do
  match ← (values.flatMap fun value =>
      match listed value with
      | [] => [[]]
      | parts => parts).mapM Decimal.nat? with
  | [] => none
  | n :: others => if others.all (· == n) && n ≤ maxLength then some n else none

/-- How the end of the body is known, if the head tells it without contradiction. -/
def Head.framing? (h : Head) : Option Framing :=
  if !h.hasBody then some (.length 0)
  else
    match h.values "transfer-encoding", h.values "content-length" with
    | [], [] => some .untilHangup
    | [], lengths => (length? lengths).map .length
    | codings, _ =>
      if h.minor = 0 then none
      else if endsChunked codings then some .chunked
      else some .untilHangup

/-! ### Replies -/

def isInterim (status : Nat) : Bool := 100 ≤ status && status < 200 && !isFinalStatus status

def answer? (hangup : Hangup) (h : Head) (behind : List Nat) : Option HttpAnswer :=
  h.framing?.map fun framing =>
    { status := h.status
      location := (h.values "location").head?
      body := framing.body hangup behind }

/-- The reply in all the bytes of a connection. Interim answers before it are passed over. -/
def replyIn (hangup : Hangup) (bytes : List Nat) : HttpReply :=
  match _found : head? [] [] bytes with
  | none => .unanswered
  | some (lines, behind) =>
    match Head.ofLines? lines with
    | none => .unanswered
    | some h =>
      if isInterim h.status then replyIn hangup behind
      else (answer? hangup h behind).elim .unanswered .ofAnswer
termination_by bytes.length
decreasing_by exact length_of_head? _found

end Wire

/-- What has been received over a connection when it comes to its end. -/
def HttpReply.received (hangup : Wire.Hangup) (bytes : List Nat) : HttpReply :=
  Wire.replyIn hangup bytes

end Convergence
