import Convergence.Http.Exchange
import Convergence.Poll.Await
import Convergence.Tolerance

/-! A probe: the check that an address answers with status 200. The body of that answer
is the value. Other statuses are waited out unless the request itself was at fault. -/
namespace Convergence

structure Probe where
  url : String
  token : Option String
  tolerance : Tolerance
deriving DecidableEq, Repr

instance : StatusCoded HttpError where
  status? e := e.kind.status?
  isMalformed e := e.kind.isMalformed

/-- An exchange that fails for want of an answer may succeed later; one that was
wrong from the start, or whose answer cannot be used, will not. -/
theorem HttpError.classify_eq (t : Tolerance) (e : HttpError) :
    t.classify e = if e.kind = .request then .transient else .permanent := by
  cases e <;> rfl

namespace Probe

def judgeError (p : Probe) (e : HttpError) : Judgement String :=
  (p.tolerance.classify e).judge e.message

def statusNote (status : Nat) : String := "Returned wrong status code: " ++ toString status

def isClientError (status : Nat) : Bool := 400 ≤ status && status < 500

def judgeStatus (p : Probe) (status : Nat) : Finding String :=
  if isClientError status && p.tolerance.ofStatus status.toUInt16 == .permanent then
    .fatal (statusNote status)
  else .waiting (statusNote status)

def judge (p : Probe) : Except HttpError HttpAnswer → Judgement String
  | .error e => p.judgeError e
  | .ok answer =>
    if answer.status = 200 then
      match answer.text with
      | .ok body => .quiet (.met body)
      | .error e => p.judgeError e
    else
      { finding := p.judgeStatus answer.status
        log := [.unexpectedStatus p.url answer.status] }

abbrev Query : Type := String × Option String

abbrev Answer (_ : Query) : Type := Except HttpError HttpAnswer

def check (p : Probe) : Check Query Answer String :=
  { query := (p.url, p.token), next := fun answer => .decide (p.judge answer) }

def prompt (answer : Except HttpError HttpAnswer) : Reply (Except HttpError HttpAnswer) :=
  { answer, delay := 0 }

def source (server : HttpServer (StateM σ)) : Source Query Answer σ :=
  fun query s =>
    let (answer, s) := (server.exchange query.1 query.2).run s
    (prompt answer, s)

def visit [Monad m] (p : Probe) (server : HttpServer m) : m (Judgement String) :=
  return p.judge (← server.exchange p.url p.token)

def visits [Monad m] (p : Probe) (server : HttpServer m) (n : Nat) :
    m (List (Judgement String)) :=
  (List.replicate n ()).mapM fun _ => p.visit server

def job (p : Probe) (plan : Plan) : Job Query Answer String :=
  { index := 0, plan, check := p.check, cancellable := true, observed := false
    farewell := fun _ => [] }

/-- Checks the address at the pace of a waiter. -/
def wait (p : Probe) (w : Waiter) (e : Setting Query Answer σ) (s : Scene σ) :
    Passage Query σ (Except Failure (Completion String)) :=
  w.wait p.check e s

end Probe
end Convergence
