import Convergence.Http.Exchange

/-! Exchanges that come to an end with a certain reply. The want of an answer ends an exchange
wherever it has moved to, and so does an answer with status 200. -/
namespace Convergence

variable {σ : Type}

namespace HttpServer

/-- From a request on, with so many moves left, the exchange gets this reply: to the request
itself, or to one that it moves on to. -/
inductive Gets (server : HttpServer (StateM σ)) (start : HttpRequest) :
    Nat → HttpRequest → σ → HttpReply → σ → Prop
  | now {left : Nat} {request : HttpRequest} {s t : σ} {reply : HttpReply}
    (asked : (server request).run s = (reply, t)) : Gets server start left request s reply t
  | moved {left : Nat} {request : HttpRequest} {s t u : σ} {reply : HttpReply}
    {answer : HttpAnswer} {address : Url.Reference} {url : Url}
    (asked : (server request).run s = (.answered answer, t))
    (move : answer.move? request.address = some address)
    (read : Url.ofText? address.text = some url) (web : isWeb url = true)
    (place : address.authority.isNone = false)
    (next : Gets server start left (request.moveTo start.authorization address url) t reply u) :
    Gets server start (left + 1) request s reply u

variable {server : HttpServer (StateM σ)} {start request : HttpRequest} {left : Nat} {s t : σ}

theorem followFrom_unanswered (asked : (server request).run s = (.unanswered, t)) :
    (server.followFrom start left request).run s = (.error (.unanswered start.url), t) := by
  unfold followFrom
  rw [StateT.run_bind, asked]
  rfl

theorem followFrom_stays {answer : HttpAnswer}
    (asked : (server request).run s = (.answered answer, t))
    (stays : answer.move? request.address = none) :
    (server.followFrom start left request).run s = (.ok answer, t) := by
  unfold followFrom
  rw [StateT.run_bind, asked]
  change StateT.run _ t = _
  simp only [stays]
  rfl

theorem followFrom_moved {answer : HttpAnswer} {address : Url.Reference} {url : Url}
    (asked : (server request).run s = (.answered answer, t))
    (move : answer.move? request.address = some address)
    (read : Url.ofText? address.text = some url) (web : isWeb url = true)
    (place : address.authority.isNone = false) :
    (server.followFrom start (left + 1) request).run s =
      (server.followFrom start left (request.moveTo start.authorization address url)).run t := by
  rw [followFrom, StateT.run_bind, asked]
  change StateT.run _ t = _
  simp only [move, read, web, place, Bool.not_true, Bool.false_eq_true, if_false]

theorem Gets.unanswered (h : server.Gets start left request s .unanswered t) :
    (server.followFrom start left request).run s = (.error (.unanswered start.url), t) := by
  generalize hreply : HttpReply.unanswered = reply at h
  induction h with
  | now asked =>
    subst hreply
    exact followFrom_unanswered asked
  | moved asked move read web place _ ih =>
    rw [followFrom_moved asked move read web place, ih hreply]

theorem move?_of_ok {answer : HttpAnswer} (hok : answer.status = 200) (asked : Url.Reference) :
    answer.move? asked = none := by
  have hno : isMove 200 = false := rfl
  unfold HttpAnswer.move?
  rw [hok, hno]
  simp

theorem Gets.ok {answer : HttpAnswer} (hok : answer.status = 200)
    (h : server.Gets start left request s (.answered answer) t) :
    (server.followFrom start left request).run s = (.ok answer, t) := by
  generalize hreply : HttpReply.answered answer = reply at h
  induction h with
  | now asked =>
    subst hreply
    exact followFrom_stays asked (move?_of_ok hok _)
  | moved asked move read web place _ ih =>
    rw [followFrom_moved asked move read web place, ih hreply]

end HttpServer

end Convergence
