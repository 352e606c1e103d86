import Convergence.Http.Message
import Convergence.Poll.Script

/-! Servers with replies prepared beforehand, to rehearse an exchange. -/
namespace Convergence

/-- The requests that a server has seen, the last one first. -/
abbrev Visits := List HttpRequest

/-- Gives its replies in turn, and then the last one for ever. Nothing listens where
there are no replies, and nobody answers who speaks in cipher. -/
def HttpServer.scripted (replies : List HttpReply) : HttpServer (StateM Visits) :=
  fun request visits =>
    match nthOrLast? replies visits.length with
    | none => (.unanswered, visits)
    | some reply =>
      if request.url.scheme = "https" then (.unanswered, visits) else (reply, request :: visits)

def HttpServer.silent [Pure m] : HttpServer m := fun _ => pure .unanswered

end Convergence
