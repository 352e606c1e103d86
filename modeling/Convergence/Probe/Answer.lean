import Convergence.Text.Truncate
import Convergence.Value

/-! What a probe shows once the address has answered. -/
namespace Convergence

structure ProbeAnswer where
  url : String
  attempts : Nat
  elapsedMillis : Nat
  startedAt : String
  body : String
deriving DecidableEq, Repr

namespace ProbeAnswer

def toValue (a : ProbeAnswer) : Value :=
  .ofEntries
    [("url", .text a.url), ("attempts", .unsigned a.attempts),
     ("elapsed_ms", .unsigned a.elapsedMillis), ("started_at", .text a.startedAt),
     ("body", .text a.body)]

/-- The beginning of the body stands below the line that tells of the answer. -/
def text (a : ProbeAnswer) : String :=
  a.url ++ " answered 200 OK after " ++ toString a.attempts ++ " attempt(s) (" ++
    toString a.elapsedMillis ++ "ms)\n" ++ Text.truncate a.body 200

end ProbeAnswer
end Convergence
