import Convergence.Duration
import Convergence.Logging.Level
import Convergence.Logging.Settings
import Convergence.Value

/-! What is told about while it happens. Each notice has a level, the part of the
program it comes from, one sentence, and fields that carry the details. -/
namespace Convergence

inductive Notice where
  | loggerReady (level : String) (format : LogFormat) (toFile : Bool)
  | pending (description : String) (attempt maxAttempts : Nat) (elapsed : Duration)
      (lastNote : Option String) (interval : Duration)
  | converged (description : String) (attempts : Nat) (elapsed : Duration)
  | ranOut (description : String) (attempts : Nat) (elapsed : Duration)
  | aborted (description : String) (attempts : Nat) (elapsed : Duration) (cause : String)
  | cancelled (description : String) (attempts : Nat) (elapsed : Duration)
  | transientError (error : String)
  | unexpectedStatus (url : String) (status : Nat)
  | scaledDown (key value : String) (elapsed : Duration)
deriving DecidableEq, Repr

namespace Notice

def level : Notice → Level
  | loggerReady .. | pending .. | transientError .. | unexpectedStatus .. => .debug
  | converged .. | cancelled .. | scaledDown .. => .info
  | ranOut .. | aborted .. => .warn

def origin : Notice → String
  | loggerReady .. => "kubewait::infrastructure::logging::logger"
  | transientError .. => "kubewait::services::error_classifier"
  | unexpectedStatus .. => "kubewait::infrastructure::http::probe"
  | scaledDown .. => "kubewait::services::cluster_waits"
  | _ => "kubewait::services::poll_scheduler"

def message : Notice → String
  | loggerReady .. => "logger initialized"
  | pending _ _ _ _ _ interval => "condition not yet satisfied, sleeping " ++ interval.text
  | converged .. => "condition converged"
  | ranOut .. => "condition did not converge before attempts ran out"
  | aborted .. => "poll aborted on hard error"
  | cancelled .. => "poll cancelled"
  | transientError _ => "transient error, treating as not yet"
  | unexpectedStatus .. => "probe returned unexpected status"
  | scaledDown .. => "scaled nodes were successfully unscaled"

def spent (description : String) (attempts : Nat) (elapsed : Duration) : List (String × Value) :=
  [("description", .text description), ("attempts", .unsigned attempts),
   ("elapsed", .text elapsed.text)]

def formatName : LogFormat → String
  | .json => "Json"
  | .pretty => "Pretty"

def fields : Notice → List (String × Value)
  | loggerReady level format toFile =>
    [("level", .text level), ("format", .text (formatName format)), ("file_output", .bool toFile)]
  | pending description attempt maxAttempts elapsed lastNote _ =>
    [("description", .text description), ("attempt", .unsigned attempt),
     ("max_attempts", .unsigned maxAttempts), ("elapsed", .text elapsed.text),
     ("observation", .text (lastNote.getD ""))]
  | converged description attempts elapsed => spent description attempts elapsed
  | ranOut description attempts elapsed => spent description attempts elapsed
  | aborted description attempts elapsed cause =>
    spent description attempts elapsed ++ [("cause", .text cause)]
  | cancelled description attempts elapsed => spent description attempts elapsed
  | transientError error => [("error", .text error)]
  | unexpectedStatus url status => [("url", .text url), ("status", .unsigned status)]
  | scaledDown key value elapsed =>
    [("taint_key", .text key), ("taint_value", .text value), ("elapsed", .text elapsed.text)]

def fieldNames (n : Notice) : List String := "message" :: n.fields.map (·.1)

end Notice
end Convergence
