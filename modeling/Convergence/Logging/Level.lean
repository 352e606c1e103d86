import Convergence.Text.LowerCase

/-! Levels of notices, from the most talkative to the most urgent. -/
namespace Convergence

inductive Level where
  | trace
  | debug
  | info
  | warn
  | error
deriving DecidableEq, Repr

namespace Level

def urgency : Level → Nat
  | trace => 0
  | debug => 1
  | info => 2
  | warn => 3
  | error => 4

def name : Level → String
  | trace => "TRACE"
  | debug => "DEBUG"
  | info => "INFO"
  | warn => "WARN"
  | error => "ERROR"

def ofSmallName? : String → Option Level
  | "trace" => some trace
  | "debug" => some debug
  | "info" => some info
  | "warn" => some warn
  | "error" => some error
  | _ => none

/-- Capital and small letters are the same to a level's name. -/
def ofName? (s : String) : Option Level := ofSmallName? (Text.lower s)

end Level
end Convergence
