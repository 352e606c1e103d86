import Convergence.Probe.Request

/-! What a command line asks for, and why a command line asks for nothing. -/
namespace Convergence

inductive Command where
  | probe (request : ProbeRequest)
  | profiles
deriving DecidableEq, Repr

structure Invocation where
  json : Bool
  config : Option String
  command : Command
deriving DecidableEq, Repr

/-- Why no command is carried out. -/
inductive Stop where
  | help
  | version
  | nothingAsked
  | missingCommand
  | unknownCommand
  | unknownArgument
  | missingUrl
  | needlessValue
  | emptyValue
  | invalidNumber
  | repeated
deriving DecidableEq, Repr

namespace Stop

/-- Whether the user was only told what was asked for. -/
def isInformation : Stop → Bool
  | help | version => true
  | _ => false

def exitCode (s : Stop) : Nat := if s.isInformation then 0 else 2

end Stop
end Convergence
