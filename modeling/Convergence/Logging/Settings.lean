/-! What can be set about logs: the level, the form on standard error, and a
directory for files that are started anew as time passes. -/
namespace Convergence

inductive LogFormat where
  | json
  | pretty
deriving DecidableEq, Repr

inductive Rotation where
  | daily
  | hourly
  | never
deriving DecidableEq, Repr

structure LogSettings where
  level : String
  format : LogFormat
  logDir : Option String
  toStderr : Bool
  rotation : Rotation
deriving DecidableEq, Repr

def LogSettings.standard : LogSettings :=
  { level := "info", format := .pretty, logDir := none, toStderr := true, rotation := .daily }

end Convergence
