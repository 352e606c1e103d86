import Convergence.Logging.Level
import Convergence.Settings.Basic
import Convergence.Text.Blank

/-! Which settings can be used. The namespace is looked at first, then the level
of the logs, then the profiles in the order of their names; the first fault found
is the one reported. -/
namespace Convergence

inductive SettingsError where
  | emptyNamespace
  | invalidLevel (level : String)
  | zeroInterval (profile : String)
  | zeroAttempts (profile : String)
  | zeroTimeout (profile : String)
  | ambiguousLimit (profile : String)
deriving DecidableEq, Repr

def SettingsError.message : SettingsError → String
  | emptyNamespace => "Namespace cannot be empty"
  | invalidLevel level =>
    "Invalid log level: " ++ level ++ ". Must be one of: trace, debug, info, warn, error"
  | zeroInterval p => "Invalid interval_secs for profile '" ++ p ++ "': must be greater than 0"
  | zeroAttempts p => "Invalid max_attempts for profile '" ++ p ++ "': must be greater than 0"
  | zeroTimeout p => "Invalid timeout_secs for profile '" ++ p ++ "': must be greater than 0"
  | ambiguousLimit p =>
    "Profile '" ++ p ++ "' must set exactly one of max_attempts or timeout_secs"

def Profile.fault? (name : String) (p : Profile) : Option SettingsError :=
  if p.intervalSecs = 0 then some (.zeroInterval name)
  else
    match p.maxAttempts, p.timeoutSecs with
    | some n, none => if n = 0 then some (.zeroAttempts name) else none
    | none, some t => if t = 0 then some (.zeroTimeout name) else none
    | _, _ => some (.ambiguousLimit name)

namespace Settings

def fault? (s : Settings) : Option SettingsError :=
  if (Text.trimChars s.space.toList).isEmpty then some .emptyNamespace
  else if (Level.ofName? s.logging.level).isNone then some (.invalidLevel s.logging.level)
  else s.profiles.entries.findSome? fun (name, p) => p.fault? name

def validated (s : Settings) : Except SettingsError Settings :=
  match s.fault? with
  | some fault => .error fault
  | none => .ok s

end Settings
end Convergence
