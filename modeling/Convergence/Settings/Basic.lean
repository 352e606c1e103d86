import Convergence.Logging.Settings
import Convergence.Profile

/-! All that can be set: the namespace for look-ups, the logs and the profiles. -/
namespace Convergence

namespace LogFormat

def code : LogFormat → String
  | json => "json"
  | pretty => "pretty"

end LogFormat

namespace Rotation

def code : Rotation → String
  | daily => "daily"
  | hourly => "hourly"
  | never => "never"

end Rotation

def LogSettings.toValue (s : LogSettings) : Value :=
  .ofEntries
    [("level", .text s.level), ("format", .text s.format.code),
     ("log_dir", .ofText? s.logDir), ("enable_stderr", .bool s.toStderr),
     ("rotation", .text s.rotation.code)]

structure Settings where
  space : String
  logging : LogSettings
  profiles : Profiles

namespace Settings

def standard : Settings :=
  { space := "default", logging := .standard, profiles := .standard }

def toValue (s : Settings) : Value :=
  .ofEntries
    [("namespace", .text s.space), ("logging", s.logging.toValue),
     ("profiles", s.profiles.toValue)]

end Settings
end Convergence
