import Convergence.Decode.Reader
import Convergence.Settings.Basic

/-! Settings read from values, each field with its default where it has one. -/
namespace Convergence

open Decode

namespace Profile

def slots : List (Slot Profile) :=
  [{ name := "interval_secs", need := .required
     put := fun v p => (uint64 v).map fun n => { p with intervalSecs := n } },
   { name := "max_attempts", need := .defaulted
     put := fun v p => (option uint32 v).map fun n => { p with maxAttempts := n } },
   { name := "timeout_secs", need := .defaulted
     put := fun v p => (option uint64 v).map fun n => { p with timeoutSecs := n } }]

def ofValue (d : Dialect) : Reader Profile :=
  record d "WaitProfile" slots { intervalSecs := 0, maxAttempts := none, timeoutSecs := none }

end Profile

def Profiles.ofValue (d : Dialect) : Reader Profiles :=
  fun v => (map (Profile.ofValue d) v).map Profiles.ofList

def LogFormat.ofValue (d : Dialect) : Reader LogFormat :=
  choice d "LogFormat" [("json", .json), ("pretty", .pretty)]

def Rotation.ofValue (d : Dialect) : Reader Rotation :=
  choice d "RotationPolicy" [("daily", .daily), ("hourly", .hourly), ("never", .never)]

namespace LogSettings

def fields (d : Dialect) : List (DefaultSlot LogSettings) :=
  [{ name := "level", need := .defaulted
     put := fun v s => (string v).map fun level => { s with level }
     fill := fun s => { s with level := "info" } },
   { name := "format", need := .defaulted
     put := fun v s => (LogFormat.ofValue d v).map fun format => { s with format }
     fill := fun s => { s with format := .pretty } },
   { name := "log_dir", need := .defaulted
     put := fun v s => (option (text "path string") v).map fun dir => { s with logDir := dir }
     fill := fun s => { s with logDir := none } },
   { name := "enable_stderr", need := .defaulted
     put := fun v s => (bool v).map fun b => { s with toStderr := b }
     fill := fun s => { s with toStderr := true } },
   { name := "rotation", need := .defaulted
     put := fun v s => (Rotation.ofValue d v).map fun rotation => { s with rotation }
     fill := fun s => { s with rotation := .daily } }]

/-- The defaults of the fields are together the default of the whole. -/
theorem filled_fields (d : Dialect) (start : LogSettings) : filled (fields d) start = .standard :=
  rfl

def slots (d : Dialect) : List (Slot LogSettings) := (fields d).map (·.toSlot)

/-- A record of nothing, of which nothing is left once the fields have their defaults. -/
def blank : LogSettings :=
  { level := "", format := .json, logDir := none, toStderr := false, rotation := .never }

def ofValue (d : Dialect) : Reader LogSettings :=
  record d "LogConfig" (slots d) (filled (fields d) blank)

end LogSettings

namespace Settings

def slots (d : Dialect) : List (Slot Settings) :=
  [{ name := "namespace", need := .defaulted
     put := fun v s => (string v).map fun space => { s with space } },
   { name := "logging", need := .defaulted
     put := fun v s => (LogSettings.ofValue d v).map fun logging => { s with logging } },
   { name := "profiles", need := .defaulted
     put := fun v s => (Profiles.ofValue d v).map fun profiles => { s with profiles } }]

def ofValue (d : Dialect) : Reader Settings := record d "Config" (slots d) .standard

end Settings
end Convergence
