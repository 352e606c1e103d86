import Convergence.Json
import Convergence.Logging.Filter

/-! The logger: what becomes of a notice on its way into the log. -/
namespace Convergence

structure LogLine where
  notice : Notice
  wait : Option String
deriving DecidableEq, Repr

namespace LogLine

def waitValue (description : String) : Value :=
  .ofEntries [(Notice.waitField, .text description), ("name", .text Notice.waitName)]

def fieldsValue (l : LogLine) : Value :=
  .record (("message", .text l.notice.message) :: l.notice.fields)

def toValue (l : LogLine) (time : String) : Value :=
  .record <|
    [("timestamp", .text time), ("level", .text l.notice.level.name), ("fields", l.fieldsValue),
     ("target", .text l.notice.origin)] ++
    match l.wait with
    | none => []
    | some description => [("span", waitValue description)]

def fieldText : String × Value → String
  | (name, .text s) => name ++ ": " ++ s
  | (name, v) => name ++ ": " ++ Json.compact v

def text (l : LogLine) (time : String) : String :=
  let told := time ++ " " ++ l.notice.level.name ++ " " ++ l.notice.origin ++ ": "
  let what := String.intercalate ", " (l.notice.message :: l.notice.fields.map fieldText)
  told ++ what ++
    match l.wait with
    | none => ""
    | some description => " in wait with description: " ++ description

end LogLine

inductive LoggerError where
  | invalidLevel (name : String)
  /-- The program has a logger already. -/
  | taken
deriving DecidableEq, Repr

def LoggerError.message : LoggerError → String
  | invalidLevel name => "Invalid log level: " ++ name
  | taken => "Failed to install global tracing subscriber"

structure Logger where
  filter : LogFilter
  settings : LogSettings
deriving DecidableEq, Repr

namespace Logger

/-- A logger for the whole program, unless there is one already. The text of rules takes
the place of the level where it is given. -/
def ofSettings (taken : Bool) (settings : LogSettings) (rules : Option String) :
    Except LoggerError Logger :=
  match Level.ofName? settings.level with
  | none => .error (.invalidLevel settings.level)
  | some level =>
    if taken then .error .taken
    else .ok { settings, filter := .ofText level (rules.getD "") }

def greeting (l : Logger) : Notice :=
  .loggerReady l.settings.level l.settings.format l.settings.logDir.isSome

def lines (l : Logger) (wait : Option String) (notices : List Notice) : List LogLine :=
  let shown := if l.filter.announcesWaits then wait else none
  (notices.filter (l.filter.allows wait)).map fun notice => { notice, wait := shown }

def fileName : String := "kubewait.log"

def fileNameAt (day hour : String) : Rotation → String
  | .never => fileName
  | .daily => fileName ++ "." ++ day
  | .hourly => fileName ++ "." ++ day ++ "-" ++ hour

end Logger
end Convergence
