import Convergence.Command
import Convergence.CommandLine.Reading
import Convergence.Logging.Logger
import Convergence.Settings.Loading

/-! The program from its command line to its exit code. Settings are loaded before the
log is opened, and the log is opened before the command is carried out. -/
namespace Convergence

structure Transcript where
  exitCode : Nat
  output : Option Output
  complaints : List String
  log : List LogLine
  logging : Option LogSettings

namespace Transcript

def succeeded (output : Output) : Transcript :=
  { exitCode := 0, output := some output, complaints := [], log := [], logging := none }

/-- A report goes to those who read values as a value, and to people as lines. -/
def failed (json : Bool) (r : ErrorReport) : Transcript :=
  { exitCode := 1
    output := if json then some (.value r.toValue) else none
    complaints := if json then [] else r.lines
    log := [], logging := none }

end Transcript

namespace Program

def name : String := "kubewait"

def versionText : String := name ++ " 0.1.0"

def usageLines : List String :=
  ["Usage: kubewait [OPTIONS] <COMMAND>", "", "Commands:",
   "  probe     Wait until an HTTP endpoint answers 200 OK",
   "  profiles  List configured wait profiles", "  help      Print this message", "", "Options:",
   "  -j, --json             Output in JSON format",
   "  -c, --config <CONFIG>  Load configuration from this file instead of .kubewait/",
   "  -h, --help             Print help", "  -V, --version          Print version", "",
   "Options of probe <URL>:",
   "  -t, --token <TOKEN>        Bearer token sent in the Authorization header",
   "  -p, --profile <PROFILE>    Wait profile supplying the default cadence",
   "  -i, --interval <INTERVAL>  Seconds between attempts",
   "  -a, --attempts <ATTEMPTS>  Maximum number of attempts"]

def usage : String := String.intercalate "\n" usageLines

def stopText : Stop → String
  | .help | .nothingAsked => usage
  | .version => versionText
  | .missingCommand => "error: a command is required\n\n" ++ usage
  | .unknownCommand => "error: unrecognized command\n\n" ++ usage
  | .unknownArgument => "error: unexpected argument\n\n" ++ usage
  | .missingUrl => "error: the URL to probe is required\n\n" ++ usage
  | .needlessValue => "error: a flag takes no value\n\n" ++ usage
  | .emptyValue => "error: a value is required\n\n" ++ usage
  | .invalidNumber => "error: invalid number\n\n" ++ usage
  | .repeated => "error: an option can be given only once\n\n" ++ usage

def stopped (s : Stop) : Transcript :=
  { exitCode := s.exitCode
    output := if s.isInformation then some (.text (stopText s)) else none
    complaints := if s.isInformation then [] else [stopText s]
    log := [], logging := none }

def valueOf? (s : Surroundings) (name : String) : Option String :=
  (s.env.find? (·.1 == name)).map (·.2)

def settingsFor (s : Surroundings) (i : Invocation) : Except LoadError Settings :=
  match i.config with
  | some path => Settings.loadFrom s path
  | none => Settings.load s

def open? (s : Surroundings) (i : Invocation) : Except ErrorReport (Settings × Logger) := do
  let settings ← (settingsFor s i).mapError (·.report)
  let logger ←
    (Logger.ofSettings false settings.logging (valueOf? s "RUST_LOG")).mapError
      fun e => .ofMessage e.message
  return (settings, logger)

def concluded (json : Bool) (logger : Logger) (p : Performance) : Transcript :=
  let log := logger.lines none [logger.greeting] ++ logger.lines p.wait p.notices
  let ended : Transcript :=
    match p.result with
    | .ok output => .succeeded output
    | .error e => .failed json e.report
  { ended with log, logging := some logger.settings }

def run (s : Surroundings) (server : HttpServer (StateM σ)) (state : σ) (startedAt : String)
    (args : List String) : Transcript :=
  match Invocation.ofArguments s.env args with
  | .error stop => stopped stop
  | .ok i =>
    match open? s i with
    | .error report => .failed i.json report
    | .ok (settings, logger) =>
      concluded i.json logger
        (Performance.ofCommand server state startedAt settings i.json i.command)

end Program
end Convergence
