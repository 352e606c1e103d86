import Convergence.Http.Wire
import Convergence.Poll.Together
import Convergence.Program
import Convergence.Progress
import Std.Async.DNS
import Std.Async.TCP
import Std.Time

/-! The program on a real machine: files, the environment, the clock, a network without
ciphers, and what is written. All that is decided is decided elsewhere. -/
namespace Convergence.Main
open Std.Async Std.Net

/-! ### Time -/

def clock : IO Std.Time.DateTime := do
  return .ofTimestampWithZone (← Std.Time.Timestamp.now) .UTC

def timeText (t : Std.Time.DateTime) : String :=
  t.format "uuuu-MM-dd" ++ "T" ++ t.format "HH:mm:ss.SSSSSSSSS" ++ "+00:00"

/-! ### Network -/

def placeOf (port : UInt16) : IPAddr → SocketAddress
  | .v4 addr => .v4 { addr, port }
  | .v6 addr => .v6 { addr, port }

partial def receiveAll (socket : TCP.Socket.Client) (received : IO.Ref ByteArray) :
    Async Unit := do
  match ← socket.recv? 65536 with
  | some bytes =>
    received.modify (· ++ bytes)
    receiveAll socket received
  | none => return

/-- A host as the system's directory takes it, which is without brackets. -/
def hostName (u : Url) : String := String.ofList ((u.host.getD []).filter fun c => c != '[' && c != ']')

def converse (request : HttpRequest) (port : Nat) (received : IO.Ref ByteArray) :
    Async Unit := do
  let places ← DNS.getAddrInfo (hostName request.url) (toString port)
  match places.toList with
  | [] => throw (IO.userError "no address")
  | place :: _ =>
    let socket ← TCP.Socket.Client.mk
    socket.connect (placeOf port.toUInt16 place)
    socket.send request.text.toUTF8
    receiveAll socket received

/-- The longest time that an exchange may take, in milliseconds. -/
def patience : Nat := 10000

partial def waitFor (task : Task (Except IO.Error α)) (deadline : Nat) : IO (Option α) := do
  if ← IO.hasFinished task then
    match task.get with
    | .ok a => return some a
    | .error _ => return none
  else if deadline ≤ (← IO.monoMsNow) then return none
  else
    IO.sleep 5
    waitFor task deadline

def network : HttpServer IO := fun request => do
  match request.url.scheme, request.url.connectPort with
  | "http", some port =>
    let received ← IO.mkRef ByteArray.empty
    let task ← IO.asTask (converse request port received).block
    let hangup : Wire.Hangup :=
      if (← waitFor task ((← IO.monoMsNow) + patience)).isSome then .closed else .broken
    return .received hangup ((← received.get).toList.map (·.toNat))
  | _, _ => return .unanswered

/-! ### Logs -/

structure Sinks where
  logger : Logger
  file : Option IO.FS.Handle

def openSinks (logger : Logger) : IO Sinks := do
  match logger.settings.logDir with
  | none => return { logger, file := none }
  | some dir =>
    let t ← clock
    IO.FS.createDirAll dir
    let name := Logger.fileNameAt (t.format "uuuu-MM-dd") (t.format "HH") logger.settings.rotation
    return { logger, file := some (← IO.FS.Handle.mk (dir ++ "/" ++ name) .append) }

def Sinks.write (s : Sinks) (wait : Option String) (notices : List Notice) : IO Unit := do
  let time := timeText (← clock)
  for line in s.logger.lines wait notices do
    let json := Json.compact (line.toValue time)
    if s.logger.settings.toStderr then
      match s.logger.settings.format with
      | .json => IO.eprintln json
      | .pretty => IO.eprintln (line.text time)
    if let some file := s.file then
      file.putStrLn json
      file.flush

/-! ### Commands -/

abbrev ProbeRunner := Runner Probe.Query Probe.Answer String

def showBar (visible : Bool) (bar : ProgressBar) : IO Unit := do
  if visible then
    IO.eprint ("\r" ++ bar.text)
    (← IO.getStderr).flush

/-- Goes through a poll in real time. Each step but the last takes one answer. -/
partial def follow (sinks : Sinks) (visible : Bool) (probe : Probe) (started : Nat)
    (bar : ProgressBar) (r : ProbeRunner) (scene : Scene Unit) : IO (Report String) := do
  match r.phase with
  | .done report => return report
  | phase =>
    if let .sleeping _ wake := phase then
      IO.sleep (started + wake - (← IO.monoMsNow)).toUInt32
    let answer ← network.exchange probe.url probe.token
    let e : Setting Probe.Query Probe.Answer Unit :=
      { source := fun _ s => (Probe.prompt answer, s), trigger := .never }
    let passage := r.advance e { scene with now := (← IO.monoMsNow) - started }
    let bar := passage.events.foldl
      (fun bar event => match event with
        | .ticked tick => bar.after tick
        | _ => bar) bar
    showBar visible bar
    sinks.write (some r.job.plan.description) (Event.notices passage.events)
    follow sinks visible probe started bar passage.result passage.scene

def waitForProbe (sinks : Sinks) (settings : Settings) (json : Bool) (r : ProbeRequest) :
    IO (Except CommandError Output) := do
  match r.plan settings.profiles with
  | .error e => return .error (.misconfigured e)
  | .ok plan =>
    let startedAt := timeText (← clock)
    let started ← IO.monoMsNow
    let visible := !json && (← (← IO.getStderr).isTty)
    let job := { r.probe.job plan with observed := true }
    let bar := (ProgressBar.ofAttempts plan.maxAttempts).withMessage ("waiting for " ++ r.url)
    let scene : Scene Unit := { now := 0, source := (), reads := 0, ticks := 0, cancelled := false }
    let report ← follow sinks visible r.probe started bar (Runner.start job 0) scene
    if visible then IO.eprintln ""
    return (r.conclude startedAt (report.outcome plan)).map (·.output json)

def carryOut (sinks : Sinks) (settings : Settings) (i : Invocation) :
    IO (Except CommandError Output) := do
  sinks.write none [sinks.logger.greeting]
  match i.command with
  | .profiles => return (Performance.listProfiles settings i.json).result
  | .probe r => waitForProbe sinks settings i.json r

/-! ### The whole run -/

def textAt? (path : String) : IO (Option (String × String)) := do
  try
    return some (path, ← IO.FS.readFile path)
  catch _ => return none

def surroundings (config : Option String) (env : List (String × String)) : IO Surroundings := do
  let workingDir := (← IO.currentDir).toString
  let files ← (Settings.places workingDir config).filterMapM textAt?
  return {
    workingDir, viewpoint := some workingDir, env
    fileAt := fun path => (files.find? (·.1 == path)).map (·.2) }

def finish (t : Transcript) : IO UInt32 := do
  if let some output := t.output then IO.println output.line
  for line in t.complaints do IO.eprintln line
  return t.exitCode.toUInt32

def run (args : List String) : IO UInt32 := do
  let env := (← Std.Internal.UV.System.osEnviron).toList
  match Invocation.ofArguments env args with
  | .error stop => finish (Program.stopped stop)
  | .ok i =>
    match Program.open? (← surroundings i.config env) i with
    | .error report => finish (.failed i.json report)
    | .ok (settings, logger) =>
      match ← carryOut (← openSinks logger) settings i with
      | .ok output => finish (.succeeded output)
      | .error e => finish (.failed i.json e.report)

end Convergence.Main

def main (args : List String) : IO UInt32 := Convergence.Main.run args
