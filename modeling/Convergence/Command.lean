import Convergence.CommandLine.Basic
import Convergence.ErrorReport
import Convergence.Listing
import Convergence.Probe.Answer
import Convergence.Probe.Check

/-! The commands: what each of them shows, and how it can fail. -/
namespace Convergence

/-- What a command shows: a value, or text for people. -/
inductive Output where
  | value (v : Value)
  | text (s : String)

def Output.line : Output → String
  | value v => Json.pretty v
  | text s => s

inductive CommandError where
  | misconfigured (error : PlanError)
  | probeFailed (url : String) (failure : Failure)
deriving DecidableEq, Repr

def CommandError.report : CommandError → ErrorReport
  | misconfigured error => .ofMessage error.message
  | probeFailed url failure =>
    (ErrorReport.ofMessage failure.message).within ("Probe of " ++ url ++ " failed")

def Listing.output (json : Bool) (l : Listing) : Output :=
  if json then .value l.toValue else .text l.text

def ProbeAnswer.output (json : Bool) (a : ProbeAnswer) : Output :=
  if json then .value a.toValue else .text a.text

namespace ProbeRequest

def probe (r : ProbeRequest) : Probe :=
  { url := r.url, token := r.token, tolerance := .standard }

/-- Milliseconds as an answer shows them, up to the largest number of 64 bits. -/
def shownMillis (d : Duration) : Nat :=
  if d.millis < 18446744073709551615 then d.millis else 18446744073709551615

def conclude (r : ProbeRequest) (startedAt : String) :
    Except Failure (Completion String) → Except CommandError ProbeAnswer
  | .error failure => .error (.probeFailed r.url failure)
  | .ok c =>
    .ok
      { url := r.url, attempts := c.attempts, elapsedMillis := shownMillis c.elapsed
        startedAt, body := c.value }

end ProbeRequest

structure Performance where
  result : Except CommandError Output
  wait : Option String
  notices : List Notice

namespace Performance

def refused (error : CommandError) : Performance :=
  { result := .error error, wait := none, notices := [] }

def listProfiles (settings : Settings) (json : Bool) : Performance :=
  { result := ((Listing.ofSettings settings).mapError .misconfigured).map (·.output json)
    wait := none, notices := [] }

def probe (server : HttpServer (StateM σ)) (s : σ) (startedAt : String) (settings : Settings)
    (json : Bool) (r : ProbeRequest) : Performance :=
  match r.plan settings.profiles with
  | .error error => refused (.misconfigured error)
  | .ok plan =>
    let e : Setting Probe.Query Probe.Answer σ :=
      { source := Probe.source server, trigger := .never }
    let waited := (r.probe.job plan).run e (e.opening s)
    { result := (r.conclude startedAt (waited.result.outcome plan)).map (·.output json)
      wait := some plan.description
      notices := Event.notices waited.events }

def ofCommand (server : HttpServer (StateM σ)) (s : σ) (startedAt : String) (settings : Settings)
    (json : Bool) : Command → Performance
  | .profiles => listProfiles settings json
  | .probe r => probe server s startedAt settings json r

end Performance
end Convergence
