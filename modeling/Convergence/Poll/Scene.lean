import Convergence.Poll.Check
import Convergence.Poll.Report

/-! The scene that polls share: a clock, a source to read from, and a token that
cancels them. The clock counts whole milliseconds and stands still while
anything can run, so a call takes whole milliseconds too. Sleeps alone are asked for
in finer parts, and end on the next whole one. -/
namespace Convergence

variable {Q : Type} {A : Q → Type} {σ α : Type}

/-- Milliseconds since the clock started. -/
abbrev Instant := Nat

/-- A clock cannot tell instants from here on, 2^63 seconds after its start. -/
def clockEnd : Nat := 9223372036854775808 * 1000000000

/-- The end of a sleep too long for the clock: thirty years on. -/
def farAway : Nat := 946080000000

/-- When a sleep ends. A part of a millisecond is waited out in full. -/
def wakeTime (now : Instant) (d : Duration) : Instant :=
  if now * 1000000 + d.nanos < clockEnd then now + d.millisUp else now + farAway

def elapsedBetween (started now : Instant) : Duration := .ofMillis (now - started)

structure Trigger where
  before : Bool
  time : Option Instant
  /-- Whether it is cancelled before anything else happens at its instant, and not
  after all of it. -/
  early : Bool := false
  /-- The read at whose start it is cancelled, counted from one over all polls. -/
  onRead : Option Nat
  /-- The observed tick at which it is cancelled, counted from one over all polls. -/
  onTick : Option Nat
deriving DecidableEq, Repr

namespace Trigger

def never : Trigger := { before := false, time := none, onRead := none, onTick := none }

/-- Whether a poll that runs at `now` comes after the instant of the trigger. -/
def past (t : Trigger) (now : Instant) : Bool :=
  t.time.any fun n => if t.early then n ≤ now else n < now

end Trigger

structure Scene (σ : Type) where
  now : Instant
  source : σ
  reads : Nat
  ticks : Nat
  cancelled : Bool

structure Setting (Q : Type) (A : Q → Type) (σ : Type) where
  source : Source Q A σ
  trigger : Trigger

namespace Setting

def opening (e : Setting Q A σ) (source : σ) : Scene σ :=
  { now := 0, source, reads := 0, ticks := 0, cancelled := e.trigger.before }

/-- Unless the trigger is early, the token is cancelled last at its instant, so a
poll that runs at that instant does not see it before it sleeps. -/
def isCancelled (e : Setting Q A σ) (s : Scene σ) : Bool :=
  s.cancelled || e.trigger.past s.now

def ask (e : Setting Q A σ) (q : Q) (s : Scene σ) : Reply (A q) × Scene σ :=
  let (reply, source) := e.source q s.source
  (reply,
    { s with
      source
      reads := s.reads + 1
      cancelled := s.cancelled || e.trigger.onRead == some (s.reads + 1) })

def observe (e : Setting Q A σ) (s : Scene σ) : Scene σ :=
  { s with
    ticks := s.ticks + 1
    cancelled := s.cancelled || e.trigger.onTick == some (s.ticks + 1) }

end Setting

def Scene.pass (s : Scene σ) (millis : Nat) : Scene σ := { s with now := s.now + millis }

/-- A poll to run: its place among those that run together, its plan and check,
whether the token reaches it, whether its ticks are observed, and what is
noticed once it has converged. -/
structure Job (Q : Type) (A : Q → Type) (α : Type) where
  index : Nat
  plan : Plan
  check : Check Q A α
  cancellable : Bool
  observed : Bool
  farewell : Duration → List Notice

inductive Event (Q : Type) where
  | asked (job : Nat) (query : Q) (time : Instant)
  | ticked (tick : Tick)
  | noticed (notice : Notice)

def Event.notices (events : List (Event Q)) : List Notice :=
  events.filterMap fun
    | .noticed notice => some notice
    | _ => none

/-- A poll under way, between two ticks. -/
structure Course where
  started : Instant
  lastNote : Option String

def Course.noting (c : Course) : Finding α → Course
  | .pending (some note) => { c with lastNote := some note }
  | _ => c

namespace Job

/-- The number of the tick after which `left` others may follow. -/
def attempt (j : Job Q A α) (left : Nat) : Nat := j.plan.maxAttempts - left

def tick (j : Job Q A α) (c : Course) (left : Nat) (now : Instant) (finding : Finding α) : Tick :=
  { attempt := j.attempt left
    maxAttempts := j.plan.maxAttempts
    elapsed := elapsedBetween c.started now
    mark := finding.mark
    note := finding.shown? }

def pendingNotice (j : Job Q A α) (c : Course) (left : Nat) (now : Instant) : Notice :=
  .pending j.plan.description (j.attempt left) j.plan.maxAttempts (elapsedBetween c.started now)
    c.lastNote j.plan.interval

def report (c : Course) (ending : Ending α) (attempts : Nat) (now : Instant) : Report α :=
  { ending, attempts, elapsed := elapsedBetween c.started now, lastNote := c.lastNote }

def endNotices (j : Job Q A α) (r : Report α) : List Notice :=
  r.ending.notice j.plan.description r.attempts r.elapsed ::
    (if r.ending.isConverged then j.farewell r.elapsed else [])

def tickEvents (j : Job Q A α) (t : Tick) : List (Event Q) :=
  if j.observed then [.ticked t] else []

def afterTick (j : Job Q A α) (e : Setting Q A σ) (s : Scene σ) : Scene σ :=
  if j.observed then e.observe s else s

def stops (j : Job Q A α) (e : Setting Q A σ) (s : Scene σ) : Bool :=
  j.cancellable && e.isCancelled s

end Job
end Convergence
