import Convergence.Poll.Scene

/-! One poll from its first tick to its end, with nothing else running. The token
is looked at before every tick and cuts short every sleep. -/
namespace Convergence

variable {Q : Type} {A : Q → Type} {σ α β γ : Type}

/-- A part of a poll: what came of it, the scene after it, and what happened. -/
structure Passage (Q : Type) (σ : Type) (β : Type) where
  result : β
  scene : Scene σ
  events : List (Event Q)

namespace Passage

def prepend (events : List (Event Q)) (p : Passage Q σ β) : Passage Q σ β :=
  { p with events := events ++ p.events }

def map (f : β → γ) (p : Passage Q σ β) : Passage Q σ γ :=
  { result := f p.result, scene := p.scene, events := p.events }

end Passage

def Judgement.events (j : Judgement α) : List (Event Q) := j.log.map .noticed

namespace Job

def checkOnce (j : Job Q A α) (e : Setting Q A σ) (s : Scene σ) : Passage Q σ (Finding α) :=
  let (reply, asked) := e.ask j.check.query s
  let read := asked.pass reply.delay
  let first := Event.asked j.index j.check.query s.now
  match j.check.next reply.answer with
  | .decide judgement =>
    { result := judgement.finding, scene := read, events := first :: judgement.events }
  | .read query judge =>
    let (second, asked) := e.ask query read
    let judgement := judge second.answer
    { result := judgement.finding
      scene := asked.pass second.delay
      events := first :: .asked j.index query read.now :: judgement.events }

/-- Sleeps until `wake`, or until the token is cancelled; tells whether it was. -/
def sleep (j : Job Q A α) (e : Setting Q A σ) (wake : Instant) (s : Scene σ) : Bool × Scene σ :=
  if j.stops e s then (true, s)
  else
    match e.trigger.time with
    | some n =>
      if j.cancellable && e.trigger.past wake then (true, { s with now := n, cancelled := true })
      else (false, { s with now := wake })
    | none => (false, { s with now := wake })

def conclude (j : Job Q A α) (c : Course) (ending : Ending α) (attempts : Nat) (s : Scene σ) :
    Passage Q σ (Report α) :=
  let r := report c ending attempts s.now
  { result := r, scene := s, events := (j.endNotices r).map .noticed }

def takeTick (j : Job Q A α) (e : Setting Q A σ) (c : Course) (left : Nat) (s : Scene σ) :
    Passage Q σ (Finding α × Course) :=
  let checked := j.checkOnce e s
  { result := (checked.result, c.noting checked.result)
    scene := j.afterTick e checked.scene
    events :=
      checked.events ++ j.tickEvents (j.tick c left checked.scene.now checked.result) }

/-- The poll from a tick on after which `left` others may follow. -/
def runFrom (j : Job Q A α) (e : Setting Q A σ) : Nat → Course → Scene σ → Passage Q σ (Report α)
  | 0, c, s =>
    if j.stops e s then j.conclude c .cancelled (j.attempt 0 - 1) s
    else
      let ticked := j.takeTick e c 0 s
      let (finding, c) := ticked.result
      (j.conclude c (finding.ending?.getD .timedOut) (j.attempt 0) ticked.scene).prepend
        ticked.events
  | left + 1, c, s =>
    if j.stops e s then j.conclude c .cancelled (j.attempt (left + 1) - 1) s
    else
      let ticked := j.takeTick e c (left + 1) s
      let (finding, c) := ticked.result
      let s := ticked.scene
      match finding.ending? with
      | some ending =>
        (j.conclude c ending (j.attempt (left + 1)) s).prepend ticked.events
      | none =>
        let waiting := ticked.events ++ [.noticed (j.pendingNotice c (left + 1) s.now)]
        match j.sleep e (wakeTime s.now j.plan.interval) s with
        | (true, s) => (j.conclude c .cancelled (j.attempt (left + 1)) s).prepend waiting
        | (false, s) => (j.runFrom e left c s).prepend waiting

def run (j : Job Q A α) (e : Setting Q A σ) (s : Scene σ) : Passage Q σ (Report α) :=
  j.runFrom e (j.plan.maxAttempts - 1) { started := s.now, lastNote := none } s

end Job

/-! ### The same poll as a loop

The loop counts its laps up from zero, in a word like that of the plan. -/

/-- A poll between two laps of its loop. -/
structure Count where
  attempts : UInt32
  course : Course

def Count.opening (s : Scene σ) : Count :=
  { attempts := 0, course := { started := s.now, lastNote := none } }

namespace Job

variable (j : Job Q A α) (e : Setting Q A σ)

/-- One lap of the loop. It ends the poll, or leaves a count for the next lap. -/
def lap (c : Count) (s : Scene σ) : Passage Q σ (Report α ⊕ Count) :=
  if j.stops e s then (j.conclude c.course .cancelled c.attempts.toNat s).map .inl
  else
    let attempts := c.attempts + 1
    let checked := j.checkOnce e s
    let finding := checked.result
    let course := c.course.noting finding
    let shown := j.afterTick e checked.scene
    let ticked := checked.events ++ j.tickEvents
      { attempt := attempts.toNat
        maxAttempts := j.plan.word.toNat
        elapsed := elapsedBetween c.course.started checked.scene.now
        mark := finding.mark
        note := finding.shown? }
    match finding.ending?.or (if j.plan.word ≤ attempts then some .timedOut else none) with
    | some ending => ((j.conclude course ending attempts.toNat shown).map .inl).prepend ticked
    | none =>
      let noticed := ticked ++ [.noticed (.pending j.plan.description attempts.toNat
        j.plan.word.toNat (elapsedBetween course.started shown.now) course.lastNote
        j.plan.interval)]
      match j.sleep e (wakeTime shown.now j.plan.interval) shown with
      | (true, s) => ((j.conclude course .cancelled attempts.toNat s).map .inl).prepend noticed
      | (false, s) => { result := .inr { attempts, course }, scene := s, events := noticed }

/-- Up to so many laps. -/
def laps : Nat → Count → Scene σ → Passage Q σ (Report α ⊕ Count)
  | 0, c, s => { result := .inr c, scene := s, events := [] }
  | n + 1, c, s =>
    match (j.lap e c s).result with
    | .inl _ => j.lap e c s
    | .inr next => (laps n next (j.lap e c s).scene).prepend (j.lap e c s).events

end Job

/-! ### Several polls -/

/-- Polls one after the other, each from where the one before has ended. -/
def runInTurn (e : Setting Q A σ) : List (Job Q A α) → Scene σ → Passage Q σ (List (Report α))
  | [], s => { result := [], scene := s, events := [] }
  | j :: rest, s =>
    let first := j.run e s
    let others := runInTurn e rest first.scene
    { result := first.result :: others.result
      scene := others.scene
      events := first.events ++ others.events }

end Convergence
