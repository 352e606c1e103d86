import Convergence.Poll.Run

/-! Polls that run at the same time. At any instant those that can run do so in
their order, each until it sleeps or ends; then the clock goes to the next
instant at which one of them can. -/
namespace Convergence

variable {Q : Type} {A : Q → Type} {σ α : Type}

/-- Where a poll stands. `left` counts the ticks that may follow the one that is
under way or comes next. -/
inductive Phase (Q : Type) (A : Q → Type) (α : Type) where
  | due (left : Nat)
  | sleeping (left : Nat) (wake : Instant)
  | reading (left : Nat) (wake : Instant) (next : Followup Q A α)
  | rereading (left : Nat) (wake : Instant) (judgement : Judgement α)
  | done (report : Report α)

structure Runner (Q : Type) (A : Q → Type) (α : Type) where
  job : Job Q A α
  course : Course
  phase : Phase Q A α

namespace Phase

/-- How many steps a poll can still take; every step makes it smaller. -/
def work : Phase Q A α → Nat
  | due left => 3 * left + 4
  | sleeping left _ => 3 * left + 4
  | reading left _ _ => 3 * left + 3
  | rereading left _ _ => 3 * left + 2
  | done _ => 0

def wake? : Phase Q A α → Option Instant
  | sleeping _ wake => some wake
  | reading _ wake _ => some wake
  | rereading _ wake _ => some wake
  | _ => none

end Phase

namespace Runner

def start (j : Job Q A α) (now : Instant) : Runner Q A α :=
  { job := j, course := { started := now, lastNote := none }, phase := .due (j.plan.maxAttempts - 1) }

def canRun (e : Setting Q A σ) (s : Scene σ) (r : Runner Q A α) : Bool :=
  match r.phase with
  | .due _ => true
  | .sleeping _ wake => wake ≤ s.now || r.job.stops e s
  | .reading _ wake _ => wake ≤ s.now
  | .rereading _ wake _ => wake ≤ s.now
  | .done _ => false

def finish (r : Runner Q A α) (c : Course) (ending : Ending α) (attempts : Nat) (s : Scene σ) :
    Passage Q σ (Runner Q A α) :=
  let ended := r.job.conclude c ending attempts s
  { result := { r with course := c, phase := .done ended.result }
    scene := ended.scene
    events := ended.events }

/-- The end of a tick: the poll ends or goes to sleep, and a sleep under a
cancelled token is over at once. -/
def settle (e : Setting Q A σ) (r : Runner Q A α) (left : Nat) (finding : Finding α)
    (s : Scene σ) : Passage Q σ (Runner Q A α) :=
  let j := r.job
  let ticked : List (Event Q) := j.tickEvents (j.tick r.course left s.now finding)
  let c := r.course.noting finding
  let s := j.afterTick e s
  match left, finding.ending? with
  | 0, ending => (r.finish c (ending.getD .timedOut) (j.attempt 0) s).prepend ticked
  | left + 1, some ending => (r.finish c ending (j.attempt (left + 1)) s).prepend ticked
  | left + 1, none =>
    let waiting := ticked ++ [.noticed (j.pendingNotice c (left + 1) s.now)]
    if j.stops e s then (r.finish c .cancelled (j.attempt (left + 1)) s).prepend waiting
    else
      { result :=
          { r with course := c, phase := .sleeping left (wakeTime s.now j.plan.interval) }
        scene := s
        events := waiting }

/-- Goes on after the second read. -/
def judged (e : Setting Q A σ) (r : Runner Q A α) (left : Nat) (judgement : Judgement α)
    (s : Scene σ) : Passage Q σ (Runner Q A α) :=
  (r.settle e left judgement.finding s).prepend judgement.events

/-- Goes on after the first read. -/
def followed (e : Setting Q A σ) (r : Runner Q A α) (left : Nat) (next : Followup Q A α)
    (s : Scene σ) : Passage Q σ (Runner Q A α) :=
  match next with
  | .decide judgement => r.judged e left judgement s
  | .read query judge =>
    let (reply, asked) := e.ask query s
    { result := { r with phase := .rereading left (s.now + reply.delay) (judge reply.answer) }
      scene := asked
      events := [.asked r.job.index query s.now] }

def begin (e : Setting Q A σ) (r : Runner Q A α) (left : Nat) (s : Scene σ) :
    Passage Q σ (Runner Q A α) :=
  if r.job.stops e s then r.finish r.course .cancelled (r.job.attempt left - 1) s
  else
    let (reply, asked) := e.ask r.job.check.query s
    { result :=
        { r with phase := .reading left (s.now + reply.delay) (r.job.check.next reply.answer) }
      scene := asked
      events := [.asked r.job.index r.job.check.query s.now] }

/-- One step of a poll, after which others may run. -/
def step (e : Setting Q A σ) (r : Runner Q A α) (s : Scene σ) : Passage Q σ (Runner Q A α) :=
  match r.phase with
  | .due left => r.begin e left s
  | .sleeping left _ => r.begin e left s
  | .reading left _ next => r.followed e left next s
  | .rereading left _ judgement => r.judged e left judgement s
  | .done _ => { result := r, scene := s, events := [] }

/-- Whether a check is under way and the answer to its read is there. -/
def isAnswered (s : Scene σ) (r : Runner Q A α) : Bool :=
  match r.phase with
  | .reading _ wake _ => wake ≤ s.now
  | .rereading _ wake _ => wake ≤ s.now
  | _ => false

/-- Goes on at once with a check whose answer takes no time. -/
def hear (e : Setting Q A σ) (p : Passage Q σ (Runner Q A α)) : Passage Q σ (Runner Q A α) :=
  if p.result.isAnswered p.scene then (p.result.step e p.scene).prepend p.events else p

/-- Runs a poll until it sleeps, waits for an answer or ends. A check has two answers
at most. -/
def advance (e : Setting Q A σ) (r : Runner Q A α) (s : Scene σ) : Passage Q σ (Runner Q A α) :=
  hear e (hear e (r.step e s))

def pass (e : Setting Q A σ) : List (Runner Q A α) → Scene σ → Passage Q σ (List (Runner Q A α))
  | [], s => { result := [], scene := s, events := [] }
  | r :: rest, s =>
    if r.canRun e s then
      let first := r.advance e s
      let others := pass e rest first.scene
      { result := first.result :: others.result
        scene := others.scene
        events := first.events ++ others.events }
    else
      let others := pass e rest s
      { others with result := r :: others.result }

def totalWork : List (Runner Q A α) → Nat
  | [] => 0
  | r :: rest => r.phase.work + totalWork rest

def firstWake : List (Runner Q A α) → Option Instant
  | [] => none
  | r :: rest =>
    match r.phase.wake?, firstWake rest with
    | some a, some b => some (if a ≤ b then a else b)
    | some a, none => some a
    | none, b => b

/-- The scene at the next instant at which a poll can run. A cancellation that
comes before it is carried out on the way, and may itself be that instant. -/
def awaken (e : Setting Q A σ) (rs : List (Runner Q A α)) (s : Scene σ) : Scene σ :=
  if rs.any (·.canRun e s) then s
  else
    match firstWake rs with
    | none => s
    | some wake =>
      match e.trigger.time with
      | some n =>
        if !s.cancelled && e.trigger.past wake then
          let cut := { s with now := if s.now ≤ n then n else s.now, cancelled := true }
          if rs.any (·.canRun e cut) then cut else { cut with now := wake }
        else { s with now := wake }
      | none => { s with now := wake }

def drive (e : Setting Q A σ) (rs : List (Runner Q A α)) (s : Scene σ) :
    Passage Q σ (List (Runner Q A α)) :=
  let passed := pass e rs (awaken e rs s)
  if _h : totalWork passed.result < totalWork rs then
    (drive e passed.result passed.scene).prepend passed.events
  else { result := rs, scene := s, events := [] }
termination_by totalWork rs

def report? (r : Runner Q A α) : Option (Report α) :=
  match r.phase with
  | .done report => some report
  | _ => none

end Runner

def runTogether (e : Setting Q A σ) (jobs : List (Job Q A α)) (s : Scene σ) :
    Passage Q σ (List (Option (Report α))) :=
  let driven := Runner.drive e (jobs.map (Runner.start · s.now)) s
  { driven with result := driven.result.map (·.report?) }

inductive Order where
  | inTurn
  | together
deriving DecidableEq, Repr

/-- Polls in an order, with the reports under the places of the polls. -/
def runAll (e : Setting Q A σ) (jobs : List (Job Q A α)) (s : Scene σ) :
    Order → Passage Q σ (List (Nat × Report α))
  | .inTurn =>
    let p := runInTurn e jobs s
    { p with result := (jobs.map (·.index)).zip p.result }
  | .together =>
    let p := runTogether e jobs s
    { p with result := (jobs.zip p.result).filterMap fun (j, r) => r.map (j.index, ·) }

end Convergence
