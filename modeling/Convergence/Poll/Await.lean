import Convergence.Poll.Run
import Convergence.Profile

/-! Polls as they are asked for. The plan is made first, and a call that has none fails
before anything else happens. -/
namespace Convergence

variable {Q : Type} {A : Q → Type} {ε σ α β γ : Type}

namespace Passage

/-- Goes on with what is planned. Where there is no plan, the error is all that comes of it. -/
def planned (plan : Except PlanError γ) (wrap : PlanError → ε)
    (run : γ → Passage Q σ (Except ε β)) (s : Scene σ) : Passage Q σ (Except ε β) :=
  match plan with
  | .error error => { result := .error (wrap error), scene := s, events := [] }
  | .ok what => run what

end Passage

/-- Runs the poll, if there is one, and tells what came of it. -/
def Job.await (job : Except PlanError (Job Q A α)) (e : Setting Q A σ) (s : Scene σ) :
    Passage Q σ (Except Failure (Completion α)) :=
  .planned job .misconfigured (fun j => (j.run e s).map (·.outcome j.plan)) s

/-- Whether a token reaches the polls that it runs, and whether their ticks are observed. -/
structure Scheduler where
  cancellable : Bool
  observed : Bool
deriving DecidableEq, Repr

namespace Scheduler

def plain : Scheduler := { cancellable := false, observed := false }

def job (c : Scheduler) (index : Nat) (check : Check Q A α) (plan : Plan) : Job Q A α :=
  { index, plan, check, cancellable := c.cancellable, observed := c.observed
    farewell := fun _ => [] }

/-- A poll of a condition without a name. -/
def unnamedPlan (interval : Duration) (attempts : UInt32) : Except PlanError Plan :=
  Plan.ofAttempts "condition" interval attempts

def runWith (c : Scheduler) (interval : Duration) (attempts : UInt32) (check : Check Q A α)
    (e : Setting Q A σ) (s : Scene σ) : Passage Q σ (Except PlanError (Report α)) :=
  .planned (unnamedPlan interval attempts) id
    (fun plan => ((c.job 0 check plan).run e s).map .ok) s

end Scheduler

/-- A wait that may still be changed: what it is for, its pace, and who runs it. -/
structure Waiter where
  description : String
  cadence : Cadence
  scheduler : Scheduler
deriving DecidableEq, Repr

namespace Waiter

def ofProfile (description : String) (p : Profile) (scheduler : Scheduler) : Waiter :=
  { description, cadence := p.cadence, scheduler }

def plan (w : Waiter) : Except PlanError Plan := w.cadence.plan w.description

def job (w : Waiter) (index : Nat) (check : Check Q A α) : Except PlanError (Job Q A α) :=
  w.plan.map (w.scheduler.job index check)

def wait (w : Waiter) (check : Check Q A α) (e : Setting Q A σ) (s : Scene σ) :
    Passage Q σ (Except Failure (Completion α)) :=
  Job.await (w.job 0 check) e s

/-- A wait of which nothing has been said but what it is for. -/
def fresh (description : String) : Waiter :=
  { description, cadence := .single, scheduler := .plain }

/-- What may still be said of a wait: its pace, that a token reaches it, that its ticks are
observed. -/
inductive Change where
  | pace (c : Cadence.Change)
  | cancellable
  | observed
deriving DecidableEq, Repr

def change (w : Waiter) : Change → Waiter
  | .pace c => { w with cadence := w.cadence.change c }
  | .cancellable => { w with scheduler := { w.scheduler with cancellable := true } }
  | .observed => { w with scheduler := { w.scheduler with observed := true } }

def changeAll (w : Waiter) (changes : List Change) : Waiter := changes.foldl change w

/-- A wait with everything said at once. No token reaches it. -/
def simple (description : String) (interval : Duration) (attempts : UInt32) : Waiter :=
  { description
    cadence := Cadence.single.changeAll [.interval interval, .attempts attempts]
    scheduler := .plain }

end Waiter

def waitFor (description : String) (check : Check Q A α) (interval : Duration)
    (attempts : UInt32) (e : Setting Q A σ) (s : Scene σ) :
    Passage Q σ (Except Failure (Completion α)) :=
  (Waiter.simple description interval attempts).wait check e s

end Convergence
