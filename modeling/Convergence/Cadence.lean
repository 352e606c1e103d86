import Convergence.Plan

/-! The pace of a wait before it has been looked at: an interval and a limit that
may still be changed, and may still be refused. -/
namespace Convergence

structure Cadence where
  interval : Duration
  limit : Limit
deriving DecidableEq, Repr

namespace Cadence

/-- One check, and a second between checks if there were more. -/
def single : Cadence := { interval := .ofSecs 1, limit := .attempts 1 }

inductive Change where
  | interval (d : Duration)
  | timeout (d : Duration)
  | attempts (n : UInt32)
deriving DecidableEq, Repr

/-- A timeout and a number of attempts replace each other. -/
def change (c : Cadence) : Change → Cadence
  | .interval d => { c with interval := d }
  | .timeout d => { c with limit := .within d }
  | .attempts n => { c with limit := .attempts n }

def changeAll (c : Cadence) (changes : List Change) : Cadence := changes.foldl change c

def plan (c : Cadence) (description : String) : Except PlanError Plan :=
  Plan.ofLimit description c.interval c.limit

end Cadence
end Convergence
