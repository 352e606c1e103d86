import Convergence.Poll.Await
import Convergence.Settings.Basic

/-! What a probe is asked to do: which address must answer, and at which pace. -/
namespace Convergence

structure ProbeRequest where
  url : String
  token : Option String
  profile : String
  intervalSecs : Option UInt64
  attempts : Option UInt32
deriving DecidableEq, Repr

namespace ProbeRequest

def description (r : ProbeRequest) : String := r.url ++ " to answer 200 OK"

def changes (r : ProbeRequest) : List Cadence.Change :=
  (r.intervalSecs.toList.map fun n => .interval (.ofSecs n.toNat)) ++
    (r.attempts.toList.map .attempts)

def cadence (r : ProbeRequest) (profiles : Profiles) : Except PlanError Cadence :=
  (profiles.get r.profile).map fun p => p.cadence.changeAll r.changes

def plan (r : ProbeRequest) (profiles : Profiles) : Except PlanError Plan := do
  (← r.cadence profiles).plan r.description

/-- The wait at the pace of the profile, before anybody else has a say in it. -/
def waiter (r : ProbeRequest) (profiles : Profiles) : Except PlanError Waiter :=
  (profiles.get r.profile).map fun p =>
    (Waiter.ofProfile r.description p .plain).changeAll (r.changes.map .pace)

end ProbeRequest
end Convergence
