import Convergence.Settings.Basic
import Convergence.Table

/-! The list of the configured profiles, each resolved into what it comes to. -/
namespace Convergence

structure ListedProfile where
  name : String
  intervalSecs : Nat
  maxAttempts : Nat
  timeoutSecs : Option Nat
  budgetSecs : Nat
deriving DecidableEq, Repr

structure Listing where
  profiles : List ListedProfile

namespace ListedProfile

def ofProfile (name : String) (p : Profile) : Except PlanError ListedProfile := do
  let plan ← p.plan name
  return { name, intervalSecs := p.intervalSecs.toNat, maxAttempts := plan.maxAttempts
           timeoutSecs := p.timeoutSecs.map (·.toNat), budgetSecs := plan.sleepBudget.secs }

def toValue (r : ListedProfile) : Value :=
  .ofEntries
    [("name", .text r.name), ("interval_secs", .unsigned r.intervalSecs),
     ("max_attempts", .unsigned r.maxAttempts),
     ("timeout_secs", .ofOption .unsigned r.timeoutSecs),
     ("budget_secs", .unsigned r.budgetSecs)]

def secondsText (n : Nat) : String := toString n ++ "s"

def cells (r : ListedProfile) : List String :=
  [r.name, secondsText r.intervalSecs, toString r.maxAttempts,
   match r.timeoutSecs with
   | some t => secondsText t
   | none => "-",
   secondsText r.budgetSecs]

end ListedProfile

namespace Listing

def ofEntries : List (String × Profile) → Except PlanError (List ListedProfile)
  | [] => .ok []
  | (name, p) :: rest => do return (← ListedProfile.ofProfile name p) :: (← ofEntries rest)

def ofSettings (s : Settings) : Except PlanError Listing :=
  (ofEntries s.profiles.entries).map fun profiles => { profiles }

def toValue (l : Listing) : Value :=
  .ofEntries
    [("profiles", .list (l.profiles.map (·.toValue))), ("total", .unsigned l.profiles.length)]

def text (l : Listing) : String :=
  if l.profiles.isEmpty then "No wait profiles configured."
  else
    Table.text
      { header := ["Profile", "Interval", "Attempts", "Timeout", "Budget"]
        rows := l.profiles.map (·.cells) }

end Listing
end Convergence
