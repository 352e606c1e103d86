import Convergence.Cadence
import Convergence.Entries
import Convergence.Value

/-! Named cadences. A profile is meant to set either a number of attempts or a
timeout; where both are set the attempts count, and with neither there are none. -/
namespace Convergence

structure Profile where
  intervalSecs : UInt64
  maxAttempts : Option UInt32
  timeoutSecs : Option UInt64
deriving DecidableEq, Repr

namespace Profile

def ofAttempts (intervalSecs : UInt64) (attempts : UInt32) : Profile :=
  { intervalSecs, maxAttempts := some attempts, timeoutSecs := none }

def ofTimeout (intervalSecs timeoutSecs : UInt64) : Profile :=
  { intervalSecs, maxAttempts := none, timeoutSecs := some timeoutSecs }

def interval (p : Profile) : Duration := .ofSecs p.intervalSecs.toNat

def limit (p : Profile) : Limit :=
  match p.maxAttempts, p.timeoutSecs with
  | some n, _ => .attempts n
  | none, some t => .within (.ofSecs t.toNat)
  | none, none => .attempts 0

def cadence (p : Profile) : Cadence := { interval := p.interval, limit := p.limit }

def plan (p : Profile) (description : String) : Except PlanError Plan := p.cadence.plan description

/-- A limit that is not set is left out. -/
def toValue (p : Profile) : Value :=
  .ofEntries <|
    ("interval_secs", .unsigned p.intervalSecs.toNat) ::
      (p.maxAttempts.toList.map fun n => ("max_attempts", Value.unsigned n.toNat)) ++
      (p.timeoutSecs.toList.map fun t => ("timeout_secs", Value.unsigned t.toNat))

end Profile

/-- Profiles under their names, in the order of the names. -/
structure Profiles where
  entries : List (String × Profile)
  ordered : Entries.Ordered entries

namespace Profiles

def ofList (entries : List (String × Profile)) : Profiles :=
  { entries := Entries.ofList entries, ordered := Entries.ordered_ofList entries }

def empty : Profiles := { entries := [], ordered := List.Pairwise.nil }

def insert (ps : Profiles) (name : String) (p : Profile) : Profiles :=
  { entries := Entries.insert name p ps.entries, ordered := ps.ordered.insert name p }

def get (ps : Profiles) (name : String) : Except PlanError Profile :=
  match Entries.find? name ps.entries with
  | some p => .ok p
  | none => .error (.unknownProfile name)

def size (ps : Profiles) : Nat := ps.entries.length

def standard : Profiles :=
  .ofList
    [("pod_completion", .ofAttempts 10 120), ("replicas", .ofAttempts 10 24),
     ("scale_down", .ofTimeout 60 600), ("http_probe", .ofAttempts 3 6)]

def toValue (ps : Profiles) : Value :=
  .record (ps.entries.map fun (name, p) => (name, p.toValue))

end Profiles
end Convergence
