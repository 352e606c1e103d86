import Convergence.Duration

/-! Plans of bounded polls: a condition to name, the time between two ticks and
how many ticks there may be. A plan that exists can be carried out; what cannot
be carried out is refused before anything runs. -/
namespace Convergence

inductive PlanError where
  | zeroInterval (description : String)
  | zeroAttempts (description : String)
  | zeroTimeout (description : String)
  | unknownProfile (name : String)
deriving DecidableEq, Repr

def PlanError.message : PlanError → String
  | zeroInterval d => "Invalid poll interval for '" ++ d ++ "': must be greater than zero"
  | zeroAttempts d => "Invalid max_attempts for '" ++ d ++ "': must be at least 1"
  | zeroTimeout d => "Invalid timeout for '" ++ d ++ "': must be greater than zero"
  | unknownProfile name => "Unknown wait profile: " ++ name

/-- How often a condition may be checked: a number of times, or for as long as a timeout. -/
inductive Limit where
  | attempts (n : UInt32)
  | within (timeout : Duration)
deriving DecidableEq, Repr

/-- The number of ticks is never zero and always fits in 32 bits. -/
structure Plan where
  description : String
  interval : Duration
  maxAttempts : Nat
  interval_pos : 0 < interval.nanos
  maxAttempts_pos : 0 < maxAttempts
  maxAttempts_lt : maxAttempts < 4294967296

namespace Plan

def ofAttempts (description : String) (interval : Duration) (attempts : UInt32) :
    Except PlanError Plan :=
  if hi : interval.nanos = 0 then .error (.zeroInterval description)
  else if ha : attempts.toNat = 0 then .error (.zeroAttempts description)
  else
    .ok
      { description, interval
        maxAttempts := attempts.toNat
        interval_pos := Nat.pos_of_ne_zero hi
        maxAttempts_pos := Nat.pos_of_ne_zero ha
        maxAttempts_lt := attempts.toNat_lt }

/-- Ticks at `0`, `interval`, `2 * interval`, … up to the timeout and with it, as
long as their number fits. -/
def attemptsWithin (timeout interval : Duration) : Nat :=
  let steps := timeout.nanos / interval.nanos
  if steps < 4294967295 then steps + 1 else 4294967295

theorem attemptsWithin_pos (timeout interval : Duration) : 0 < attemptsWithin timeout interval := by
  unfold attemptsWithin
  simp only
  split
  · exact Nat.succ_pos _
  · decide

theorem attemptsWithin_lt (timeout interval : Duration) :
    attemptsWithin timeout interval < 4294967296 := by
  unfold attemptsWithin
  simp only
  split <;> omega

def ofTimeout (description : String) (timeout interval : Duration) : Except PlanError Plan :=
  if hi : interval.nanos = 0 then .error (.zeroInterval description)
  else if timeout.nanos = 0 then .error (.zeroTimeout description)
  else
    .ok
      { description, interval
        maxAttempts := attemptsWithin timeout interval
        interval_pos := Nat.pos_of_ne_zero hi
        maxAttempts_pos := attemptsWithin_pos timeout interval
        maxAttempts_lt := attemptsWithin_lt timeout interval }

def ofLimit (description : String) (interval : Duration) : Limit → Except PlanError Plan
  | .attempts n => ofAttempts description interval n
  | .within timeout => ofTimeout description timeout interval

/-- The number of attempts in its word of 32 bits. -/
def word (p : Plan) : UInt32 := .ofNat p.maxAttempts

@[simp] theorem word_toNat (p : Plan) : p.word.toNat = p.maxAttempts :=
  UInt32.toNat_ofNat_of_lt' p.maxAttempts_lt

/-- The most time that can pass in sleep between the ticks. -/
def sleepBudget (p : Plan) : Duration := p.interval.timesSat (p.maxAttempts - 1)

def cadenceText (p : Plan) : String := toString p.maxAttempts ++ "x" ++ p.interval.text

def text (p : Plan) : String := p.description ++ " (" ++ p.cadenceText ++ ")"

end Plan
end Convergence
