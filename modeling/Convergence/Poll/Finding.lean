/-! What one check of a condition finds. -/
namespace Convergence

inductive Finding (α : Type) where
  /-- The condition does not hold yet; the note tells what was seen instead. -/
  | pending (note : Option String)
  | met (value : α)
  /-- No further check can help. -/
  | fatal (cause : String)
deriving DecidableEq, Repr

/-- A finding without what it carries. -/
inductive Mark where
  | pending
  | met
  | fatal
deriving DecidableEq, Repr

namespace Mark

def text : Mark → String
  | pending => "not-yet"
  | met => "satisfied"
  | fatal => "hard-error"

def code : Mark → String
  | pending => "not_yet"
  | met => "satisfied"
  | fatal => "hard_error"

end Mark

namespace Finding

def mark : Finding α → Mark
  | pending _ => .pending
  | met _ => .met
  | fatal _ => .fatal

/-- What a tick with this finding shows: the note, or the cause. -/
def shown? : Finding α → Option String
  | pending note => note
  | met _ => none
  | fatal cause => some cause

def ofBool (holds : Bool) : Finding Unit := if holds then met () else pending none

def waiting (note : String) : Finding α := pending (some note)

def map (f : α → β) : Finding α → Finding β
  | pending note => pending note
  | met value => met (f value)
  | fatal cause => fatal cause

end Finding
end Convergence
