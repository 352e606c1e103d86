import Convergence.Logging.Notice
import Convergence.Poll.Finding

/-! Checks of a condition: one read, or two where the first tells what to read
next, and then a judgement. What is read comes from a source, which may change
with every read and may take its time. -/
namespace Convergence

variable {Q : Type} {A : Q → Type} {σ α : Type}

/-- A finding, and what was noticed on the way to it. -/
structure Judgement (α : Type) where
  finding : Finding α
  log : List Notice

def Judgement.quiet (finding : Finding α) : Judgement α := { finding, log := [] }

inductive Followup (Q : Type) (A : Q → Type) (α : Type) where
  | decide (judgement : Judgement α)
  | read (query : Q) (judge : A query → Judgement α)

structure Check (Q : Type) (A : Q → Type) (α : Type) where
  query : Q
  next : A query → Followup Q A α

structure Reply (β : Type) where
  answer : β
  /-- How long the read takes, in whole milliseconds of the clock. -/
  delay : Nat

/-- The answer to a read is settled when the read begins. -/
def Source (Q : Type) (A : Q → Type) (σ : Type) : Type := (q : Q) → σ → Reply (A q) × σ

end Convergence
