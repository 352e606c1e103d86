import Convergence.Poll.Report

/-! A bar that counts the attempts of a wait. It shows whatever it is told: the
position may pass the length, and the length may be zero. -/
namespace Convergence

structure ProgressBar where
  position : Nat
  length : Nat
  message : String
deriving DecidableEq, Repr

namespace ProgressBar

def ofAttempts (maxAttempts : Nat) : ProgressBar :=
  { position := 0, length := maxAttempts, message := "" }

def withMessage (b : ProgressBar) (message : String) : ProgressBar := { b with message }

def filled (b : ProgressBar) (cells : Nat) : Nat :=
  if b.length ≤ b.position then cells else b.position * cells / b.length

def text (b : ProgressBar) : String :=
  let cells := 40
  let full := b.filled cells
  String.ofList (List.replicate full '█' ++ List.replicate (cells - full) ' ') ++ " " ++
    toString b.position ++ "/" ++ toString b.length ++ " " ++ b.message

/-- The bar after a tick, with the note of the tick or else its mark. -/
def after (b : ProgressBar) (t : Tick) : ProgressBar :=
  { b with position := t.attempt, message := t.note.getD t.mark.text }

end ProgressBar
end Convergence
