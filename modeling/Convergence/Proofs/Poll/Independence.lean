import Convergence.Poll.Script
import Mathlib.Data.List.Basic
import Mathlib.Logic.Function.Basic

/-! Sources that answer each of their readers as if there were no other. -/
namespace Convergence

variable {Q : Type} {A : Q → Type} {σ α : Type}

namespace Tally

end Tally

namespace Source

def after (source : Source Q A σ) (state : σ) (queries : List Q) : σ :=
  queries.foldl (fun state query => (source query state).2) state

/-- Each reader is answered as if the others read nothing. Here `reads i q` says that
the reader `i` may read `q`. -/
def Independent (source : Source Q A σ) (state : σ) (reads : Nat → Q → Prop) : Prop :=
  ∀ history : List (Nat × Q), (∀ read ∈ history, reads read.1 read.2) → ∀ i q, reads i q →
    (source q (source.after state (history.map Prod.snd))).1 =
      (source q (source.after state ((history.filter (·.1 = i)).map Prod.snd))).1

theorem after_append (source : Source Q A σ) (state : σ) (first rest : List Q) :
    source.after state (first ++ rest) = source.after (source.after state first) rest := by
  unfold after
  rw [List.foldl_append]

end Source
end Convergence
