import Convergence.Poll.Check

/-! Sources with answers prepared beforehand, to rehearse a poll. -/
namespace Convergence

variable {Q : Type} {A : Q → Type} {α : Type}

/-- The item at a place, or the last one where the items have run out. -/
def nthOrLast? (items : List β) (n : Nat) : Option β :=
  match items[n]? with
  | some item => some item
  | none => items.getLast?

/-- A check whose answers are what it finds. -/
def Check.told (query : Q) : Check Q (fun _ => Finding α) α :=
  { query, next := fun finding => .decide (.quiet finding) }

/-- How often each query has been asked. -/
abbrev Tally (Q : Type) := List (Q × Nat)

namespace Tally

def count [DecidableEq Q] (t : Tally Q) (q : Q) : Nat :=
  match t.find? (·.1 = q) with
  | some (_, n) => n
  | none => 0

def add [DecidableEq Q] (q : Q) : Tally Q → Tally Q
  | [] => [(q, 1)]
  | (other, n) :: rest => if other = q then (other, n + 1) :: rest else (other, n) :: add q rest

end Tally

def Source.scripted [DecidableEq Q] (script : (q : Q) → Nat → Reply (A q)) :
    Source Q A (Tally Q) :=
  fun q asked => (script q (asked.count q), asked.add q)

end Convergence
