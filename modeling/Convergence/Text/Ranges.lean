/-! Classes of characters, given as ranges of code points with both ends in. -/
namespace Convergence.Text

def covers (ranges : List (Nat × Nat)) (c : Char) : Bool :=
  ranges.any fun (first, last) => first ≤ c.toNat && c.toNat ≤ last

end Convergence.Text
