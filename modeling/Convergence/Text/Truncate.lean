/-! Long texts cut short, with three points in place of what is left out. -/
namespace Convergence.Text

def truncate (s : String) (limit : Nat) : String :=
  if s.toList.length ≤ limit then s
  else String.ofList (s.toList.take (limit - 3)) ++ "..."

end Convergence.Text
