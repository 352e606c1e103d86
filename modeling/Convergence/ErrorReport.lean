import Convergence.Json

/-! A failed command: what failed, and below it the causes, the nearest first. -/
namespace Convergence

structure ErrorReport where
  error : String
  causes : List String
deriving DecidableEq, Repr

namespace ErrorReport

def ofMessage (error : String) : ErrorReport := { error, causes := [] }

def within (context : String) (r : ErrorReport) : ErrorReport :=
  { error := context, causes := r.error :: r.causes }

def toValue (r : ErrorReport) : Value :=
  .record [("error", .text r.error), ("causes", .list (r.causes.map .text))]

def json (r : ErrorReport) : String := Json.pretty r.toValue

def lines (r : ErrorReport) : List String :=
  ("Error: " ++ r.error) :: r.causes.map ("  caused by: " ++ ·)

end ErrorReport
end Convergence
