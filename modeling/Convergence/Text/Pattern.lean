import Convergence.Text.Hexadecimal
import Convergence.Text.Ranges

/-! Patterns of text: characters and sets of them, one after the other, in choice or
repeated. Of several ways to match, the first counts: an earlier choice before a later
one, and more repetitions before fewer unless the pattern says otherwise. -/
namespace Convergence.Text

structure CharSet where
  ranges : List (Nat × Nat)
  negated : Bool
deriving DecidableEq, Repr

def CharSet.holds (s : CharSet) (c : Char) : Bool := covers s.ranges c != s.negated

def CharSet.only (c : Char) : CharSet := { ranges := [(c.toNat, c.toNat)], negated := false }

inductive Pattern where
  | empty
  | one (set : CharSet)
  | start
  | finish
  | both (first second : Pattern)
  | either (first second : Pattern)
  | many (p : Pattern) (greedy : Bool)
deriving DecidableEq, Repr

namespace Pattern

def optional (p : Pattern) (greedy : Bool) : Pattern :=
  if greedy then either p empty else either empty p

def oneOrMore (p : Pattern) (greedy : Bool) : Pattern := both p (many p greedy)

/-! ### Matching

A match is told by the text that it leaves over. Rests of one text are the same when
they are equally long. -/

def addRest (rests : List (List Char)) (rest : List Char) : List (List Char) :=
  if rests.any (·.length == rest.length) then rests else rests ++ [rest]

def distinct (rests : List (List Char)) : List (List Char) := rests.foldl addRest []

/-- The rests after repetitions, in the order in which they count, behind those that
are `found` already. A repetition must take something; `fuel` bounds their number. -/
def repeated (step : List Char → List (List Char)) (greedy : Bool) :
    Nat → List Char → List (List Char) → List (List Char)
  | 0, _, found => found
  | fuel + 1, rest, found =>
    if found.any (·.length == rest.length) then found
    else
      let next := (step rest).filter (·.length < rest.length)
      let goOn (found : List (List Char)) : List (List Char) :=
        next.foldl (fun found r => repeated step greedy fuel r found) found
      if greedy then addRest (goOn found) rest else goOn (addRest found rest)

/-- What may be left over after a match at the beginning of a text, in the order in
which the matches count. `whole` is the length of the text before anything is taken. -/
def rests (whole : Nat) : Pattern → List Char → List (List Char)
  | empty, chars => [chars]
  | one _, [] => []
  | one set, c :: chars => if set.holds c then [chars] else []
  | start, chars => if chars.length = whole then [chars] else []
  | finish, chars => if chars.isEmpty then [chars] else []
  | both first second, chars => distinct ((rests whole first chars).flatMap (rests whole second))
  | either first second, chars => distinct (rests whole first chars ++ rests whole second chars)
  | many p greedy, chars => repeated (rests whole p) greedy (chars.length + 1) chars []

def describes (p : Pattern) (s : String) : Bool :=
  match rests s.toList.length p s.toList with
  | rest :: _ => rest.isEmpty
  | [] => false

/-! ### Reading -/

def coded? (digits : Nat) (chars : List Char) : Option (Char × List Char) := do
  let code := chars.take digits
  if code.length ≠ digits then none
  else
    let n ← numberIn? 16 code
    if n.isValidChar then some (Char.ofNat n, chars.drop digits) else none

/-- The character that is written with a backslash before it. Classes of letters and
digits have no such names. -/
def escapedChar? : List Char → Option (Char × List Char)
  | [] => none
  | c :: rest =>
    match c with
    | 'a' => some (Char.ofNat 7, rest)
    | 't' => some ('\t', rest)
    | 'n' => some ('\n', rest)
    | 'v' => some (Char.ofNat 11, rest)
    | 'f' => some (Char.ofNat 12, rest)
    | 'r' => some ('\r', rest)
    | 'x' => coded? 2 rest
    | 'u' => coded? 4 rest
    | 'U' => coded? 8 rest
    | c =>
      if c.toNat < 0x80 && !c.isAlphanum && c != '<' && c != '>' then some (c, rest)
      else none

def member? : List Char → Option (Char × List Char)
  | '\\' :: rest => escapedChar? rest
  | '[' :: _ => none
  | c :: rest => some (c, rest)
  | [] => none

/-- Two of these in a row would be an operation on sets. -/
def isSetSign (c : Char) : Bool := c == '&' || c == '-' || c == '~'

def setRanges? : Nat → List (Nat × Nat) → List Char → Option (List (Nat × Nat) × List Char)
  | 0, _, _ => none
  | fuel + 1, ranges, chars =>
    match chars with
    | ']' :: rest => some (ranges.reverse, rest)
    | chars => do
      let (first, rest) ← member? chars
      match rest with
      | '-' :: ']' :: _ => setRanges? fuel ((first.toNat, first.toNat) :: ranges) rest
      | '-' :: '-' :: _ => none
      | '-' :: rest =>
        let (last, rest) ← member? rest
        if last.toNat < first.toNat then none
        else setRanges? fuel ((first.toNat, last.toNat) :: ranges) rest
      | next :: _ =>
        if isSetSign first && next == first then none
        else setRanges? fuel ((first.toNat, first.toNat) :: ranges) rest
      | [] => none

/-- A set after its opening bracket. A closing bracket that comes first is a member. -/
def set? (chars : List Char) : Option (CharSet × List Char) := do
  let (negated, chars) :=
    match chars with
    | '^' :: rest => (true, rest)
    | chars => (false, chars)
  let (early, chars) :=
    match chars with
    | ']' :: rest => ([(']'.toNat, ']'.toNat)], rest)
    | chars => ([], chars)
  let (ranges, rest) ← setRanges? (chars.length + 1) early chars
  return ({ ranges, negated }, rest)

/-- What follows the sign that a repetition takes as little as it can. -/
def afterLazy : List Char → Bool × List Char
  | '?' :: rest => (false, rest)
  | rest => (true, rest)

def withRepetitions : Nat → Pattern → List Char → Pattern × List Char
  | 0, p, chars => (p, chars)
  | fuel + 1, p, chars =>
    match chars with
    | '*' :: rest =>
      let (greedy, rest) := afterLazy rest
      withRepetitions fuel (many p greedy) rest
    | '+' :: rest =>
      let (greedy, rest) := afterLazy rest
      withRepetitions fuel (oneOrMore p greedy) rest
    | '?' :: rest =>
      let (greedy, rest) := afterLazy rest
      withRepetitions fuel (optional p greedy) rest
    | chars => (p, chars)

def afterName? (chars : List Char) : Option (List Char) :=
  let name := chars.takeWhile fun c => c.isAlphanum || c == '_'
  match name, chars.drop name.length with
  | c :: _, '>' :: rest => if c.isDigit then none else some rest
  | _, _ => none

def afterOpening? : List Char → Option (List Char)
  | '?' :: ':' :: rest => some rest
  | '?' :: 'P' :: '<' :: rest => afterName? rest
  | '?' :: '<' :: rest => afterName? rest
  | '?' :: _ => none
  | rest => some rest

mutual
def choices? : Nat → List Char → Option (Pattern × List Char)
  | 0, _ => none
  | fuel + 1, chars => do
    let (first, rest) ← sequence? fuel chars
    match rest with
    | '|' :: rest =>
      let (second, rest) ← choices? fuel rest
      return (either first second, rest)
    | rest => return (first, rest)
def sequence? : Nat → List Char → Option (Pattern × List Char)
  | 0, _ => none
  | fuel + 1, chars =>
    match chars with
    | [] => some (empty, [])
    | c :: rest =>
      if c == '|' || c == ')' then some (empty, c :: rest)
      else do
        let (first, rest) ← single? fuel c rest
        let (first, rest) := withRepetitions rest.length first rest
        let (second, rest) ← sequence? fuel rest
        return (both first second, rest)
def single? : Nat → Char → List Char → Option (Pattern × List Char)
  | 0, _, _ => none
  | fuel + 1, c, rest =>
    if c == '(' then do
      let (p, rest) ← choices? fuel (← afterOpening? rest)
      match rest with
      | ')' :: rest => return (p, rest)
      | _ => none
    else if c == '[' then (set? rest).map fun (set, rest) => (one set, rest)
    else if c == '.' then some (one { ranges := [(10, 10)], negated := true }, rest)
    else if c == '^' then some (start, rest)
    else if c == '$' then some (finish, rest)
    else if c == '\\' then
      match rest with
      | 'A' :: rest => some (start, rest)
      | 'z' :: rest => some (finish, rest)
      | rest => (escapedChar? rest).map fun (d, rest) => (one (.only d), rest)
    else if c == '*' || c == '+' || c == '?' || c.toNat == 0x7B then none
    else some (one (.only c), rest)
end

/-- The pattern that a text writes. Counted repetitions are not known, nor are sets
that depend on the case or the kind of letters. -/
def ofText? (s : String) : Option Pattern :=
  match choices? (4 * s.toList.length + 4) s.toList with
  | some (p, []) => some p
  | _ => none

end Pattern
end Convergence.Text
