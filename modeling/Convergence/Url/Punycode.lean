/-! Names beyond ASCII, written in ASCII: first the ASCII characters, then for every
other character how far it lies behind the one before. Each of the three loops that
write has a quantity that falls; what is read gets shorter. -/
namespace Convergence.Url.Punycode

/-- Divides a distance until it is small, and counts how much each division is worth. -/
def shrink (distance worth : Nat) : Nat × Nat :=
  if 455 < distance then shrink (distance / 35) (worth + 36) else (distance, worth)
termination_by distance
decreasing_by omega

/-- The bias after a character: where the digits of the next distance are expected to end. -/
def bias (distance handled : Nat) (first : Bool) : Nat :=
  let damped := if first then distance / 700 else distance / 2
  let (rest, worth) := shrink (damped + damped / handled) 0
  worth + 36 * rest / (rest + 38)

def digit (n : Nat) : Char := if n < 26 then Char.ofNat (97 + n) else Char.ofNat (22 + n)

/-- A digit below the threshold is the last one. -/
def threshold (bias place : Nat) : Nat :=
  if place ≤ bias then 1 else if bias + 26 ≤ place then 26 else place - bias

theorem threshold_pos (bias place : Nat) : 1 ≤ threshold bias place := by
  unfold threshold
  repeat' split
  all_goals omega

/-- A distance in digits that tell by their size where they end. -/
def digits (bias place distance : Nat) : List Char :=
  let t := threshold bias place
  if distance < t then [digit distance]
  else
    digit (t + (distance - t) % (36 - t)) ::
      digits bias (place + 36) ((distance - t) / (36 - t))
termination_by distance
decreasing_by
  have low := threshold_pos bias place
  have div := Nat.div_le_self (distance - threshold bias place) (36 - threshold bias place)
  omega

structure State where
  distance : Nat
  bias : Nat
  handled : Nat
  written : List Char

/-- Goes through the name once, and writes the distances to all characters with the
code `point`. Smaller characters are there already and only add to the distance. -/
def writePoint (basic point : Nat) (name : List Nat) (s : State) : State :=
  name.foldl
    (fun s c =>
      if c < point then { s with distance := s.distance + 1 }
      else if c = point then
        { distance := 0
          bias := Punycode.bias s.distance (s.handled + 1) (s.handled == basic)
          handled := s.handled + 1
          written := s.written ++ digits s.bias 36 s.distance }
      else s)
    s

def smallestFrom (point : Nat) : List Nat → Option Nat
  | [] => none
  | c :: rest =>
    match smallestFrom point rest with
    | none => if point ≤ c then some c else none
    | some best => if point ≤ c ∧ c < best then some c else some best

/-- Writes the characters from `point` on, the smallest first. Every round takes one
of them away, so `left` rounds are enough for as many characters. -/
def writeFrom (basic : Nat) (name : List Nat) : Nat → Nat → State → List Char
  | 0, _, s => s.written
  | left + 1, point, s =>
    match smallestFrom point name with
    | none => s.written
    | some next =>
      let jumped := { s with distance := s.distance + (next - point) * (s.handled + 1) }
      let after := writePoint basic next name jumped
      writeFrom basic name left (next + 1) { after with distance := after.distance + 1 }

def encode (label : List Char) : List Char :=
  let basic := label.filter (·.toNat < 0x80)
  if basic.length = label.length then label
  else
    let start := if basic.isEmpty then [] else basic ++ ['-']
    "xn--".toList ++
      writeFrom basic.length (label.map (·.toNat)) label.length 0x80
        { distance := 0, bias := 72, handled := basic.length, written := start }

/-! ### Reading -/

def digitValue? (c : Char) : Option Nat :=
  if c.isLower then some (c.toNat - 97)
  else if c.isUpper then some (c.toNat - 65)
  else if c.isDigit then some (c.toNat - 22)
  else none

/-- A name that is being read: its characters so far, the code and the place from which
the next distance counts, and the digits of that distance read so far. -/
structure Draft where
  name : List Char
  point : Nat
  index : Nat
  bias : Nat
  distance : Nat
  weight : Nat
  place : Nat

namespace Draft

def start (name : List Char) : Draft :=
  { name, point := 0x80, index := 0, bias := 72, distance := 0, weight := 1, place := 36 }

def isComplete (d : Draft) : Bool := d.place == 36

def put? (d : Draft) : Option Draft :=
  let count := d.name.length + 1
  let steps := d.index + d.distance
  let point := d.point + steps / count
  let index := steps % count
  if point.isValidChar then
    some
      { name := d.name.take index ++ Char.ofNat point :: d.name.drop index
        point, index := index + 1, bias := Punycode.bias d.distance count (d.index == 0)
        distance := 0, weight := 1, place := 36 }
  else none

def read? (d : Draft) (digit : Nat) : Option Draft :=
  let t := threshold d.bias d.place
  let d := { d with distance := d.distance + digit * d.weight }
  if digit < t then d.put?
  else some { d with weight := d.weight * (36 - t), place := d.place + 36 }

end Draft

/-- The characters that an ASCII form stands for, its mark left out. The last hyphen
ends the ASCII characters, of which there is at least one before it. -/
def decode? (form : List Char) : Option (List Char) := do
  let digits := (form.reverse.takeWhile (· != '-')).reverse
  let basic := form.take (form.length - digits.length - 1)
  if digits.length < form.length && basic.isEmpty then none
  else
    let draft ← (← digits.mapM digitValue?).foldlM Draft.read? (Draft.start basic)
    if draft.isComplete then some draft.name else none

end Convergence.Url.Punycode
