import Convergence.Text.Composition
import Convergence.Text.Direction
import Convergence.Text.Joining
import Convergence.Url.Address
import Convergence.Url.NameMapping
import Convergence.Url.Punycode

/-! Names of hosts. A name has labels between full stops; beyond ASCII each of them has
an ASCII form, under which it is looked up. Names that mean the same are made alike
first, and labels that could not be told apart when they are shown are refused. -/
namespace Convergence.Url

def meaning (chars : List Char) : Option (List Char) := do
  let parts ← chars.mapM meaning?
  return Text.composed parts.flatten

def isSettled (c : Char) : Bool := meaning? c == some [c]

/-! ### Joiners -/

/-- Whether letters are joined across a place: the letter before joins what follows it,
and the letter after what is before it. -/
def isJoined (before after : List Char) : Bool :=
  let letter (chars : List Char) : Option Char := (chars.dropWhile Text.isTransparent).head?
  (letter before).any Text.joinsAfter && (letter after).any Text.joinsBefore

def isNonJoiner (c : Char) : Bool := c.toNat == 0x200C

def isJoiner (c : Char) : Bool := c.toNat == 0x200D

/-- Signs that join letters or keep them apart may only stand after the sign that takes
a vowel away, and the second kind also where letters would be joined. `before` is what
has been passed, backwards. -/
def joinersFit (before : List Char) : List Char → Bool
  | [] => true
  | c :: rest =>
    (!(isJoiner c || isNonJoiner c) || before.head?.any Text.isVowelKiller ||
      (isNonJoiner c && isJoined before rest)) &&
      joinersFit (c :: before) rest

/-! ### Directions -/

def isFromRight (d : Text.Direction) : Bool := d == .rightToLeft || d == .arabicNumber

def withoutLastMarks (ds : List Text.Direction) : List Text.Direction :=
  (ds.reverse.dropWhile (· == .mark)).reverse

/-- A label read from left to right ends with a letter or a number and has nothing in it
that goes the other way. -/
def readsFromLeft (ds : List Text.Direction) : Bool :=
  !ds.any isFromRight &&
    (withoutLastMarks ds).getLast?.any fun d => d == .leftToRight || d == .europeanNumber

def readsFromRight (ds : List Text.Direction) : Bool :=
  !ds.contains .leftToRight && !(ds.contains .arabicNumber && ds.contains .europeanNumber) &&
    (withoutLastMarks ds).getLast?.any fun d => isFromRight d || d == .europeanNumber

/-- Whether a label is read in one direction, which its first letter gives. -/
def hasOneDirection (label : List Char) : Bool :=
  let ds := label.map Text.direction
  match ds.head? with
  | none => true
  | some .leftToRight => readsFromLeft ds
  | some .rightToLeft => readsFromRight ds
  | _ => false

/-! ### Labels -/

def asciiMark : List Char := "xn--".toList

/-- What a label says, which may be given in its ASCII form. -/
def decoded? (label : List Char) : Option (List Char) :=
  if asciiMark.isPrefixOf label then
    let form := label.drop asciiMark.length
    if form.isEmpty || form.getLast? == some '-' || form.any (0x7F < ·.toNat) then none
    else
      (Punycode.decode? form).filter fun chars =>
        chars.all isSettled && Text.composed chars == chars
  else some label

def isLabel (chars : List Char) : Bool := !chars.head?.any Text.isMark && joinersFit [] chars

/-- The name with all its labels in ASCII, unless it is none. Where letters from right
to left occur, every label must be read in one direction. -/
def asciiName? (chars : List Char) : Option (List Char) := do
  let labels := splitAt (· == '.') (← meaning chars)
  let said ← labels.mapM decoded?
  let mixes := said.any fun label => label.any fun c => isFromRight (Text.direction c)
  if said.all isLabel && (!mixes || said.all hasOneDirection) then
    some (List.intercalate ['.'] (labels.map Punycode.encode))
  else none

end Convergence.Url
