import Convergence.Http.Head
import Convergence.Text.Hexadecimal

/-! Bodies of answers as they go over a connection: of a length that is told before, in
chunks, or up to the end of the connection. -/
namespace Convergence
namespace Wire

/-- How a connection comes to its end. -/
inductive Hangup where
  /-- The server closes it. -/
  | closed
  /-- It fails, or has been waited for too long. -/
  | broken
deriving DecidableEq, Repr

/-- A body that goes up to the end of the connection. -/
def Hangup.body (h : Hangup) (behind : List Nat) : HttpBody :=
  match h with
  | closed => .whole behind
  | broken => .cut

/-! ### Trailers -/

/-- The trailers and the empty line behind them have fewer bytes. -/
def trailerLimit : Nat := 16384

/-- The lines before the first empty one. -/
def trailerLines (bytes : List Nat) : List (List Char) :=
  let lines := Url.splitAt (· == '\n') (bytes.map Char.ofNat)
  (lines.map fun line => line.filter (· != '\r')).takeWhile fun line => !line.isEmpty

/-- Whether these bytes are fields, no more than there are line ends and not too many. -/
def areTrailers (bytes : List Nat) : Bool :=
  let lines := trailerLines bytes
  bytes.length + 2 < trailerLimit && bytes.count 13 < maxFields &&
    lines.length ≤ bytes.count 13 && lines.all fun line => (field? (String.ofList line)).isSome

/-! ### Chunks -/

/-- What comes next in a body in chunks. -/
inductive ChunkPhase where
  /-- The first digit of a size. -/
  | start
  | size (size : Nat)
  /-- Blanks behind a size. -/
  | blanks (size : Nat)
  | extension (size : Nat)
  /-- The line feed behind a size. -/
  | sizeEnd (size : Nat)
  /-- A byte of a chunk, and `left` others after it. -/
  | content (left : Nat)
  /-- The line end behind a chunk. -/
  | contentCr
  | contentLf
  /-- Behind the last chunk, which is empty, a line that is not. The bytes of all these lines
  are `told`, from the last one on. -/
  | trailer (told : List Nat)
  | trailerLf (told : List Nat)
  /-- The empty line that ends the body, or a further trailer. -/
  | endCr (told : List Nat)
  | endLf (told : List Nat)
  | done
deriving DecidableEq, Repr

namespace ChunkPhase

def sizeLimit : Nat := 18446744073709551616

/-- Behind a size come blanks, an extension or the line end. -/
def behindSize (size b : Nat) : Option ChunkPhase :=
  if b = 9 ∨ b = 32 then some (blanks size)
  else if b = 59 then some (extension size)
  else if b = 13 then some (sizeEnd size)
  else none

def behindSizeLine : Nat → ChunkPhase
  | 0 => endCr []
  | left + 1 => content left

def digit? (b : Nat) : Option Nat := Text.hexValue? (Char.ofNat b)

/-- The phase after a byte, if it is one that may come. -/
def next? (b : Nat) : ChunkPhase → Option ChunkPhase
  | start => (digit? b).map size
  | size n =>
    match digit? b with
    | some d => if n * 16 + d < sizeLimit then some (size (n * 16 + d)) else none
    | none => behindSize n b
  | blanks n => behindSize n b
  | extension n =>
    if b = 13 then some (sizeEnd n) else if b = 10 then none else some (extension n)
  | sizeEnd n => if b = 10 then some (behindSizeLine n) else none
  | content 0 => some contentCr
  | content (left + 1) => some (content left)
  | contentCr => if b = 13 then some contentLf else none
  | contentLf => if b = 10 then some start else none
  | trailer told => some (if b = 13 then trailerLf (b :: told) else trailer (b :: told))
  | trailerLf told => if b = 10 then some (endCr (b :: told)) else none
  | endCr told => some (if b = 13 then endLf told else trailer (b :: told))
  | endLf told =>
    if b = 10 && (told.isEmpty || areTrailers told.reverse) then some done else none
  | done => none

/-- A byte in the middle of a chunk belongs to the body. -/
def keeps : ChunkPhase → Bool
  | content _ => true
  | _ => false

def isExtension : ChunkPhase → Bool
  | extension _ => true
  | _ => false

end ChunkPhase

/-- The extensions of all chunks together have fewer bytes. -/
def extensionLimit : Nat := 16384

/-- The bytes of a body in chunks, if it comes to its end without a byte that may not come.
So far there were `extended` bytes of extensions. -/
def chunks? (extended : Nat) : ChunkPhase → List Nat → Option (List Nat)
  | .done, _ => some []
  | _, [] => none
  | phase, b :: more =>
    match phase.next? b with
    | none => none
    | some next =>
      let extended' := if phase.isExtension && next.isExtension then extended + 1 else extended
      if extended' < extensionLimit then
        (chunks? extended' next more).map fun bytes => if phase.keeps then b :: bytes else bytes
      else none

/-! ### Framing -/

/-- How the end of a body is known. -/
inductive Framing where
  | length (n : Nat)
  | chunked
  | untilHangup
deriving DecidableEq, Repr

/-- The body in the bytes behind a head, which are all up to the end of the connection. -/
def Framing.body (hangup : Hangup) (behind : List Nat) : Framing → HttpBody
  | length n => .ofLength behind n
  | chunked => (chunks? 0 .start behind).elim .cut .whole
  | untilHangup => hangup.body behind

end Wire
end Convergence
