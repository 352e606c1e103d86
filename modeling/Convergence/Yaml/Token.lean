import Convergence.Yaml.Cursor

/-! The tokens of a YAML text. -/
namespace Convergence.Yaml

/-- Only a plain scalar may stand for something other than its text. -/
inductive ScalarStyle where
  | plain
  | quoted
  | block
deriving DecidableEq, Repr

/-- The name of a tag, or a part of it. Escapes in it stand for bytes. -/
structure TagName where
  /-- Bytes that make no character are shown as replacement characters. -/
  text : String
  isReadable : Bool
deriving DecidableEq, Repr

namespace TagName

def ofText (text : String) : TagName := { text, isReadable := true }

def append (a b : TagName) : TagName :=
  { text := a.text ++ b.text, isReadable := a.isReadable && b.isReadable }

end TagName

inductive TokenKind where
  | version (major minor : Nat)
  | tagDirective (handle : String) (expansion : TagName)
  | documentStart
  | documentEnd
  | streamEnd
  | blockSequenceStart
  | blockMappingStart
  | blockEnd
  | flowSequenceStart
  | flowSequenceEnd
  | flowMappingStart
  | flowMappingEnd
  | blockEntry
  | flowEntry
  | key
  | value
  | alias (name : String)
  | anchor (name : String)
  | tag (handle : String) (suffix : TagName)
  | scalar (text : String) (style : ScalarStyle)
deriving DecidableEq, Repr

structure Token where
  kind : TokenKind
  start : Mark
  stop : Mark
deriving Repr

def Token.between (kind : TokenKind) (start stop : Cursor) : Token :=
  { kind, start := start.mark, stop := stop.mark }

end Convergence.Yaml
