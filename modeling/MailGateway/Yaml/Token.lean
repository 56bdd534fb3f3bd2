/-
# Tokens of a YAML stream

A token stands at a mark: how many characters precede it, its line from one, and its
column from zero.  A fault is a text and a mark; when it is told, columns count from
one.
-/

namespace MailGateway
namespace Yaml

/-- A place in the stream. -/
structure Mark where
  index : Nat
  line : Nat
  column : Nat
  deriving DecidableEq, Repr, Inhabited

/-- The place before the first character. -/
def Mark.start : Mark := ⟨0, 1, 0⟩

/-- Why a stream was refused. -/
structure Fault where
  mark : Mark
  text : String
  deriving DecidableEq, Repr, Inhabited

/-- A fault and its place. -/
def Fault.message (f : Fault) : String :=
  s!"{f.text} at byte {f.mark.index} line {f.mark.line} column {f.mark.column + 1}"

/-- How a scalar is written. -/
inductive ScalarStyle where
  | plain
  | singleQuoted
  | doubleQuoted
  | literal
  | folded
  deriving DecidableEq, Repr, Inhabited

/-- What a token says. -/
inductive TokenKind where
  | streamStart
  | streamEnd
  | versionDirective
  | tagDirective (handle start : String)
  | documentStart
  | documentEnd
  | blockSequenceStart
  | blockMappingStart
  | blockEnd
  | flowSequenceStart
  | flowSequenceEnd
  | flowMappingStart
  | flowMappingEnd
  | blockEntry
  | flowEntry
  | key
  | value
  | alias (name : String)
  | anchor (name : String)
  | tag (handle suffix : String)
  | scalar (style : ScalarStyle) (text : String)
  deriving DecidableEq, Repr, Inhabited

/-- A token at its place. -/
structure Token where
  mark : Mark
  kind : TokenKind
  deriving DecidableEq, Repr, Inhabited

/-- An anchor or a tag: something that belongs to the node behind it. -/
def Token.isProperty (t : Token) : Bool :=
  match t.kind with
  | .anchor _ | .tag _ _ => true
  | _ => false

end Yaml
end MailGateway
