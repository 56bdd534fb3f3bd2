/-
# Names that are paths

The name of a setting may lead into a value: `a.b` is member `b` of `a`, `a[0]` its first
item, `a[-1]` its last.  A name that is no path is the name of a member as it stands.

Along a path, whatever is in the way becomes the table or sequence that is needed.
Items that are missing before an item are null.  Counting from the end past the start
has no meaning (`none`), and neither has an item so far on that no sequence reaches it.
-/

import MailGateway.Text.Numeral
import MailGateway.Config.Value

namespace MailGateway
namespace Config

/-- A step into a value. -/
inductive Step where
  | member (name : String)
  | item (index : Int)
  deriving DecidableEq, Repr, Inhabited

/-- A name with steps behind it. -/
structure Path where
  head : String
  steps : List Step
  deriving DecidableEq, Repr, Inhabited

namespace Path

/-- A character of a name in a path. -/
def isNameChar (c : Char) : Bool := c.isAlphanum || c = ' ' || c = '_' || c = '-'

/-- Reads a name. -/
def readName (cs : List Char) : Option (String × List Char) :=
  let name := cs.takeWhile isNameChar
  if name.isEmpty then none else some (String.ofList name, cs.dropWhile isNameChar)

/-- A blank inside brackets. -/
def isBlank (c : Char) : Bool := c = ' ' || c = '\t'

/-- Reads an index behind its bracket. -/
def readIndex (cs : List Char) : Option (Int × List Char) := do
  let cs := cs.dropWhile isBlank
  let (negative, cs) :=
    match cs with
    | '-' :: r => (true, r)
    | _ => (false, cs)
  let n ← Numeral.natural? (cs.takeWhile Char.isDigit)
  match (cs.dropWhile Char.isDigit).dropWhile isBlank with
  | ']' :: rest =>
    let index : Int := if negative then -n else n
    if -2 ^ 63 ≤ index && index < 2 ^ 63 then some (index, rest) else none
  | _ => none

/-- Reads steps. -/
def readSteps (fuel : Nat) (cs : List Char) : Option (List Step) :=
  match fuel, cs with
  | _, [] => some []
  | 0, _ => none
  | fuel + 1, '.' :: cs => do
    let (name, rest) ← readName cs
    pure (.member name :: (← readSteps fuel rest))
  | fuel + 1, '[' :: cs => do
    let (index, rest) ← readIndex cs
    pure (.item index :: (← readSteps fuel rest))
  | _, _ => none

/-- The path that a name is. -/
def ofName? (name : String) : Option Path := do
  let (head, rest) ← readName name.toList
  pure ⟨head, ← readSteps rest.length rest⟩

/-- The path of a name; a name that is none leads to itself. -/
def ofName (name : String) : Path := (ofName? name).getD ⟨name, []⟩

/-- Sequences are shorter than this. -/
def lengthLimit : Nat := 2 ^ 32

/-- The place of an index in a sequence. -/
def position? (index : Int) (length : Nat) : Option Nat :=
  let n := if 0 ≤ index then index else index + length
  if 0 ≤ n && n < lengthLimit then some n.toNat else none

/-- A sequence with nulls up to a place. -/
def extend (vs : List Value) (n : Nat) : List Value :=
  vs ++ List.replicate (n + 1 - vs.length) (.scalar .null none)

/-- Changes what the steps lead to. -/
def change (f : Value → Option Value) : List Step → Value → Option Value
  | [], v => f v
  | .member name :: rest, v => do
    let new ← change f rest ((v.members.get? name).getD (.scalar .null none))
    pure (.table (v.members.put name new))
  | .item index :: rest, v => do
    let n ← position? index v.items.length
    let vs := extend v.items n
    let new ← change f rest (vs.getD n (.scalar .null none))
    pure (.sequence (vs.set n new) none)

/-- Puts a value behind a last step. -/
def put (new : Value) (last : Step) (v : Value) : Option Value :=
  match last with
  | .member name => some (v.setMember name new)
  | .item index => do
    let n ← position? index v.items.length
    pure (.sequence ((extend v.items n).set n new) none)

/-- Puts a value where the path leads. -/
def set (p : Path) (new : Value) (root : Value) : Option Value :=
  match p.steps.getLast? with
  | none => some (root.setMember p.head new)
  | some last => change (put new last) (.member p.head :: p.steps.dropLast) root

example : ofName? "a.b[ -1 ]" = some ⟨"a", [.member "b", .item (-1)]⟩ := by decide +kernel
example : ofName? "a..b" = none := by decide +kernel

end Path
end Config
end MailGateway
