/-
# Which entries are shown

A filter is a list of directives, written with commas between them:

| directive | says of |
| --- | --- |
| `level` | every entry |
| `target=level` | entries whose target begins so |
| `target[{field}]=level` | those of them that have the field |
| `target[span]=level` | what happens inside a span |

A directive without a level lets everything through.  Of the directives that speak of an
entry the most specific decides: the one with the longest target, then the one that
names a field.  Of two directives for the same entries the later one counts.  An entry
that no directive speaks of is not shown.

Blanks around a directive are no help: they are skipped when its parts are looked for,
but the parts are then cut out at those places of the text with the blanks.
-/

import MailGateway.Binary64.Numeral
import MailGateway.Config.Layer
import MailGateway.Log.Event
import MailGateway.Log.Pattern
import MailGateway.Text.Slice

namespace MailGateway
namespace Log

/-- The least level that is let through; `none` lets nothing through. -/
abbrev Threshold := Option Level

/-- Whether a level is let through. -/
def Threshold.admits (t : Threshold) (l : Level) : Bool :=
  match t with
  | none => false
  | some least => least.rank ≤ l.rank

/-- What a directive asks of the fields: a name, perhaps with a value. -/
structure FieldTest where
  name : String
  value : Option String := none
  deriving DecidableEq, Repr, Inhabited

/-- A directive. -/
structure Directive where
  target : Option String := none
  span : Option String := none
  field : Option FieldTest := none
  threshold : Threshold := some .trace
  deriving DecidableEq, Repr, Inhabited

/-- Directives in the order they were given. -/
abbrev Filter := List Directive

namespace Threshold

/-- The names of thresholds, each at the place that is its number. -/
def names : List (String × Threshold) :=
  [("off", none), ("error", some .error), ("warn", some .warn), ("info", some .info),
   ("debug", some .debug), ("trace", some .trace)]

/-- A number without a sign, or with a plus sign. -/
def number? : List Char → Option Nat
  | '+' :: cs => Numeral.natural? cs
  | cs => Numeral.natural? cs

/-- Reads a threshold: a number, or a name in any case. -/
def ofText? (cs : List Char) : Option Threshold :=
  match number? cs with
  | some n => (names[n]?).map (·.2)
  | none => names.lookup (String.ofList (cs.map Char.toLower))

/-- Reads what stands behind the equals sign; nothing there lets everything through. -/
def ofRest? (cs : List Char) : Option Threshold :=
  if cs.isEmpty then some (some .trace) else ofText? cs

end Threshold

namespace FieldTest

/-- Whether a field can be asked for a value: a number, or what a pattern fits. -/
def isValue (cs : List Char) : Bool :=
  (Binary64.ofNumeral? (String.ofList cs)).isSome || Pattern.isWellFormed cs

/-- Reads a name, or a name and a value. -/
def ofText? (cs : List Char) : Option FieldTest :=
  let name := String.ofList (cs.takeWhile (· ≠ '='))
  match cs.dropWhile (· ≠ '=') with
  | [] => some { name }
  | _ :: rest =>
    let value := rest.takeWhile (· ≠ '=')
    if isValue value then some ⟨name, some (String.ofList value)⟩ else none

end FieldTest

namespace Directive

/-- Reads what stands behind the bracket of a span, which ends in front of byte `place`. -/
def withRest? (whole : List Char) (d : Directive) (place : Nat) : List Char → Option Directive
  | [] => some d
  | '=' :: _ => do
    let threshold ← Threshold.ofRest? (← Text.behind? (place + 1) whole)
    pure { d with threshold }
  | _ => none

/-- Reads what stands behind the opening bracket of a span, from byte `place` on. -/
def inBrackets? (whole : List Char) (target : Option String) (place : Nat) (cs : List Char) :
    Option Directive := do
  let name := cs.takeWhile fun c => c ≠ ']' && c ≠ '\x7b'
  let stop := place + Text.width name
  let span ← Text.slice? place stop whole
  match cs.dropWhile fun c => c ≠ ']' && c ≠ '\x7b' with
  | ']' :: rest =>
    withRest? whole { target, span := some (String.ofList span) } (stop + 1) rest
  | '\x7b' :: rest =>
    let field := rest.takeWhile (· ≠ '\x7d')
    let last := stop + 1 + Text.width field
    let test ← Text.slice? (stop + 1) last whole
    match rest.dropWhile (· ≠ '\x7d') with
    | '\x7d' :: ']' :: rest =>
      if test.isEmpty then none
      else
        let span := if span.isEmpty then none else some (String.ofList span)
        withRest? whole { target, span, field := some (← FieldTest.ofText? test) } (last + 2) rest
    | _ => none
  | _ => none

/-- A character that a target may begin with. -/
def startsTarget (c : Char) : Bool :=
  c = '-' || c = ':' || c = '_' || Text.isAlphanumeric c

/-- Reads a directive from its text without blanks around it, and the text as a whole. -/
def parse? (whole : List Char) : List Char → Option Directive
  | [] => none
  | '[' :: rest => inBrackets? whole none 1 rest
  | c :: cs => do
    if !startsTarget c then none
    let head := (c :: cs).takeWhile fun c => c ≠ '=' && c ≠ '['
    let place := Text.width head
    match (c :: cs).dropWhile fun c => c ≠ '=' && c ≠ '[' with
    | [] =>
      match Threshold.ofText? whole with
      | some threshold => some { threshold }
      | none => some { target := some (String.ofList whole) }
    | mark :: rest =>
      let target := some (String.ofList (← Text.slice? 0 place whole))
      if mark = '[' then inBrackets? whole target (place + 1) rest
      else
        let threshold ← Threshold.ofRest? (← Text.behind? (place + 1) whole)
        pure { target, threshold }

/-- Reads a directive. -/
def ofText? (cs : List Char) : Option Directive :=
  parse? cs (((cs.dropWhile Text.isSpace).reverse.dropWhile Text.isSpace).reverse)

/-- Whether a directive speaks of entries outside of spans. -/
def isGeneral (d : Directive) : Bool :=
  d.span.isNone && (d.field.bind (·.value)).isNone

/-- Whether a directive speaks of an entry; each entry has a message. -/
def speaksOf (d : Directive) (e : Entry) : Bool :=
  d.isGeneral && ((d.target.map (·.toList)).getD []).isPrefixOf e.target.toList
    && match d.field with
      | none => true
      | some f => f.name = "message" || e.fields.any (·.1 = f.name)

/-- How specific the target is. -/
def reach (d : Directive) : Nat :=
  match d.target with
  | none => 0
  | some target => target.utf8ByteSize + 1

/-- Whether a directive gives way to a later one that speaks of the same entry. -/
def yieldsTo (d later : Directive) : Bool :=
  d.reach < later.reach ||
    (d.reach = later.reach &&
      match d.field, later.field with
      | none, _ => true
      | some _, none => false
      | some f, some g => f.name ≤ g.name)

end Directive

namespace Filter

/-- Cuts a text at its commas; empty parts do not count. -/
def parts (cs : List Char) : List (List Char) :=
  (cs.splitOn ',').filter (!·.isEmpty)

/-- Reads a filter. -/
def ofText? (s : String) : Option Filter := (parts s.toList).mapM Directive.ofText?

/-- The directive that decides about an entry. -/
def decider? (f : Filter) (e : Entry) : Option Directive :=
  (f.filter (·.speaksOf e)).foldl
    (fun best d =>
      match best with
      | none => some d
      | some b => if b.yieldsTo d then some d else some b)
    none

/-- Whether an entry is shown. -/
def shows (f : Filter) (e : Entry) : Bool :=
  match f.decider? e with
  | none => false
  | some d => d.threshold.admits e.level

/-- The filter of a program that was told nothing. -/
def standard (debug : Bool) : Filter :=
  if debug then
    [{ target := some "email_backend", threshold := some .debug },
     { target := some "tower_http", threshold := some .debug },
     { threshold := some .info }]
  else [{ threshold := some .info }]

/-- The name of the environment that gives a filter. -/
def variableName : String := "RUST_LOG"

/-- The filter of the environment, or the standard one if there is none that reads well. -/
def choose (env : Config.Environment) (debug : Bool) : Filter :=
  ((env.get? variableName).bind ofText?).getD (standard debug)

example : ofText? "warn,email_backend::server=debug,other" =
    some [{ threshold := some .warn },
      { target := some "email_backend::server", threshold := some .debug },
      { target := some "other" }] := by decide +kernel

end Filter
end Log
end MailGateway
