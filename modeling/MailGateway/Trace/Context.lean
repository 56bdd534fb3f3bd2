/-
# The caller's trace context

A caller may name the span that its request belongs to, in the header
`traceparent`: version, trace id, span id and flags in hexadecimal, joined by
hyphens.  The header is accepted when

* the version is below 255, and version 0 has exactly these four parts;
* the ids hold no upper-case letter, fit 128 and 64 bits, and are not zero;
* the flags fit eight bits, and in version 0 are at most 2.

The lowest flag says whether the trace is recorded.  `tracestate` is carried along
when each of its entries is well formed, and dropped otherwise.
-/

import MailGateway.Http.Header
import MailGateway.Numbers
import MailGateway.Text.Numeral

namespace MailGateway
namespace Trace

/-- The calling span. -/
structure Context where
  trace : Nat
  span : Nat
  sampled : Bool
  state : String
  deriving DecidableEq, Repr, Inhabited

/-- The parts of a list between separators; an empty part at the end is left out. -/
def splitTerminated (separator : Char) (cs : List Char) : List (List Char) :=
  let parts := cs.splitOn separator
  match parts.getLast? with
  | some [] => parts.dropLast
  | _ => parts

/-- Blanks around the header. -/
def isBlank (c : Char) : Bool := c = ' ' || c = '\t'

/-- A hexadecimal number below `bound`. -/
def hexBelow? (bound : Nat) (cs : List Char) : Option Nat :=
  match Numeral.hexNatural? cs with
  | some n => if n < bound then some n else none
  | none => none

/-- An id in lower case that is not zero. -/
def id? (bits : Nat) (cs : List Char) : Option Nat :=
  if cs.any Char.isUpper then none
  else
    match hexBelow? (2 ^ bits) cs with
    | some 0 => none
    | found => found

/-- Reads `traceparent`: trace, span and whether the trace is recorded. -/
def readParent? (value : String) : Option (Nat × Nat × Bool) :=
  let cs := ((value.toList.dropWhile isBlank).reverse.dropWhile isBlank).reverse
  match splitTerminated '-' cs with
  | version :: trace :: span :: flags :: more =>
    match hexBelow? 256 version, id? 128 trace, id? 64 span, hexBelow? 256 flags with
    | some v, some t, some s, some f =>
      if 254 < v ∨ (v = 0 ∧ more ≠ []) ∨ (v = 0 ∧ 2 < f) then none else some (t, s, f % 2 = 1)
    | _, _, _, _ => none
  | _ => none

/-- Characters that a key may start with. -/
def isKeyStart (c : Char) : Bool := c.isLower || c.isDigit

/-- Characters of a key. -/
def isKeyChar (c : Char) : Bool := isKeyStart c || "_-*/@".toList.contains c

/-- Whether the part behind an at sign is well formed: at most thirteen characters, no
other at sign, and a letter or digit in front. -/
def isSystem (cs : List Char) : Bool :=
  cs.length ≤ 13 && !cs.contains '@' && (match cs with | [] => true | c :: _ => isKeyStart c)

/-- Whether a key of an entry is well formed. -/
def isKey (cs : List Char) : Bool :=
  cs.length ≤ 256 && cs.all isKeyChar
    && (match cs with | [] => true | c :: _ => isKeyStart c)
    && (match cs.dropWhile (· ≠ '@') with | [] => true | _ :: system => isSystem system)

/-- Whether a value of an entry is well formed. -/
def isValue (cs : List Char) : Bool := cs.length ≤ 256 && !cs.contains ',' && !cs.contains '='

/-- An entry: the key before the first equals sign, and the value without the equals
signs at its front. -/
def entry? (cs : List Char) : Option (List Char × List Char) :=
  if cs.contains '=' then
    let key := cs.takeWhile (· ≠ '=')
    let value := (cs.dropWhile (· ≠ '=')).dropWhile (· = '=')
    if isKey key && isValue value then some (key, value) else none
  else none

/-- The entries of `tracestate` as they are carried on; empty if one is malformed. -/
def readState (value : String) : String :=
  match (splitTerminated ',' value.toList).mapM entry? with
  | none => ""
  | some entries =>
    String.ofList (List.intercalate [','] (entries.map fun (k, v) => k ++ '=' :: v))

/-- The context that the headers carry. -/
def Context.ofHeaders? (headers : Http.Headers) : Option Context := do
  let value ← headers.text? "traceparent"
  let (trace, span, sampled) ← readParent? value
  some ⟨trace, span, sampled, ((headers.text? "tracestate").map readState).getD ""⟩

end Trace
end MailGateway
