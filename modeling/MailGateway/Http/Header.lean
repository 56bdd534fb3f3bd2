/-
# Header fields

A list of fields in the order they came.  Names are compared without regard to
case; where one name stands several times, the first value is the one that counts.
A value is bytes; only a value of visible ASCII characters, blanks and tabs has a
text.
-/

import MailGateway.Text.Utf8

namespace MailGateway
namespace Http

/-- Names and values, in order. -/
abbrev Headers := List (String × Bytes)

namespace Headers

/-- The first value of a field; `name` is given in lower case. -/
def first? (hs : Headers) (name : String) : Option Bytes :=
  (hs.find? fun h => h.1.toLower = name).map (·.2)

theorem first?_cons (h : String × Bytes) (hs : Headers) (name : String) :
    first? (h :: hs) name = if h.1.toLower = name then some h.2 else first? hs name := by
  by_cases hn : h.1.toLower = name <;> simp [first?, hn]

theorem first?_append (hs ts : Headers) (name : String) :
    first? (hs ++ ts) name = (first? hs name).or (first? ts name) := by
  simp [first?, Option.map_or]

/-- A byte that may stand in a value with a text. -/
def isVisible (b : UInt8) : Bool := (0x20 ≤ b && b < 0x7F) || b = 0x09

/-- The text of a value. -/
def valueText? (value : Bytes) : Option String :=
  if value.all isVisible then some (String.ofList (value.map fun b => Char.ofNat b.toNat))
  else none

/-- The text of the first value of a field. -/
def text? (hs : Headers) (name : String) : Option String :=
  (hs.first? name).bind valueText?

/-- Whether a field stands there at all. -/
def has (hs : Headers) (name : String) : Bool := (hs.first? name).isSome

end Headers
end Http
end MailGateway
