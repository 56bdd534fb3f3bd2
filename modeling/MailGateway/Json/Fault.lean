/-
# Faults of a JSON text

A reader works on the bytes that are still unread and stops at the first fault.
A fault names its cause, the unread bytes at its place, and the member or
element whose value was being read.  Line and column are computed only when the
fault is told (`Fault.position`): lines count from one, a column counts the
bytes since the last line feed.

Causes fall into three classes: the input ended, the input is no JSON, or it is
JSON of the wrong shape (`Cause.category`).
-/

import MailGateway.Binary64.Shortest
import MailGateway.Text.Quoted
import MailGateway.Text.Utf8

namespace MailGateway
namespace Json

/-- What was found where a string or a record was wanted. -/
inductive Found where
  | null
  | boolean (value : Bool)
  | integer (value : Int)
  | real (value : Binary64)
  | string (value : String)
  | sequence
  | map
  deriving Repr, Inhabited

/-- The description of what was found. -/
def Found.text : Found → String
  | .null => "null"
  | .boolean b => s!"boolean `{b}`"
  | .integer n => s!"integer `{n}`"
  | .real x => s!"floating point `{Binary64.text .scientific x}`"
  | .string s => "string " ++ Quoted.text s
  | .sequence => "sequence"
  | .map => "map"

/-- Why a JSON text was refused. -/
inductive Cause where
  | endInList
  | endInObject
  | endInString
  | endInValue
  | colonExpected
  | listEndExpected
  | objectEndExpected
  | identifierExpected
  | valueExpected
  | invalidEscape
  | invalidNumber
  | numberOutOfRange
  | invalidCodePoint
  | controlCharacter
  | keyNotString
  | loneSurrogate
  | trailingComma
  | trailingCharacters
  | hexEscapeEnded
  | wrongType (found : Found) (expected : String)
  | duplicateField (name : String)
  deriving Repr, Inhabited

/-- The three classes of causes. -/
inductive Category where
  | ended
  | malformed
  | mismatched
  deriving DecidableEq, Repr

/-- The class of a cause. -/
def Cause.category : Cause → Category
  | .endInList | .endInObject | .endInString | .endInValue => .ended
  | .wrongType _ _ | .duplicateField _ => .mismatched
  | _ => .malformed

/-- The wording of a cause. -/
def Cause.message : Cause → String
  | .endInList => "EOF while parsing a list"
  | .endInObject => "EOF while parsing an object"
  | .endInString => "EOF while parsing a string"
  | .endInValue => "EOF while parsing a value"
  | .colonExpected => "expected `:`"
  | .listEndExpected => "expected `,` or `]`"
  | .objectEndExpected => "expected `,` or `\x7d`"
  | .identifierExpected => "expected ident"
  | .valueExpected => "expected value"
  | .invalidEscape => "invalid escape"
  | .invalidNumber => "invalid number"
  | .numberOutOfRange => "number out of range"
  | .invalidCodePoint => "invalid unicode code point"
  | .controlCharacter => "control character (\\u0000-\\u001F) found while parsing a string"
  | .keyNotString => "key must be a string"
  | .loneSurrogate => "lone leading surrogate in hex escape"
  | .trailingComma => "trailing comma"
  | .trailingCharacters => "trailing characters"
  | .hexEscapeEnded => "unexpected end of hex escape"
  | .wrongType found expected => s!"invalid type: {found.text}, expected {expected}"
  | .duplicateField name => s!"duplicate field `{name}`"

/-- Whose value was being read. -/
inductive Place where
  | whole
  | member (name : String)
  | element (index : Nat)
  deriving DecidableEq, Repr, Inhabited

/-- A cause, the unread bytes where it arose, and whose value it concerns. -/
structure Fault where
  cause : Cause
  rest : Bytes
  place : Place := .whole
  deriving Repr, Inhabited

/-- A fault seen at the next byte: it is reported behind that byte, if there is one. -/
def Fault.ahead (cause : Cause) (rest : Bytes) : Fault := ⟨cause, rest.drop 1, .whole⟩

/-- A line, from one, and the bytes before the place in it. -/
structure Position where
  line : Nat
  column : Nat
  deriving DecidableEq, Repr

/-- The position behind the given bytes. -/
def Position.after (bs : Bytes) : Position :=
  bs.foldl (fun p b => if b = 0x0A then ⟨p.line + 1, 0⟩ else ⟨p.line, p.column + 1⟩) ⟨1, 0⟩

/-- Where in `input` the fault lies. -/
def Fault.position (input : Bytes) (f : Fault) : Position :=
  Position.after (input.take (input.length - f.rest.length))

/-- The cause and its position. -/
def Fault.message (input : Bytes) (f : Fault) : String :=
  let p := f.position input
  s!"{f.cause.message} at line {p.line} column {p.column}"

/-- Whose value is concerned, as an opening of the message. -/
def Place.opening : Place → String
  | .whole => ""
  | .member name => s!"{name}: "
  | .element i => s!"[{i}]: "

end Json
end MailGateway
