/-
# Binary records of one text field

A record is a sequence of fields, each a key (`tag · 8 + wire type`) and a value laid
out by its wire type.  Field 1 is the text; where it comes several times, the last
one counts, and where it does not come, the text is empty.  Fields of other tags are
skipped: a newer writer may add them.

| wire type | value |
| --- | --- |
| 0 | a variable-length integer |
| 1, 5 | eight, four bytes |
| 2 | a length and as many bytes |
| 3 | fields up to the end mark (wire type 4) of the same tag |

Groups nest to a depth of one hundred.
-/

import MailGateway.Numbers
import MailGateway.Protobuf.Varint

namespace MailGateway
namespace Protobuf

/-- How a value is laid out. -/
inductive WireType where
  | varint
  | sixtyFourBit
  | lengthDelimited
  | startGroup
  | endGroup
  | thirtyTwoBit
  deriving DecidableEq, Repr

/-- The wire type with a number. -/
def WireType.ofNat? : Nat → Option WireType
  | 0 => some .varint
  | 1 => some .sixtyFourBit
  | 2 => some .lengthDelimited
  | 3 => some .startGroup
  | 4 => some .endGroup
  | 5 => some .thirtyTwoBit
  | _ => none

/-- The name of a wire type in messages. -/
def WireType.name : WireType → String
  | .varint => "Varint"
  | .sixtyFourBit => "SixtyFourBit"
  | .lengthDelimited => "LengthDelimited"
  | .startGroup => "StartGroup"
  | .endGroup => "EndGroup"
  | .thirtyTwoBit => "ThirtyTwoBit"

/-- Why a record was refused. -/
inductive Cause where
  | invalidVarint
  | invalidKey (key : Nat)
  | invalidWireType (number : Nat)
  | invalidTag
  | wrongWireType (found : WireType)
  | underflow
  | notUtf8
  | unexpectedEndGroup
  | nestedTooDeep
  deriving DecidableEq, Repr

/-- The wording of a cause. -/
def Cause.message : Cause → String
  | .invalidVarint => "invalid varint"
  | .invalidKey key => s!"invalid key value: {key}"
  | .invalidWireType number => s!"invalid wire type value: {number}"
  | .invalidTag => "invalid tag value: 0"
  | .wrongWireType found => s!"invalid wire type: {found.name} (expected LengthDelimited)"
  | .underflow => "buffer underflow"
  | .notUtf8 => "invalid string value: data is not UTF-8 encoded"
  | .unexpectedEndGroup => "unexpected end group tag"
  | .nestedTooDeep => "recursion limit reached"

/-- A cause, and whether it arose in the text field. -/
structure Fault where
  cause : Cause
  inText : Bool
  deriving DecidableEq, Repr

/-- Reads a number, or tells that there is none. -/
def readNumber (bs : Bytes) : Except Cause (Nat × Bytes) :=
  match readVarint? bs with
  | some p => .ok p
  | none => .error .invalidVarint

/-- Reads a key: a tag and a wire type. -/
def readKey (bs : Bytes) : Except Cause ((Nat × WireType) × Bytes) :=
  match readNumber bs with
  | .error c => .error c
  | .ok (key, r) =>
    if 2 ^ 32 ≤ key then .error (.invalidKey key)
    else
      match WireType.ofNat? (key % 8) with
      | none => .error (.invalidWireType (key % 8))
      | some wire => if key / 8 = 0 then .error .invalidTag else .ok ((key / 8, wire), r)

/-- Splits off `n` bytes. -/
def takeBytes (n : Nat) (bs : Bytes) : Except Cause (Bytes × Bytes) :=
  if n ≤ bs.length then .ok (bs.take n, bs.drop n) else .error .underflow

/-- Reads a length and as many bytes. -/
def readDelimited (bs : Bytes) : Except Cause (Bytes × Bytes) :=
  match readNumber bs with
  | .error c => .error c
  | .ok (n, r) => takeBytes n r

/-- Skips the fields of a group up to its end mark; `skip` skips the value of a field.
Each field has at least one byte, so `fuel` may be the number of bytes. -/
def skipGroup (skip : WireType → Nat → Bytes → Except Cause Bytes) (tag fuel : Nat) (bs : Bytes) :
    Except Cause Bytes :=
  match fuel with
  | 0 => .error .invalidVarint
  | fuel + 1 =>
    match readKey bs with
    | .error c => .error c
    | .ok ((inner, wire), r) =>
      if wire = .endGroup then
        if inner = tag then .ok r else .error .unexpectedEndGroup
      else
        match skip wire inner r with
        | .error c => .error c
        | .ok r => skipGroup skip tag fuel r

/-- Skips the value of a field inside at most `depth` further groups. -/
def skipField (depth : Nat) (wire : WireType) (tag : Nat) (bs : Bytes) : Except Cause Bytes :=
  match depth with
  | 0 => .error .nestedTooDeep
  | depth + 1 =>
    match wire with
    | .varint => (readNumber bs).map (·.2)
    | .sixtyFourBit => (takeBytes 8 bs).map (·.2)
    | .thirtyTwoBit => (takeBytes 4 bs).map (·.2)
    | .lengthDelimited => (readDelimited bs).map (·.2)
    | .endGroup => .error .unexpectedEndGroup
    | .startGroup => skipGroup (skipField depth) tag bs.length bs

/-- The number of groups that may nest. -/
def maxDepth : Nat := 100

/-- Reads the value of the text field. -/
def readText (wire : WireType) (bs : Bytes) : Except Cause (String × Bytes) :=
  if wire ≠ .lengthDelimited then .error (.wrongWireType wire)
  else
    match readDelimited bs with
    | .error c => .error c
    | .ok (x, r) =>
      match Utf8.decode? x with
      | some s => .ok (s, r)
      | none => .error .notUtf8

/-- Reads one field: the text it sets, if it is the text field, and the rest. -/
def readField (bs : Bytes) : Except Fault (Option String × Bytes) :=
  match readKey bs with
  | .error c => .error ⟨c, false⟩
  | .ok ((tag, wire), r) =>
    if tag = 1 then
      match readText wire r with
      | .error c => .error ⟨c, true⟩
      | .ok (s, r) => .ok (some s, r)
    else
      match skipField maxDepth wire tag r with
      | .error c => .error ⟨c, false⟩
      | .ok r => .ok (none, r)

/-- Reads all fields; `text` is the text so far.  Each field has at least one byte, so
`fuel` may be the number of bytes. -/
def readFields (fuel : Nat) (text : String) (bs : Bytes) : Except Fault String :=
  match fuel, bs with
  | _, [] => .ok text
  | 0, _ :: _ => .error ⟨.invalidVarint, false⟩
  | fuel + 1, b :: r =>
    match readField (b :: r) with
    | .error f => .error f
    | .ok (found, rest) => readFields fuel (found.getD text) rest

/-- The text of a record. -/
def parseRecord (bs : Bytes) : Except Fault String := readFields bs.length "" bs

/-- The shortest written form of a record: an empty text has no field. -/
def writeRecord (text : String) : Bytes :=
  if text.isEmpty then []
  else 0x0A :: (writeVarint (Utf8.size text) ++ Utf8.encode text)

end Protobuf
end MailGateway
