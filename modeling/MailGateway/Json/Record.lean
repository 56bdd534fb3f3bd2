/-
# Records of one text field

A record is written as an object, and may also be read from a list of its fields:

| text | field |
| --- | --- |
| `{"field": "x", …}` | `x`; members of other names are skipped, whatever they hold |
| `{…}` without the member | empty |
| `["x"]` | `x` |
| `[]` | empty |

A member name that comes twice is a fault, and so is every other JSON value in the
place of the record or of its field.
-/

import MailGateway.Json.Skip

namespace MailGateway
namespace Json

/-- What a record is called in messages, and the name of its field. -/
structure RecordShape where
  title : String
  field : String
  deriving DecidableEq, Repr

/-- What stands at the front, read as far as its description needs. -/
def describe (bs : Bytes) : Except Fault (Found × Bytes) :=
  match bs with
  | [] => .error ⟨.endInValue, [], .whole⟩
  | b :: r =>
    if b = 0x6E then (readWord [0x75, 0x6C, 0x6C] r).map (.null, ·)
    else if b = 0x74 then (readWord [0x72, 0x75, 0x65] r).map (.boolean true, ·)
    else if b = 0x66 then (readWord [0x61, 0x6C, 0x73, 0x65] r).map (.boolean false, ·)
    else if b = 0x2D then readNumber true r
    else if isDigit b then readNumber false bs
    else if b = 0x22 then (readString r).map fun (s, r) => (.string s, r)
    else if b = 0x5B then .ok (.sequence, bs)
    else if b = 0x7B then .ok (.map, bs)
    else .error (.ahead .valueExpected bs)

/-- The fault of a value of the wrong type: its own fault, if it has one. -/
def mismatch (expected : String) (bs : Bytes) : Fault :=
  match describe bs with
  | .error f => f
  | .ok (found, rest) => ⟨.wrongType found expected, rest, .whole⟩

/-- Reads the value of the field. -/
def readText (bs : Bytes) : Except Fault (String × Bytes) :=
  match skipBlank bs with
  | [] => .error ⟨.endInValue, [], .whole⟩
  | b :: r => if b = 0x22 then readString r else .error (mismatch "a string" (b :: r))

/-- The rest behind the opening quote of the next member name; `bs` starts with no blank. -/
def nameStart (first : Bool) (bs : Bytes) : Except Fault Bytes :=
  match bs with
  | [] => .error ⟨.endInObject, [], .whole⟩
  | b :: r =>
    if first then
      if b = 0x22 then .ok r else .error (.ahead .keyNotString bs)
    else if b = 0x2C then
      match skipBlank r with
      | [] => .error ⟨.endInValue, [], .whole⟩
      | c :: r =>
        if c = 0x22 then .ok r
        else if c = 0x7D then .error (.ahead .trailingComma (c :: r))
        else .error (.ahead .keyNotString (c :: r))
    else .error (.ahead .objectEndExpected bs)

/-- The rest behind a colon. -/
def colon (bs : Bytes) : Except Fault Bytes :=
  match skipBlank bs with
  | [] => .error ⟨.endInObject, [], .whole⟩
  | b :: r => if b = 0x3A then .ok r else .error (.ahead .colonExpected (b :: r))

/-- A repeated name is told behind the end of the object, if that comes next. -/
def duplicatePlace (bs : Bytes) : Bytes :=
  match skipBlank bs with
  | 0x7D :: r => r
  | r => r

/-- The fault `f`, told of the value at `place`. -/
def Fault.within (place : Place) (f : Fault) : Fault := { f with place }

/-- One member: its name, a colon, and the value, which is kept for the field and
skipped for every other name. -/
def readMember (field : String) (found : Option String) (first : Bool) (bs : Bytes) :
    Except Fault (Option String × Bytes) := do
  let r ← nameStart first bs
  let (name, r) ← readString r
  if name = field then
    if found.isSome then throw ⟨.duplicateField field, duplicatePlace r, .whole⟩
    let r ← colon r
    let (value, r) ← (readText r).mapError (·.within (.member name))
    pure (some value, r)
  else
    let r ← colon r
    let r ← (skipValue r).mapError (·.within (.member name))
    pure (found, r)

/-- The members up to the closing brace.  Each has at least one byte, so `fuel` may be
the number of bytes. -/
def readMembers (field : String) (fuel : Nat) (found : Option String) (first : Bool)
    (bs : Bytes) : Except Fault (Option String × Bytes) :=
  match fuel with
  | 0 => .error ⟨.endInObject, [], .whole⟩
  | fuel + 1 =>
    match skipBlank bs with
    | 0x7D :: r => .ok (found, r)
    | bs =>
      match readMember field found first bs with
      | .error f => .error f
      | .ok (found, r) => readMembers field fuel found false r

/-- The end of a list that has no room for another element. -/
def listEnd (bs : Bytes) : Except Fault Bytes :=
  match skipBlank bs with
  | [] => .error ⟨.endInList, [], .whole⟩
  | b :: r =>
    if b = 0x5D then .ok r
    else if b = 0x2C then
      match skipBlank r with
      | 0x5D :: r => .error (.ahead .trailingComma (0x5D :: r))
      | r => .error (.ahead .trailingCharacters r)
    else .error (.ahead .trailingCharacters (b :: r))

/-- The field as the only element of a list, if it has one. -/
def readElement (bs : Bytes) : Except Fault (Option String × Bytes) :=
  match skipBlank bs with
  | [] => .error ⟨.endInList, [], .whole⟩
  | b :: r =>
    if b = 0x5D then .ok (none, r)
    else do
      let (value, r) ← (readText (b :: r)).mapError (·.within (.element 0))
      let r ← listEnd r
      pure (some value, r)

/-- Reads a record off the front; the field is empty if the text does not give it. -/
def readRecord (shape : RecordShape) (bs : Bytes) : Except Fault (String × Bytes) :=
  match skipBlank bs with
  | [] => .error ⟨.endInValue, [], .whole⟩
  | b :: r =>
    if b = 0x7B then (readMembers shape.field (r.length + 1) none true r).map finish
    else if b = 0x5B then (readElement r).map finish
    else .error (mismatch ("struct " ++ shape.title) (b :: r))
where
  /-- The field that was found, or the empty text. -/
  finish : Option String × Bytes → String × Bytes
    | (found, r) => (found.getD "", r)

/-- The field of the record that is the whole input. -/
def parseRecord (shape : RecordShape) (bs : Bytes) : Except Fault String := do
  let (value, rest) ← readRecord shape bs
  match skipBlank rest with
  | [] => pure value
  | r => throw (.ahead .trailingCharacters r)

/-- The compact written form of a record. -/
def writeRecord (shape : RecordShape) (value : String) : Bytes :=
  0x7B :: (writeString shape.field ++ 0x3A :: (writeString value ++ [0x7D]))

/-- The written form over several lines, the member set in by two blanks. -/
def writeRecordLines (shape : RecordShape) (value : String) : Bytes :=
  Utf8.ascii "\x7b\n  " ++ writeString shape.field ++ Utf8.ascii ": " ++ writeString value
    ++ Utf8.ascii "\n\x7d"

end Json
end MailGateway
