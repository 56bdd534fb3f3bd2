/-
# Nested binary values

A value is a tag, a length and its content.  Lengths below 128 take one byte, others a
count of bytes and the bytes, without leading zeros.
-/

import MailGateway.Text.Octets

namespace MailGateway
namespace Tls
namespace Der

/-- Tags of values. -/
def booleanTag : UInt8 := 0x01
def integerTag : UInt8 := 0x02
def bitsTag : UInt8 := 0x03
def octetsTag : UInt8 := 0x04
def nullTag : UInt8 := 0x05
def nameTag : UInt8 := 0x06
def sequenceTag : UInt8 := 0x30

/-- Reads a length. -/
def readLength : Bytes → Option (Nat × Bytes)
  | [] => none
  | b :: rest =>
    if b < 0x80 then some (b.toNat, rest)
    else
      let count := b.toNat - 0x80
      let n := numberOf (rest.take count)
      if count = 0 || 4 < count || rest.length < count || n < 128 || n < 256 ^ (count - 1) then none
      else some (n, rest.drop count)

/-- Reads a value of a tag: its content and what follows. -/
def read (tag : UInt8) : Bytes → Option (Bytes × Bytes)
  | [] => none
  | t :: rest =>
    if t ≠ tag then none
    else
      match readLength rest with
      | some (n, rest) => if rest.length < n then none else some (rest.take n, rest.drop n)
      | none => none

/-- Reads a value that nothing follows. -/
def readAll (tag : UInt8) (bs : Bytes) : Option Bytes :=
  match read tag bs with
  | some (content, []) => some content
  | _ => none

/-- Reads a value that may be absent. -/
def readOptional (tag : UInt8) (bs : Bytes) : Option (Option Bytes × Bytes) :=
  if bs.head? = some tag then (read tag bs).map fun (content, rest) => (some content, rest)
  else some (none, bs)

/-- Reads values of a tag one after another: their contents, and whether they reach the
end. -/
def readMany (tag : UInt8) : Nat → Bytes → List Bytes × Bool
  | _, [] => ([], true)
  | 0, _ => ([], false)
  | fuel + 1, bs =>
    match read tag bs with
    | some (content, rest) =>
      let (contents, whole) := readMany tag fuel rest
      (content :: contents, whole)
    | none => ([], false)

/-- Reads a whole number that is not negative, and has no zeros in front that it could do
without. -/
def readNatural (bs : Bytes) : Option (Nat × Bytes) :=
  match read integerTag bs with
  | some (b :: more, rest) =>
    if b < 0x80 && !(b = 0 && more.head?.any (· < 0x80)) then
      some (numberOf (b :: more), rest)
    else none
  | _ => none

/-- Reads some whole numbers. -/
def readNaturals : Nat → Bytes → Option (List Nat × Bytes)
  | 0, bs => some ([], bs)
  | count + 1, bs => do
    let (n, rest) ← readNatural bs
    let (ns, rest) ← readNaturals count rest
    pure (n :: ns, rest)

/-- Writes a length. -/
def writeLength (n : Nat) : Bytes :=
  if n < 128 then [n.toUInt8]
  else
    let bs := bytesOf (n.log2 / 8 + 1) n
    (0x80 + bs.length.toUInt8) :: bs

/-- Writes a value. -/
def write (tag : UInt8) (content : Bytes) : Bytes := tag :: (writeLength content.length ++ content)

/-- Writes a whole number that is not negative. -/
def writeNatural (n : Nat) : Bytes :=
  let bs := bytesOf (n.log2 / 8 + 1) n
  write integerTag (if bs.head?.all (· < 0x80) then bs else 0 :: bs)

end Der
end Tls
end MailGateway
