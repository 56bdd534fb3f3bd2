/-
# Percent encoding

`%XY` stands for the byte with the hexadecimal value `XY`.  Reading leaves a percent
sign alone that no two digits follow.  Writing encodes the bytes of a chosen set,
with upper-case digits.
-/

import MailGateway.Json.Quote

namespace MailGateway
namespace Http
namespace Percent

/-- Replaces the encoded bytes. -/
def decode : Bytes → Bytes
  | 0x25 :: a :: b :: r =>
    match Json.hexValue? a, Json.hexValue? b with
    | some x, some y => (x * 16 + y).toUInt8 :: decode r
    | _, _ => 0x25 :: decode (a :: b :: r)
  | b :: r => b :: decode r
  | [] => []

/-- An upper-case hexadecimal digit. -/
def digit (n : Nat) : UInt8 := if n < 10 then (0x30 + n).toUInt8 else (0x41 + (n - 10)).toUInt8

/-- The encoded form of one byte. -/
def escape (b : UInt8) : Bytes := [0x25, digit (b.toNat / 16), digit (b.toNat % 16)]

/-- Encodes the bytes for which `special` holds. -/
def encode (special : UInt8 → Bool) (bs : Bytes) : Bytes :=
  bs.flatMap fun b => if special b then escape b else [b]

end Percent
end Http
end MailGateway
