/-
# Variable-length integers

Seven bits a byte, lowest first; every byte but the last has its high bit set.  A
number of 64 bits takes at most ten bytes, so a reader refuses a tenth byte above
one, and any eleventh.
-/

import MailGateway.Text.Utf8

namespace MailGateway
namespace Protobuf

/-- The shortest written form. -/
def writeVarint (n : Nat) : Bytes :=
  if n < 128 then [n.toUInt8] else (n % 128 + 128).toUInt8 :: writeVarint (n / 128)
termination_by n
decreasing_by omega

/-- Reads a number of at most `places` bytes. -/
def readVarintIn (places : Nat) (bs : Bytes) : Option (Nat × Bytes) :=
  match places, bs with
  | places + 1, b :: r =>
    if b < 0x80 then
      if places = 0 ∧ 2 ≤ b then none else some (b.toNat, r)
    else (readVarintIn places r).map fun (m, r) => (b.toNat - 128 + 128 * m, r)
  | _, _ => none

/-- Reads a number of 64 bits. -/
def readVarint? (bs : Bytes) : Option (Nat × Bytes) := readVarintIn 10 bs

end Protobuf
end MailGateway
