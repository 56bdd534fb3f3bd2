/-
# Bytes in 64 characters

Four characters stand for three bytes; `=` fills the last four up, or nothing does.  Bits
behind the last whole byte do not matter.
-/

import MailGateway.Numbers
import MailGateway.Text.Utf8

namespace MailGateway
namespace Base64

/-- The six bits of a character. -/
def value? (c : Char) : Option Nat :=
  if 'A' ≤ c ∧ c ≤ 'Z' then some (c.toNat - 'A'.toNat)
  else if 'a' ≤ c ∧ c ≤ 'z' then some (c.toNat - 'a'.toNat + 26)
  else if '0' ≤ c ∧ c ≤ '9' then some (c.toNat - '0'.toNat + 52)
  else if c = '+' then some 62
  else if c = '/' then some 63
  else none

/-- Byte `k` of a group of 24 bits, the highest first. -/
def byteOf (n k : Nat) : UInt8 := (n / 256 ^ (2 - k)).toUInt8

/-- The byte of two characters. -/
def one? (a b : Char) : Option Bytes := do
  let n := (← value? a) * 2 ^ 18 + (← value? b) * 2 ^ 12
  pure [byteOf n 0]

/-- The bytes of three characters. -/
def two? (a b c : Char) : Option Bytes := do
  let n := (← value? a) * 2 ^ 18 + (← value? b) * 2 ^ 12 + (← value? c) * 2 ^ 6
  pure [byteOf n 0, byteOf n 1]

/-- Reads groups of four characters; the last may be shorter. -/
def decode? : List Char → Option Bytes
  | [] => some []
  | [a, b] => one? a b
  | [a, b, c] => two? a b c
  | [a, b, '=', '='] => one? a b
  | [a, b, c, '='] => two? a b c
  | a :: b :: c :: d :: rest => do
    let n := (← value? a) * 2 ^ 18 + (← value? b) * 2 ^ 12 + (← value? c) * 2 ^ 6 + (← value? d)
    pure (byteOf n 0 :: byteOf n 1 :: byteOf n 2 :: (← decode? rest))
  | _ => none

example : decode? "TWE=".toList = some [0x4D, 0x61] := by decide +kernel

example : decode? "TWF".toList = some [0x4D, 0x61] := by decide +kernel

example : decode? "TW=".toList = none := by decide +kernel

end Base64
end MailGateway
