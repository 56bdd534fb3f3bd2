/-
# Numbers in bytes

A number in a given count of bytes, the highest first, and back.
-/

import MailGateway.Numbers
import MailGateway.Text.Utf8

namespace MailGateway

theorem toNat_toUInt8 {n : Nat} (h : n < 256) : n.toUInt8.toNat = n :=
  UInt8.toNat_ofNat_of_lt' h

theorem eq_toUInt8 {b : UInt8} {n : Nat} (h : b.toNat = n) : b = n.toUInt8 := by
  subst h
  exact UInt8.ofNat_toNat.symm

/-- The number of bytes, the highest first. -/
def numberOf (bs : Bytes) : Nat := bs.foldl (fun n b => n * 256 + b.toNat) 0

/-- The low end of a number in `count` bytes, the highest first. -/
def bytesOf : Nat → Nat → Bytes
  | 0, _ => []
  | count + 1, n => bytesOf count (n / 256) ++ [n.toUInt8]

theorem length_bytesOf (count n : Nat) : (bytesOf count n).length = count := by
  induction count generalizing n with
  | zero => rfl
  | succ count ih => simp [bytesOf, ih]

/-- Writing a number and reading it keeps what fits. -/
theorem numberOf_bytesOf (count n : Nat) : numberOf (bytesOf count n) = n % 256 ^ count := by
  induction count generalizing n with
  | zero => simp [bytesOf, numberOf, Nat.mod_one]
  | succ count ih =>
    have h : n.toUInt8.toNat = n % 256 := rfl
    rw [bytesOf, numberOf, List.foldl_append, List.foldl_cons, List.foldl_nil, ← numberOf, ih, h,
      Nat.pow_succ', Nat.mod_mul]
    omega

end MailGateway
