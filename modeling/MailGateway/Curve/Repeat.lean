/-
# Repeated operations

`Repeat.times op unit x n` combines `n` copies of `x`, by halving `n`.  For the product
modulo `m` it is the power modulo `m` (`power_eq`); for the sum of points on a curve it is
the multiple of a point.
-/

import MailGateway.Numbers

namespace MailGateway
namespace Repeat

/-- Combines `n` copies of `x`; `fuel` is at least the number of bits of `n`. -/
def combine {α : Type} (op : α → α → α) (unit x : α) (fuel n : Nat) : α :=
  match fuel with
  | 0 => unit
  | fuel + 1 =>
    let half := combine op unit x fuel (n / 2)
    let twice := op half half
    if n % 2 = 1 then op twice x else twice

/-- Combines `n` copies of `x`. -/
def times {α : Type} (op : α → α → α) (unit x : α) (n : Nat) : α :=
  combine op unit x (n.log2 + 1) n

/-- The power modulo `m`. -/
def power (m x n : Nat) : Nat := times (fun a b => a * b % m) (1 % m) x n

theorem combine_power (m x : Nat) (fuel n : Nat) (h : n < 2 ^ fuel) :
    combine (fun a b => a * b % m) (1 % m) x fuel n = x ^ n % m := by
  induction fuel generalizing n with
  | zero =>
    have : n = 0 := by simpa using h
    subst this
    rfl
  | succ fuel ih =>
    have hn : n / 2 < 2 ^ fuel := by rw [Nat.pow_succ] at h; omega
    rw [combine, ih _ hn, ← Nat.mul_mod, ← Nat.pow_add]
    by_cases hodd : n % 2 = 1
    · have : x ^ (n / 2 + n / 2) * x = x ^ n := by
        rw [← Nat.pow_succ]; congr 1; omega
      simp [hodd, ← this]
    · have : n / 2 + n / 2 = n := by omega
      simp [hodd, this]

/-- The power modulo `m` is the power, taken modulo `m`. -/
theorem power_eq (m x n : Nat) : power m x n = x ^ n % m :=
  combine_power m x _ n Nat.lt_log2_self

/-- The inverse modulo a prime, by the little theorem of Fermat. -/
def inverse (p x : Nat) : Nat := power p x (p - 2)

/-- The difference modulo `p` of numbers below `p`. -/
def minus (p x y : Nat) : Nat := (x + (p - y)) % p

end Repeat
end MailGateway
