/-
# Polynomials with 256 coefficients

They are added and multiplied modulo `x ^ 256 + 1`, the coefficients modulo a prime.  The
values of a polynomial at the roots of `x ^ 256 + 1` tell it, and products are products of
values; `values` and `ofValues` go back and forth by halving: a polynomial of `2 n`
coefficients modulo `x ^ (2 n) - z ^ 2` is one of `n` modulo `x ^ n - z` and one modulo
`x ^ n + z`.
-/

import MailGateway.Curve.Repeat

namespace MailGateway
namespace Lattice

/-- The prime. -/
def prime : Nat := 2 ^ 23 - 2 ^ 13 + 1

/-- A polynomial by its coefficients, the lowest first, or by its values. -/
abbrev Poly := List Nat

/-- The eight bits of a number in the opposite order. -/
def turned (m : Nat) : Nat := (List.range 8).foldl (fun n i => 2 * n + m / 2 ^ i % 2) 0

/-- The root of unity that splits node `m` of the tree of halves, the top being node one. -/
def root (m : Nat) : Nat := Repeat.power prime 1753 (turned m)

/-- Adds numbers one by one. -/
def add (a b : Poly) : Poly := List.zipWith (fun x y => (x + y) % prime) a b

/-- Takes numbers away one by one. -/
def sub (a b : Poly) : Poly := List.zipWith (fun x y => Repeat.minus prime x y) a b

/-- Multiplies numbers one by one. -/
def mul (a b : Poly) : Poly := List.zipWith (fun x y => x * y % prime) a b

/-- Multiplies all numbers by one. -/
def scale (k : Nat) (a : Poly) : Poly := a.map fun x => k * x % prime

/-- The values of `2 ^ depth` coefficients below node `m`. -/
def valuesBelow : Nat → Nat → Poly → Poly
  | 0, _, w => w
  | depth + 1, m, w =>
    let low := w.take (2 ^ depth)
    let high := scale (root m) (w.drop (2 ^ depth))
    valuesBelow depth (2 * m) (add low high) ++ valuesBelow depth (2 * m + 1) (sub low high)

/-- The values of a polynomial. -/
def values (w : Poly) : Poly := valuesBelow 8 1 w

/-- The coefficients with some values below node `m`, each `2 ^ depth` times too large. -/
def coefficientsBelow : Nat → Nat → Poly → Poly
  | 0, _, w => w
  | depth + 1, m, w =>
    let low := coefficientsBelow depth (2 * m) (w.take (2 ^ depth))
    let high := coefficientsBelow depth (2 * m + 1) (w.drop (2 ^ depth))
    add low high ++ scale (Repeat.inverse prime (root m)) (sub low high)

/-- The polynomial with some values. -/
def ofValues (w : Poly) : Poly := scale (Repeat.inverse prime 256) (coefficientsBelow 8 1 w)

end Lattice
end MailGateway
