/-
# Binary floating-point numbers of 64 bits

A finite number is a sign and `mantissa · 2 ^ exponent`, with
`mantissa < 2 ^ 53` and `-1074 ≤ exponent ≤ 971`; all arithmetic is exact
arithmetic on natural numbers followed by one rounding to the nearest
representable number, ties to the even mantissa (`Binary64.ofRatio`).
Results past the largest number are infinite.

| operation | rounds |
| --- | --- |
| `ofNat n` | `n` |
| `ofDecimal s d k` | `± d · 10 ^ k` |
| `plus`, `times`, `quotient` | the exact sum, product, quotient |
-/

import MailGateway.Numbers

namespace MailGateway

/-- A number of 64 bits, by value. -/
inductive Binary64 where
  | nan
  | infinite (negative : Bool)
  | finite (negative : Bool) (mantissa : Nat) (exponent : Int)
  deriving DecidableEq, Repr, Inhabited

namespace Binary64

/-- Zero with a sign. -/
def zero (negative : Bool) : Binary64 := .finite negative 0 (-1074)

/-- `num / den` to the nearest whole number, a half to the even one. -/
def roundDiv (num den : Nat) : Nat :=
  let q := num / den
  let r := num % den
  if 2 * r < den then q else if den < 2 * r then q + 1 else q + q % 2

/-- `num / (den · 2 ^ e)` to the nearest whole number. -/
def roundScaled (num den : Nat) (e : Int) : Nat :=
  if 0 ≤ e then roundDiv num (den * 2 ^ e.toNat) else roundDiv (num * 2 ^ (-e).toNat) den

/-- Whether `2 ^ k ≤ num / den`. -/
def powerLe (k : Int) (num den : Nat) : Bool :=
  if 0 ≤ k then den * 2 ^ k.toNat ≤ num else den ≤ num * 2 ^ (-k).toNat

/-- The number nearest to `± num / den`; a zero denominator gives an infinity. -/
def ofRatio (negative : Bool) (num den : Nat) : Binary64 :=
  if num = 0 then zero negative
  else if den = 0 then .infinite negative
  else
    let k : Int := (num.log2 : Int) - den.log2
    let top : Int := if powerLe k num den then k else k - 1
    let e : Int := max (top - 52) (-1074)
    let m := roundScaled num den e
    let (m, e) := if m = 2 ^ 53 then (2 ^ 52, e + 1) else (m, e)
    if 971 < e then .infinite negative else .finite negative m e

/-- The number nearest to a natural number. -/
def ofNat (n : Nat) : Binary64 := ofRatio false n 1

/-- The number nearest to `± digits · 10 ^ k`.  The two outer bounds keep the
powers small where the result is infinite or zero anyway. -/
def ofDecimal (negative : Bool) (digits : Nat) (k : Int) : Binary64 :=
  if digits = 0 then zero negative
  else
    let size : Int := (digits.log2 : Int) * 30103 / 100000 + k
    if 310 < size then .infinite negative
    else if size < -330 then zero negative
    else if 0 ≤ k then ofRatio negative (digits * 10 ^ k.toNat) 1
    else ofRatio negative digits (10 ^ (-k).toNat)

/-- `mantissa · 2 ^ exponent` as a quotient of natural numbers. -/
def ratio (mantissa : Nat) (exponent : Int) : Nat × Nat :=
  if 0 ≤ exponent then (mantissa * 2 ^ exponent.toNat, 1) else (mantissa, 2 ^ (-exponent).toNat)

/-- The sign bit; of no meaning for a number that is none. -/
def isNegative : Binary64 → Bool
  | .nan => false
  | .infinite s => s
  | .finite s _ _ => s

/-- Whether the number is a zero of either sign. -/
def isZero : Binary64 → Bool
  | .finite _ m _ => m = 0
  | _ => false

/-- The number with the other sign. -/
def negate : Binary64 → Binary64
  | .nan => .nan
  | .infinite s => .infinite (!s)
  | .finite s m e => .finite (!s) m e

/-- The product. -/
def times : Binary64 → Binary64 → Binary64
  | .finite s m e, .finite t n f =>
    let (a, b) := ratio m e
    let (c, d) := ratio n f
    ofRatio (s != t) (a * c) (b * d)
  | .nan, _ => .nan
  | _, .nan => .nan
  | x, y => if x.isZero || y.isZero then .nan else .infinite (x.isNegative != y.isNegative)

/-- The quotient. -/
def quotient : Binary64 → Binary64 → Binary64
  | .finite s m e, .finite t n f =>
    let (a, b) := ratio m e
    let (c, d) := ratio n f
    if m = 0 && n = 0 then .nan else ofRatio (s != t) (a * d) (b * c)
  | .nan, _ => .nan
  | _, .nan => .nan
  | .infinite _, .infinite _ => .nan
  | .infinite s, y => .infinite (s != y.isNegative)
  | .finite s _ _, .infinite t => zero (s != t)

/-- The sum. -/
def plus : Binary64 → Binary64 → Binary64
  | .finite s m e, .finite t n f =>
    let (a, b) := ratio m e
    let (c, d) := ratio n f
    let x : Int := (if s then -1 else 1) * (a * d : Nat)
    let y : Int := (if t then -1 else 1) * (c * b : Nat)
    if x + y = 0 then zero (s && t) else ofRatio (x + y < 0) (x + y).natAbs (b * d)
  | .nan, _ => .nan
  | _, .nan => .nan
  | .infinite s, .infinite t => if s = t then .infinite s else .nan
  | .infinite s, _ => .infinite s
  | _, .infinite t => .infinite t

example : ofNat 3 = .finite false (3 * 2 ^ 51) (-51) := by decide +kernel
example : (ofDecimal false 1 (-1)).plus (ofDecimal false 2 (-1)) ≠ ofDecimal false 3 (-1) := by
  decide +kernel

end Binary64
end MailGateway
