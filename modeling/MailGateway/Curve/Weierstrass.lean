/-
# Curves `y² = x³ - 3x + b`

The three curves of keys, each over a prime field with a base point of prime order.  A
point at infinity is `none`.  Addition follows the chord and the tangent.
-/

import MailGateway.Curve.Repeat
import MailGateway.Text.Octets

namespace MailGateway
namespace Curve

/-- Curves of keys. -/
inductive Weierstrass where
  | p256
  | p384
  | p521
  deriving DecidableEq, Repr, Inhabited

namespace Weierstrass

/-- The number that a curve is registered under, in bytes. -/
def identifier : Weierstrass → Bytes
  | .p256 => [0x2A, 0x86, 0x48, 0xCE, 0x3D, 0x03, 0x01, 0x07]
  | .p384 => [0x2B, 0x81, 0x04, 0x00, 0x22]
  | .p521 => [0x2B, 0x81, 0x04, 0x00, 0x23]

/-- The curve that is registered under a number. -/
def ofIdentifier? (bs : Bytes) : Option Weierstrass :=
  [p256, p384, p521].find? fun c => c.identifier = bs

/-- The size of the field. -/
def prime : Weierstrass → Nat
  | .p256 => 2 ^ 256 - 2 ^ 224 + 2 ^ 192 + 2 ^ 96 - 1
  | .p384 => 2 ^ 384 - 2 ^ 128 - 2 ^ 96 + 2 ^ 32 - 1
  | .p521 => 2 ^ 521 - 1

/-- The order of the base point. -/
def order : Weierstrass → Nat
  | .p256 => 0xffffffff00000000ffffffffffffffffbce6faada7179e84f3b9cac2fc632551
  | .p384 =>
    2 ^ 384 - 1 - 0x389cb27e0bc8d220a7e5f24db74f58851313e695333ad68c
  | .p521 =>
    2 ^ 521 - 1 - 0x5ae79787c40d069948033feb708f65a2fc44a36477663b851449048e16ec79bf6

/-- The base point. -/
def base : Weierstrass → Nat × Nat
  | .p256 =>
    (0x6b17d1f2e12c4247f8bce6e563a440f277037d812deb33a0f4a13945d898c296,
     0x4fe342e2fe1a7f9b8ee7eb4a7c0f9e162bce33576b315ececbb6406837bf51f5)
  | .p384 =>
    (0xaa87ca22be8b05378eb1c71ef320ad746e1d3b628ba79b98 * 2 ^ 192
      + 0x59f741e082542a385502f25dbf55296c3a545e3872760ab7,
     0x3617de4a96262c6f5d9e98bf9292dc29f8f41dbd289a147c * 2 ^ 192
      + 0xe9da3113b5f0b8c00a60b1ce1d7e819d7a431d7c90ea0e5f)
  | .p521 =>
    (0xc6858e06b70404e9cd9e3ecb662395b4429c648139053fb521f828af606b4d3d * 2 ^ 264
      + 0xbaa14b5e77efe75928fe1dc127a2ffa8de3348b3c1856a429bf97e7e31c2e5bd66,
     0x11839296a789a3bc0045c8a5fb42c7d1bd998f54449579b446817afbd17273e66 * 2 ^ 264
      + 0x2c97ee72995ef42640c550b9013fad0761353c7086a272c24088be94769fd16650)

/-- The coefficient `b`. -/
def coefficient (c : Weierstrass) : Nat :=
  let (x, y) := c.base
  Repeat.minus c.prime ((y * y + 3 * x) % c.prime) (x * x * x % c.prime)

/-- The curve with a field, coefficients, a base point and an order. -/
def ofParameters? (prime a b : Nat) (base : Nat × Nat) (order : Nat) : Option Weierstrass :=
  [p256, p384, p521].find? fun c =>
    c.prime = prime && prime = a + 3 && c.coefficient = b && c.base = base && c.order = order

/-- The bytes of a coordinate. -/
def width : Weierstrass → Nat
  | .p256 => 32
  | .p384 => 48
  | .p521 => 66

/-- The third point on the line of a slope through two points, turned over. -/
def third (p slope x x' y : Nat) : Nat × Nat :=
  let s := Repeat.minus p (Repeat.minus p (slope * slope % p) x) x'
  (s, Repeat.minus p (slope * Repeat.minus p x s % p) y)

/-- The sum of two points. -/
def add (c : Weierstrass) : Option (Nat × Nat) → Option (Nat × Nat) → Option (Nat × Nat)
  | none, b => b
  | a, none => a
  | some (x, y), some (x', y') =>
    let p := c.prime
    if x = x' then
      if y = y' && y ≠ 0 then
        let rise := Repeat.minus p (3 * x * x % p) 3
        some (third p (rise * Repeat.inverse p (2 * y) % p) x x' y)
      else none
    else
      let slope := Repeat.minus p y' y * Repeat.inverse p (Repeat.minus p x' x) % p
      some (third p slope x x' y)

/-- A point in bytes: both coordinates. -/
def encode (c : Weierstrass) (a : Nat × Nat) : Bytes :=
  4 :: (bytesOf c.width a.1 ++ bytesOf c.width a.2)

/-- A point in few bytes: one coordinate, and the lowest bit of the other. -/
def encodeShort (c : Weierstrass) (a : Nat × Nat) : Bytes :=
  (if a.2 % 2 = 1 then 3 else 2) :: bytesOf c.width a.1

/-- A point in the most bytes: both coordinates, and the lowest bit of the second. -/
def encodeLong (c : Weierstrass) (a : Nat × Nat) : Bytes :=
  (if a.2 % 2 = 1 then 7 else 6) :: (bytesOf c.width a.1 ++ bytesOf c.width a.2)

/-- A multiple of the base point. -/
def multiple (c : Weierstrass) (n : Nat) : Option (Nat × Nat) :=
  Repeat.times c.add none (some c.base) n

end Weierstrass
end Curve
end MailGateway
