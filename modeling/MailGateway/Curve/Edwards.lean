/-
# The curve `y² - x² = 1 + d x² y²`

The curve of signing keys over the field of size `2 ^ 255 - 19`.  The sum of two points
needs no case distinction.  A secret of 32 bytes stands for the multiple of the base point
by the first half of its digest, with some bits set and cleared; the public key is that
point, written as `y` with the lowest bit of `x` on top.
-/

import MailGateway.Curve.Repeat
import MailGateway.Hash.Sha512

namespace MailGateway
namespace Curve
namespace Edwards

/-- The size of the field. -/
def prime : Nat := 2 ^ 255 - 19

/-- The coefficient of the curve. -/
def coefficient : Nat :=
  Repeat.minus prime 0 (121665 * Repeat.inverse prime 121666 % prime)

/-- The base point. -/
def base : Nat × Nat :=
  (0x216936d3cd6e53fec0a4e231fdd6dc5c692cc7609525a7b2c9562d608f25d51a,
   4 * Repeat.inverse prime 5 % prime)

/-- The sum of two points. -/
def add (a b : Nat × Nat) : Nat × Nat :=
  let (x, y) := a
  let (x', y') := b
  let product := coefficient * (x * x' % prime * (y * y' % prime) % prime) % prime
  let plus := Repeat.inverse prime (1 + product)
  let less := Repeat.inverse prime (Repeat.minus prime 1 product)
  ((x * y' + x' * y) % prime * plus % prime, (y * y' + x * x') % prime * less % prime)

/-- A multiple of the base point. -/
def multiple (n : Nat) : Nat × Nat := Repeat.times add (0, 1) base n

/-- The factor that a secret stands for. -/
def factor (secret : Bytes) : Nat :=
  numberOf ((Hash.Sha512.digest secret).take 32).reverse % 2 ^ 254 / 8 * 8 + 2 ^ 254

/-- The public key of a secret. -/
def publicKey (secret : Bytes) : Bytes :=
  let (x, y) := multiple (factor secret)
  (bytesOf 32 (y + 2 ^ 255 * (x % 2))).reverse

end Edwards
end Curve
end MailGateway
