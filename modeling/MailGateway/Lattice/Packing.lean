/-
# Polynomials in bytes

The 256 numbers of a polynomial are written in some bits each, the lowest bits first, so
that each bit of a number is worth 32 bytes.
-/

import MailGateway.Hash.Sha512
import MailGateway.Lattice.Ring

namespace MailGateway
namespace Lattice

/-- The bytes of 256 numbers of `width` bits. -/
def packed (width : Nat) (ns : List Nat) : Bytes :=
  (bytesOf (32 * width) (ns.foldr (fun x n => 2 ^ width * n + x) 0)).reverse

/-- The 256 numbers of `width` bits in bytes. -/
def unpacked (width : Nat) (bs : Bytes) : List Nat :=
  let n := numberOf bs.reverse
  (List.range 256).map fun i => n / 2 ^ (width * i) % 2 ^ width

theorem length_packed (width : Nat) (ns : List Nat) : (packed width ns).length = 32 * width := by
  simp [packed, length_bytesOf]

/-- The bytes of polynomials whose coefficients are short: what they lack to the largest. -/
def packedShort (bound width : Nat) (ws : List Poly) : Bytes :=
  ws.flatMap fun w => packed width (w.map (Repeat.minus prime bound))

/-- The polynomials with short coefficients in bytes. -/
def unpackedShort (bound width : Nat) (bs : Bytes) : List Poly :=
  (Hash.Sha512.pieces (32 * width) bs).map fun piece =>
    (unpacked width piece).map (Repeat.minus prime bound)

/-- The upper ten bits of a coefficient, rounded to the nearest; a half goes down. -/
def upper (x : Nat) : Nat := (x + 4095) / 2 ^ 13

/-- How far a coefficient is below the largest that has its upper bits. -/
def gap (x : Nat) : Nat := 4096 + 2 ^ 13 * upper x - x

end Lattice
end MailGateway
