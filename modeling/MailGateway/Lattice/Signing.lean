/-
# Signing keys over a lattice

A seed of 32 bytes stands for a matrix of polynomials and two short vectors; the public
key is the seed of the matrix and the upper bits of `matrix * first + second`.  All is
drawn from streams of bytes: numbers that are too large are passed over, and the streams
are so long that they do not run out.  A signing key may also be written out with its
vectors (`SigningKey.expanded`).
-/

import MailGateway.Hash.Shake
import MailGateway.Lattice.Packing

namespace MailGateway
namespace Lattice

/-- The sizes of keys. -/
inductive Size where
  | small
  | medium
  | large
  deriving DecidableEq, Repr, Inhabited

namespace Size

/-- The rows of the matrix. -/
def rows : Size → Nat
  | .small => 4
  | .medium => 6
  | .large => 8

/-- The columns of the matrix. -/
def columns : Size → Nat
  | .small => 4
  | .medium => 5
  | .large => 7

/-- The largest coefficient of the short vectors. -/
def bound : Size → Nat
  | .medium => 4
  | _ => 2

/-- The number that a size is registered under, in bytes. -/
def identifier (size : Size) : Bytes :=
  [0x60, 0x86, 0x48, 0x01, 0x65, 0x03, 0x04, 0x03,
   match size with
   | .small => 0x11
   | .medium => 0x12
   | .large => 0x13]

/-- The size that is registered under a number. -/
def ofIdentifier? (bs : Bytes) : Option Size :=
  [small, medium, large].find? fun size => size.identifier = bs

end Size

/-- The numbers below the prime among groups of three bytes, of which 23 bits count. -/
def uniform : Bytes → Poly
  | a :: b :: c :: rest =>
    let n := a.toNat + 2 ^ 8 * b.toNat + 2 ^ 16 * (c.toNat % 2 ^ 7)
    if n < prime then n :: uniform rest else uniform rest
  | _ => []

/-- The short coefficient for half a byte, if it counts. -/
def short? (bound half : Nat) : Option Nat :=
  if bound = 2 then
    if half < 15 then some (Repeat.minus prime 2 (half % 5)) else none
  else if half < 9 then some (Repeat.minus prime 4 half)
  else none

/-- An entry of the matrix, by its values. -/
def entry (seed : Bytes) (row column : Nat) : Poly :=
  (uniform (Hash.Shake.stream Hash.Shake.rate128 8
    (seed ++ [column.toUInt8, row.toUInt8]))).take 256

/-- A short polynomial. -/
def short (bound : Nat) (seed : Bytes) (index : Nat) : Poly :=
  let bs := Hash.Shake.stream Hash.Shake.rate256 8 (seed ++ [index.toUInt8, 0])
  ((bs.flatMap fun b => [b.toNat % 16, b.toNat / 16]).filterMap (short? bound)).take 256

/-- What a signing key is made of: the seed of the matrix, a seed of its own for what is
drawn when it signs, and two vectors. -/
structure SigningKey where
  matrixSeed : Bytes
  ownSeed : Bytes
  first : List Poly
  second : List Poly
  deriving DecidableEq, Repr, Inhabited

namespace SigningKey

/-- The signing key of a seed. -/
def ofSeed (size : Size) (seed : Bytes) : SigningKey :=
  let drawn := Hash.Shake.stream Hash.Shake.rate256 1
    (seed ++ [size.rows.toUInt8, size.columns.toUInt8])
  let vectorSeed := (drawn.drop 32).take 64
  let vector := (List.range (size.columns + size.rows)).map (short size.bound vectorSeed)
  ⟨drawn.take 32, (drawn.drop 96).take 32, vector.take size.columns, vector.drop size.columns⟩

/-- `matrix * first + second`. -/
def image (k : SigningKey) : List Poly :=
  let first := k.first.map values
  k.second.zipIdx.map fun (w, row) =>
    add (ofValues ((first.zipIdx.map fun (s, column) =>
      mul (entry k.matrixSeed row column) s).foldl add (List.replicate 256 0))) w

/-- The public key. -/
def publicKey (k : SigningKey) : Bytes :=
  k.matrixSeed ++ k.image.flatMap fun t => packed 10 (t.map upper)

/-- The digest of a public key. -/
def digest (publicKey : Bytes) : Bytes :=
  (Hash.Shake.stream Hash.Shake.rate256 1 publicKey).take 64

/-- The bits for a short coefficient. -/
def shortWidth (size : Size) : Nat := if size.bound = 2 then 3 else 4

/-- A signing key in bytes, with the digest of its public key and the lower bits of the
image. -/
def expanded (size : Size) (k : SigningKey) : Bytes :=
  k.matrixSeed ++ k.ownSeed ++ digest k.publicKey
    ++ packedShort size.bound (shortWidth size) (k.first ++ k.second)
    ++ k.image.flatMap fun t => packed 13 (t.map gap)

/-- The length of a signing key in bytes. -/
def expandedLength (size : Size) : Nat :=
  128 + 32 * (shortWidth size * (size.columns + size.rows) + 13 * size.rows)

/-- Reads a signing key; the digest must be that of its public key. -/
def ofExpanded? (size : Size) (bs : Bytes) : Option SigningKey :=
  let vector := unpackedShort size.bound (shortWidth size)
    ((bs.drop 128).take (32 * (shortWidth size * (size.columns + size.rows))))
  let key : SigningKey :=
    ⟨bs.take 32, (bs.drop 32).take 32, vector.take size.columns, vector.drop size.columns⟩
  if bs.length = expandedLength size && (bs.drop 64).take 64 = digest key.publicKey then
    some key
  else none

end SigningKey
end Lattice
end MailGateway
