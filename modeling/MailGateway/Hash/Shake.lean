/-
# SHAKE

A state of 25 words soaks up a message in blocks of `rate` bytes and then gives as many
bytes as asked for, a block at a time.  Between blocks the state is mixed in 24 rounds.
Word `x + 5 y` stands in column `x` and row `y`.
-/

import MailGateway.Hash.Sha512

namespace MailGateway
namespace Hash
namespace Shake

/-- The 25 words. -/
abbrev State := Array UInt64

/-- Turns a word to the left. -/
def turn (n x : UInt64) : UInt64 := (x <<< n) ||| (x >>> (64 - n))

/-- How far each word is turned in a round. -/
def turns : Array UInt64 :=
  #[0, 1, 62, 28, 27, 36, 44, 6, 55, 20, 3, 10, 43, 25, 39, 41, 45, 15, 21, 8, 18, 2, 61, 56, 14]

/-- The constants of the rounds. -/
def roundConstants : List UInt64 :=
  [0x0000000000000001, 0x0000000000008082, 0x800000000000808A, 0x8000000080008000,
   0x000000000000808B, 0x0000000080000001, 0x8000000080008081, 0x8000000000008009,
   0x000000000000008A, 0x0000000000000088, 0x0000000080008009, 0x000000008000000A,
   0x000000008000808B, 0x800000000000008B, 0x8000000000008089, 0x8000000000008003,
   0x8000000000008002, 0x8000000000000080, 0x000000000000800A, 0x800000008000000A,
   0x8000000080008081, 0x8000000000008080, 0x0000000080000001, 0x8000000080008008]

/-- The word in a column and a row, both taken modulo five. -/
def word (s : State) (x y : Nat) : UInt64 := s.getD (x % 5 + 5 * (y % 5)) 0

/-- The state with the words that a function of column and row gives. -/
def build (f : Nat → Nat → UInt64) : State :=
  ((List.range 25).map fun i => f (i % 5) (i / 5)).toArray

/-- The sums of the columns. -/
def sums (s : State) : Array UInt64 :=
  ((List.range 5).map fun x =>
    word s x 0 ^^^ word s x 1 ^^^ word s x 2 ^^^ word s x 3 ^^^ word s x 4).toArray

/-- Adds to each word the sums of two columns beside it. -/
def spread (s : State) : State :=
  let sums := sums s
  build fun x y =>
    word s x y ^^^ sums.getD ((x + 4) % 5) 0 ^^^ turn 1 (sums.getD ((x + 1) % 5) 0)

/-- Turns every word and moves it to another place: to column `x` and row `y` comes the
word of column `x + 3 y` and row `x`. -/
def scatter (s : State) : State :=
  build fun x y => turn (turns.getD ((x + 3 * y) % 5 + 5 * x) 0) (word s (x + 3 * y) x)

/-- Combines each word with the two after it in its row. -/
def combine (s : State) : State :=
  build fun x y => word s x y ^^^ (~~~word s (x + 1) y &&& word s (x + 2) y)

/-- One round. -/
def step (s : State) (constant : UInt64) : State :=
  (combine (scatter (spread s))).modify 0 (· ^^^ constant)

/-- Mixes a state. -/
def mix (s : State) : State := roundConstants.foldl step s

/-- Soaks up a block. -/
def absorb (s : State) (block : Bytes) : State :=
  let words := ((Sha512.pieces 8 block).map fun bs => (numberOf bs.reverse).toUInt64).toArray
  mix (build fun x y => word s x y ^^^ words.getD (x + 5 * y) 0)

/-- The message in whole blocks. -/
def pad (rate : Nat) (message : Bytes) : Bytes :=
  let gap := rate - message.length % rate
  if gap = 1 then message ++ [0x9F]
  else message ++ 0x1F :: (List.replicate (gap - 2) 0 ++ [0x80])

/-- The bytes of a state. -/
def bytes (s : State) : Bytes := s.toList.flatMap fun w => (bytesOf 8 w.toNat).reverse

/-- The blocks that a state gives, mixed in between. -/
def squeeze (rate : Nat) : Nat → State → Bytes
  | 0, _ => []
  | blocks + 1, s => (bytes s).take rate ++ squeeze rate blocks (mix s)

/-- Some blocks of bytes for a message. -/
def stream (rate blocks : Nat) (message : Bytes) : Bytes :=
  squeeze rate blocks
    ((Sha512.pieces rate (pad rate message)).foldl absorb (Array.replicate 25 0))

/-- The rate of the variant with 128 bits of strength. -/
def rate128 : Nat := 168

/-- The rate of the variant with 256 bits of strength. -/
def rate256 : Nat := 136

end Shake
end Hash
end MailGateway
