/-
# SHA-512

The message is padded with a one bit, zeros and its length in bits to whole blocks of 128
bytes.  Each block is mixed into a state of eight words in eighty rounds.  The constants
are the first 64 bits behind the point of roots of the first primes: square roots for the
state at the start, cube roots for the rounds.
-/

import MailGateway.Text.Octets

namespace MailGateway
namespace Hash
namespace Sha512

/-- The largest number whose power is at most `n`, from its bits below `bit` on. -/
def rootFrom (exponent n : Nat) : Nat → Nat → Nat
  | 0, r => r
  | bit + 1, r =>
    let next := r + 2 ^ bit
    rootFrom exponent n bit (if next ^ exponent ≤ n then next else r)

/-- The first 64 bits behind the point of a root of a number below `2 ^ 10`. -/
def rootBits (exponent n : Nat) : UInt64 :=
  (rootFrom exponent (n * 2 ^ (64 * exponent)) 70 0).toUInt64

/-- Primes below 410; there are eighty. -/
def primes : List Nat :=
  (List.range 410).filter fun n => 2 ≤ n && (List.range n).all fun d => d < 2 || n % d ≠ 0

/-- The constants of the rounds. -/
def roundConstants : List UInt64 := primes.map (rootBits 3)

/-- Eight words. -/
structure State where
  a : UInt64
  b : UInt64
  c : UInt64
  d : UInt64
  e : UInt64
  f : UInt64
  g : UInt64
  h : UInt64
  deriving DecidableEq, Repr, Inhabited

/-- The state at the start. -/
def start : State :=
  match primes.map (rootBits 2) with
  | a :: b :: c :: d :: e :: f :: g :: h :: _ => ⟨a, b, c, d, e, f, g, h⟩
  | _ => default

/-- Turns a word to the right. -/
def turn (n x : UInt64) : UInt64 := (x >>> n) ||| (x <<< (64 - n))

/-- One round. -/
def State.step (s : State) (k w : UInt64) : State :=
  let choice := (s.e &&& s.f) ^^^ (~~~s.e &&& s.g)
  let majority := (s.a &&& s.b) ^^^ (s.a &&& s.c) ^^^ (s.b &&& s.c)
  let t := s.h + (turn 14 s.e ^^^ turn 18 s.e ^^^ turn 41 s.e) + choice + k + w
  let u := (turn 28 s.a ^^^ turn 34 s.a ^^^ turn 39 s.a) + majority
  ⟨t + u, s.a, s.b, s.c, s.d + t, s.e, s.f, s.g⟩

/-- Adds states word by word. -/
def State.plus (s t : State) : State :=
  ⟨s.a + t.a, s.b + t.b, s.c + t.c, s.d + t.d, s.e + t.e, s.f + t.f, s.g + t.g, s.h + t.h⟩

/-- Puts a number of further words in front of words, the last of which stands in front. -/
def schedule : Nat → List UInt64 → List UInt64
  | 0, ws => ws
  | n + 1, ws =>
    let x := ws.getD 14 0
    let y := ws.getD 1 0
    let w := (turn 19 y ^^^ turn 61 y ^^^ (y >>> 6)) + ws.getD 6 0
      + (turn 1 x ^^^ turn 8 x ^^^ (x >>> 7)) + ws.getD 15 0
    schedule n (w :: ws)

/-- Cuts bytes into pieces of a length. -/
def pieces (length : Nat) (bs : Bytes) : List Bytes :=
  (List.range (bs.length / length)).map fun i => (bs.drop (i * length)).take length

/-- Mixes a block into a state. -/
def mix (s : State) (block : Bytes) : State :=
  let words := (schedule 64 ((pieces 8 block).map fun bs => (numberOf bs).toUInt64).reverse).reverse
  s.plus ((roundConstants.zip words).foldl (fun s kw => s.step kw.1 kw.2) s)

/-- The message in whole blocks. -/
def pad (message : Bytes) : Bytes :=
  let zeros := (239 - message.length % 128) % 128
  message ++ 0x80 :: (List.replicate zeros 0 ++ bytesOf 16 (8 * message.length))

/-- The bytes of a state. -/
def State.bytes (s : State) : Bytes :=
  [s.a, s.b, s.c, s.d, s.e, s.f, s.g, s.h].flatMap fun w => bytesOf 8 w.toNat

/-- The digest of a message. -/
def digest (message : Bytes) : Bytes := ((pieces 128 (pad message)).foldl mix start).bytes

end Sha512
end Hash
end MailGateway
