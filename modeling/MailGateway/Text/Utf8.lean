/-
# UTF-8

Text travels as bytes.  `Utf8.encode` writes a text, `Utf8.decode?` reads the
bytes back and refuses everything that is not well formed: continuation bytes
without a head, overlong forms, surrogates, values past `U+10FFFF`.

* `decode?_encode`: what is written is read back.
* `decode?_eq_some_iff`: a text has one written form, so reading accepts
  exactly what writing produces.

`Utf8.validLength` counts the bytes before the first malformed character; it
places a fault inside a longer input.
-/

namespace MailGateway

/-- Octets, in order. -/
abbrev Bytes := List UInt8

namespace Utf8

/-- The bytes of a text. -/
def encode (s : String) : Bytes := s.toUTF8.data.toList

/-- The text that the bytes are the written form of. -/
def decode? (bs : Bytes) : Option String := String.fromUTF8? ⟨bs.toArray⟩

/-- The number of bytes of a text. -/
def size (s : String) : Nat := s.utf8ByteSize

theorem decode?_encode (s : String) : decode? (encode s) = some s := by
  unfold decode? encode String.fromUTF8?
  rw [Array.toArray_toList, String.toUTF8_eq_toByteArray, dif_pos s.isValidUTF8]
  rfl

theorem encode_of_decode? {bs : Bytes} {s : String} (h : decode? bs = some s) : encode s = bs := by
  unfold decode? String.fromUTF8? at h
  split at h
  · obtain rfl := Option.some.inj h
    simp [encode, String.toUTF8, String.fromUTF8]
  · simp at h

theorem decode?_eq_some_iff {bs : Bytes} {s : String} : decode? bs = some s ↔ bs = encode s :=
  ⟨fun h => (encode_of_decode? h).symm, fun h => h ▸ decode?_encode s⟩

theorem length_encode (s : String) : (encode s).length = size s := by
  rw [encode, Array.length_toList, String.toUTF8_eq_toByteArray]
  rfl

/-- The bytes of an ASCII text that is written down in the program. -/
def ascii (s : String) : Bytes := encode s

/-- A continuation byte. -/
def isTail (b : UInt8) : Bool := 0x80 ≤ b && b < 0xC0

/-- The length of the character at the front, `none` where the front is no
character.  The second byte carries the bounds that shut out overlong forms,
surrogates and values past the last code point. -/
def headLength? : Bytes → Option Nat
  | [] => none
  | a :: r =>
    if a < 0x80 then some 1
    else if a < 0xC2 then none
    else if a < 0xE0 then
      match r with
      | b :: _ => if isTail b then some 2 else none
      | _ => none
    else if a < 0xF0 then
      match r with
      | b :: c :: _ =>
        let low : UInt8 := if a = 0xE0 then 0xA0 else 0x80
        let high : UInt8 := if a = 0xED then 0x9F else 0xBF
        if low ≤ b && b ≤ high && isTail c then some 3 else none
      | _ => none
    else if a < 0xF5 then
      match r with
      | b :: c :: d :: _ =>
        let low : UInt8 := if a = 0xF0 then 0x90 else 0x80
        let high : UInt8 := if a = 0xF4 then 0x8F else 0xBF
        if low ≤ b && b ≤ high && isTail c && isTail d then some 4 else none
      | _ => none
    else none

/-- Scans characters, counting their bytes; `skip` bytes still belong to the
character before. -/
def validLengthFrom (count skip : Nat) : Bytes → Nat
  | [] => count
  | a :: r =>
    match skip with
    | k + 1 => validLengthFrom (count + 1) k r
    | 0 =>
      match headLength? (a :: r) with
      | none => count
      | some n => validLengthFrom (count + 1) (n - 1) r

/-- How many bytes stand before the first malformed character. -/
def validLength (bs : Bytes) : Nat := validLengthFrom 0 0 bs

end Utf8
end MailGateway
