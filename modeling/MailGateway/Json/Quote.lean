/-
# Strings of a JSON text

Between the quotes a string is bytes: an escape stands for the bytes of its
character, every other byte for itself, and the whole must be UTF-8.

* `readString` reads behind the opening quote and gives the text.
* `skipString` only finds the closing quote: it checks the form of the escapes,
  and neither UTF-8 nor the pairing of surrogates.
* `writeString` is the shortest written form: the quote, the backslash and the
  control characters are escaped, nothing else is.
-/

import MailGateway.Json.Fault

namespace MailGateway
namespace Json

/-- The value of a hexadecimal digit of either case. -/
def hexValue? (b : UInt8) : Option Nat :=
  if 0x30 ≤ b && b ≤ 0x39 then some (b.toNat - 0x30)
  else if 0x61 ≤ b && b ≤ 0x66 then some (b.toNat - 0x61 + 10)
  else if 0x41 ≤ b && b ≤ 0x46 then some (b.toNat - 0x41 + 10)
  else none

/-- Four hexadecimal digits. -/
def readHex4 : Bytes → Except Fault (Nat × Bytes)
  | a :: b :: c :: d :: r =>
    match hexValue? a, hexValue? b, hexValue? c, hexValue? d with
    | some a, some b, some c, some d => .ok (((a * 16 + b) * 16 + c) * 16 + d, r)
    | _, _, _, _ => .error ⟨.invalidEscape, r, .whole⟩
  | _ => .error ⟨.endInString, [], .whole⟩

/-- The first half of a surrogate pair. -/
def isHighSurrogate (n : Nat) : Bool := 0xD800 ≤ n && n ≤ 0xDBFF

/-- The second half of a surrogate pair. -/
def isLowSurrogate (n : Nat) : Bool := 0xDC00 ≤ n && n ≤ 0xDFFF

/-- The bytes of a code point that is no surrogate. -/
def codePoint (n : Nat) : Bytes := String.utf8EncodeChar (Char.ofNat n)

/-- The code point of a surrogate pair. -/
def pairValue (high low : Nat) : Nat := 0x10000 + (high - 0xD800) * 0x400 + (low - 0xDC00)

/-- The second half of the pair that `high` opens: an escape of its own. -/
def readLowHalf (high : Nat) : Bytes → Except Fault (Bytes × Bytes)
  | [] => .error ⟨.endInString, [], .whole⟩
  | [b] =>
    if b = 0x5C then .error ⟨.endInString, [], .whole⟩ else .error ⟨.hexEscapeEnded, [], .whole⟩
  | b :: u :: r =>
    if b ≠ 0x5C then .error ⟨.hexEscapeEnded, u :: r, .whole⟩
    else if u ≠ 0x75 then .error ⟨.hexEscapeEnded, r, .whole⟩
    else
      match readHex4 r with
      | .error f => .error f
      | .ok (low, r) =>
        if isLowSurrogate low then .ok (codePoint (pairValue high low), r)
        else .error ⟨.loneSurrogate, r, .whole⟩

/-- The code point behind `\u`: four digits, or a pair of surrogates. -/
def readUnicode (bs : Bytes) : Except Fault (Bytes × Bytes) :=
  match readHex4 bs with
  | .error f => .error f
  | .ok (n, r) =>
    if isLowSurrogate n then .error ⟨.loneSurrogate, r, .whole⟩
    else if isHighSurrogate n then readLowHalf n r
    else .ok (codePoint n, r)

/-- The byte that a one-letter escape stands for. -/
def shortEscape? (b : UInt8) : Option UInt8 :=
  if b = 0x22 ∨ b = 0x5C ∨ b = 0x2F then some b
  else if b = 0x62 then some 0x08
  else if b = 0x66 then some 0x0C
  else if b = 0x6E then some 0x0A
  else if b = 0x72 then some 0x0D
  else if b = 0x74 then some 0x09
  else none

/-- Reads an escape behind its backslash. -/
def readEscape : Bytes → Except Fault (Bytes × Bytes)
  | [] => .error ⟨.endInString, [], .whole⟩
  | b :: r =>
    match shortEscape? b with
    | some x => .ok ([x], r)
    | none => if b = 0x75 then readUnicode r else .error ⟨.invalidEscape, r, .whole⟩

theorem readHex4_length {bs r : Bytes} {n : Nat} (h : readHex4 bs = .ok (n, r)) :
    r.length ≤ bs.length := by
  unfold readHex4 at h
  split at h
  · split at h
    · obtain ⟨rfl, rfl⟩ := Prod.mk.inj (Except.ok.inj h)
      simp; omega
    · simp at h
  · simp at h

theorem readLowHalf_length {n : Nat} {bs x r : Bytes} (h : readLowHalf n bs = .ok (x, r)) :
    r.length ≤ bs.length := by
  unfold readLowHalf at h
  split at h
  · simp at h
  · split at h <;> simp at h
  · split at h
    · simp at h
    · split at h
      · simp at h
      · split at h
        · simp at h
        · next h₁ =>
          have := readHex4_length h₁
          split at h
          · obtain ⟨rfl, rfl⟩ := Prod.mk.inj (Except.ok.inj h)
            simp only [List.length_cons]
            omega
          · simp at h

theorem readUnicode_length {bs x r : Bytes} (h : readUnicode bs = .ok (x, r)) :
    r.length ≤ bs.length := by
  unfold readUnicode at h
  split at h
  · simp at h
  · next h₁ =>
    have := readHex4_length h₁
    split at h
    · simp at h
    · split at h
      · have := readLowHalf_length h
        omega
      · obtain ⟨rfl, rfl⟩ := Prod.mk.inj (Except.ok.inj h)
        assumption

theorem readEscape_length {bs x r : Bytes} (h : readEscape bs = .ok (x, r)) :
    r.length < bs.length := by
  unfold readEscape at h
  split at h
  · simp at h
  · split at h
    · obtain ⟨rfl, rfl⟩ := Prod.mk.inj (Except.ok.inj h)
      simp
    · split at h
      · have := readUnicode_length h
        simp; omega
      · simp at h

/-- Reads up to the closing quote; `done` holds the bytes read so far, last first. -/
def readStringBytes (done bs : Bytes) : Except Fault (Bytes × Bytes) :=
  match bs with
  | [] => .error ⟨.endInString, [], .whole⟩
  | b :: r =>
    if b = 0x22 then .ok (done.reverse, r)
    else if b = 0x5C then
      match h : readEscape r with
      | .error f => .error f
      | .ok (x, r') =>
        have : r'.length < r.length := readEscape_length h
        readStringBytes (x.reverse ++ done) r'
    else if b < 0x20 then .error ⟨.controlCharacter, r, .whole⟩
    else readStringBytes (b :: done) r
termination_by bs.length
decreasing_by all_goals (simp_wf; try omega)

/-- Reads a string behind its opening quote.  A fault in the bytes `x` that it stands for is
sought as far before the closing quote as it lies before the end of these bytes. -/
def readString (bs : Bytes) : Except Fault (String × Bytes) :=
  match readStringBytes [] bs with
  | .error f => .error f
  | .ok (x, r) =>
    match Utf8.decode? x with
    | some s => .ok (s, r)
    | none =>
      let written := bs.length - r.length - 1
      .error (.ahead .invalidCodePoint (bs.drop (written - x.length + Utf8.validLength x)))

/-- Finds the closing quote of a string whose text is not wanted. -/
def skipString (bs : Bytes) : Except Fault Bytes :=
  match bs with
  | [] => .error ⟨.endInString, [], .whole⟩
  | b :: r =>
    if b = 0x22 then .ok r
    else if b = 0x5C then
      match r with
      | [] => .error ⟨.endInString, [], .whole⟩
      | e :: r =>
        if (shortEscape? e).isSome then skipString r
        else if e = 0x75 then
          match h : readHex4 r with
          | .error f => .error f
          | .ok (_, r') =>
            have : r'.length ≤ r.length := readHex4_length h
            skipString r'
        else .error ⟨.invalidEscape, r, .whole⟩
    else if b < 0x20 then .error ⟨.controlCharacter, bs, .whole⟩
    else skipString r
termination_by bs.length
decreasing_by all_goals (simp_wf; try omega)

/-- The lower-case hexadecimal digit of a value below sixteen. -/
def hexDigit (n : Nat) : UInt8 := if n < 10 then (0x30 + n).toUInt8 else (0x61 + (n - 10)).toUInt8

/-- The written form of one byte of a string. -/
def writeByte (b : UInt8) : Bytes :=
  if b = 0x22 ∨ b = 0x5C then [0x5C, b]
  else if b = 0x08 then [0x5C, 0x62]
  else if b = 0x0C then [0x5C, 0x66]
  else if b = 0x0A then [0x5C, 0x6E]
  else if b = 0x0D then [0x5C, 0x72]
  else if b = 0x09 then [0x5C, 0x74]
  else if b < 0x20 then
    [0x5C, 0x75, 0x30, 0x30, hexDigit (b.toNat / 16), hexDigit (b.toNat % 16)]
  else [b]

/-- The written form of a text, with its quotes. -/
def writeString (s : String) : Bytes := 0x22 :: ((Utf8.encode s).flatMap writeByte ++ [0x22])

end Json
end MailGateway
