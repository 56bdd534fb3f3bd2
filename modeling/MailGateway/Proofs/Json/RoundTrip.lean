/-
# What is written is read back

The written form of a string escapes byte by byte, and reading it takes the bytes
back one at a time (`readStringBytes_writeByte`); a control character goes through
four hexadecimal digits and the code point they stand for.  So every text is read
back (`readString_write`), and with it every record, with whatever follows
(`readRecord_writeRecord`).

For mails this is `Request.ofJson_toJson` and `Reply.ofJson_toJson`; the reply with
an empty error is written without its member and still read back.
-/

import MailGateway.Mail.Message

namespace MailGateway
namespace Json

theorem hexValue?_hexDigit : ∀ n, n < 16 → hexValue? (hexDigit n) = some n := by decide

theorem codePoint_of_lt : ∀ n, n < 0x20 → codePoint n = [n.toUInt8] := by decide

/-- The four digits of a control character. -/
theorem readHex4_control {b : UInt8} (h : b.toNat < 0x20) (r : Bytes) :
    readHex4 (0x30 :: 0x30 :: hexDigit (b.toNat / 16) :: hexDigit (b.toNat % 16) :: r)
      = .ok (b.toNat, r) := by
  have hzero : hexValue? 0x30 = some 0 := by decide
  have hhigh := hexValue?_hexDigit (b.toNat / 16) (by omega)
  have hlow := hexValue?_hexDigit (b.toNat % 16) (by omega)
  have hsum : ((0 * 16 + 0) * 16 + b.toNat / 16) * 16 + b.toNat % 16 = b.toNat := by omega
  simp only [readHex4, hzero, hhigh, hlow, hsum]

theorem readUnicode_control {b : UInt8} (h : b.toNat < 0x20) (r : Bytes) :
    readUnicode (0x30 :: 0x30 :: hexDigit (b.toNat / 16) :: hexDigit (b.toNat % 16) :: r)
      = .ok ([b], r) := by
  have hlow : isLowSurrogate b.toNat = false := by
    simp only [isLowSurrogate, Bool.and_eq_false_iff, decide_eq_false_iff_not]
    omega
  have hhigh : isHighSurrogate b.toNat = false := by
    simp only [isHighSurrogate, Bool.and_eq_false_iff, decide_eq_false_iff_not]
    omega
  have hpoint : codePoint b.toNat = [b] := by
    rw [codePoint_of_lt _ h]
    simp
  simp only [readUnicode, readHex4_control h, hlow, hhigh, hpoint, Bool.false_eq_true, ↓reduceIte]

theorem readEscape_short {e b : UInt8} (h : shortEscape? e = some b) (r : Bytes) :
    readEscape (e :: r) = .ok ([b], r) := by
  simp only [readEscape, h]

theorem readEscape_unicode (r : Bytes) : readEscape (0x75 :: r) = readUnicode r := by
  have h : shortEscape? 0x75 = none := by decide
  simp only [readEscape, h, ↓reduceIte]

theorem readStringBytes_quote (done r : Bytes) :
    readStringBytes done (0x22 :: r) = .ok (done.reverse, r) := by
  rw [readStringBytes, if_pos rfl]

theorem readStringBytes_escape {done e x r : Bytes} (h : readEscape e = .ok (x, r)) :
    readStringBytes done (0x5C :: e) = readStringBytes (x.reverse ++ done) r := by
  rw [readStringBytes, if_neg (by decide), if_pos rfl]
  split
  · next f hf => simp [h] at hf
  · next y t ht =>
    obtain ⟨rfl, rfl⟩ := Prod.mk.inj (Except.ok.inj (h.symm.trans ht))
    rfl

theorem readStringBytes_plain {done r : Bytes} {b : UInt8} (hq : b ≠ 0x22) (hs : b ≠ 0x5C)
    (hc : ¬b < 0x20) : readStringBytes done (b :: r) = readStringBytes (b :: done) r := by
  rw [readStringBytes, if_neg hq, if_neg hs, if_neg hc]

/-- **A written byte is read back**, whatever its escape. -/
theorem readStringBytes_writeByte (b : UInt8) (done rest : Bytes) :
    readStringBytes done (writeByte b ++ rest) = readStringBytes (b :: done) rest := by
  have short : ∀ {e : UInt8}, shortEscape? e = some b →
      readStringBytes done (0x5C :: e :: rest) = readStringBytes (b :: done) rest :=
    fun h => readStringBytes_escape (readEscape_short h rest)
  unfold writeByte
  split
  · next h => rcases h with rfl | rfl <;> exact short (by decide)
  split
  · next h => subst h; exact short (by decide)
  split
  · next h => subst h; exact short (by decide)
  split
  · next h => subst h; exact short (by decide)
  split
  · next h => subst h; exact short (by decide)
  split
  · next h => subst h; exact short (by decide)
  split
  · next h =>
    have hb : b.toNat < 0x20 := UInt8.lt_iff_toNat_lt.1 h
    exact readStringBytes_escape ((readEscape_unicode _).trans (readUnicode_control hb rest))
  · next hquote _ _ _ _ _ hcontrol =>
    rw [not_or] at hquote
    exact readStringBytes_plain hquote.1 hquote.2 hcontrol

theorem readStringBytes_write (bs done rest : Bytes) :
    readStringBytes done (bs.flatMap writeByte ++ 0x22 :: rest)
      = .ok (done.reverse ++ bs, rest) := by
  induction bs generalizing done with
  | nil => rw [List.flatMap_nil, List.nil_append, readStringBytes_quote, List.append_nil]
  | cons b bs ih =>
    rw [List.flatMap_cons, List.append_assoc, readStringBytes_writeByte, ih, List.reverse_cons,
      List.append_assoc, List.singleton_append]

/-- **Every text is read back**, behind its opening quote. -/
theorem readString_write (s : String) (rest : Bytes) :
    readString ((Utf8.encode s).flatMap writeByte ++ 0x22 :: rest) = .ok (s, rest) := by
  simp only [readString, readStringBytes_write, List.reverse_nil, List.nil_append,
    Utf8.decode?_encode]

theorem skipBlank_cons {b : UInt8} (h : isBlank b = false) (r : Bytes) :
    skipBlank (b :: r) = b :: r := by
  simp [skipBlank, h]

theorem skipBlank_blank {b : UInt8} (h : isBlank b = true) (r : Bytes) :
    skipBlank (b :: r) = skipBlank r := by
  simp [skipBlank, h]

theorem writeString_append (s : String) (rest : Bytes) :
    writeString s ++ rest = 0x22 :: ((Utf8.encode s).flatMap writeByte ++ 0x22 :: rest) := by
  simp [writeString]

theorem readText_writeString (s : String) (rest : Bytes) :
    readText (writeString s ++ rest) = .ok (s, rest) := by
  rw [writeString_append, readText, skipBlank_cons (by decide)]
  exact readString_write s rest

theorem nameStart_first (r : Bytes) : nameStart true (0x22 :: r) = .ok r := rfl

theorem colon_cons (r : Bytes) : colon (0x3A :: r) = .ok r := by
  rw [colon, skipBlank_cons (by decide)]
  rfl

/-- The member of a written record. -/
theorem readMember_write (field value : String) (rest : Bytes) :
    readMember field none true (writeString field ++ 0x3A :: (writeString value ++ rest))
      = .ok (some value, rest) := by
  rw [writeString_append, readMember, nameStart_first]
  simp only [bind, Except.bind, readString_write, ↓reduceIte, Option.isSome_none,
    Bool.false_eq_true, colon_cons, readText_writeString]
  rfl

theorem readMembers_close (field : String) (found : Option String) (first : Bool) (fuel : Nat)
    (rest : Bytes) :
    readMembers field (fuel + 1) found first (0x7D :: rest) = .ok (found, rest) := by
  rw [readMembers, skipBlank_cons (by decide)]
  rfl

theorem readMembers_write (field value : String) (fuel : Nat) (rest : Bytes) :
    readMembers field (fuel + 2) none true
        (writeString field ++ 0x3A :: (writeString value ++ 0x7D :: rest))
      = .ok (some value, rest) := by
  have hmember := readMember_write field value (0x7D :: rest)
  rw [writeString_append] at hmember ⊢
  rw [readMembers, skipBlank_cons (by decide)]
  split
  · next r h => simp at h
  · rw [hmember]
    exact readMembers_close field (some value) false fuel rest

/-- **A written record is read back**, and what follows is left. -/
theorem readRecord_writeRecord (shape : RecordShape) (value : String) (rest : Bytes) :
    readRecord shape (writeRecord shape value ++ rest) = .ok (value, rest) := by
  have hform : writeRecord shape value ++ rest
      = 0x7B :: (writeString shape.field ++ 0x3A :: (writeString value ++ 0x7D :: rest)) := by
    simp [writeRecord]
  obtain ⟨fuel, hfuel⟩ : ∃ fuel,
      (writeString shape.field ++ 0x3A :: (writeString value ++ 0x7D :: rest)).length + 1
        = fuel + 2 := by
    rw [writeString_append]
    exact ⟨_, rfl⟩
  rw [hform, readRecord, skipBlank_cons (by decide)]
  simp only [↓reduceIte, hfuel, readMembers_write]
  rfl

theorem parseRecord_of_readRecord {shape : RecordShape} {value : String} {bs : Bytes}
    (h : readRecord shape bs = .ok (value, [])) : parseRecord shape bs = .ok value := by
  rw [parseRecord, h]
  rfl

/-- **A written record is read back** as the whole input. -/
theorem parseRecord_writeRecord (shape : RecordShape) (value : String) :
    parseRecord shape (writeRecord shape value) = .ok value := by
  have h := readRecord_writeRecord shape value []
  rw [List.append_nil] at h
  exact parseRecord_of_readRecord h

/-- A record without its member has an empty field. -/
theorem parseRecord_braces (shape : RecordShape) : parseRecord shape [0x7B, 0x7D] = .ok "" :=
  rfl

end Json

namespace Mail

/-- **A request is read back from its compact text.** -/
theorem Request.ofJson_toJson (r : Request) : Request.ofJson r.toJson = .ok r := by
  rw [Request.ofJson, Request.toJson, Json.parseRecord_writeRecord]
  rfl

/-- **A reply is read back from its compact text**, also the one without a member. -/
theorem Reply.ofJson_toJson (r : Reply) : Reply.ofJson r.toJson = .ok r := by
  rw [Reply.ofJson, Reply.toJson]
  split
  · next h =>
    obtain ⟨error⟩ := r
    obtain rfl : error = "" := by simpa using h
    rw [Json.parseRecord_braces]
    rfl
  · rw [Json.parseRecord_writeRecord]
    rfl

end Mail
end MailGateway
