/-
# The shortest written form of a record

A record has many written forms: lengths may be padded with empty groups of seven
bits, the text may come several times, and fields of other tags may stand between.
`writeRecord` gives one of them.

* `parseRecord_writeRecord`: it is read back, as long as the length of the text fits
  64 bits.
* `length_writeRecord_le`: no form that is read as the same text is shorter.

The second statement needs that reading never lengthens what is left, down to the
skipped fields (`skipField_length`), and that a padded number is no shorter than the
written one (`length_writeVarint_le`).
-/

import MailGateway.Protobuf.Record
import MailGateway.Text.Octets

namespace MailGateway
namespace Protobuf

theorem writeVarint_of_lt {n : Nat} (h : n < 128) : writeVarint n = [n.toUInt8] := by
  rw [writeVarint, if_pos h]

theorem writeVarint_of_ge {n : Nat} (h : 128 ≤ n) :
    writeVarint n = (n % 128 + 128).toUInt8 :: writeVarint (n / 128) := by
  rw [writeVarint, if_neg (by omega)]

/-- A byte below 128 ends a number; in the last of the places it must be 0 or 1. -/
theorem readVarintIn_last {k : Nat} {b : UInt8} {r : Bytes} (hb : b.toNat < 128)
    (hk : k = 0 → b.toNat < 2) : readVarintIn (k + 1) (b :: r) = some (b.toNat, r) := by
  have h₁ : b < 0x80 := UInt8.lt_iff_toNat_lt.2 hb
  have h₂ : ¬(k = 0 ∧ 2 ≤ b) := by
    rintro ⟨h, hle⟩
    have := hk h
    have : 2 ≤ b.toNat := UInt8.le_iff_toNat_le.1 hle
    omega
  rw [readVarintIn, if_pos h₁, if_neg h₂]

/-- A byte from 128 on contributes its low seven bits. -/
theorem readVarintIn_more {k : Nat} {b : UInt8} {r : Bytes} (hb : 128 ≤ b.toNat) :
    readVarintIn (k + 1) (b :: r)
      = (readVarintIn k r).map fun (m, r) => (b.toNat - 128 + 128 * m, r) := by
  have h : ¬b < 0x80 := by
    intro h
    have : b.toNat < 128 := UInt8.lt_iff_toNat_lt.1 h
    omega
  rw [readVarintIn, if_neg h]

/-- `k + 1` places hold `7 * k + 1` bits: the last place has room for one. -/
theorem readVarintIn_writeVarint (k n : Nat) (h : n < 2 ^ (7 * k + 1)) (rest : Bytes) :
    readVarintIn (k + 1) (writeVarint n ++ rest) = some (n, rest) := by
  induction k generalizing n with
  | zero =>
    have hn : n < 2 := by simpa using h
    have hb : n.toUInt8.toNat = n := toNat_toUInt8 (by omega)
    rw [writeVarint_of_lt (by omega), List.singleton_append,
      readVarintIn_last (by omega) (by omega), hb]
  | succ k ih =>
    rcases Nat.lt_or_ge n 128 with hn | hn
    · have hb : n.toUInt8.toNat = n := toNat_toUInt8 (by omega)
      rw [writeVarint_of_lt hn, List.singleton_append,
        readVarintIn_last (by omega) (by omega), hb]
    · have hb : (n % 128 + 128).toUInt8.toNat = n % 128 + 128 := toNat_toUInt8 (by omega)
      have hdiv : n / 128 < 2 ^ (7 * k + 1) := by
        rw [Nat.div_lt_iff_lt_mul (by omega)]
        calc n < 2 ^ (7 * (k + 1) + 1) := h
          _ = 2 ^ (7 * k + 1) * 128 := by rw [show 7 * (k + 1) + 1 = 7 * k + 1 + 7 by omega,
            Nat.pow_add]
      have hsum : (n % 128 + 128).toUInt8.toNat - 128 + 128 * (n / 128) = n := by omega
      rw [writeVarint_of_ge hn, List.cons_append, readVarintIn_more (by omega), ih _ hdiv]
      simp only [Option.map_some, hsum]

/-- **A number of 64 bits is read back.** -/
theorem readVarint?_writeVarint {n : Nat} (h : n < 2 ^ 64) (rest : Bytes) :
    readVarint? (writeVarint n ++ rest) = some (n, rest) :=
  readVarintIn_writeVarint 9 n h rest

/-- **No written form of a number is shorter than the one that is written.** -/
theorem length_writeVarint_le {k n : Nat} {bs r : Bytes} (h : readVarintIn k bs = some (n, r)) :
    (writeVarint n).length + r.length ≤ bs.length := by
  induction k generalizing bs n with
  | zero => simp [readVarintIn] at h
  | succ k ih =>
    cases bs with
    | nil => simp [readVarintIn] at h
    | cons b t =>
      rcases Nat.lt_or_ge b.toNat 128 with hb | hb
      · rw [readVarintIn, if_pos (UInt8.lt_iff_toNat_lt.2 hb)] at h
        split at h
        · simp at h
        · obtain ⟨rfl, rfl⟩ := Prod.mk.inj (Option.some.inj h)
          rw [writeVarint_of_lt hb, List.length_singleton, List.length_cons]
          omega
      · rw [readVarintIn_more hb] at h
        obtain ⟨⟨m, r'⟩, hm, hmr⟩ := Option.map_eq_some_iff.1 h
        obtain ⟨rfl, rfl⟩ := Prod.mk.inj hmr
        have hlen := ih hm
        have hb' := b.toNat_lt
        rw [List.length_cons]
        rcases Nat.lt_or_ge (b.toNat - 128 + 128 * m) 128 with hn | hn
        · rw [writeVarint_of_lt hn, List.length_singleton]
          omega
        · have hdiv : (b.toNat - 128 + 128 * m) / 128 = m := by omega
          rw [writeVarint_of_ge hn, hdiv, List.length_cons]
          omega

theorem readNumber_writeVarint {n : Nat} (h : n < 2 ^ 64) (rest : Bytes) :
    readNumber (writeVarint n ++ rest) = .ok (n, rest) := by
  rw [readNumber, readVarint?_writeVarint h]

theorem readNumber_length {n : Nat} {bs r : Bytes} (h : readNumber bs = .ok (n, r)) :
    (writeVarint n).length + r.length ≤ bs.length := by
  unfold readNumber at h
  split at h
  · next p hp =>
    obtain rfl := Except.ok.inj h
    exact length_writeVarint_le hp
  · simp at h

theorem length_writeVarint_pos (n : Nat) : 0 < (writeVarint n).length := by
  rw [writeVarint]
  split <;> simp

theorem takeBytes_append (x rest : Bytes) : takeBytes x.length (x ++ rest) = .ok (x, rest) := by
  rw [takeBytes, if_pos (by simp), List.take_left, List.drop_left]

theorem takeBytes_length {n : Nat} {bs x r : Bytes} (h : takeBytes n bs = .ok (x, r)) :
    x.length = n ∧ n + r.length = bs.length := by
  unfold takeBytes at h
  split at h
  · obtain ⟨rfl, rfl⟩ := Prod.mk.inj (Except.ok.inj h)
    simp only [List.length_take, List.length_drop]
    omega
  · simp at h

theorem readDelimited_write {x : Bytes} (h : x.length < 2 ^ 64) (rest : Bytes) :
    readDelimited (writeVarint x.length ++ (x ++ rest)) = .ok (x, rest) := by
  rw [readDelimited, readNumber_writeVarint h]
  exact takeBytes_append x rest

theorem readDelimited_length {bs x r : Bytes} (h : readDelimited bs = .ok (x, r)) :
    (writeVarint x.length).length + x.length + r.length ≤ bs.length := by
  unfold readDelimited at h
  split at h
  · simp at h
  · next n t hn =>
    obtain ⟨hx, hr⟩ := takeBytes_length h
    have := readNumber_length hn
    rw [hx]
    omega

theorem readKey_length {tag : Nat} {wire : WireType} {bs r : Bytes}
    (h : readKey bs = .ok ((tag, wire), r)) : r.length < bs.length := by
  unfold readKey at h
  split at h
  · simp at h
  · next key t hkey =>
    have hlen := readNumber_length hkey
    have hpos := length_writeVarint_pos key
    split at h
    · simp at h
    split at h
    · simp at h
    split at h
    · simp at h
    obtain ⟨-, rfl⟩ := Prod.mk.inj (Except.ok.inj h)
    omega

theorem map_snd_eq_ok {α : Type} {x : Except Cause (α × Bytes)} {r : Bytes}
    (h : x.map (·.2) = .ok r) : ∃ a, x = .ok (a, r) := by
  cases x with
  | error c => simp [Except.map] at h
  | ok p => exact ⟨p.1, by obtain rfl := Except.ok.inj h; rfl⟩

/-- Skipping a group does not lengthen what is left, if skipping a value does not. -/
theorem skipGroup_length {skip : WireType → Nat → Bytes → Except Cause Bytes}
    (hskip : ∀ wire tag bs r, skip wire tag bs = .ok r → r.length ≤ bs.length) {tag fuel : Nat}
    {bs r : Bytes} (h : skipGroup skip tag fuel bs = .ok r) : r.length ≤ bs.length := by
  induction fuel generalizing bs with
  | zero => simp [skipGroup] at h
  | succ fuel ih =>
    unfold skipGroup at h
    split at h
    · simp at h
    · next inner wire t hkey =>
      have hlt := readKey_length hkey
      split at h
      · split at h
        · obtain rfl := Except.ok.inj h
          omega
        · simp at h
      · split at h
        · simp at h
        · next t' hs =>
          have := hskip _ _ _ _ hs
          have := ih h
          omega

/-- Skipping a value does not lengthen what is left; the induction is on the groups that may
still open. -/
theorem skipField_length {depth : Nat} : ∀ {wire : WireType} {tag : Nat} {bs r : Bytes},
    skipField depth wire tag bs = .ok r → r.length ≤ bs.length := by
  induction depth with
  | zero => intro _ _ _ _ h; simp [skipField] at h
  | succ depth ih =>
    intro wire tag bs r h
    cases wire with
    | varint =>
      obtain ⟨n, hn⟩ := map_snd_eq_ok h
      have := readNumber_length hn
      omega
    | sixtyFourBit =>
      obtain ⟨x, hx⟩ := map_snd_eq_ok h
      have := takeBytes_length hx
      omega
    | thirtyTwoBit =>
      obtain ⟨x, hx⟩ := map_snd_eq_ok h
      have := takeBytes_length hx
      omega
    | lengthDelimited =>
      obtain ⟨x, hx⟩ := map_snd_eq_ok h
      have := readDelimited_length hx
      omega
    | endGroup => simp [skipField] at h
    | startGroup => exact skipGroup_length (fun _ _ _ _ => ih) h

/-- The written form of the text field. -/
def writeField (text : String) : Bytes :=
  0x0A :: (writeVarint (Utf8.size text) ++ Utf8.encode text)

theorem writeRecord_of_ne_empty {text : String} (h : text ≠ "") :
    writeRecord text = writeField text := by
  rw [writeRecord, if_neg (by simpa using h)]
  rfl

@[simp] theorem writeRecord_empty : writeRecord "" = [] := rfl

theorem length_writeField (text : String) :
    (writeField text).length = 1 + (writeVarint (Utf8.size text)).length + Utf8.size text := by
  rw [writeField, List.length_cons, List.length_append, Utf8.length_encode]
  omega

theorem length_writeRecord_le_writeField (text : String) :
    (writeRecord text).length ≤ (writeField text).length := by
  by_cases h : text = ""
  · simp [h]
  · exact Nat.le_of_eq (congrArg _ (writeRecord_of_ne_empty h))

theorem size_le_length_writeRecord (text : String) :
    Utf8.size text ≤ (writeRecord text).length := by
  by_cases h : text = ""
  · simp [h, Utf8.size]
  · rw [writeRecord_of_ne_empty h, length_writeField]
    omega

/-- The key of the text field: tag 1, and a length in front of the value. -/
theorem readKey_text (r : Bytes) : readKey (0x0A :: r) = .ok ((1, .lengthDelimited), r) := by
  have h : readVarint? (0x0A :: r) = some (10, r) := readVarintIn_last (by decide) (by decide)
  rw [readKey, readNumber, h]
  rfl

theorem readText_write {text : String} (h : Utf8.size text < 2 ^ 64) (rest : Bytes) :
    readText .lengthDelimited (writeVarint (Utf8.size text) ++ (Utf8.encode text ++ rest))
      = .ok (text, rest) := by
  rw [← Utf8.length_encode] at h ⊢
  rw [readText, if_neg (by simp), readDelimited_write h]
  simp only [Utf8.decode?_encode]

theorem readField_writeField {text : String} (h : Utf8.size text < 2 ^ 64) (rest : Bytes) :
    readField (writeField text ++ rest) = .ok (some text, rest) := by
  rw [writeField, List.cons_append, List.append_assoc, readField, readKey_text]
  simp only [↓reduceIte, readText_write h]

/-- **The written record is read back.** -/
theorem parseRecord_writeRecord {text : String} (h : Utf8.size text < 2 ^ 64) :
    parseRecord (writeRecord text) = .ok text := by
  by_cases he : text = ""
  · subst he
    rfl
  · have hfield := readField_writeField h []
    rw [List.append_nil] at hfield
    rw [writeRecord_of_ne_empty he, parseRecord]
    rw [writeField] at hfield ⊢
    rw [List.length_cons, readFields, hfield]
    simp only [Option.getD_some, readFields]

theorem parseRecord_writeRecord_of_length {text : String}
    (h : (writeRecord text).length < 2 ^ 64) : parseRecord (writeRecord text) = .ok text :=
  parseRecord_writeRecord (Nat.lt_of_le_of_lt (size_le_length_writeRecord text) h)

theorem readText_length {wire : WireType} {text : String} {bs r : Bytes}
    (h : readText wire bs = .ok (text, r)) :
    (writeVarint (Utf8.size text)).length + Utf8.size text + r.length ≤ bs.length := by
  unfold readText at h
  split at h
  · simp at h
  split at h
  · simp at h
  · next x t hx =>
    split at h
    · next s hs =>
      obtain ⟨rfl, rfl⟩ := Prod.mk.inj (Except.ok.inj h)
      have := readDelimited_length hx
      obtain rfl := (Utf8.encode_of_decode? hs).symm
      rwa [Utf8.length_encode] at this
    · simp at h

/-- A field that sets the text is at least as long as the written one, and every field
shortens what is left. -/
theorem readField_length {found : Option String} {bs r : Bytes}
    (h : readField bs = .ok (found, r)) :
    r.length < bs.length ∧ ∀ text ∈ found, (writeField text).length + r.length ≤ bs.length := by
  unfold readField at h
  split at h
  · simp at h
  · next tag wire t hkey =>
    have hlt := readKey_length hkey
    split at h
    · split at h
      · simp at h
      · next s t' hs =>
        obtain ⟨rfl, rfl⟩ := Prod.mk.inj (Except.ok.inj h)
        have hlen := readText_length hs
        refine ⟨by omega, fun text htext => ?_⟩
        obtain rfl := Option.some.inj htext
        rw [length_writeField]
        omega
    · split at h
      · simp at h
      · next t' hs =>
        obtain ⟨rfl, rfl⟩ := Prod.mk.inj (Except.ok.inj h)
        have := skipField_length hs
        exact ⟨by omega, fun _ h => absurd h (by simp)⟩

/-- What is read behind the text so far is that text or was written at full length. -/
theorem readFields_length {fuel : Nat} {text s : String} {bs : Bytes}
    (h : readFields fuel text bs = .ok s) : s = text ∨ (writeField s).length ≤ bs.length := by
  induction fuel generalizing text bs with
  | zero =>
    cases bs with
    | nil => exact .inl (Except.ok.inj h).symm
    | cons b r => simp [readFields] at h
  | succ fuel ih =>
    cases bs with
    | nil => exact .inl (Except.ok.inj h).symm
    | cons b r =>
      rw [readFields] at h
      split at h
      · simp at h
      · next found rest hfield =>
        obtain ⟨hlt, hle⟩ := readField_length hfield
        rcases ih h with hs | hs
        · cases found with
          | none => exact .inl hs
          | some t =>
            have hst : s = t := hs
            have := hle t rfl
            rw [hst]
            exact .inr (by omega)
        · exact .inr (by omega)

/-- **The written record is the shortest one with its text.** -/
theorem length_writeRecord_le {bs : Bytes} {text : String} (h : parseRecord bs = .ok text) :
    (writeRecord text).length ≤ bs.length := by
  rcases readFields_length h with rfl | hlen
  · simp
  · exact Nat.le_trans (length_writeRecord_le_writeField text) hlen

end Protobuf
end MailGateway
