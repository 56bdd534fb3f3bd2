/-
# Strings of a JSON text

The readers of strings work on bytes, and the grammar on characters.  On the bytes of a text
both readers take exactly the strings of the grammar: the one that finds the closing quote all
of them (`skipString_eq_ok_iff`), and the one that reads the text those that denote characters,
which it gives (`readString_eq_ok_iff`).

Both go character by character.  The bytes of a character outside ASCII pass as they are.  An
escape stands for the bytes of one character, and that is a unit of UTF-16 or two of them
(`units_of_ge`, `units_pairValue`).
-/

import Mathlib.Tactic.SplitIfs
import MailGateway.Proofs.Json.Grammar
import MailGateway.Proofs.Json.RoundTrip
import MailGateway.Proofs.Text.Utf8

namespace MailGateway
namespace Json

open Utf8 (Ascii ofChars)

variable {c : Char} {b : UInt8} {cs rest : List Char} {r : Bytes}

/-! ### Escapes -/

theorem shortEscape?_of_mem {e : Char} (h : (e, c) ∈ shortEscapes) :
    ∃ b x, Ascii e b ∧ Ascii c x ∧ shortEscape? b = some x := by
  have hall : ∀ p ∈ shortEscapes, Ascii p.1 p.1.toNat.toUInt8 ∧ Ascii p.2 p.2.toNat.toUInt8 ∧
      shortEscape? p.1.toNat.toUInt8 = some p.2.toNat.toUInt8 := by decide
  exact ⟨_, _, hall _ h⟩

theorem mem_of_shortEscape? {x : UInt8} (h : shortEscape? b = some x) :
    ∃ e c, Ascii e b ∧ Ascii c x ∧ (e, c) ∈ shortEscapes := by
  unfold shortEscape? at h
  split_ifs at h with hself hb hf hn hr ht
  · obtain rfl := Option.some.inj h
    rcases hself with rfl | rfl | rfl
    · exact ⟨'"', '"', by decide, by decide, by decide⟩
    · exact ⟨'\\', '\\', by decide, by decide, by decide⟩
    · exact ⟨'/', '/', by decide, by decide, by decide⟩
  · obtain rfl := Option.some.inj h
    exact ⟨'b', '\x08', by subst hb; decide, by decide, by decide⟩
  · obtain rfl := Option.some.inj h
    exact ⟨'f', '\x0c', by subst hf; decide, by decide, by decide⟩
  · obtain rfl := Option.some.inj h
    exact ⟨'n', '\n', by subst hn; decide, by decide, by decide⟩
  · obtain rfl := Option.some.inj h
    exact ⟨'r', '\r', by subst hr; decide, by decide, by decide⟩
  · obtain rfl := Option.some.inj h
    exact ⟨'t', '\t', by subst ht; decide, by decide, by decide⟩

theorem hexValue?_of_ascii (h : Ascii c b) : hexValue? b = Numeral.hexadecimal? c := by
  refine h.of_forall (p := fun c b => hexValue? b = Numeral.hexadecimal? c) ?_
  decide

theorem lt_of_hexValue? {n : Nat} (h : hexValue? b = some n) : b < 0x80 := by
  have hall : ∀ n, n < 256 → (hexValue? n.toUInt8).isSome = true → n < 0x80 := by decide +kernel
  rw [UInt8.lt_iff_toNat_lt]
  refine hall b.toNat b.toNat_lt ?_
  rw [show b.toNat.toUInt8 = b from UInt8.ofNat_toNat, h]
  rfl

theorem ascii_of_hexadecimal? {k : Nat} (h : Numeral.hexadecimal? c = some k) :
    Ascii c c.toNat.toUInt8 ∧ k < 16 := by
  have hletters : '9'.val.toNat = 57 ∧ 'F'.val.toNat = 70 ∧ 'f'.val.toNat = 102 ∧
    '0'.val.toNat = 48 ∧ 'A'.val.toNat = 65 ∧ 'a'.val.toNat = 97 := by decide
  have hval : c.toNat = c.val.toNat := rfl
  unfold Numeral.hexadecimal? at h
  simp only [Char.le_def, UInt32.le_iff_toNat_le, Char.toNat] at h
  split_ifs at h
  all_goals
    have hk := Option.some.inj h
    exact ⟨Utf8.ascii_toUInt8 (by omega), by omega⟩

/-- Four hexadecimal digits. -/
theorem digits?_four {w x y z : Char} {n : Nat} :
    Numeral.digits? Numeral.hexadecimal? 16 [w, x, y, z] = some n ↔
      ∃ kw kx ky kz, Numeral.hexadecimal? w = some kw ∧ Numeral.hexadecimal? x = some kx ∧
        Numeral.hexadecimal? y = some ky ∧ Numeral.hexadecimal? z = some kz ∧
        ((kw * 16 + kx) * 16 + ky) * 16 + kz = n := by
  simp only [Numeral.digits?, Numeral.digitsFrom]
  cases Numeral.hexadecimal? w <;> cases Numeral.hexadecimal? x <;>
    cases Numeral.hexadecimal? y <;> cases Numeral.hexadecimal? z <;> simp

theorem lt_of_digits?_four {w x y z : Char} {n : Nat}
    (h : Numeral.digits? Numeral.hexadecimal? 16 [w, x, y, z] = some n) : n < 0x10000 := by
  obtain ⟨kw, kx, ky, kz, hw, hx, hy, hz, rfl⟩ := digits?_four.1 h
  have := (ascii_of_hexadecimal? hw).2
  have := (ascii_of_hexadecimal? hx).2
  have := (ascii_of_hexadecimal? hy).2
  have := (ascii_of_hexadecimal? hz).2
  omega

/-- Four hexadecimal digits are read as the number that they are. -/
theorem readHex4_eq_ok_iff {n : Nat} : readHex4 (ofChars cs) = .ok (n, r) ↔
    ∃ w x y z rest, cs = w :: x :: y :: z :: rest ∧ r = ofChars rest ∧
      Numeral.digits? Numeral.hexadecimal? 16 [w, x, y, z] = some n := by
  constructor
  · intro h
    unfold readHex4 at h
    split at h
    · next w x y z t hbytes =>
      split at h
      · next kw kx ky kz hw hx hy hz =>
        obtain ⟨rfl, rfl⟩ := Prod.mk.inj (Except.ok.inj h)
        obtain ⟨cw, t₁, haw, rfl, h₁⟩ :=
          Utf8.exists_of_ofChars_eq_cons hbytes (lt_of_hexValue? hw)
        obtain ⟨cx, t₂, hax, rfl, h₂⟩ :=
          Utf8.exists_of_ofChars_eq_cons h₁.symm (lt_of_hexValue? hx)
        obtain ⟨cy, t₃, hay, rfl, h₃⟩ :=
          Utf8.exists_of_ofChars_eq_cons h₂.symm (lt_of_hexValue? hy)
        obtain ⟨cz, t₄, haz, rfl, h₄⟩ :=
          Utf8.exists_of_ofChars_eq_cons h₃.symm (lt_of_hexValue? hz)
        rw [hexValue?_of_ascii haw] at hw
        rw [hexValue?_of_ascii hax] at hx
        rw [hexValue?_of_ascii hay] at hy
        rw [hexValue?_of_ascii haz] at hz
        exact ⟨cw, cx, cy, cz, t₄, rfl, h₄, digits?_four.2 ⟨_, _, _, _, hw, hx, hy, hz, rfl⟩⟩
      · cases h
    · cases h
  · rintro ⟨w, x, y, z, rest, rfl, rfl, hdigits⟩
    obtain ⟨kw, kx, ky, kz, hw, hx, hy, hz, rfl⟩ := digits?_four.1 hdigits
    have haw := (ascii_of_hexadecimal? hw).1
    have hax := (ascii_of_hexadecimal? hx).1
    have hay := (ascii_of_hexadecimal? hy).1
    have haz := (ascii_of_hexadecimal? hz).1
    simp only [haw.ofChars_cons, hax.ofChars_cons, hay.ofChars_cons, haz.ofChars_cons, readHex4,
      hexValue?_of_ascii haw, hexValue?_of_ascii hax, hexValue?_of_ascii hay,
      hexValue?_of_ascii haz, hw, hx, hy, hz]

/-! ### Units of UTF-16 -/

theorem not_surrogate_toNat (c : Char) :
    isLowSurrogate c.toNat = false ∧ isHighSurrogate c.toNat = false := by
  have hvalid : c.toNat < 0xD800 ∨ 0xDFFF < c.toNat := by
    rcases c.valid with h | h
    · exact .inl h
    · exact .inr h.1
  simp only [isLowSurrogate, isHighSurrogate, Bool.and_eq_false_iff, decide_eq_false_iff_not]
  omega

theorem units_of_lt (h : c.toNat < 0x10000) : units c = [c.toNat] := if_pos h

/-- A character past the first plane is a pair of surrogates. -/
theorem units_of_ge (h : 0x10000 ≤ c.toNat) : ∃ high low, units c = [high, low] ∧
    isHighSurrogate high = true ∧ isLowSurrogate low = true ∧ pairValue high low = c.toNat := by
  have hmax : c.toNat < 0x110000 := by
    rcases c.valid with hc | hc
    · exact Nat.lt_trans hc (by decide)
    · exact hc.2
  refine ⟨_, _, if_neg (Nat.not_lt.2 h), ?_, ?_, ?_⟩
  · simp only [isHighSurrogate, Bool.and_eq_true, decide_eq_true_eq]
    omega
  · simp only [isLowSurrogate, Bool.and_eq_true, decide_eq_true_eq]
    omega
  · unfold pairValue
    omega

theorem toNat_ofNat {n : Nat} (h : n.isValidChar) : (Char.ofNat n).toNat = n := by
  rw [Char.ofNat, dif_pos h]
  rfl

theorem toNat_ofNat_of_not_surrogate {n : Nat} (hn : n < 0x10000)
    (hlow : isLowSurrogate n = false) (hhigh : isHighSurrogate n = false) :
    (Char.ofNat n).toNat = n := by
  simp only [isLowSurrogate, isHighSurrogate, Bool.and_eq_false_iff, decide_eq_false_iff_not]
    at hlow hhigh
  have hrange : n < 0xD800 ∨ 0xDFFF < n := by omega
  exact toNat_ofNat (hrange.imp_right fun h => ⟨h, by omega⟩)

/-- A pair of surrogates is a character past the first plane. -/
theorem units_pairValue {high low : Nat} (hhigh : isHighSurrogate high = true)
    (hlow : isLowSurrogate low = true) : units (Char.ofNat (pairValue high low)) = [high, low] := by
  simp only [isHighSurrogate, isLowSurrogate, Bool.and_eq_true, decide_eq_true_eq] at hhigh hlow
  have hrange : 0x10000 ≤ pairValue high low ∧ pairValue high low < 0x110000 := by
    unfold pairValue
    omega
  have hchar := toNat_ofNat (n := pairValue high low) (.inr ⟨by omega, hrange.2⟩)
  rw [units, hchar, if_neg (Nat.not_lt.2 hrange.1)]
  simp only [List.cons.injEq, and_true]
  unfold pairValue
  omega

/-! ### One piece of a string -/

/-- The pieces that a character may be spelled with. -/
inductive Spells (c : Char) : List Piece → Prop where
  | char : Spells c [.char c]
  | units : Spells c ((units c).map .unit)

theorem Spells.denotes {qs ps : List Piece} (h : Spells c qs) (hps : Denotes ps cs) :
    Denotes (qs ++ ps) (c :: cs) := by
  cases h with
  | char => exact .char hps
  | units => exact .units hps

theorem utf8EncodeChar_of_ascii (h : Ascii c b) : String.utf8EncodeChar c = [b] := by
  rw [Utf8.utf8EncodeChar_ascii h.1, ← h.2]

/-- Units behind their backslash and letter are the escapes of one character. -/
theorem exists_of_readUnicode {x : Bytes} (h : readUnicode (ofChars cs) = .ok (x, r)) :
    ∃ c rest, x = String.utf8EncodeChar c ∧ r = ofChars rest ∧ ∀ ps out, Chars rest ps out →
      Chars ('\\' :: 'u' :: cs) ((units c).map .unit ++ ps) out := by
  unfold readUnicode at h
  split at h
  · cases h
  · next n r₁ hread =>
    obtain ⟨a₁, b₁, c₁, d₁, cs, rfl, rfl, hn⟩ := readHex4_eq_ok_iff.1 hread
    split_ifs at h with hlow hhigh
    · unfold readLowHalf at h
      split at h
      · cases h
      · split at h <;> cases h
      · next b u t hbytes =>
        split_ifs at h with hb hu
        rw [ne_eq, Decidable.not_not] at hb hu
        subst hb hu
        have hback : Ascii '\\' 0x5C := by decide
        have hletter : Ascii 'u' 0x75 := by decide
        obtain ⟨ds, rfl, hds⟩ := hback.front hbytes
        obtain ⟨es, rfl, rfl⟩ := hletter.front hds.symm
        split at h
        · cases h
        · next m r₂ hread₂ =>
          obtain ⟨a₂, b₂, c₂, d₂, rest, rfl, rfl, hm⟩ := readHex4_eq_ok_iff.1 hread₂
          split_ifs at h with hlow₂
          obtain ⟨rfl, rfl⟩ := Prod.mk.inj (Except.ok.inj h)
          refine ⟨_, rest, rfl, rfl, fun ps out hps => ?_⟩
          rw [units_pairValue hhigh hlow₂]
          exact .unicode hn (.unicode hm hps)
    · rw [Bool.not_eq_true] at hlow hhigh
      obtain ⟨rfl, rfl⟩ := Prod.mk.inj (Except.ok.inj h)
      have hlt := lt_of_digits?_four hn
      have hunit := toNat_ofNat_of_not_surrogate hlt hlow hhigh
      refine ⟨_, cs, rfl, rfl, fun ps out hps => ?_⟩
      rw [units_of_lt (hunit.symm ▸ hlt), hunit]
      exact .unicode hn hps

/-- What is read behind a backslash is an escape of one character. -/
theorem exists_of_readEscape {x : Bytes} (h : readEscape (ofChars cs) = .ok (x, r)) :
    ∃ c qs rest, Spells c qs ∧ x = String.utf8EncodeChar c ∧ r = ofChars rest ∧
      ∀ ps out, Chars rest ps out → Chars ('\\' :: cs) (qs ++ ps) out := by
  cases hbytes : ofChars cs with
  | nil =>
    rw [hbytes] at h
    cases h
  | cons b t =>
    rw [hbytes] at h
    simp only [readEscape] at h
    split at h
    · next y hy =>
      obtain ⟨rfl, rfl⟩ := Prod.mk.inj (Except.ok.inj h)
      obtain ⟨e, c, hae, hac, hmem⟩ := mem_of_shortEscape? hy
      obtain ⟨rest, rfl, rfl⟩ := hae.front hbytes
      exact ⟨c, _, rest, .char, (utf8EncodeChar_of_ascii hac).symm, rfl,
        fun ps out hps => .short hmem hps⟩
    · split_ifs at h with hb
      subst hb
      have hletter : Ascii 'u' 0x75 := by decide
      obtain ⟨ds, rfl, rfl⟩ := hletter.front hbytes
      obtain ⟨c, rest, hx, hr, hchars⟩ := exists_of_readUnicode h
      exact ⟨c, _, rest, .units, hx, hr, hchars⟩

/-! ### Strings whose text is read -/

theorem plain_of_le (h : 0x80 ≤ b) : b ≠ 0x22 ∧ b ≠ 0x5C ∧ ¬b < 0x20 := by
  have hnat : 0x80 ≤ b.toNat := UInt8.le_iff_toNat_le.1 h
  refine ⟨?_, ?_, UInt8.not_lt.2 (UInt8.le_trans (by decide) h)⟩
  · rintro rfl
    exact absurd hnat (by decide)
  · rintro rfl
    exact absurd hnat (by decide)

/-- Bytes outside ASCII pass as they are. -/
theorem readStringBytes_of_le {bs : Bytes} (h : ∀ b ∈ bs, 0x80 ≤ b) (done r : Bytes) :
    readStringBytes done (bs ++ r) = readStringBytes (bs.reverse ++ done) r := by
  induction bs generalizing done with
  | nil => rfl
  | cons b bs ih =>
    obtain ⟨hquote, hback, hcontrol⟩ := plain_of_le (h b List.mem_cons_self)
    rw [List.cons_append, readStringBytes_plain hquote hback hcontrol,
      ih fun x hx => h x (List.mem_cons_of_mem _ hx), List.reverse_cons, List.append_assoc,
      List.singleton_append]

theorem ne_of_isUnescaped (hc : IsUnescaped c) (ha : Ascii c b) :
    b ≠ 0x22 ∧ b ≠ 0x5C ∧ ¬b < 0x20 := by
  obtain ⟨hcontrol, hquote, hback⟩ := hc
  refine ⟨?_, ?_, ?_⟩
  · rintro rfl
    exact hquote (ha.char_eq (by decide))
  · rintro rfl
    exact hback (ha.char_eq (by decide))
  · rw [UInt8.lt_iff_toNat_lt, ha.toNat_eq]
    exact Nat.not_lt.2 hcontrol

theorem isUnescaped_of_ne (ha : Ascii c b) (hquote : b ≠ 0x22) (hback : b ≠ 0x5C)
    (hcontrol : ¬b < 0x20) : IsUnescaped c := by
  refine ⟨?_, ?_, ?_⟩
  · rw [UInt8.lt_iff_toNat_lt, ha.toNat_eq] at hcontrol
    exact Nat.not_lt.1 hcontrol
  · rintro rfl
    exact hquote ha.2
  · rintro rfl
    exact hback ha.2

theorem isUnescaped_of_le (h : 0x80 ≤ c.toNat) : IsUnescaped c := by
  refine ⟨Nat.le_trans (by decide) h, ?_, ?_⟩
  · rintro rfl
    exact absurd h (by decide)
  · rintro rfl
    exact absurd h (by decide)

/-- A character that stands for itself passes as its bytes. -/
theorem readStringBytes_unescaped (hc : IsUnescaped c) (done : Bytes) (cs : List Char) :
    readStringBytes done (ofChars (c :: cs)) =
      readStringBytes ((String.utf8EncodeChar c).reverse ++ done) (ofChars cs) := by
  rcases Nat.lt_or_ge c.toNat 0x80 with hlt | hle
  · have ha := Utf8.ascii_toUInt8 hlt
    obtain ⟨hquote, hback, hcontrol⟩ := ne_of_isUnescaped hc ha
    rw [ha.ofChars_cons, readStringBytes_plain hquote hback hcontrol, utf8EncodeChar_of_ascii ha]
    rfl
  · rw [Utf8.ofChars_cons, readStringBytes_of_le (Utf8.le_of_mem_utf8EncodeChar hle)]

/-- A string that is read ends here, or goes on behind one more character. -/
theorem readStringBytes_step {done x : Bytes} (h : readStringBytes done (ofChars cs) = .ok (x, r)) :
    (∃ rest, cs = '"' :: rest ∧ x = done.reverse ∧ r = ofChars rest) ∨
      ∃ c qs rest, Spells c qs ∧ (∀ ps out, Chars rest ps out → Chars cs (qs ++ ps) out) ∧
        readStringBytes ((String.utf8EncodeChar c).reverse ++ done) (ofChars rest) = .ok (x, r) ∧
        (ofChars rest).length < (ofChars cs).length := by
  cases cs with
  | nil =>
    rw [Utf8.ofChars_nil, readStringBytes] at h
    cases h
  | cons c cs =>
    have hplain (hc : IsUnescaped c) : ∃ d qs rest, Spells d qs ∧
        (∀ ps out, Chars rest ps out → Chars (c :: cs) (qs ++ ps) out) ∧
        readStringBytes ((String.utf8EncodeChar d).reverse ++ done) (ofChars rest) = .ok (x, r) ∧
        (ofChars rest).length < (ofChars (c :: cs)).length := by
      refine ⟨c, _, cs, .char, fun ps out hps => .plain hc hps, ?_, ?_⟩
      · rw [← readStringBytes_unescaped hc]
        exact h
      · have hpos := List.length_pos_iff.2 (Utf8.utf8EncodeChar_ne_nil c)
        rw [Utf8.ofChars_cons, List.length_append]
        omega
    rcases Nat.lt_or_ge c.toNat 0x80 with hlt | hle
    · have ha := Utf8.ascii_toUInt8 hlt
      rw [ha.ofChars_cons, readStringBytes] at h
      split_ifs at h with hquote hback hcontrol
      · obtain rfl : c = '"' := ha.char_eq (by rw [hquote]; decide)
        obtain ⟨rfl, rfl⟩ := Prod.mk.inj (Except.ok.inj h)
        exact .inl ⟨cs, rfl, rfl, rfl⟩
      · obtain rfl : c = '\\' := ha.char_eq (by rw [hback]; decide)
        split at h
        · cases h
        · next y t hread =>
          obtain ⟨d, qs, rest, hspells, rfl, rfl, hchars⟩ := exists_of_readEscape hread
          have hlength := readEscape_length hread
          refine .inr ⟨d, qs, rest, hspells, hchars, h, ?_⟩
          rw [ha.ofChars_cons, List.length_cons]
          omega
      · exact .inr (hplain (isUnescaped_of_ne ha hquote hback hcontrol))
    · exact .inr (hplain (isUnescaped_of_le hle))

/-- **A string that is read is one of the grammar**, and what is read is what it denotes.  The
induction is on the bytes that are left. -/
theorem chars_of_readStringBytes {done x : Bytes}
    (h : readStringBytes done (ofChars cs) = .ok (x, r)) :
    ∃ ps ds rest, Chars cs ps ('"' :: rest) ∧ Denotes ps ds ∧ x = done.reverse ++ ofChars ds ∧
      r = ofChars rest := by
  induction hn : (ofChars cs).length using Nat.strongRecOn generalizing cs done with
  | ind n ih =>
    rcases readStringBytes_step h with ⟨rest, rfl, rfl, rfl⟩ | ⟨c, qs, cs, hc, hchars, h, hlt⟩
    · exact ⟨[], [], rest, .nil, .nil, (List.append_nil _).symm, rfl⟩
    · obtain ⟨ps, ds, rest, hps, hds, rfl, rfl⟩ := ih _ (hn ▸ hlt) h rfl
      refine ⟨qs ++ ps, c :: ds, rest, hchars _ _ hps, hc.denotes hds, ?_, rfl⟩
      rw [List.reverse_append, List.reverse_reverse, List.append_assoc, Utf8.ofChars_cons]

/-- The escapes of a character by its units are read as the character. -/
theorem readEscape_units {ps : List Piece} {out : List Char}
    (h : Chars cs ((units c).map .unit ++ ps) out) : ∃ ds rest, cs = '\\' :: ds ∧
      readEscape (ofChars ds) = .ok (String.utf8EncodeChar c, ofChars rest) ∧
      Chars rest ps out := by
  have hletter : Ascii 'u' 0x75 := by decide
  rcases Nat.lt_or_ge c.toNat 0x10000 with hlt | hle
  · rw [units_of_lt hlt] at h
    cases h with
    | @unicode w x y z _ es _ _ hn h =>
      have hread : readHex4 (ofChars (w :: x :: y :: z :: es)) = .ok (c.toNat, ofChars es) :=
        readHex4_eq_ok_iff.2 ⟨w, x, y, z, es, rfl, rfl, hn⟩
      obtain ⟨hlow, hhigh⟩ := not_surrogate_toNat c
      refine ⟨_, es, rfl, ?_, h⟩
      rw [hletter.ofChars_cons, readEscape_unicode, readUnicode, hread]
      simp only [hlow, hhigh, Bool.false_eq_true, ↓reduceIte, codePoint, Char.ofNat_toNat]
  · obtain ⟨high, low, hunits, hhigh, hlow, hpair⟩ := units_of_ge hle
    rw [hunits] at h
    cases h with
    | @unicode w₁ x₁ y₁ z₁ _ _ _ _ hn₁ h =>
      cases h with
      | @unicode w₂ x₂ y₂ z₂ _ es _ _ hn₂ h =>
        have hback : Ascii '\\' 0x5C := by decide
        have hread₁ : readHex4 (ofChars (w₁ :: x₁ :: y₁ :: z₁ :: '\\' :: 'u' :: w₂ :: x₂ :: y₂ ::
            z₂ :: es)) = .ok (high, 0x5C :: 0x75 :: ofChars (w₂ :: x₂ :: y₂ :: z₂ :: es)) := by
          refine readHex4_eq_ok_iff.2 ⟨w₁, x₁, y₁, z₁, _, rfl, ?_, hn₁⟩
          rw [hback.ofChars_cons, hletter.ofChars_cons]
        have hread₂ : readHex4 (ofChars (w₂ :: x₂ :: y₂ :: z₂ :: es)) = .ok (low, ofChars es) :=
          readHex4_eq_ok_iff.2 ⟨w₂, x₂, y₂, z₂, es, rfl, rfl, hn₂⟩
        have hnotLow : isLowSurrogate high = false := by
          simp only [isHighSurrogate, isLowSurrogate, Bool.and_eq_true, Bool.and_eq_false_iff,
            decide_eq_true_eq, decide_eq_false_iff_not] at hhigh ⊢
          omega
        refine ⟨_, es, rfl, ?_, h⟩
        rw [hletter.ofChars_cons, readEscape_unicode, readUnicode, hread₁]
        simp only [hnotLow, hhigh, Bool.false_eq_true, ↓reduceIte, readLowHalf, ne_eq,
          not_true_eq_false, hread₂, hlow, codePoint, hpair, Char.ofNat_toNat]

/-- **A string of the grammar is read** as what it denotes. -/
theorem readStringBytes_of_denotes {ps : List Piece} {ds : List Char} (hd : Denotes ps ds)
    (h : Chars cs ps ('"' :: rest)) (done : Bytes) :
    readStringBytes done (ofChars cs) = .ok (done.reverse ++ ofChars ds, ofChars rest) := by
  have hquote : Ascii '"' 0x22 := by decide
  have hback : Ascii '\\' 0x5C := by decide
  induction hd generalizing cs done with
  | nil =>
    cases h
    rw [hquote.ofChars_cons, readStringBytes_quote, Utf8.ofChars_nil, List.append_nil]
  | @char c ps ds hd ih =>
    cases h with
    | plain hc h =>
      rw [readStringBytes_unescaped hc, ih h, List.reverse_append, List.reverse_reverse,
        List.append_assoc, Utf8.ofChars_cons]
    | short he h =>
      obtain ⟨b, x, hae, hac, hshort⟩ := shortEscape?_of_mem he
      rw [hback.ofChars_cons, hae.ofChars_cons,
        readStringBytes_escape (readEscape_short hshort _), ih h, hac.ofChars_cons]
      simp
  | @units c ps ds hd ih =>
    obtain ⟨es, fs, rfl, hread, h⟩ := readEscape_units h
    rw [hback.ofChars_cons, readStringBytes_escape hread, ih h, List.reverse_append,
      List.reverse_reverse, List.append_assoc, Utf8.ofChars_cons]

/-- **Reading a string** takes the strings of the grammar that denote characters. -/
theorem readString_eq_ok_iff {s : String} : readString (ofChars cs) = .ok (s, r) ↔
    ∃ ps rest, Chars cs ps ('"' :: rest) ∧ Denotes ps s.toList ∧ r = ofChars rest := by
  constructor
  · intro h
    unfold readString at h
    split at h
    · cases h
    · next x t hread =>
      obtain ⟨ps, ds, rest, hps, hds, rfl, rfl⟩ := chars_of_readStringBytes hread
      split at h
      · next t hdecode =>
        obtain ⟨rfl, rfl⟩ := Prod.mk.inj (Except.ok.inj h)
        have hencode : Utf8.encode t = Utf8.encode (String.ofList ds) := by
          rw [Utf8.encode_of_decode? hdecode, Utf8.encode_eq_ofChars, String.toList_ofList]
          rfl
        have ht : t = String.ofList ds := by
          have hread := Utf8.decode?_encode t
          rw [hencode, Utf8.decode?_encode] at hread
          exact (Option.some.inj hread).symm
        rw [ht, String.toList_ofList]
        exact ⟨ps, rest, hps, hds, rfl⟩
      · cases h
  · rintro ⟨ps, rest, hps, hds, rfl⟩
    have hdecode : Utf8.decode? (ofChars s.toList) = some s := by
      rw [← Utf8.encode_eq_ofChars, Utf8.decode?_encode]
    rw [readString, readStringBytes_of_denotes hds hps, List.reverse_nil, List.nil_append]
    simp only [hdecode]

/-! ### Strings whose text is skipped -/

theorem skipString_plain {b : UInt8} (hb : b ≠ 0x22 ∧ b ≠ 0x5C ∧ ¬b < 0x20) (r : Bytes) :
    skipString (b :: r) = skipString r := by
  rw [skipString.eq_def]
  dsimp only
  rw [if_neg hb.1, if_neg hb.2.1, if_neg hb.2.2]

@[simp] theorem skipString_quote (r : Bytes) : skipString (0x22 :: r) = .ok r := by
  rw [skipString.eq_def]
  dsimp only
  rw [if_pos rfl]

/-- Behind a backslash and the letter of a short escape a string goes on. -/
theorem skipString_short {e : UInt8} (he : (shortEscape? e).isSome = true) (r : Bytes) :
    skipString (0x5C :: e :: r) = skipString r := by
  rw [skipString.eq_def]
  dsimp only
  rw [if_neg (by decide), if_pos rfl, if_pos he]

/-- Behind four hexadecimal digits a string goes on. -/
theorem skipString_unicode {bs : Bytes} {n : Nat} (h : readHex4 bs = .ok (n, r)) :
    skipString (0x5C :: 0x75 :: bs) = skipString r := by
  have hshort : (shortEscape? 0x75).isSome = false := by decide
  rw [skipString.eq_def]
  dsimp only
  rw [if_neg (by decide), if_pos rfl, if_neg (by rw [hshort]; decide), if_pos rfl]
  split
  · next f hf => cases h.symm.trans hf
  · next k t ht => obtain ⟨rfl, rfl⟩ := Prod.mk.inj (Except.ok.inj (h.symm.trans ht)); rfl

theorem skipString_of_le {bs : Bytes} (h : ∀ b ∈ bs, 0x80 ≤ b) (r : Bytes) :
    skipString (bs ++ r) = skipString r := by
  induction bs with
  | nil => rfl
  | cons b bs ih =>
    rw [List.cons_append, skipString_plain (plain_of_le (h b List.mem_cons_self)),
      ih fun x hx => h x (List.mem_cons_of_mem _ hx)]

theorem skipString_unescaped (hc : IsUnescaped c) (cs : List Char) :
    skipString (ofChars (c :: cs)) = skipString (ofChars cs) := by
  rcases Nat.lt_or_ge c.toNat 0x80 with hlt | hle
  · have ha := Utf8.ascii_toUInt8 hlt
    rw [ha.ofChars_cons, skipString_plain (ne_of_isUnescaped hc ha)]
  · rw [Utf8.ofChars_cons, skipString_of_le (Utf8.le_of_mem_utf8EncodeChar hle)]

/-- A string that is skipped ends here, or goes on behind one more piece. -/
theorem skipString_step (h : skipString (ofChars cs) = .ok r) :
    (∃ rest, cs = '"' :: rest ∧ r = ofChars rest) ∨
      ∃ p rest, (∀ ps out, Chars rest ps out → Chars cs (p :: ps) out) ∧
        skipString (ofChars rest) = .ok r ∧ rest.length < cs.length := by
  cases cs with
  | nil =>
    rw [Utf8.ofChars_nil, skipString.eq_def] at h
    cases h
  | cons c cs =>
    have hplain (hc : IsUnescaped c) : ∃ p rest,
        (∀ ps out, Chars rest ps out → Chars (c :: cs) (p :: ps) out) ∧
        skipString (ofChars rest) = .ok r ∧ rest.length < (c :: cs).length :=
      ⟨.char c, cs, fun ps out hps => .plain hc hps, skipString_unescaped hc cs ▸ h, by simp⟩
    rcases Nat.lt_or_ge c.toNat 0x80 with hlt | hle
    · have ha := Utf8.ascii_toUInt8 hlt
      rw [ha.ofChars_cons, skipString.eq_def] at h
      dsimp only at h
      split_ifs at h with hquote hback hcontrol
      · obtain rfl : c = '"' := ha.char_eq (by rw [hquote]; decide)
        exact .inl ⟨cs, rfl, (Except.ok.inj h).symm⟩
      · obtain rfl : c = '\\' := ha.char_eq (by rw [hback]; decide)
        split at h
        · cases h
        · next e t hbytes =>
          split_ifs at h with hshort hletter
          · obtain ⟨x, hx⟩ := Option.isSome_iff_exists.1 hshort
            obtain ⟨d, c, had, -, hmem⟩ := mem_of_shortEscape? hx
            obtain ⟨rest, rfl, rfl⟩ := had.front hbytes
            refine .inr ⟨.char c, rest, fun ps out hps => .short hmem hps, h, ?_⟩
            simp only [List.length_cons]
            omega
          · have hu : Ascii 'u' e := by rw [hletter]; decide
            obtain ⟨es, rfl, rfl⟩ := hu.front hbytes
            split at h
            · cases h
            · next n t hread =>
              obtain ⟨w, x, y, z, rest, rfl, rfl, hn⟩ := readHex4_eq_ok_iff.1 hread
              refine .inr ⟨.unit n, rest, fun ps out hps => .unicode hn hps, h, ?_⟩
              simp only [List.length_cons]
              omega
      · exact .inr (hplain (isUnescaped_of_ne ha hquote hback hcontrol))
    · exact .inr (hplain (isUnescaped_of_le hle))

theorem chars_of_skipString (h : skipString (ofChars cs) = .ok r) :
    ∃ ps rest, Chars cs ps ('"' :: rest) ∧ r = ofChars rest := by
  induction hn : cs.length using Nat.strongRecOn generalizing cs with
  | ind n ih =>
    rcases skipString_step h with ⟨rest, rfl, rfl⟩ | ⟨p, cs, hchars, h, hlt⟩
    · exact ⟨[], rest, .nil, rfl⟩
    · obtain ⟨ps, rest, hps, rfl⟩ := ih _ (hn ▸ hlt) h rfl
      exact ⟨p :: ps, rest, hchars _ _ hps, rfl⟩

theorem skipString_of_chars {ps : List Piece} {out : List Char} (h : Chars cs ps out)
    (hout : out = '"' :: rest) : skipString (ofChars cs) = .ok (ofChars rest) := by
  have hquote : Ascii '"' 0x22 := by decide
  have hback : Ascii '\\' 0x5C := by decide
  have hletter : Ascii 'u' 0x75 := by decide
  induction h with
  | nil =>
    rw [hout, hquote.ofChars_cons, skipString_quote]
  | plain hc _ ih => rw [skipString_unescaped hc, ih hout]
  | short he _ ih =>
    obtain ⟨b, x, hae, -, hshort⟩ := shortEscape?_of_mem he
    rw [hback.ofChars_cons, hae.ofChars_cons, skipString_short (by rw [hshort]; rfl), ih hout]
  | @unicode w x y z n es ps out hn _ ih =>
    have hread : readHex4 (ofChars (w :: x :: y :: z :: es)) = .ok (n, ofChars es) :=
      readHex4_eq_ok_iff.2 ⟨w, x, y, z, es, rfl, rfl, hn⟩
    rw [hback.ofChars_cons, hletter.ofChars_cons, skipString_unicode hread, ih hout]

/-- **Skipping a string** takes all strings of the grammar. -/
theorem skipString_eq_ok_iff : skipString (ofChars cs) = .ok r ↔
    ∃ ps rest, Chars cs ps ('"' :: rest) ∧ r = ofChars rest := by
  constructor
  · exact chars_of_skipString
  · rintro ⟨ps, rest, hps, rfl⟩
    exact skipString_of_chars hps rfl

end Json
end MailGateway
