/-
# The bytes of a text, character by character

The written form of a text is that of its characters, one after another
(`encode_eq_flatMap`).  A character of ASCII is one byte, and any other character has no
byte of ASCII in it (`le_of_mem_utf8EncodeChar`): so what looks at ASCII bytes only, looks
at characters (`exists_of_ofChars_eq_cons`).
-/

import MailGateway.Numbers
import MailGateway.Text.Utf8

namespace MailGateway
namespace Utf8

theorem encode_ofList (cs : List Char) :
    encode (String.ofList cs) = cs.flatMap String.utf8EncodeChar := by
  simp [encode, List.utf8Encode]

theorem encode_eq_flatMap (s : String) : encode s = s.toList.flatMap String.utf8EncodeChar := by
  rw [← encode_ofList, String.ofList_toList]

theorem encode_append (s t : String) : encode (s ++ t) = encode s ++ encode t := by
  simp [encode_eq_flatMap]

theorem le_ofNat {n : Nat} (h : 0x80 ≤ n) (hn : n < 0x100) : (0x80 : UInt8) ≤ UInt8.ofNat n := by
  rw [UInt8.le_iff_toNat_le, UInt8.toNat_ofNat_of_lt' hn]
  exact h

/-- The bytes of a character outside ASCII are outside ASCII. -/
theorem le_of_mem_utf8EncodeChar {c : Char} (hc : 0x80 ≤ c.toNat) :
    ∀ b ∈ String.utf8EncodeChar c, 0x80 ≤ b := by
  have hone : ¬c.val.toNat ≤ 0x7F := Nat.not_le.2 hc
  intro b hb
  rw [String.utf8EncodeChar] at hb
  simp only [hone, ↓reduceIte] at hb
  split at hb
  · simp only [List.mem_cons, List.not_mem_nil, or_false] at hb
    rcases hb with rfl | rfl <;> exact le_ofNat (by omega) (by omega)
  split at hb
  · simp only [List.mem_cons, List.not_mem_nil, or_false] at hb
    rcases hb with rfl | rfl | rfl <;> exact le_ofNat (by omega) (by omega)
  · simp only [List.mem_cons, List.not_mem_nil, or_false] at hb
    rcases hb with rfl | rfl | rfl | rfl <;> exact le_ofNat (by omega) (by omega)

theorem utf8EncodeChar_ascii {c : Char} (hc : c.toNat < 0x80) :
    String.utf8EncodeChar c = [c.toNat.toUInt8] := by
  have hone : c.val.toNat ≤ 0x7F := Nat.le_of_lt_succ hc
  simp only [String.utf8EncodeChar, hone, ↓reduceIte]
  rfl

/-! ### Readers of ASCII bytes -/

/-- The character is one of ASCII, and this is its byte. -/
def Ascii (c : Char) (b : UInt8) : Prop := c.toNat < 0x80 ∧ b = c.toNat.toUInt8

instance (c : Char) (b : UInt8) : Decidable (Ascii c b) := inferInstanceAs (Decidable (_ ∧ _))

/-- The bytes of characters, one after another. -/
def ofChars (cs : List Char) : Bytes := cs.flatMap String.utf8EncodeChar

theorem encode_eq_ofChars (s : String) : encode s = ofChars s.toList := encode_eq_flatMap s

variable {c d : Char} {b : UInt8} {cs : List Char} {r : Bytes}

@[simp]
theorem ofChars_nil : ofChars [] = [] := rfl

theorem ofChars_cons (c : Char) (cs : List Char) :
    ofChars (c :: cs) = String.utf8EncodeChar c ++ ofChars cs :=
  List.flatMap_cons

theorem ascii_toUInt8 (hc : c.toNat < 0x80) : Ascii c c.toNat.toUInt8 := ⟨hc, rfl⟩

theorem Ascii.toNat_eq (h : Ascii c b) : b.toNat = c.toNat := by
  rw [h.2]
  exact UInt8.toNat_ofNat_of_lt' (Nat.lt_trans h.1 (by decide))

theorem Ascii.lt (h : Ascii c b) : b < 0x80 := by
  rw [UInt8.lt_iff_toNat_lt, h.toNat_eq]
  exact h.1

theorem Ascii.char_eq (hc : Ascii c b) (hd : Ascii d b) : c = d :=
  Char.toNat_inj.1 (hc.toNat_eq.symm.trans hd.toNat_eq)

/-- What holds of the characters of ASCII, checked one by one. -/
theorem Ascii.of_forall {p : Char → UInt8 → Prop}
    (h : ∀ n, n < 0x80 → p (Char.ofNat n) n.toUInt8) (ha : Ascii c b) : p c b := by
  have hp := h c.toNat ha.1
  rwa [Char.ofNat_toNat, ← ha.2] at hp

theorem Ascii.ofChars_cons (h : Ascii c b) (cs : List Char) :
    ofChars (c :: cs) = b :: ofChars cs := by
  rw [Utf8.ofChars_cons, utf8EncodeChar_ascii h.1, ← h.2]
  rfl

theorem utf8EncodeChar_ne_nil (c : Char) : String.utf8EncodeChar c ≠ [] := by
  rw [← List.length_pos_iff, String.length_utf8EncodeChar]
  exact c.utf8Size_pos

@[simp]
theorem ofChars_eq_nil : ofChars cs = [] ↔ cs = [] := by
  cases cs with
  | nil => simp
  | cons c cs => simp [ofChars_cons]

/-- **A byte of ASCII at the front is a character of its own.** -/
theorem exists_of_ofChars_eq_cons (h : ofChars cs = b :: r) (hb : b < 0x80) :
    ∃ c rest, Ascii c b ∧ cs = c :: rest ∧ r = ofChars rest := by
  cases cs with
  | nil => cases h
  | cons c rest =>
    rcases Nat.lt_or_ge c.toNat 0x80 with hc | hc
    · rw [(ascii_toUInt8 hc).ofChars_cons] at h
      obtain ⟨rfl, rfl⟩ := List.cons.inj h
      exact ⟨c, rest, ascii_toUInt8 hc, rfl, rfl⟩
    · obtain ⟨d, ds, hds⟩ := List.exists_cons_of_ne_nil (utf8EncodeChar_ne_nil c)
      rw [ofChars_cons, hds] at h
      obtain ⟨rfl, -⟩ := List.cons.inj h
      have hd : 0x80 ≤ d := le_of_mem_utf8EncodeChar hc d (hds ▸ List.mem_cons_self)
      exact absurd hb (UInt8.not_lt.2 hd)

theorem Ascii.front (ha : Ascii c b) (h : ofChars cs = b :: r) :
    ∃ rest, cs = c :: rest ∧ r = ofChars rest := by
  obtain ⟨d, rest, hd, rfl, rfl⟩ := exists_of_ofChars_eq_cons h ha.lt
  obtain rfl := ha.char_eq hd
  exact ⟨rest, rfl, rfl⟩

/-- Passing over ASCII bytes of one kind is passing over their characters. -/
theorem dropWhile_ofChars {p : UInt8 → Bool} {q : Char → Bool} (hp : ∀ b, p b = true → b < 0x80)
    (hq : ∀ c, q c = true → c.toNat < 0x80) (hpq : ∀ c b, Ascii c b → p b = q c)
    (cs : List Char) : (ofChars cs).dropWhile p = ofChars (cs.dropWhile q) := by
  induction cs with
  | nil => rfl
  | cons c cs ih =>
    rcases Nat.lt_or_ge c.toNat 0x80 with hc | hc
    · have ha := ascii_toUInt8 hc
      rw [ha.ofChars_cons, List.dropWhile_cons, List.dropWhile_cons, hpq c _ ha]
      split
      · exact ih
      · rw [ha.ofChars_cons]
    · have hstop : q c = false := Bool.eq_false_iff.2 fun h => Nat.not_lt.2 hc (hq c h)
      obtain ⟨b, bs, hb⟩ := List.exists_cons_of_ne_nil (utf8EncodeChar_ne_nil c)
      have hle : 0x80 ≤ b := le_of_mem_utf8EncodeChar hc b (hb ▸ List.mem_cons_self)
      have hbyte : p b = false := Bool.eq_false_iff.2 fun h => UInt8.not_lt.2 hle (hp b h)
      rw [List.dropWhile_cons_of_neg (by simp [hstop]), ofChars_cons, hb, List.cons_append,
        List.dropWhile_cons_of_neg (by simp [hbyte])]

end Utf8
end MailGateway
