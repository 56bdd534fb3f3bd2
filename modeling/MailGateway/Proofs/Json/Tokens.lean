/-
# Blanks and numbers of a JSON text

The readers of tokens work on bytes, and the grammar on characters.  On the bytes of a text
each reader comes out well exactly on the texts of its token.

Blanks and digits are passed over as far as there are any: `skipBlank_ofChars` and
`dropDigits_ofChars` say that this is the same over the bytes and over the characters.  A
number is therefore read as far as it goes, so that the grammar finds it only where nothing
follows that prolongs it: `unsigned_of_skipNumber` and `skipNumber_of_unsigned`.
-/

import Mathlib.Tactic.SplitIfs
import MailGateway.Proofs.Json.Grammar
import MailGateway.Proofs.Json.RoundTrip
import MailGateway.Proofs.Text.Utf8

namespace MailGateway
namespace Json

open Utf8 (Ascii ofChars)

variable {c : Char} {b : UInt8} {cs rest : List Char} {r : Bytes}

/-! ### Blanks -/

theorem isBlank_of_ascii (h : Ascii c b) : isBlank b = decide (c ∈ blanks) := by
  refine h.of_forall (p := fun c b => isBlank b = decide (c ∈ blanks)) ?_
  decide

theorem lt_of_mem_blanks : ∀ c ∈ blanks, c.toNat < 0x80 := by simp [blanks]

theorem lt_of_isBlank (h : isBlank b = true) : b < 0x80 := by
  simp only [isBlank, Bool.or_eq_true, decide_eq_true_eq] at h
  rcases h with ((rfl | rfl) | rfl) | rfl <;> decide

theorem skipBlank_ofChars (cs : List Char) :
    skipBlank (ofChars cs) = ofChars (cs.dropWhile (· ∈ blanks)) := by
  refine Utf8.dropWhile_ofChars (fun _ => lt_of_isBlank) (fun c hc => ?_)
    (fun _ _ => isBlank_of_ascii) cs
  exact lt_of_mem_blanks c (of_decide_eq_true hc)

theorem blanks_dropWhile (cs : List Char) : Blanks cs (cs.dropWhile (· ∈ blanks)) := by
  induction cs with
  | nil => exact .nil
  | cons c cs ih =>
    by_cases hc : c ∈ blanks
    · rw [List.dropWhile_cons_of_pos (by simpa using hc)]
      exact .cons hc ih
    · rw [List.dropWhile_cons_of_neg (by simpa using hc)]
      exact .nil

theorem Blanks.dropWhile_eq (h : Blanks cs rest) :
    cs.dropWhile (· ∈ blanks) = rest.dropWhile (· ∈ blanks) := by
  induction h with
  | nil => rfl
  | cons hc _ ih => rw [List.dropWhile_cons_of_pos (by simpa using hc), ih]

theorem skipBlank_of_blanks (h : Blanks cs rest) :
    skipBlank (ofChars cs) = skipBlank (ofChars rest) := by
  rw [skipBlank_ofChars, skipBlank_ofChars, h.dropWhile_eq]

/-- What is found behind blanks is a character. -/
theorem blanks_front (ha : Ascii c b) (h : skipBlank (ofChars cs) = b :: r) :
    ∃ rest, Blanks cs (c :: rest) ∧ r = ofChars rest := by
  rw [skipBlank_ofChars] at h
  obtain ⟨rest, hrest, rfl⟩ := ha.front h
  exact ⟨rest, hrest ▸ blanks_dropWhile cs, rfl⟩

theorem skipBlank_front (ha : Ascii c b) (hb : isBlank b = false) (h : Blanks cs (c :: rest)) :
    skipBlank (ofChars cs) = b :: ofChars rest := by
  rw [skipBlank_of_blanks h, ha.ofChars_cons, skipBlank_cons hb]

theorem blanks_nil (h : skipBlank (ofChars cs) = []) : Blanks cs [] := by
  rw [skipBlank_ofChars, Utf8.ofChars_eq_nil] at h
  exact h ▸ blanks_dropWhile cs

/-! ### Digits -/

theorem isDigit_of_ascii (h : Ascii c b) : isDigit b = c.isDigit := by
  refine h.of_forall (p := fun c b => isDigit b = c.isDigit) ?_
  decide

theorem lt_of_isDigit (h : isDigit b = true) : b < 0x80 := by
  simp only [isDigit, Bool.and_eq_true, decide_eq_true_eq, UInt8.le_iff_toNat_le] at h
  exact UInt8.lt_iff_toNat_lt.2 (Nat.lt_of_le_of_lt h.2 (by decide))

theorem lt_of_char_isDigit (h : c.isDigit = true) : c.toNat < 0x80 := by
  simp only [Char.isDigit, Bool.and_eq_true, decide_eq_true_eq, UInt32.le_iff_toNat_le] at h
  exact Nat.lt_of_le_of_lt h.2 (by decide)

theorem dropDigits_ofChars (cs : List Char) :
    (ofChars cs).dropWhile isDigit = ofChars (cs.dropWhile Char.isDigit) :=
  Utf8.dropWhile_ofChars (fun _ => lt_of_isDigit) (fun _ => lt_of_char_isDigit)
    (fun _ _ => isDigit_of_ascii) cs

/-- A digit in front of the bytes is one in front of the characters. -/
theorem exists_digit (hb : isDigit b = true) (h : ofChars cs = b :: r) :
    ∃ c rest, c.isDigit = true ∧ Ascii c b ∧ cs = c :: rest ∧ r = ofChars rest := by
  obtain ⟨c, rest, ha, rfl, rfl⟩ := Utf8.exists_of_ofChars_eq_cons h (lt_of_isDigit hb)
  exact ⟨c, rest, isDigit_of_ascii ha ▸ hb, ha, rfl, rfl⟩

theorem digits_dropWhile (hc : c.isDigit = true) (cs : List Char) :
    Digits (c :: cs) (cs.dropWhile Char.isDigit) := by
  induction cs generalizing c with
  | nil => exact .one hc
  | cons d cs ih =>
    cases hd : d.isDigit with
    | true =>
      rw [List.dropWhile_cons_of_pos hd]
      exact .cons hc (ih hd)
    | false =>
      rw [List.dropWhile_cons_of_neg (by simp [hd])]
      exact .one hc

theorem digits_of_length (h : ((ofChars cs).dropWhile isDigit).length ≠ (ofChars cs).length) :
    Digits cs (cs.dropWhile Char.isDigit) := by
  rw [dropDigits_ofChars] at h
  cases cs with
  | nil => exact absurd rfl h
  | cons c cs =>
    cases hc : c.isDigit with
    | true =>
      rw [List.dropWhile_cons_of_pos hc]
      exact digits_dropWhile hc cs
    | false =>
      rw [List.dropWhile_cons_of_neg (by simp [hc])] at h
      exact absurd rfl h

/-- The text does not begin with a digit. -/
def Undigited (cs : List Char) : Prop := ∀ c ∈ cs.head?, c.isDigit = false

theorem exists_ascii (hc : c.isDigit = true) : ∃ b, isDigit b = true ∧ Ascii c b :=
  have ha := Utf8.ascii_toUInt8 (lt_of_char_isDigit hc)
  ⟨_, (isDigit_of_ascii ha).trans hc, ha⟩

/-- Digits are read up to where there are no more. -/
theorem Digits.exists_byte (h : Digits cs rest) (hrest : Undigited rest) :
    ∃ b r, isDigit b = true ∧ ofChars cs = b :: r ∧ r.dropWhile isDigit = ofChars rest := by
  induction h with
  | @one c rest hc =>
    obtain ⟨b, hb, ha⟩ := exists_ascii hc
    refine ⟨b, ofChars rest, hb, ha.ofChars_cons rest, ?_⟩
    rw [dropDigits_ofChars]
    cases rest with
    | nil => rfl
    | cons d rest => rw [List.dropWhile_cons_of_neg (by simp [hrest d rfl])]
  | @cons c cs rest hc _ ih =>
    obtain ⟨b, hb, ha⟩ := exists_ascii hc
    obtain ⟨d, r, hd, hcs, hr⟩ := ih hrest
    refine ⟨b, ofChars cs, hb, ha.ofChars_cons cs, ?_⟩
    rw [hcs, List.dropWhile_cons_of_pos hd, hr]

/-! ### Numbers -/

theorem exists_of_skipExponent {bs : Bytes} (h : skipExponent bs = .ok r) :
    ∃ b t, isDigit b = true ∧ r = t.dropWhile isDigit ∧
      (bs = b :: t ∨ ∃ s, (s = 0x2B ∨ s = 0x2D) ∧ bs = s :: b :: t) := by
  unfold skipExponent at h
  dsimp only at h
  split at h
  · cases h
  · next b t hbs =>
    split_ifs at h with hb
    refine ⟨b, t, hb, (Except.ok.inj h).symm, ?_⟩
    split at hbs
    · exact .inr ⟨_, .inl rfl, by rw [hbs]⟩
    · exact .inr ⟨_, .inr rfl, by rw [hbs]⟩
    · exact .inl hbs

theorem skipExponent_digit (hb : isDigit b = true) (t : Bytes) :
    skipExponent (b :: t) = .ok (t.dropWhile isDigit) := by
  unfold skipExponent
  dsimp only
  split
  · next h =>
    split at h
    · next heq => cases heq; cases hb
    · next heq => cases heq; cases hb
    · cases h
  · next c u h =>
    split at h
    · next heq => cases heq; cases hb
    · next heq => cases heq; cases hb
    · obtain ⟨rfl, rfl⟩ := List.cons.inj h
      rw [if_pos hb]

theorem skipExponent_signed {s : UInt8} (hs : s = 0x2B ∨ s = 0x2D) (hb : isDigit b = true)
    (t : Bytes) : skipExponent (s :: b :: t) = .ok (t.dropWhile isDigit) := by
  rcases hs with rfl | rfl
  · exact if_pos hb
  · exact if_pos hb

theorem exponent_of_skipExponent {e : Char} (he : e = 'e' ∨ e = 'E')
    (h : skipExponent (ofChars cs) = .ok r) :
    ∃ rest, Exponent (e :: cs) rest ∧ r = ofChars rest := by
  obtain ⟨b, t, hb, rfl, hcs | ⟨s, hs, hcs⟩⟩ := exists_of_skipExponent h
  · obtain ⟨c, ds, hc, -, rfl, rfl⟩ := exists_digit hb hcs
    exact ⟨_, .bare he (digits_dropWhile hc ds), dropDigits_ofChars ds⟩
  · have hsign : ∃ c, (c = '+' ∨ c = '-') ∧ Ascii c s := by
      rcases hs with rfl | rfl
      · exact ⟨'+', .inl rfl, by decide⟩
      · exact ⟨'-', .inr rfl, by decide⟩
    obtain ⟨c, hc, ha⟩ := hsign
    obtain ⟨ds, rfl, hds⟩ := ha.front hcs
    obtain ⟨d, es, hd, -, rfl, rfl⟩ := exists_digit hb hds.symm
    exact ⟨_, .signed he hc (digits_dropWhile hd es), dropDigits_ofChars es⟩

theorem skipExponent_of_digits (h : Digits cs rest) (hrest : Undigited rest) :
    skipExponent (ofChars cs) = .ok (ofChars rest) := by
  obtain ⟨b, t, hb, hcs, ht⟩ := h.exists_byte hrest
  rw [hcs, skipExponent_digit hb, ht]

theorem skipExponent_of_sign {s : Char} (hs : s = '+' ∨ s = '-') (h : Digits cs rest)
    (hrest : Undigited rest) : skipExponent (ofChars (s :: cs)) = .ok (ofChars rest) := by
  obtain ⟨b, t, hb, hcs, ht⟩ := h.exists_byte hrest
  rcases hs with rfl | rfl
  · rw [(by decide : Ascii '+' 0x2B).ofChars_cons, hcs, skipExponent_signed (.inl rfl) hb, ht]
  · rw [(by decide : Ascii '-' 0x2D).ofChars_cons, hcs, skipExponent_signed (.inr rfl) hb, ht]

theorem Follows.undigited (h : Follows cs) : Undigited cs := fun c hc => (h c hc).1

/-- Nothing that prolongs a number is in front of the bytes, either. -/
theorem Follows.byte (h : Follows cs) (hcs : ofChars cs = b :: r) :
    isDigit b = false ∧ b ≠ 0x2E ∧ b ≠ 0x65 ∧ b ≠ 0x45 := by
  have hne {c : Char} {x : UInt8} (ha : Ascii c x) (hc : c ∉ cs.head?) : b ≠ x := by
    rintro rfl
    obtain ⟨rest, rfl, -⟩ := ha.front hcs
    exact hc rfl
  refine ⟨Bool.eq_false_iff.2 fun hb => ?_, ?_, ?_, ?_⟩
  · obtain ⟨c, rest, hc, -, rfl, -⟩ := exists_digit hb hcs
    exact absurd (h c rfl).1 (by simp [hc])
  · exact hne (by decide : Ascii '.' 0x2E) fun hc => (h _ hc).2.1 rfl
  · exact hne (by decide : Ascii 'e' 0x65) fun hc => (h _ hc).2.2.1 rfl
  · exact hne (by decide : Ascii 'E' 0x45) fun hc => (h _ hc).2.2.2 rfl

/-- The exponent begins with a letter, or else it is absent. -/
theorem Exponent.front (h : Exponent cs rest) (hrest : Follows rest) :
    Undigited cs ∧ '.' ∉ cs.head? := by
  have hletter {e : Char} (he : e = 'e' ∨ e = 'E') (ds : List Char) :
      Undigited (e :: ds) ∧ '.' ∉ (e :: ds).head? := by
    rcases he with rfl | rfl <;> simp [Undigited]
  cases h with
  | absent => exact ⟨hrest.undigited, fun h => (hrest _ h).2.1 rfl⟩
  | bare he _ => exact hletter he _
  | signed he _ _ => exact hletter he _

/-- Behind its digits a fraction is followed by what may follow the whole part. -/
theorem skipNumberTail_point {bs : Bytes} (hdigits : (bs.dropWhile isDigit).length ≠ bs.length)
    (hpoint : 0x2E ∉ (bs.dropWhile isDigit).head?) :
    skipNumberTail (0x2E :: bs) = skipNumberTail (bs.dropWhile isDigit) := by
  show (if _ then _ else _) = _
  rw [if_neg hdigits]
  generalize bs.dropWhile isDigit = t at hpoint
  unfold skipNumberTail
  split
  · rfl
  · rfl
  · next he hE =>
    split
    · exact absurd rfl hpoint
    · next r => exact absurd rfl (he r)
    · next r => exact absurd rfl (hE r)
    · rfl

theorem skipNumberTail_of_exponent (h : Exponent cs rest) (hrest : Follows rest) :
    skipNumberTail (ofChars cs) = .ok (ofChars rest) := by
  have hletter {e : Char} (he : e = 'e' ∨ e = 'E') (ds : List Char) :
      skipNumberTail (ofChars (e :: ds)) = skipExponent (ofChars ds) := by
    rcases he with rfl | rfl
    · rw [(by decide : Ascii 'e' 0x65).ofChars_cons]
      rfl
    · rw [(by decide : Ascii 'E' 0x45).ofChars_cons]
      rfl
  cases h with
  | absent =>
    unfold skipNumberTail
    split
    · next hcs => exact absurd rfl (hrest.byte hcs).2.1
    · next hcs => exact absurd rfl (hrest.byte hcs).2.2.1
    · next hcs => exact absurd rfl (hrest.byte hcs).2.2.2
    · rfl
  | bare he hd => rw [hletter he, skipExponent_of_digits hd hrest.undigited]
  | signed he hs hd => rw [hletter he, skipExponent_of_sign hs hd hrest.undigited]

theorem skipNumberTail_of_fraction {mid : List Char} (hf : Fraction cs mid)
    (he : Exponent mid rest) (hrest : Follows rest) :
    skipNumberTail (ofChars cs) = .ok (ofChars rest) := by
  cases hf with
  | absent => exact skipNumberTail_of_exponent he hrest
  | @digits ds _ hd =>
    have hdot : Ascii '.' 0x2E := by decide
    obtain ⟨hundigited, hpoint⟩ := he.front hrest
    obtain ⟨b, t, hb, hds, ht⟩ := hd.exists_byte hundigited
    have hdrop : (ofChars ds).dropWhile isDigit = ofChars mid := by
      rw [hds, List.dropWhile_cons_of_pos hb, ht]
    rw [hdot.ofChars_cons, skipNumberTail_point, hdrop, skipNumberTail_of_exponent he hrest]
    · have hle := length_dropWhile_le isDigit t
      rw [hdrop, ← ht, hds, List.length_cons]
      omega
    · rw [hdrop]
      intro hfront
      obtain ⟨r, hr⟩ := List.head?_eq_some_iff.1 hfront
      obtain ⟨es, rfl, -⟩ := hdot.front hr
      exact hpoint rfl

theorem fraction_of_skipNumberTail (h : skipNumberTail (ofChars cs) = .ok r) :
    ∃ mid rest, Fraction cs mid ∧ Exponent mid rest ∧ r = ofChars rest := by
  have hdot : Ascii '.' 0x2E := by decide
  have he : Ascii 'e' 0x65 := by decide
  have hE : Ascii 'E' 0x45 := by decide
  unfold skipNumberTail at h
  split at h
  · next t hcs =>
    obtain ⟨ds, rfl, rfl⟩ := hdot.front hcs
    dsimp only at h
    split_ifs at h with hlength
    have hfraction : Fraction ('.' :: ds) (ds.dropWhile Char.isDigit) :=
      .digits (digits_of_length hlength)
    rw [dropDigits_ofChars] at h
    split at h
    · next t ht =>
      obtain ⟨es, hes, rfl⟩ := he.front ht
      obtain ⟨rest, hrest, rfl⟩ := exponent_of_skipExponent (.inl rfl) h
      exact ⟨_, rest, hfraction, hes ▸ hrest, rfl⟩
    · next t ht =>
      obtain ⟨es, hes, rfl⟩ := hE.front ht
      obtain ⟨rest, hrest, rfl⟩ := exponent_of_skipExponent (.inr rfl) h
      exact ⟨_, rest, hfraction, hes ▸ hrest, rfl⟩
    · exact ⟨_, _, hfraction, .absent, (Except.ok.inj h).symm⟩
  · next t hcs =>
    obtain ⟨ds, rfl, rfl⟩ := he.front hcs
    obtain ⟨rest, hrest, rfl⟩ := exponent_of_skipExponent (.inl rfl) h
    exact ⟨_, rest, .absent, hrest, rfl⟩
  · next t hcs =>
    obtain ⟨ds, rfl, rfl⟩ := hE.front hcs
    obtain ⟨rest, hrest, rfl⟩ := exponent_of_skipExponent (.inr rfl) h
    exact ⟨_, rest, .absent, hrest, rfl⟩
  · exact ⟨cs, cs, .absent, .absent, (Except.ok.inj h).symm⟩

theorem skipNumber_cons_eq_ok_iff (b : UInt8) (t : Bytes) : skipNumber (b :: t) = .ok r ↔
    b = 0x30 ∧ (∀ d ∈ t.head?, isDigit d = false) ∧ skipNumberTail t = .ok r ∨
      b ≠ 0x30 ∧ isDigit b = true ∧ skipNumberTail (t.dropWhile isDigit) = .ok r := by
  unfold skipNumber
  dsimp only
  split_ifs with hzero hdigit
  · cases t with
    | nil => simp [hzero, skipNumberTail]
    | cons d t =>
      cases hd : isDigit d with
      | true => simp [hzero, hd]
      | false => simp [hzero, hd]
  · simp [hzero, hdigit]
  · simp [hzero, hdigit]

theorem unsigned_of_skipNumber (h : skipNumber (ofChars cs) = .ok r) :
    ∃ rest, Unsigned cs rest ∧ r = ofChars rest := by
  cases hcs : ofChars cs with
  | nil =>
    rw [hcs] at h
    cases h
  | cons b t =>
    rw [hcs, skipNumber_cons_eq_ok_iff] at h
    rcases h with ⟨rfl, -, h⟩ | ⟨hzero, hb, h⟩
    · have ha : Ascii '0' 0x30 := by decide
      obtain ⟨ds, rfl, rfl⟩ := ha.front hcs
      obtain ⟨mid, rest, hf, he, rfl⟩ := fraction_of_skipNumberTail h
      exact ⟨rest, .mk .zero hf he, rfl⟩
    · obtain ⟨c, ds, hc, ha, rfl, rfl⟩ := exists_digit hb hcs
      rw [dropDigits_ofChars] at h
      obtain ⟨mid, rest, hf, he, rfl⟩ := fraction_of_skipNumberTail h
      have hne : c ≠ '0' := by
        rintro rfl
        exact hzero ha.2
      exact ⟨rest, .mk (.digits hne (digits_dropWhile hc ds)) hf he, rfl⟩

theorem Unsigned.exists_byte (h : Unsigned cs rest) :
    ∃ b r, isDigit b = true ∧ ofChars cs = b :: r := by
  have hfront {c : Char} (hc : c.isDigit = true) (ds : List Char) :
      ∃ b r, isDigit b = true ∧ ofChars (c :: ds) = b :: r := by
    obtain ⟨b, hb, ha⟩ := exists_ascii hc
    exact ⟨b, _, hb, ha.ofChars_cons ds⟩
  obtain ⟨hw, -, -⟩ := h
  cases hw with
  | zero => exact hfront (by decide) _
  | digits _ h =>
    cases h with
    | one hc => exact hfront hc _
    | cons hc _ => exact hfront hc _

theorem Fraction.undigited {mid : List Char} (hf : Fraction cs mid) (he : Exponent mid rest)
    (hrest : Follows rest) : Undigited cs := by
  cases hf with
  | absent => exact (he.front hrest).1
  | digits _ =>
    rintro c ⟨⟩
    decide

theorem skipNumber_of_unsigned (h : Unsigned cs rest) (hrest : Follows rest) :
    skipNumber (ofChars cs) = .ok (ofChars rest) := by
  obtain ⟨hw, hf, he⟩ := h
  have htail := skipNumberTail_of_fraction hf he hrest
  have hundigited := hf.undigited he hrest
  cases hw with
  | @zero ds =>
    have ha : Ascii '0' 0x30 := by decide
    rw [ha.ofChars_cons, skipNumber_cons_eq_ok_iff]
    refine .inl ⟨rfl, fun d hd => Bool.eq_false_iff.2 fun hdigit => ?_, htail⟩
    obtain ⟨t, ht⟩ := List.head?_eq_some_iff.1 hd
    obtain ⟨c, es, hc, -, rfl, -⟩ := exists_digit hdigit ht
    exact absurd (hundigited c rfl) (by simp [hc])
  | @digits c ds _ hc hd =>
    obtain ⟨b, t, hb, hcs, ht⟩ := hd.exists_byte hundigited
    obtain ⟨c, es, -, ha, hceq, -⟩ := exists_digit hb hcs
    obtain ⟨rfl, rfl⟩ := List.cons.inj hceq
    rw [hcs, skipNumber_cons_eq_ok_iff]
    refine .inr ⟨?_, hb, by rw [ht, htail]⟩
    rintro rfl
    exact hc (ha.char_eq (by decide))

end Json
end MailGateway
