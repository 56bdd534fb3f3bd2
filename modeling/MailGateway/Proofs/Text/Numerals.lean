/-
# Which texts are whole numbers

`Numeral.Spells` says what a decimal numeral with a sign at will is, and which number it stands
for, without a reader.  Leading zeros, a plus sign and a minus sign in front of zero are all
admitted, and there is no limit on the length.

Three readers keep to it: that of headers (`signed?_eq_some_iff`), that of the environment, which
reads digits of any base and stays within 64 bits (`inBase?_ten`), and that of command lines,
which counts up to a limit (`digitsWithin_eq_ok_iff`).
-/

import MailGateway.CommandLine.Parse
import MailGateway.Text.Numeral
import MailGateway.Yaml.Node

namespace MailGateway

namespace Numeral

/-- Decimal digits, at least one. -/
structure IsDigits (cs : List Char) : Prop where
  ne_nil : cs ≠ []
  digits : ∀ c ∈ cs, c.isDigit = true

/-- A decimal numeral, perhaps with a sign, and its number. -/
inductive Spells : List Char → Int → Prop
  | bare {ds : List Char} (h : IsDigits ds) : Spells ds (Nat.ofDigitChars 10 ds 0)
  | plus {ds : List Char} (h : IsDigits ds) : Spells ('+' :: ds) (Nat.ofDigitChars 10 ds 0)
  | minus {ds : List Char} (h : IsDigits ds) :
    Spells ('-' :: ds) (-(Nat.ofDigitChars 10 ds 0 : Int))

variable {cs : List Char} {n : Nat} {z : Int}

theorem isDigit_of_decimal? {c : Char} {d : Nat} (h : decimal? c = some d) : c.isDigit = true := by
  unfold decimal? at h
  split at h
  · next hrange =>
    rw [Char.isDigit, Bool.and_eq_true]
    exact ⟨decide_eq_true hrange.1, decide_eq_true hrange.2⟩
  · cases h

theorem isDigit_of_digitsFrom_decimal? {value : Nat}
    (h : digitsFrom decimal? 10 value cs = some n) : ∀ c ∈ cs, c.isDigit = true := by
  intro c hc
  obtain ⟨d, hd⟩ := Option.isSome_iff_exists.1 (isSome_of_digitsFrom h c hc)
  exact isDigit_of_decimal? hd

/-- **Digits and nothing else are a number without a sign.** -/
theorem natural?_eq_some_iff :
    natural? cs = some n ↔ IsDigits cs ∧ n = Nat.ofDigitChars 10 cs 0 := by
  cases cs with
  | nil => exact ⟨nofun, fun h => absurd rfl h.1.ne_nil⟩
  | cons c cs =>
    change digitsFrom decimal? 10 0 (c :: cs) = some n ↔ _
    constructor
    · intro h
      have hdigits := isDigit_of_digitsFrom_decimal? h
      rw [digitsFrom_decimal? hdigits] at h
      exact ⟨⟨List.cons_ne_nil c cs, hdigits⟩, (Option.some.inj h).symm⟩
    · rintro ⟨h, rfl⟩
      exact digitsFrom_decimal? h.digits 0

theorem signed?_minus_eq_some_iff :
    signed? ('-' :: cs) = some z ↔ ∃ n, natural? cs = some n ∧ z = -(n : Int) := by
  rw [signed?]
  cases natural? cs <;> simp [eq_comm]

theorem signed?_plus_eq_some_iff :
    signed? ('+' :: cs) = some z ↔ ∃ n, natural? cs = some n ∧ z = n := by
  rw [signed?]
  cases natural? cs <;> simp [eq_comm]

theorem signed?_bare_eq_some_iff (hminus : ∀ ds, cs ≠ '-' :: ds) (hplus : ∀ ds, cs ≠ '+' :: ds) :
    signed? cs = some z ↔ ∃ n, natural? cs = some n ∧ z = n := by
  have hbare : signed? cs = (natural? cs).map Int.ofNat := by
    unfold signed?
    split
    · exact absurd rfl (hminus _)
    · exact absurd rfl (hplus _)
    · rfl
  rw [hbare]
  cases natural? cs <;> simp [eq_comm]

/-- Digits have no sign in front. -/
theorem IsDigits.ne_cons {c : Char} (h : IsDigits cs) (hc : c.isDigit = false) (ds : List Char) :
    cs ≠ c :: ds := by
  rintro rfl
  have hdigit := h.digits c List.mem_cons_self
  rw [hc] at hdigit
  cases hdigit

/-- **The reader of headers reads numerals.** -/
theorem signed?_eq_some_iff : signed? cs = some z ↔ Spells cs z := by
  constructor
  · intro h
    by_cases hminus : ∃ ds, cs = '-' :: ds
    · obtain ⟨ds, rfl⟩ := hminus
      obtain ⟨n, hn, rfl⟩ := signed?_minus_eq_some_iff.1 h
      obtain ⟨hdigits, rfl⟩ := natural?_eq_some_iff.1 hn
      exact .minus hdigits
    by_cases hplus : ∃ ds, cs = '+' :: ds
    · obtain ⟨ds, rfl⟩ := hplus
      obtain ⟨n, hn, rfl⟩ := signed?_plus_eq_some_iff.1 h
      obtain ⟨hdigits, rfl⟩ := natural?_eq_some_iff.1 hn
      exact .plus hdigits
    · obtain ⟨n, hn, rfl⟩ :=
        (signed?_bare_eq_some_iff (not_exists.1 hminus) (not_exists.1 hplus)).1 h
      obtain ⟨hdigits, rfl⟩ := natural?_eq_some_iff.1 hn
      exact .bare hdigits
  · rintro (h | h | h)
    · exact (signed?_bare_eq_some_iff (h.ne_cons (by decide)) (h.ne_cons (by decide))).2
        ⟨_, natural?_eq_some_iff.2 ⟨h, rfl⟩, rfl⟩
    · exact signed?_plus_eq_some_iff.2 ⟨_, natural?_eq_some_iff.2 ⟨h, rfl⟩, rfl⟩
    · exact signed?_minus_eq_some_iff.2 ⟨_, natural?_eq_some_iff.2 ⟨h, rfl⟩, rfl⟩

/-- A numeral is made of digits and signs. -/
theorem Spells.mem (h : Spells cs z) : ∀ c ∈ cs, c.isDigit = true ∨ c = '+' ∨ c = '-' := by
  rcases h with h | h | h
  · exact fun c hc => .inl (h.digits c hc)
  · exact List.forall_mem_cons.2 ⟨.inr (.inl rfl), fun c hc => .inl (h.digits c hc)⟩
  · exact List.forall_mem_cons.2 ⟨.inr (.inr rfl), fun c hc => .inl (h.digits c hc)⟩

/-- A numeral is ASCII, without capitals. -/
theorem Spells.plain (h : Spells cs z) : ∀ c ∈ cs, c.toNat < 0x80 ∧ c.isUpper = false := by
  intro c hc
  rcases h.mem c hc with hdigit | rfl | rfl
  · have hrange := toNat_of_isDigit hdigit
    refine ⟨by omega, decide_eq_false fun hupper => ?_⟩
    have hge : 65 ≤ c.toNat := UInt32.le_iff_toNat_le.1 hupper.1
    omega
  · decide
  · decide

/-- A numeral is made of visible characters. -/
theorem Spells.visible (h : Spells cs z) : ∀ c ∈ cs, 0x20 ≤ c.toNat ∧ c.toNat < 0x7F := by
  intro c hc
  rcases h.mem c hc with hdigit | rfl | rfl
  · have hrange := toNat_of_isDigit hdigit
    omega
  · decide
  · decide

/-- A digit of base ten is a decimal digit. -/
theorem filter_hexadecimal? (c : Char) :
    (hexadecimal? c).filter (· < 10) = decimal? c := by
  unfold hexadecimal? decimal?
  by_cases hdigit : '0' ≤ c ∧ c ≤ '9'
  · have hle : c.toNat ≤ 57 := UInt32.le_iff_toNat_le.1 hdigit.2
    have hzero : '0'.toNat = 48 := rfl
    rw [if_pos hdigit, if_pos hdigit, Option.filter_some, if_pos (decide_eq_true (by omega))]
  · rw [if_neg hdigit, if_neg hdigit]
    split
    · exact Option.filter_some_neg (by simp)
    split
    · exact Option.filter_some_neg (by simp)
    · rfl

end Numeral

/-- **The reader of the environment reads numerals of 64 bits.** -/
theorem Yaml.Node.inBase?_ten (cs : List Char) : inBase? 10 cs = int64? (Numeral.signed? cs) := by
  have hdigit : (fun c => (Numeral.hexadecimal? c).filter (· < 10)) = Numeral.decimal? :=
    funext Numeral.filter_hexadecimal?
  unfold inBase?
  simp only [hdigit]
  rfl

namespace CommandLine

variable {limit value n : Nat} {tooFar : PortFault} {cs : List Char}

theorem le_of_digitsFrom (h : Numeral.digitsFrom Numeral.decimal? 10 value cs = some n) :
    value ≤ n := by
  induction cs generalizing value with
  | nil => exact Nat.le_of_eq (Option.some.inj h)
  | cons c cs ih =>
    rw [Numeral.digitsFrom] at h
    split at h
    · have := ih h
      omega
    · cases h

/-- Digits are read up to a limit that only grows nearer. -/
theorem digitsWithin_eq_ok_iff (hvalue : value ≤ limit) :
    digitsWithin limit value tooFar cs = .ok n ↔
      Numeral.digitsFrom Numeral.decimal? 10 value cs = some n ∧ n ≤ limit := by
  induction cs generalizing value with
  | nil => simp [digitsWithin, Numeral.digitsFrom]; omega
  | cons c cs ih =>
    rw [digitsWithin, Numeral.digitsFrom]
    cases Numeral.decimal? c with
    | none => simp
    | some d =>
      dsimp only
      split
      · next hle => exact ih hle
      · next hlt =>
        constructor
        · intro h
          cases h
        · rintro ⟨h, hle⟩
          exact absurd (Nat.le_trans (le_of_digitsFrom h) hle) hlt

theorem digitsWithin_eq_ok_iff_natural? (hne : cs ≠ []) :
    digitsWithin limit 0 tooFar cs = .ok n ↔ Numeral.natural? cs = some n ∧ n ≤ limit := by
  cases cs with
  | nil => exact absurd rfl hne
  | cons c cs => exact digitsWithin_eq_ok_iff (Nat.zero_le limit)

theorem map_digitsWithin_eq_ok_iff (hne : cs ≠ []) {z : Int} :
    (digitsWithin (2 ^ 63 - 1) 0 .tooLarge cs).map Int.ofNat = .ok z ↔
      (∃ n : Nat, Numeral.natural? cs = some n ∧ z = n) ∧ -2 ^ 63 ≤ z ∧ z < 2 ^ 63 := by
  have hread {n : Nat} : digitsWithin (2 ^ 63 - 1) 0 .tooLarge cs = .ok n ↔ _ :=
    digitsWithin_eq_ok_iff_natural? hne
  have hmap : (digitsWithin (2 ^ 63 - 1) 0 .tooLarge cs).map Int.ofNat = .ok z ↔
      ∃ n : Nat, digitsWithin (2 ^ 63 - 1) 0 .tooLarge cs = .ok n ∧ z = n := by
    cases digitsWithin (2 ^ 63 - 1) 0 .tooLarge cs <;> simp [Except.map, eq_comm]
  rw [hmap]
  constructor
  · rintro ⟨n, hn, rfl⟩
    obtain ⟨hn, hle⟩ := hread.1 hn
    exact ⟨⟨n, hn, rfl⟩, by omega, by omega⟩
  · rintro ⟨⟨n, hn, rfl⟩, -, hlt⟩
    exact ⟨n, hread.2 ⟨hn, by omega⟩, rfl⟩

/-- **The reader of command lines reads numerals of 64 bits.**  The cases are those of the sign;
the lower limit is one further from zero than the upper one. -/
theorem signed_eq_ok_iff {text : String} {z : Int} :
    signed text = .ok z ↔ Numeral.Spells text.toList z ∧ -2 ^ 63 ≤ z ∧ z < 2 ^ 63 := by
  rw [← Numeral.signed?_eq_some_iff]
  unfold signed
  split
  · next h => rw [h]; exact iff_of_false nofun nofun
  · next h => rw [h]; exact iff_of_false nofun nofun
  · next h => rw [h]; exact iff_of_false nofun nofun
  · next cs hne h =>
    have hread {n : Nat} : digitsWithin (2 ^ 63) 0 .tooSmall cs = .ok n ↔ _ :=
      digitsWithin_eq_ok_iff_natural? hne
    rw [h, Numeral.signed?_minus_eq_some_iff]
    constructor
    · intro hz
      cases hcs : digitsWithin (2 ^ 63) 0 .tooSmall cs with
      | error fault => rw [hcs] at hz; cases hz
      | ok n =>
        rw [hcs] at hz
        obtain rfl : -(n : Int) = z := Except.ok.inj hz
        obtain ⟨hn, hle⟩ := hread.1 hcs
        exact ⟨⟨n, hn, rfl⟩, by omega, by omega⟩
    · rintro ⟨⟨n, hn, rfl⟩, hle, -⟩
      rw [hread.2 ⟨hn, by omega⟩]
      rfl
  · next cs hne h =>
    rw [h, Numeral.signed?_plus_eq_some_iff]
    exact map_digitsWithin_eq_ok_iff hne
  · next hne _ _ hminus hplus =>
    rw [Numeral.signed?_bare_eq_some_iff hminus hplus]
    exact map_digitsWithin_eq_ok_iff hne

end CommandLine
end MailGateway
