/-
# Numerals

Decimal and hexadecimal numerals as the settings and the headers spell them: at
least one digit, leading zeros allowed, a sign where the reader admits one.  No
blanks, no separators, no limit on the length.
-/

import MailGateway.Text.Utf8

namespace MailGateway
namespace Numeral

/-- The value of a decimal digit. -/
def decimal? (c : Char) : Option Nat :=
  if '0' ≤ c ∧ c ≤ '9' then some (c.toNat - '0'.toNat) else none

/-- The value of a hexadecimal digit of either case. -/
def hexadecimal? (c : Char) : Option Nat :=
  if '0' ≤ c ∧ c ≤ '9' then some (c.toNat - '0'.toNat)
  else if 'a' ≤ c ∧ c ≤ 'f' then some (c.toNat - 'a'.toNat + 10)
  else if 'A' ≤ c ∧ c ≤ 'F' then some (c.toNat - 'A'.toNat + 10)
  else none

/-- Digits behind a value read so far. -/
def digitsFrom (digit? : Char → Option Nat) (base value : Nat) : List Char → Option Nat
  | [] => some value
  | c :: cs =>
    match digit? c with
    | some d => digitsFrom digit? base (value * base + d) cs
    | none => none

/-- A numeral without a sign. -/
def digits? (digit? : Char → Option Nat) (base : Nat) : List Char → Option Nat
  | [] => none
  | cs => digitsFrom digit? base 0 cs

/-- A decimal numeral without a sign. -/
def natural? (cs : List Char) : Option Nat := digits? decimal? 10 cs

/-- What is read is made of digits. -/
theorem isSome_of_digitsFrom {digit? : Char → Option Nat} {base value n : Nat} {cs : List Char}
    (h : digitsFrom digit? base value cs = some n) : ∀ c ∈ cs, (digit? c).isSome := by
  induction cs generalizing value with
  | nil => exact fun c hc => absurd hc List.not_mem_nil
  | cons a cs ih =>
    rw [digitsFrom] at h
    split at h
    · next d hd => exact List.forall_mem_cons.2 ⟨hd ▸ rfl, ih h⟩
    · cases h

theorem toNat_of_isDigit {c : Char} (h : c.isDigit = true) : 48 ≤ c.toNat ∧ c.toNat ≤ 57 := by
  rw [Char.isDigit, Bool.and_eq_true] at h
  exact ⟨UInt32.le_iff_toNat_le.1 (of_decide_eq_true h.1),
    UInt32.le_iff_toNat_le.1 (of_decide_eq_true h.2)⟩

theorem decimal?_of_isDigit {c : Char} (h : c.isDigit = true) :
    decimal? c = some (c.toNat - '0'.toNat) := by
  have hrange : '0' ≤ c ∧ c ≤ '9' := by
    rw [Char.isDigit, Bool.and_eq_true] at h
    exact ⟨of_decide_eq_true h.1, of_decide_eq_true h.2⟩
  rw [decimal?, if_pos hrange]

theorem digitsFrom_decimal? {cs : List Char} (h : ∀ c ∈ cs, c.isDigit = true) (value : Nat) :
    digitsFrom decimal? 10 value cs = some (Nat.ofDigitChars 10 cs value) := by
  induction cs generalizing value with
  | nil => rfl
  | cons c cs ih =>
    have hdigit := decimal?_of_isDigit (h c List.mem_cons_self)
    simp only [digitsFrom, hdigit, Nat.ofDigitChars_cons, Nat.mul_comm 10 value]
    exact ih (fun d hd => h d (List.mem_cons_of_mem _ hd)) _

/-- A number is read back from its decimal digits. -/
theorem natural?_toString (n : Nat) : natural? (toString n).toList = some n := by
  have hdigits : ∀ c ∈ Nat.toDigits 10 n, c.isDigit = true := fun c hc =>
    Nat.isDigit_of_mem_toDigits (by decide) (by decide) hc
  have hread := digitsFrom_decimal? hdigits 0
  rw [Nat.ofDigitChars_ten_toDigits] at hread
  have hlist : (toString n).toList = Nat.toDigits 10 n := Nat.toList_repr
  cases hcs : Nat.toDigits 10 n with
  | nil => exact absurd hcs Nat.toDigits_ne_nil
  | cons c cs =>
    rw [hcs] at hread
    rw [natural?, hlist, hcs]
    exact hread

/-- A decimal numeral, perhaps with a sign. -/
def signed? : List Char → Option Int
  | '-' :: cs => (natural? cs).map fun n => -(n : Int)
  | '+' :: cs => (natural? cs).map Int.ofNat
  | cs => (natural? cs).map Int.ofNat

/-- A hexadecimal numeral, perhaps with a plus sign. -/
def hexNatural? : List Char → Option Nat
  | '+' :: cs => digits? hexadecimal? 16 cs
  | cs => digits? hexadecimal? 16 cs

/-- `n` in lower-case hexadecimal digits, at least `width` of them. -/
def hex (width n : Nat) : String :=
  let ds := Nat.toDigits 16 n
  String.ofList (List.replicate (width - ds.length) '0' ++ ds)

end Numeral
end MailGateway
