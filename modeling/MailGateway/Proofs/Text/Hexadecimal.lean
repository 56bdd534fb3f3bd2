/-
# Hexadecimal ids

An id is written with a fixed number of lower-case hexadecimal digits, zeros in front
included.  Reading the digits gives a number, and writing that number with as many digits
gives them back (`digits?_lowerDigits`): the value of the digits so far is the number before the
last digit, so the proof goes from the front to the back, one digit at a time.

A number without zeros in front is read back from its digits, too (`digitsFrom_toDigits`).  Zeros
read as zero (`digitsFrom_zeros`), and of as many digits only they do (`ne_zero_of_padded`).
-/

import Mathlib.Data.List.Induction
import MailGateway.Numbers
import MailGateway.Text.Numeral

namespace MailGateway
namespace Numeral

variable {c : Char} {cs : List Char}

/-- The digits of ids. -/
def lowerDigits : List Char :=
  ['0', '1', '2', '3', '4', '5', '6', '7', '8', '9', 'a', 'b', 'c', 'd', 'e', 'f']

/-- The digits of a number, at least `width` of them. -/
def padded (width n : Nat) : List Char :=
  List.replicate (width - (Nat.toDigits 16 n).length) '0' ++ Nat.toDigits 16 n

theorem toList_hex (width n : Nat) : (hex width n).toList = padded width n := by
  rw [hex, String.toList_ofList, padded]

theorem digit_of_mem_lowerDigits (h : c ∈ lowerDigits) :
    ∃ d, d < 16 ∧ hexadecimal? c = some d ∧ Nat.digitChar d = c := by
  have hall : lowerDigits = (List.range 16).map Nat.digitChar := by decide
  rw [hall, List.mem_map] at h
  obtain ⟨d, hd, rfl⟩ := h
  have hread : ∀ d, d < 16 → hexadecimal? (Nat.digitChar d) = some d := by decide
  exact ⟨d, List.mem_range.1 hd, hread d (List.mem_range.1 hd), rfl⟩

/-- What readers of ids ask about a character. -/
theorem plain_of_mem_lowerDigits (h : c ∈ lowerDigits) :
    c.isUpper = false ∧ c ≠ '+' ∧ c ≠ '-' ∧ 0x20 ≤ c.toNat ∧ c.toNat < 0x7F := by
  obtain ⟨d, hd, -, rfl⟩ := digit_of_mem_lowerDigits h
  have hall : ∀ d, d < 16 → (Nat.digitChar d).isUpper = false ∧ Nat.digitChar d ≠ '+' ∧
      Nat.digitChar d ≠ '-' ∧ 0x20 ≤ (Nat.digitChar d).toNat ∧ (Nat.digitChar d).toNat < 0x7F := by
    decide
  exact hall d hd

theorem digitsFrom_append {digit? : Char → Option Nat} {base value : Nat} {ds : List Char} :
    digitsFrom digit? base value (cs ++ ds) =
      (digitsFrom digit? base value cs).bind fun n => digitsFrom digit? base n ds := by
  induction cs generalizing value with
  | nil => rfl
  | cons c cs ih =>
    rw [List.cons_append, digitsFrom, digitsFrom]
    cases digit? c with
    | none => rfl
    | some d => exact ih

/-- A number is read back from its hexadecimal digits. -/
theorem digitsFrom_toDigits (n : Nat) :
    digitsFrom hexadecimal? 16 0 (Nat.toDigits 16 n) = some n := by
  have hread : ∀ d, d < 16 → hexadecimal? (Nat.digitChar d) = some d := by decide
  induction n using Nat.strongRecOn with
  | ind n ih =>
    rcases Nat.lt_or_ge n 16 with hlt | hge
    · rw [Nat.toDigits_of_lt_base hlt]
      simp only [digitsFrom, hread n hlt, Nat.zero_mul, Nat.zero_add]
    · have hlast := hread (n % 16) (Nat.mod_lt n (by decide))
      have hfront := ih (n / 16) (Nat.div_lt_self (by omega) (by decide))
      rw [Nat.toDigits_of_base_le (by decide) hge, digitsFrom_append, hfront]
      simp only [Option.bind_some, digitsFrom, hlast, Option.some.injEq]
      omega

theorem padded_zero {width : Nat} (h : 0 < width) : padded width 0 = List.replicate width '0' := by
  have hdigits : Nat.toDigits 16 0 = ['0'] := Nat.toDigits_zero 16
  obtain ⟨width, rfl⟩ := Nat.exists_eq_succ_of_ne_zero (Nat.ne_of_gt h)
  rw [padded, hdigits, List.replicate_succ']
  rfl

/-- One more digit behind a number. -/
theorem padded_succ {width n d : Nat} (hw : 0 < width) (hd : d < 16) :
    padded (width + 1) (16 * n + d) = padded width n ++ [Nat.digitChar d] := by
  have hlast : Nat.toDigits 16 d = [Nat.digitChar d] := Nat.toDigits_of_lt_base hd
  rcases Nat.eq_zero_or_pos n with rfl | hn
  · rw [padded_zero hw, Nat.mul_zero, Nat.zero_add, padded, hlast]
    rfl
  · have hdigits : Nat.toDigits 16 (16 * n + d) = Nat.toDigits 16 n ++ [Nat.digitChar d] := by
      rw [← Nat.toDigits_append_toDigits (by decide) hn hd, hlast]
    rw [padded, padded, hdigits, List.length_append, List.length_singleton,
      Nat.add_sub_add_right, List.append_assoc]

/-- **Digits are read as a number that is written with them.** -/
theorem digitsFrom_lowerDigits (hne : cs ≠ []) (h : ∀ c ∈ cs, c ∈ lowerDigits) :
    ∃ n, digitsFrom hexadecimal? 16 0 cs = some n ∧ n < 16 ^ cs.length ∧
      padded cs.length n = cs := by
  induction cs using List.reverseRecOn with
  | nil => exact absurd rfl hne
  | append_singleton cs c ih =>
    obtain ⟨d, hd, hread, rfl⟩ :=
      digit_of_mem_lowerDigits (h c (List.mem_append_right cs List.mem_cons_self))
    cases cs with
    | nil =>
      refine ⟨d, ?_, hd, ?_⟩
      · simp only [List.nil_append, digitsFrom, hread, Nat.zero_mul, Nat.zero_add]
      · have hlast : Nat.toDigits 16 d = [Nat.digitChar d] := Nat.toDigits_of_lt_base hd
        rw [padded, hlast]
        rfl
    | cons a cs =>
      have hfront : ∀ c ∈ a :: cs, c ∈ lowerDigits := fun c hc => h c (List.mem_append_left _ hc)
      have hpos : 0 < (a :: cs).length := Nat.succ_pos _
      obtain ⟨n, hn, hlt, hpadded⟩ := ih (List.cons_ne_nil a cs) hfront
      refine ⟨16 * n + d, ?_, ?_, ?_⟩
      · rw [digitsFrom_append, hn, Nat.mul_comm 16 n]
        simp only [Option.bind_some, digitsFrom, hread]
      · rw [List.length_append, List.length_singleton, Nat.pow_succ]
        omega
      · rw [List.length_append, List.length_singleton, padded_succ hpos hd, hpadded]

/-- Zeros read as zero. -/
theorem digitsFrom_zeros (h : ∀ c ∈ cs, c = '0') : digitsFrom hexadecimal? 16 0 cs = some 0 := by
  induction cs with
  | nil => rfl
  | cons c cs ih =>
    obtain rfl := h c List.mem_cons_self
    exact ih fun c hc => h c (List.mem_cons_of_mem _ hc)

/-- Nothing but zeros is written for zero. -/
theorem ne_zero_of_padded {width n : Nat} (hw : 0 < width) (h : padded width n = cs)
    (hne : ∃ c ∈ cs, c ≠ '0') : n ≠ 0 := by
  rintro rfl
  rw [padded_zero hw] at h
  obtain ⟨c, hc, hzero⟩ := hne
  rw [← h] at hc
  exact hzero (List.eq_of_mem_replicate hc)

end Numeral
end MailGateway
