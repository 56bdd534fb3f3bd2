/-
# Plain digits are read as numbers

A number that is written in plain digits has no exponent, so it is a sign at will, digits, and
perhaps a point with more digits behind it (`isPositional_positionalText`).  A text of this form
is a numeral (`exists_ofDigits?`), and so are the words for the numbers that have no digits:
whatever is written is read back as some number (`exists_ofNumeral?_text`), and there is no blank
in it (`isWhitespace_of_mem_text`).
-/

import MailGateway.Binary64.Numeral
import MailGateway.Binary64.Shortest
import MailGateway.Proofs.Text.Numerals
import Mathlib.Data.List.TakeWhile

namespace MailGateway
namespace Binary64

open Numeral (IsDigits)

variable {digits cs whole part : List Char} {p : Int} {c : Char}

/-- Digits, perhaps with a point and more digits behind it. -/
def IsPositional (cs : List Char) : Prop :=
  ∃ whole, IsDigits whole ∧ (cs = whole ∨ ∃ part, IsDigits part ∧ cs = whole ++ '.' :: part)

theorem isDigits_toString (n : Nat) : IsDigits (toString n).toList :=
  (Numeral.natural?_eq_some_iff.1 (Numeral.natural?_toString n)).1

theorem isPositional_toString (n : Nat) : IsPositional (toString n).toList :=
  ⟨_, isDigits_toString n, .inl rfl⟩

theorem isPositional_positionalText (h : IsDigits digits) (p : Int) :
    IsPositional (positionalText false digits p) := by
  have hzeros (n : Nat) : ∀ c ∈ List.replicate n '0', c.isDigit = true := fun c hc => by
    rw [List.eq_of_mem_replicate hc]
    decide
  unfold positionalText
  split
  · have hzero : IsDigits ['0'] := ⟨List.cons_ne_nil _ _, hzeros 1⟩
    refine ⟨['0'], hzero, .inr ⟨_, ⟨?_, ?_⟩, rfl⟩⟩
    · exact List.append_ne_nil_of_right_ne_nil _ h.ne_nil
    · exact List.forall_mem_append.2 ⟨hzeros _, h.digits⟩
  · have hwhole : IsDigits (digits.take (p.toNat + 1) ++
        List.replicate (p.toNat + 1 - digits.length) '0') := by
      refine ⟨List.append_ne_nil_of_left_ne_nil ?_ _, List.forall_mem_append.2 ⟨?_, hzeros _⟩⟩
      · simpa using h.ne_nil
      · exact fun c hc => h.digits c (List.mem_of_mem_take hc)
    refine ⟨_, hwhole, ?_⟩
    dsimp only
    split
    · exact .inl (List.append_nil _)
    · next hfraction =>
      refine .inr ⟨_, ⟨?_, fun c hc => h.digits c (List.mem_of_mem_drop hc)⟩, rfl⟩
      simpa using hfraction

/-- What is read of digits and a point. -/
theorem exists_ofDigits? (h : IsPositional cs) (negative : Bool) :
    ∃ x, ofDigits? negative cs = some x := by
  obtain ⟨whole, hwhole, hcs | ⟨part, hpart, rfl⟩⟩ := h
  · have htake : cs.takeWhile Char.isDigit = cs :=
      List.takeWhile_eq_self_iff.2 (hcs ▸ hwhole.digits)
    have hdrop : cs.dropWhile Char.isDigit = [] :=
      List.dropWhile_eq_nil_iff.2 (hcs ▸ hwhole.digits)
    have hread : Numeral.natural? cs = some (Nat.ofDigitChars 10 cs 0) :=
      Numeral.natural?_eq_some_iff.2 ⟨hcs ▸ hwhole, rfl⟩
    refine ⟨ofDecimal negative (Nat.ofDigitChars 10 cs 0) 0, ?_⟩
    simp only [ofDigits?, htake, hdrop, List.append_nil, hread, exponent?]
    rfl
  · have htake : (whole ++ '.' :: part).takeWhile Char.isDigit = whole := by
      rw [List.takeWhile_append_of_pos hwhole.digits]
      exact List.append_nil _
    have hdrop : (whole ++ '.' :: part).dropWhile Char.isDigit = '.' :: part := by
      rw [List.dropWhile_append_of_pos hwhole.digits]
      rfl
    have htake' : part.takeWhile Char.isDigit = part := List.takeWhile_eq_self_iff.2 hpart.digits
    have hdrop' : part.dropWhile Char.isDigit = [] := List.dropWhile_eq_nil_iff.2 hpart.digits
    have hread : Numeral.natural? (whole ++ part) =
        some (Nat.ofDigitChars 10 (whole ++ part) 0) :=
      Numeral.natural?_eq_some_iff.2 ⟨⟨List.append_ne_nil_of_left_ne_nil hwhole.ne_nil _,
        List.forall_mem_append.2 ⟨hwhole.digits, hpart.digits⟩⟩, rfl⟩
    refine ⟨ofDecimal negative (Nat.ofDigitChars 10 (whole ++ part) 0) (0 - part.length), ?_⟩
    simp only [ofDigits?, htake, hdrop, htake', hdrop', hread, exponent?]

theorem exists_ofUnsigned? (h : IsPositional cs) (negative : Bool) :
    ∃ x, ofUnsigned? negative cs = some x := by
  unfold ofUnsigned?
  dsimp only
  split
  · exact ⟨_, rfl⟩
  · split
    · exact ⟨_, rfl⟩
    · exact exists_ofDigits? h negative

/-- The first character is a digit, and no sign. -/
theorem IsPositional.exists_cons (h : IsPositional cs) :
    ∃ c rest, cs = c :: rest ∧ c.isDigit = true := by
  obtain ⟨whole, hwhole, h⟩ := h
  obtain ⟨c, rest, rfl⟩ := List.exists_cons_of_ne_nil hwhole.ne_nil
  have hc := hwhole.digits c List.mem_cons_self
  rcases h with rfl | ⟨part, -, rfl⟩
  · exact ⟨c, rest, rfl, hc⟩
  · exact ⟨c, rest ++ '.' :: part, rfl, hc⟩

theorem exists_ofNumeral?_ofList (h : IsPositional cs) :
    ∃ x, ofNumeral? (String.ofList cs) = some x := by
  obtain ⟨c, rest, rfl, hc⟩ := h.exists_cons
  rw [ofNumeral?, String.toList_ofList]
  split
  · next heq =>
    obtain ⟨rfl, -⟩ := List.cons.inj heq
    exact absurd hc (by decide)
  · next heq =>
    obtain ⟨rfl, -⟩ := List.cons.inj heq
    exact absurd hc (by decide)
  · exact exists_ofUnsigned? h false

/-- What is written of a number that has digits. -/
theorem exists_toList_text_finite (s : Bool) (m : Nat) (e : Int) :
    ∃ body, IsPositional body ∧
      (text .plain (.finite s m e)).toList = (if s then ['-'] else []) ++ body := by
  let d := if m = 0 then ⟨0, 0⟩ else shortest m e
  let digits := (toString d.digits).toList
  refine ⟨positionalText false digits (d.exponent + (digits.length - 1 : Nat)),
    isPositional_positionalText (isDigits_toString d.digits) _, ?_⟩
  rw [text, String.toList_ofList]
  rfl

/-- **What is written in plain digits is read as a number.** -/
theorem exists_ofNumeral?_text (x : Binary64) : ∃ y, ofNumeral? (x.text .plain) = some y := by
  cases x with
  | nan => exact ⟨.nan, by decide⟩
  | infinite s => exact ⟨.infinite s, by cases s <;> decide⟩
  | finite s m e =>
    obtain ⟨body, hbody, htext⟩ := exists_toList_text_finite s m e
    have hlist : text .plain (.finite s m e) = String.ofList ((if s then ['-'] else []) ++ body) :=
      String.toList_inj.1 (htext.trans String.toList_ofList.symm)
    rw [hlist]
    cases s with
    | false => exact exists_ofNumeral?_ofList hbody
    | true =>
      rw [ofNumeral?, String.toList_ofList]
      exact exists_ofUnsigned? hbody true

theorem isWhitespace_of_isDigit (h : c.isDigit = true) : c.isWhitespace = false := by
  have hrange := Numeral.toNat_of_isDigit h
  by_contra hspace
  rw [Bool.not_eq_false, Char.isWhitespace] at hspace
  simp only [Bool.or_eq_true, decide_eq_true_eq] at hspace
  rcases hspace with ((rfl | rfl) | rfl) | rfl
  all_goals exact absurd hrange (by decide)

theorem IsPositional.isWhitespace (h : IsPositional cs) : ∀ c ∈ cs, c.isWhitespace = false := by
  obtain ⟨whole, hwhole, rfl | ⟨part, hpart, rfl⟩⟩ := h
  · exact fun c hc => isWhitespace_of_isDigit (hwhole.digits c hc)
  · refine List.forall_mem_append.2 ⟨fun c hc => isWhitespace_of_isDigit (hwhole.digits c hc),
      List.forall_mem_cons.2 ⟨by decide, fun c hc => isWhitespace_of_isDigit (hpart.digits c hc)⟩⟩

theorem isWhitespace_of_all (h : cs.all (!·.isWhitespace) = true) :
    ∀ c ∈ cs, c.isWhitespace = false := fun c hc => by
  simpa using List.all_eq_true.1 h c hc

/-- A number in plain digits has no blanks in it. -/
theorem isWhitespace_of_mem_text (x : Binary64) :
    ∀ c ∈ (x.text .plain).toList, c.isWhitespace = false := by
  cases x with
  | nan => exact isWhitespace_of_all (by decide)
  | infinite s => cases s <;> exact isWhitespace_of_all (by decide)
  | finite s m e =>
    obtain ⟨body, hbody, htext⟩ := exists_toList_text_finite s m e
    rw [htext]
    refine List.forall_mem_append.2 ⟨?_, hbody.isWhitespace⟩
    cases s <;> exact isWhitespace_of_all (by decide)

end Binary64
end MailGateway
