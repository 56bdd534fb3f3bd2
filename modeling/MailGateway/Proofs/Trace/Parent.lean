/-
# What a caller may say of its trace

`traceparent` has four parts between hyphens.  A header of version 0 whose ids have all of
their digits, in lower case and not all zero, is read as these ids and its lowest flag
(`readParent?_parentText`), and the ids are written with the same digits again.

A header with fewer parts, or with an upper-case letter in an id, or with zeros only, is not
read at all (`readParent?_eq_none`).  Blanks around the header are passed over first; they
stand in the first or in the last part, so the ids are not touched by that.
-/

import Mathlib.Data.List.TakeWhile
import MailGateway.Proofs.Text.Hexadecimal
import MailGateway.Proofs.Text.Separator
import MailGateway.Trace.Context

namespace MailGateway
namespace Trace

/-- An id as the header spells it: so many lower-case hexadecimal digits, not all zero. -/
structure IsId (width : Nat) (id : String) : Prop where
  length : id.toList.length = width
  digits : ∀ c ∈ id.toList, c ∈ Numeral.lowerDigits
  nonzero : ∃ c ∈ id.toList, c ≠ '0'

instance (width : Nat) (id : String) : Decidable (IsId width id) :=
  decidable_of_iff (id.toList.length = width ∧ id.toList.all (· ∈ Numeral.lowerDigits) = true ∧
      id.toList.any (· ≠ '0') = true)
    ⟨fun ⟨hlength, hdigits, hne⟩ => ⟨hlength, by simpa using hdigits, by simpa using hne⟩,
      fun ⟨hlength, hdigits, hne⟩ => ⟨hlength, by simpa using hdigits, by simpa using hne⟩⟩

/-- The header of version 0 for a trace, a span of it, and whether the trace is recorded. -/
def parentText (trace span : String) (sampled : Bool) : String :=
  "00-" ++ trace ++ "-" ++ span ++ if sampled then "-01" else "-00"

/-- The text does not have four parts, or one of its ids is no id. -/
def NamesNone (text : String) : Prop :=
  (text.toList.splitOn '-').length < 4 ∨
    ∃ i id, (i = 1 ∨ i = 2) ∧ (text.toList.splitOn '-')[i]? = some id ∧
      ((∃ c ∈ id, c.isUpper = true) ∨ ∀ c ∈ id, c = '0')

variable {cs : List Char} {text trace span : String} {width : Nat}

/-! ### Ids -/

theorem hexNatural?_of_ne {c : Char} (h : c ≠ '+') (cs : List Char) :
    Numeral.hexNatural? (c :: cs) = Numeral.digitsFrom Numeral.hexadecimal? 16 0 (c :: cs) := by
  unfold Numeral.hexNatural?
  split
  · next heq => exact absurd (List.cons.inj heq).1 h
  · rfl

theorem id?_of_isId {id : String} (hw : 0 < width) (h : IsId width id) :
    ∃ n, id? (4 * width) id.toList = some n ∧ Numeral.hex width n = id := by
  obtain ⟨hlength, hdigits, hnonzero⟩ := h
  have hne : id.toList ≠ [] := by
    intro hnil
    rw [hnil] at hlength
    exact Nat.ne_of_lt hw hlength
  obtain ⟨n, hread, hlt, hpadded⟩ := Numeral.digitsFrom_lowerDigits hne hdigits
  rw [hlength] at hlt hpadded
  have hn : n ≠ 0 := Numeral.ne_zero_of_padded hw hpadded hnonzero
  have hlower : id.toList.any Char.isUpper = false := by
    refine List.any_eq_false.2 fun c hc => ?_
    simp [(Numeral.plain_of_mem_lowerDigits (hdigits c hc)).1]
  have hnatural : Numeral.hexNatural? id.toList = some n := by
    obtain ⟨c, cs, hcs⟩ := List.exists_cons_of_ne_nil hne
    have hplus := (Numeral.plain_of_mem_lowerDigits (hdigits c (hcs ▸ List.mem_cons_self))).2.1
    rw [hcs] at hread ⊢
    rw [hexNatural?_of_ne hplus, hread]
  have hbound : n < 2 ^ (4 * width) := by
    rwa [Nat.pow_mul]
  refine ⟨n, ?_, ?_⟩
  · rw [id?, hlower, hexBelow?, hnatural]
    simp only [Bool.false_eq_true, ↓reduceIte, hbound]
    split
    · next heq => exact absurd (Option.some.inj heq) hn
    · rfl
  · rw [← String.toList_inj, Numeral.toList_hex, hpadded]

theorem id?_eq_none_of_isUpper {bits : Nat} (h : ∃ c ∈ cs, c.isUpper = true) :
    id? bits cs = none := if_pos (List.any_eq_true.2 h)

theorem id?_eq_none_of_zeros {bits : Nat} (h : ∀ c ∈ cs, c = '0') : id? bits cs = none := by
  have hread := Numeral.digitsFrom_zeros h
  have hnatural : Numeral.hexNatural? cs = none ∨ Numeral.hexNatural? cs = some 0 := by
    cases cs with
    | nil => exact .inl rfl
    | cons c cs =>
      obtain rfl := h c List.mem_cons_self
      exact .inr ((hexNatural?_of_ne (by decide) cs).trans hread)
  have hbelow : hexBelow? (2 ^ bits) cs = none ∨ hexBelow? (2 ^ bits) cs = some 0 := by
    unfold hexBelow?
    rcases hnatural with hnone | hzero
    · exact .inl (by rw [hnone])
    · exact .inr (by rw [hzero]; exact if_pos (Nat.two_pow_pos bits))
  unfold id?
  rcases hbelow with hnone | hzero
  · rw [hnone]
    split <;> rfl
  · rw [hzero]
    split <;> rfl

/-! ### The header -/

/-- Blanks around a header stand in front of it and behind it. -/
theorem exists_trimmed (cs : List Char) : ∃ front back, '-' ∉ front ∧ '-' ∉ back ∧
    cs = front ++ (((cs.dropWhile isBlank).reverse.dropWhile isBlank).reverse ++ back) := by
  have hblank {ds : List Char} : '-' ∉ ds.takeWhile isBlank := fun h =>
    absurd (List.mem_takeWhile_imp h) (by decide)
  refine ⟨cs.takeWhile isBlank, ((cs.dropWhile isBlank).reverse.takeWhile isBlank).reverse,
    hblank, ?_, ?_⟩
  · rw [List.mem_reverse]
    exact hblank
  · rw [← List.reverse_append, List.takeWhile_append_dropWhile, List.reverse_reverse,
      List.takeWhile_append_dropWhile]

/-- A header with no blank at either end is as it is. -/
theorem trimmed_of_ends {a z : Char} (ha : isBlank a = false) (hz : isBlank z = false)
    (mid : List Char) :
    (((a :: (mid ++ [z])).dropWhile isBlank).reverse.dropWhile isBlank).reverse
      = a :: (mid ++ [z]) := by
  have hreverse : (a :: (mid ++ [z])).reverse = z :: (a :: mid).reverse := by simp
  rw [List.dropWhile_cons_of_neg (by simp [ha]), hreverse,
    List.dropWhile_cons_of_neg (by simp [hz]), ← hreverse, List.reverse_reverse]

/-- An empty part at the end apart, the parts are all the parts. -/
theorem splitOn_of_splitTerminated {front : List (List Char)} {part : List Char}
    {more : List (List Char)} (h : splitTerminated '-' cs = front ++ part :: more) :
    ∃ more', cs.splitOn '-' = front ++ part :: more' := by
  unfold splitTerminated at h
  dsimp only at h
  split at h
  · next hlast =>
    obtain ⟨init, hinit⟩ := List.getLast?_eq_some_iff.1 hlast
    rw [hinit, List.dropLast_concat] at h
    rw [hinit, h]
    exact ⟨more ++ [[]], by simp⟩
  · exact ⟨more, h⟩

theorem IsId.hyphen_notMem {id : String} (h : IsId width id) : '-' ∉ id.toList := fun hc =>
  (Numeral.plain_of_mem_lowerDigits (h.digits _ hc)).2.2.1 rfl

theorem visible_parentText {width' : Nat} (ht : IsId width trace) (hs : IsId width' span)
    (sampled : Bool) : ∀ c ∈ (parentText trace span sampled).toList,
      0x20 ≤ c.toNat ∧ c.toNat < 0x7F := by
  have htext : (parentText trace span sampled).toList = ['0', '0', '-'] ++ trace.toList ++ ['-'] ++
      span.toList ++ ['-', '0', if sampled then '1' else '0'] := by
    cases sampled <;> simp [parentText]
  have hlast : 0x20 ≤ (if sampled then '1' else '0').toNat ∧
      (if sampled then '1' else '0').toNat < 0x7F := by
    cases sampled <;> decide
  intro c hc
  simp only [htext, List.mem_append, List.mem_cons, List.not_mem_nil, or_false] at hc
  rcases hc with ((((rfl | rfl | rfl) | hc) | rfl) | hc) | rfl | rfl | rfl
  · decide
  · decide
  · decide
  · exact (Numeral.plain_of_mem_lowerDigits (ht.digits c hc)).2.2.2
  · decide
  · exact (Numeral.plain_of_mem_lowerDigits (hs.digits c hc)).2.2.2
  · decide
  · decide
  · exact hlast

theorem splitOn_parentText (htrace : IsId width trace) {width' : Nat} (hspan : IsId width' span)
    (sampled : Bool) : (parentText trace span sampled).toList.splitOn '-' =
      [['0', '0'], trace.toList, span.toList, ['0', if sampled then '1' else '0']] := by
  have htext : (parentText trace span sampled).toList = ['-'].intercalate
      [['0', '0'], trace.toList, span.toList, ['0', if sampled then '1' else '0']] := by
    cases sampled <;> simp [parentText, List.intercalate]
  rw [htext]
  refine List.splitOn_intercalate '-' ?_ (List.cons_ne_nil _ _)
  simp only [List.forall_mem_cons, List.not_mem_nil, false_implies, implies_true, and_true]
  refine ⟨by decide, htrace.hyphen_notMem, hspan.hyphen_notMem, ?_⟩
  cases sampled <;> decide

/-- **A parent is read** from the header that is written for it, with the digits of its ids. -/
theorem readParent?_parentText (htrace : IsId 32 trace) (hspan : IsId 16 span) (sampled : Bool) :
    ∃ t s, readParent? (parentText trace span sampled) = some (t, s, sampled) ∧
      Numeral.hex 32 t = trace ∧ Numeral.hex 16 s = span := by
  obtain ⟨t, (ht : id? 128 _ = _), htext⟩ := id?_of_isId (by decide) htrace
  obtain ⟨s, (hs : id? 64 _ = _), hstext⟩ := id?_of_isId (by decide) hspan
  refine ⟨t, s, ?_, htext, hstext⟩
  have hends : (parentText trace span sampled).toList =
      '0' :: (('0' :: '-' :: trace.toList ++ '-' :: span.toList ++ ['-', '0']) ++
        [if sampled then '1' else '0']) := by
    cases sampled <;> simp [parentText]
  have hlast : isBlank (if sampled then '1' else '0') = false := by
    cases sampled <;> decide
  have hparts : splitTerminated '-' (parentText trace span sampled).toList =
      [['0', '0'], trace.toList, span.toList, ['0', if sampled then '1' else '0']] := by
    rw [splitTerminated, splitOn_parentText htrace hspan]
    rfl
  have hversion : hexBelow? 256 ['0', '0'] = some 0 := by decide
  have hflags : hexBelow? 256 ['0', if sampled then '1' else '0'] = some sampled.toNat := by
    cases sampled <;> decide
  unfold readParent?
  rw [hends, trimmed_of_ends (by decide) hlast, ← hends]
  simp only [hparts, hversion, hflags, ht, hs]
  cases sampled <;> rfl

/-- **No parent is read** where a part is missing or an id is none. -/
theorem readParent?_eq_none (h : NamesNone text) : readParent? text = none := by
  unfold readParent?
  obtain ⟨front, back, hf, hb, hcs⟩ := exists_trimmed text.toList
  generalize ((text.toList.dropWhile isBlank).reverse.dropWhile isBlank).reverse = cs at hcs
  obtain ⟨hlength, hinside⟩ := splitOn_inside hf hb cs
  rw [← hcs] at hlength hinside
  dsimp only
  split
  · next version trace span flags more hparts =>
    have hfront : splitTerminated '-' cs = [version, trace, span] ++ flags :: more := hparts
    obtain ⟨more', hsplit⟩ := splitOn_of_splitTerminated hfront
    have hfour : 4 ≤ (cs.splitOn '-').length := by
      simp only [hsplit, List.length_append, List.length_cons, List.length_nil]
      omega
    have hids : id? 128 trace = none ∨ id? 64 span = none := by
      rcases h with hfew | ⟨i, id, hi, hid, hbad⟩
      · omega
      · have hnone (bits : Nat) : id? bits id = none := by
          rcases hbad with hupper | hzeros
          · exact id?_eq_none_of_isUpper hupper
          · exact id?_eq_none_of_zeros hzeros
        rw [hinside i (by omega) (by omega), hsplit] at hid
        rcases hi with rfl | rfl
        · obtain rfl := Option.some.inj hid
          exact .inl (hnone 128)
        · obtain rfl := Option.some.inj hid
          exact .inr (hnone 64)
    split
    · next ht hs _ =>
      rcases hids with hnone | hnone
      · cases hnone.symm.trans ht
      · cases hnone.symm.trans hs
    · rfl
  · rfl

end Trace
end MailGateway
