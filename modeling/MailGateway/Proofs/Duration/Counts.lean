/-
# Durations that are read back

A duration is written as counts of units, the largest first (`text_eq`).  Reading takes one count
after another (`readFrom_count`) and adds it, so it comes to the sum of all (`readFrom_counts`).
The sum of what was written is the duration itself (`sum_counts`), and no sum on the way is
larger.  So **every duration is read back from its own words** (`ofText_text`), without an
overflow, up to the largest one.
-/

import Mathlib
import MailGateway.Duration.Units

namespace MailGateway
namespace Duration

/-! ### Names of units -/

theorem not_isDigitOrSpace_of_isUnitLetter {x : Char} (h : isUnitLetter x = true) :
    isDigitOrSpace x = false := by
  have hletter : (65 ≤ x.toNat ∧ x.toNat ≤ 90) ∨ (97 ≤ x.toNat ∧ x.toNat ≤ 122) ∨
      x.toNat = 0xB5 := by
    rw [isUnitLetter, Bool.or_eq_true, decide_eq_true_iff] at h
    rcases h with halpha | rfl
    · simp only [Char.isAlpha, Char.isUpper, Char.isLower, Bool.or_eq_true, Bool.and_eq_true,
        decide_eq_true_eq, ge_iff_le, UInt32.le_iff_toNat_le] at halpha
      rcases halpha with hupper | hlower
      · exact .inl hupper
      · exact .inr (.inl hlower)
    · exact .inr (.inr rfl)
  have hdigit : x.isDigit = false := by
    rw [Char.isDigit, Bool.and_eq_false_iff]
    simp only [decide_eq_false_iff_not, UInt32.le_iff_toNat_le]
    have h48 : UInt32.toNat 48 = 48 := rfl
    have h57 : UInt32.toNat 57 = 57 := rfl
    change ¬UInt32.toNat 48 ≤ x.toNat ∨ ¬x.toNat ≤ UInt32.toNat 57
    omega
  have hspace : Text.isSpace x = false := by
    simp only [Text.isSpace, Bool.or_eq_false_iff, Bool.and_eq_false_iff, decide_eq_false_iff_not]
    omega
  rw [isDigitOrSpace, hdigit, hspace, Bool.or_false]

/-- The letters that names of units are written with first. -/
def initials : List Char := ['y', 'm', 'w', 'd', 'h', 's', 'u', 'n']

/-- A name that a unit is read by. -/
structure IsName (unit : TimeUnit) (name : String) : Prop where
  read : TimeUnit.ofName? name = some unit
  all_letters : name.toList.all isUnitLetter = true
  initial : name.toList.head? ∈ initials.map some

instance (unit : TimeUnit) (name : String) : Decidable (IsName unit name) :=
  decidable_of_iff (TimeUnit.ofName? name = some unit ∧ name.toList.all isUnitLetter = true ∧
    name.toList.head? ∈ initials.map some)
    ⟨fun ⟨hread, hletters, hinitial⟩ => ⟨hread, hletters, hinitial⟩,
      fun ⟨hread, hletters, hinitial⟩ => ⟨hread, hletters, hinitial⟩⟩

theorem IsName.letters {unit : TimeUnit} {name : String} (h : IsName unit name) :
    ∀ x ∈ name.toList, isUnitLetter x = true :=
  List.all_eq_true.1 h.all_letters

theorem IsName.exists_cons {unit : TimeUnit} {name : String} (h : IsName unit name) :
    ∃ x xs, name.toList = x :: xs ∧ x ∈ initials := by
  obtain ⟨x, hx, hhead⟩ := List.mem_map.1 h.initial
  obtain ⟨xs, hname⟩ := List.head?_eq_some_iff.1 hhead.symm
  exact ⟨x, xs, hname, hx⟩

/-- What is written behind a one, and behind any other number of units. -/
def written : TimeUnit → String × String
  | .year => ("year", "years")
  | .month => ("month", "months")
  | .week => ("week", "weeks")
  | .day => ("day", "days")
  | .hour => ("h", "h")
  | .minute => ("m", "m")
  | .second => ("s", "s")
  | .millisecond => ("ms", "ms")
  | .microsecond => ("us", "us")
  | .nanosecond => ("ns", "ns")

theorem isName_written (unit : TimeUnit) :
    IsName unit (written unit).1 ∧ IsName unit (written unit).2 := by
  cases unit <;> decide

/-! ### Counts -/

/-- A number of units. -/
structure Count where
  number : Nat
  unit : TimeUnit
  deriving DecidableEq, Repr

namespace Count

/-- The name of the unit as it is written. -/
def name (c : Count) : String := if c.number = 1 then (written c.unit).1 else (written c.unit).2

/-- The count in words. -/
def text (c : Count) : String := toString c.number ++ c.name

theorem isName_name (c : Count) : IsName c.unit c.name := by
  unfold name
  split
  · exact (isName_written c.unit).1
  · exact (isName_written c.unit).2

theorem isDigit_number (c : Count) : ∀ x ∈ (toString c.number).toList, x.isDigit = true := by
  intro x hx
  have hlist : (toString c.number).toList = Nat.toDigits 10 c.number := Nat.toList_repr
  exact Nat.isDigit_of_mem_toDigits (by decide) (by decide) (hlist ▸ hx)

theorem toList_text (c : Count) :
    c.text.toList = (toString c.number).toList ++ c.name.toList := String.toList_append

theorem number_ne_nil (c : Count) : (toString c.number).toList ≠ [] := by
  have hlist : (toString c.number).toList = Nat.toDigits 10 c.number := Nat.toList_repr
  exact hlist ▸ Nat.toDigits_ne_nil

/-- A count begins with a digit. -/
theorem exists_text (c : Count) : ∃ x xs, c.text.toList = x :: xs ∧ x.isDigit = true := by
  have hdigits := c.isDigit_number
  cases htext : (toString c.number).toList with
  | nil => exact absurd htext c.number_ne_nil
  | cons x xs =>
    refine ⟨x, xs ++ c.name.toList, ?_, hdigits x (htext ▸ List.mem_cons_self)⟩
    rw [toList_text, htext, List.cons_append]

end Count

/-- What may come behind a count: nothing, or a blank. -/
def Ends (tail : List Char) : Prop := ∀ x xs, tail = x :: xs → x = ' '

theorem ends_nil : Ends [] := fun _ _ h => nomatch h

theorem ends_blank (rest : List Char) : Ends (' ' :: rest) := fun _ _ h => (List.cons.inj h).1.symm

variable {tail : List Char} {d : Duration} {c : Count} {cs : List Count}

theorem takeWhile_name (c : Count) (h : Ends tail) :
    (c.name.toList ++ tail).takeWhile isUnitLetter = c.name.toList := by
  rw [List.takeWhile_append_of_pos c.isName_name.letters]
  cases tail with
  | nil => simp
  | cons x xs =>
    rw [h x xs rfl, List.takeWhile_cons_of_neg (by decide), List.append_nil]

theorem dropWhile_name (c : Count) (h : Ends tail) :
    (c.name.toList ++ tail).dropWhile isUnitLetter = tail := by
  rw [List.dropWhile_append_of_pos c.isName_name.letters]
  cases tail with
  | nil => rfl
  | cons x xs => rw [h x xs rfl, List.dropWhile_cons_of_neg (by decide)]

/-- A number is read up to the name behind it. -/
theorem readAmount_text (c : Count) (tail : List Char) :
    readAmount (c.text.toList ++ tail) = some (⟨c.number, 0, 0⟩, c.name.toList ++ tail) := by
  obtain ⟨x, xs, hname, -⟩ := c.isName_name.exists_cons
  have hletter : isUnitLetter x = true := c.isName_name.letters x (by simp [hname])
  have hx : ¬isDigitOrSpace x = true := by
    simpa using not_isDigitOrSpace_of_isUnitLetter hletter
  have hdot : x ≠ '.' := by
    rintro rfl
    exact absurd hletter (by decide)
  have hpass : ∀ y ∈ (toString c.number).toList, isDigitOrSpace y = true := fun y hy => by
    rw [isDigitOrSpace, c.isDigit_number y hy, Bool.true_or]
  have htake : (c.text.toList ++ tail).takeWhile isDigitOrSpace = (toString c.number).toList := by
    rw [c.toList_text, List.append_assoc, List.takeWhile_append_of_pos hpass, hname,
      List.cons_append, List.takeWhile_cons_of_neg hx, List.append_nil]
  have hdrop : (c.text.toList ++ tail).dropWhile isDigitOrSpace = x :: (xs ++ tail) := by
    rw [c.toList_text, List.append_assoc, List.dropWhile_append_of_pos hpass, hname,
      List.cons_append, List.dropWhile_cons_of_neg hx]
  have hnumber : (digitsIn (toString c.number).toList).1 = c.number := by
    rw [digitsIn, List.filter_eq_self.2 c.isDigit_number, Numeral.natural?_toString,
      Option.getD_some]
  unfold readAmount
  rw [htake, hdrop, hnumber, hname]
  dsimp only
  split
  · next hrest => exact absurd (List.cons.inj hrest).1 hdot
  · rfl

/-! ### Sums -/

/-- The duration with a count added. -/
def plus (d : Duration) (c : Count) : Duration :=
  if c.unit.size.1 then { d with seconds := d.seconds + c.number * c.unit.size.2 }
  else { d with nanos := d.nanos + c.number * c.unit.size.2 }

/-- The seconds fit 64 bits, and the nanoseconds are less than a second. -/
structure Fits (d : Duration) : Prop where
  seconds : d.seconds < 2 ^ 64
  nanos : d.nanos < 1000000000

theorem le_plus (d : Duration) (c : Count) :
    d.seconds ≤ (d.plus c).seconds ∧ d.nanos ≤ (d.plus c).nanos := by
  unfold plus
  split
  · exact ⟨Nat.le_add_right .., Nat.le_refl _⟩
  · exact ⟨Nat.le_refl _, Nat.le_add_right ..⟩

theorem le_foldl_plus (d : Duration) (cs : List Count) :
    d.seconds ≤ (cs.foldl plus d).seconds ∧ d.nanos ≤ (cs.foldl plus d).nanos := by
  induction cs generalizing d with
  | nil => exact ⟨Nat.le_refl _, Nat.le_refl _⟩
  | cons c cs ih =>
    obtain ⟨hseconds, hnanos⟩ := ih (d.plus c)
    exact ⟨(d.le_plus c).1.trans hseconds, (d.le_plus c).2.trans hnanos⟩

theorem Fits.of_plus (h : Fits (d.plus c)) : Fits d :=
  ⟨(d.le_plus c).1.trans_lt h.seconds, (d.le_plus c).2.trans_lt h.nanos⟩

/-- Where the sum of all counts fits, so does the sum of the first ones. -/
theorem Fits.of_foldl_plus (h : Fits (cs.foldl plus d)) : Fits d :=
  ⟨(le_foldl_plus d cs).1.trans_lt h.seconds, (le_foldl_plus d cs).2.trans_lt h.nanos⟩

theorem word_of_lt {n : Nat} (h : n < 2 ^ 64) : word n = .ok n := if_pos h

theorem number_le (c : Count) : c.number ≤ c.number * c.unit.size.2 := by
  refine Nat.le_mul_of_pos_right _ ?_
  cases c.unit <;> decide

theorem add_seconds {n : Nat} (hseconds : d.seconds + n < 2 ^ 64) (hnanos : d.nanos < 1000000000) :
    d.add true n = .ok { d with seconds := d.seconds + n } := by
  have hn : word n = .ok n := word_of_lt (by omega)
  have hword : word d.nanos = .ok d.nanos := word_of_lt (by omega)
  have hsum : word (d.seconds + n + d.nanos / 1000000000) = .ok (d.seconds + n) := by
    rw [Nat.div_eq_of_lt hnanos]
    exact word_of_lt hseconds
  simp only [add, hn, bind, Except.bind, ↓reduceIte, Nat.add_zero, hword, hsum,
    Nat.ne_of_lt hnanos, Nat.mod_eq_of_lt hnanos]
  rfl

theorem add_nanos {n : Nat} (hseconds : d.seconds < 2 ^ 64) (hnanos : d.nanos + n < 1000000000) :
    d.add false n = .ok { d with nanos := d.nanos + n } := by
  have hn : word n = .ok n := word_of_lt (by omega)
  have hword : word (d.nanos + n) = .ok (d.nanos + n) := word_of_lt (by omega)
  have hsum : word (d.seconds + (d.nanos + n) / 1000000000) = .ok d.seconds := by
    rw [Nat.div_eq_of_lt hnanos]
    exact word_of_lt hseconds
  simp only [add, hn, bind, Except.bind, Bool.false_eq_true, ↓reduceIte, Nat.add_zero, hword, hsum,
    Nat.ne_of_lt hnanos, Nat.mod_eq_of_lt hnanos]
  rfl

/-- A count is added as it is where the sum fits. -/
theorem addAmount_eq_plus (h : Fits (d.plus c)) :
    d.addAmount ⟨c.number, 0, 0⟩ c.unit = .ok (d.plus c) := by
  have hd : Fits d := Fits.of_plus h
  obtain ⟨hseconds, hnanos⟩ := h
  have hnumber := number_le c
  have hadd : c.number < 2 ^ 64 ∧ d.add c.unit.size.1 (c.number * c.unit.size.2) =
      .ok (d.plus c) := by
    unfold plus at hseconds hnanos ⊢
    cases hunit : c.unit.size.1 with
    | true =>
      simp only [hunit, ↓reduceIte] at hseconds ⊢
      exact ⟨by omega, add_seconds hseconds hd.nanos⟩
    | false =>
      simp only [hunit, Bool.false_eq_true, ↓reduceIte] at hnanos ⊢
      exact ⟨by omega, add_nanos hd.seconds hnanos⟩
  simp only [addAmount, word_of_lt hadd.1, hadd.2, bind, Except.bind, ↓reduceIte]
  rfl

/-! ### Reading -/

/-- One count is read and added, and what stands behind it is read on. -/
theorem readFrom_count {fuel : Nat} (h : Fits (d.plus c)) (hends : Ends tail) :
    readFrom (fuel + 1) d (c.text.toList ++ tail) =
      match tail with
      | [] => .ok (d.plus c)
      | _ :: rest =>
        if (rest.dropWhile Text.isSpace).isEmpty then .ok (d.plus c)
        else readFrom fuel (d.plus c) (rest.dropWhile Text.isSpace) := by
  obtain ⟨x, xs, htext, hx⟩ := c.exists_text
  have hdigit : (c.text.toList ++ tail).head?.any Char.isDigit = true := by
    rw [htext]
    simpa using hx
  simp only [readFrom, hdigit, Bool.not_true, Bool.false_eq_true, ↓reduceIte, readAmount_text,
    need, bind, Except.bind, takeWhile_name c hends, String.ofList_toList, c.isName_name.read,
    addAmount_eq_plus h, dropWhile_name c hends]
  cases tail with
  | nil => rfl
  | cons y rest =>
    obtain rfl := hends y rest rfl
    have hblank : Text.isSpace ' ' = true := by decide
    simp only [hblank, List.dropWhile_cons_of_pos, ↓reduceIte]
    rfl

/-- The characters of counts. -/
def charsOf (cs : List Count) : List Char := [' '].intercalate (cs.map fun c => c.text.toList)

theorem charsOf_cons (c : Count) (cs : List Count) : charsOf (c :: cs) =
    c.text.toList ++ if cs.isEmpty then [] else ' ' :: charsOf cs := by
  cases cs with
  | nil => simp [charsOf]
  | cons b cs => simp [charsOf, List.intercalate_cons_cons]

/-- Counts begin with a digit, and no white space comes before it. -/
theorem exists_charsOf (c : Count) (cs : List Count) :
    ∃ x xs, charsOf (c :: cs) = x :: xs ∧ x.isDigit = true := by
  obtain ⟨x, xs, htext, hx⟩ := c.exists_text
  exact ⟨x, _, by rw [charsOf_cons, htext, List.cons_append], hx⟩

theorem isSpace_of_isDigit {x : Char} (h : x.isDigit = true) : Text.isSpace x = false := by
  have hrange := Numeral.toNat_of_isDigit h
  simp only [Text.isSpace, Bool.or_eq_false_iff, Bool.and_eq_false_iff, decide_eq_false_iff_not]
  omega

theorem dropWhile_charsOf (c : Count) (cs : List Count) :
    (charsOf (c :: cs)).dropWhile Text.isSpace = charsOf (c :: cs) := by
  obtain ⟨x, xs, hchars, hx⟩ := exists_charsOf c cs
  rw [hchars, List.dropWhile_cons_of_neg (by simp [isSpace_of_isDigit hx])]

/-- Counts are read one after another, and added up. -/
theorem readFrom_counts {fuel : Nat} (hne : cs ≠ []) (hfuel : cs.length ≤ fuel)
    (h : Fits (cs.foldl plus d)) : readFrom fuel d (charsOf cs) = .ok (cs.foldl plus d) := by
  induction cs generalizing d fuel with
  | nil => exact absurd rfl hne
  | cons c cs ih =>
    obtain ⟨fuel, rfl⟩ : ∃ n, fuel = n + 1 := Nat.exists_eq_add_one.2 (Nat.zero_lt_of_lt hfuel)
    have hfits : Fits (d.plus c) := Fits.of_foldl_plus h
    rw [charsOf_cons]
    cases cs with
    | nil => exact readFrom_count hfits ends_nil
    | cons b cs =>
      have hmore : (charsOf (b :: cs)).isEmpty = false := by
        obtain ⟨x, xs, hchars, -⟩ := exists_charsOf b cs
        rw [hchars]
        rfl
      rw [List.isEmpty_cons, if_neg Bool.false_ne_true, readFrom_count hfits (ends_blank _)]
      dsimp only
      rw [dropWhile_charsOf, hmore, if_neg Bool.false_ne_true]
      exact ih (List.cons_ne_nil b cs) (Nat.le_of_succ_le_succ hfuel) h

/-! ### Writing -/

/-- The counts of a duration, from years to nanoseconds. -/
def counts (d : Duration) : List Count :=
  let inYear := d.seconds % 31557600
  let inMonth := inYear % 2630016
  let inDay := inMonth % 86400
  [⟨d.seconds / 31557600, .year⟩, ⟨inYear / 2630016, .month⟩, ⟨inMonth / 86400, .day⟩,
    ⟨inDay / 3600, .hour⟩, ⟨inDay % 3600 / 60, .minute⟩, ⟨inDay % 60, .second⟩,
    ⟨d.nanos / 1000000, .millisecond⟩, ⟨d.nanos / 1000 % 1000, .microsecond⟩,
    ⟨d.nanos % 1000, .nanosecond⟩]

/-- Those that are written. -/
def writtenCounts (d : Duration) : List Count := d.counts.filter fun c => c.number ≠ 0

theorem plus_zero (h : c.number = 0) : d.plus c = d := by
  unfold plus
  rw [h, Nat.zero_mul]
  split <;> rfl

/-- Counts of none add nothing. -/
theorem foldl_plus_filter (d : Duration) (cs : List Count) :
    (cs.filter fun c => c.number ≠ 0).foldl plus d = cs.foldl plus d := by
  induction cs generalizing d with
  | nil => rfl
  | cons c cs ih =>
    by_cases hc : c.number = 0
    · rw [List.filter_cons_of_neg (by simpa using hc), List.foldl_cons, plus_zero hc, ih]
    · rw [List.filter_cons_of_pos (by simpa using hc), List.foldl_cons, List.foldl_cons, ih]

/-- **What is written adds up to the duration.** -/
theorem sum_counts (d : Duration) : d.writtenCounts.foldl plus ⟨0, 0⟩ = d := by
  rw [writtenCounts, foldl_plus_filter]
  obtain ⟨seconds, nanos⟩ := d
  simp only [counts, List.foldl_cons, List.foldl_nil, plus, TimeUnit.size, ↓reduceIte,
    Bool.false_eq_true, Duration.mk.injEq]
  omega

/-- A count of none is left out. -/
theorem flatMap_part (cs : List Count) :
    (cs.flatMap fun c => part c.number (written c.unit).1 (written c.unit).2) =
      (cs.filter fun c => c.number ≠ 0).map Count.text := by
  induction cs with
  | nil => rfl
  | cons c cs ih =>
    rw [List.flatMap_cons, ih, part]
    by_cases hc : c.number = 0
    · simp [hc]
    · simp [hc, Count.text, Count.name]

theorem parts_eq (d : Duration) : d.parts = d.writtenCounts.map Count.text := by
  rw [writtenCounts, ← flatMap_part]
  simp only [parts, counts, written, List.flatMap_cons, List.flatMap_nil, List.append_nil,
    List.append_assoc]

/-- A duration is written as its counts, or as no seconds at all. -/
theorem text_eq (d : Duration) :
    d.text = if d.writtenCounts = [] then "0s" else String.ofList (charsOf d.writtenCounts) := by
  rw [text, parts_eq]
  by_cases h : d.writtenCounts = []
  · simp [h]
  · have hchars : (" ".intercalate (d.writtenCounts.map Count.text)).toList =
        charsOf d.writtenCounts := by
      rw [String.toList_intercalate, List.map_map]
      rfl
    rw [if_neg (by simpa using h), if_neg h, ← hchars, String.ofList_toList]

/-- Digits, and behind them what goes on as no numeral does. -/
def IsMeasure (text : List Char) : Prop :=
  ∃ digits x rest, text = digits ++ x :: rest ∧ digits ≠ [] ∧
    (∀ y ∈ digits, y.isDigit = true) ∧ x ∈ initials

theorem isMeasure_charsOf (c : Count) (cs : List Count) : IsMeasure (charsOf (c :: cs)) := by
  obtain ⟨x, xs, hname, hx⟩ := c.isName_name.exists_cons
  rw [charsOf_cons, c.toList_text, hname, List.append_assoc, List.cons_append]
  exact ⟨_, x, _, rfl, c.number_ne_nil, c.isDigit_number, hx⟩

/-- No duration is written like a numeral. -/
theorem isMeasure_text (d : Duration) : IsMeasure d.text.toList := by
  rw [text_eq]
  cases hcounts : d.writtenCounts with
  | nil =>
    have hdigit : ∀ y ∈ ['0'], y.isDigit = true := List.forall_mem_singleton.2 rfl
    exact ⟨['0'], 's', [], by decide, by decide, hdigit, by decide⟩
  | cons c cs =>
    rw [if_neg (List.cons_ne_nil c cs), String.toList_ofList]
    exact isMeasure_charsOf c cs

theorem length_le_charsOf (cs : List Count) : cs.length ≤ (charsOf cs).length := by
  induction cs with
  | nil => exact Nat.zero_le _
  | cons c cs ih =>
    obtain ⟨x, xs, htext, -⟩ := c.exists_text
    rw [charsOf_cons, htext]
    cases cs with
    | nil => simp
    | cons b cs =>
      simp only [List.isEmpty_cons, Bool.false_eq_true, ↓reduceIte, List.length_append,
        List.length_cons] at ih ⊢
      omega

/-- **A duration is read back from its words.** -/
theorem ofText_text (h : Fits d) : ofText d.text = .ok d := by
  have hsum := sum_counts d
  rw [text_eq]
  cases hcounts : d.writtenCounts with
  | nil =>
    rw [hcounts, List.foldl_nil] at hsum
    rw [if_pos rfl, ← hsum]
    decide
  | cons c cs =>
    rw [hcounts] at hsum
    have hfits : Fits ((c :: cs).foldl plus ⟨0, 0⟩) := hsum.symm ▸ h
    have hzero : String.ofList (charsOf (c :: cs)) ≠ "0" := by
      intro hzero
      obtain ⟨digits, x, rest, hchars, hdigits, -⟩ := isMeasure_charsOf c cs
      have hlength : (charsOf (c :: cs)).length = 1 := by
        rw [← String.toList_ofList (l := charsOf (c :: cs)), hzero]
        rfl
      have hpos := List.length_pos_iff.2 hdigits
      rw [hchars, List.length_append, List.length_cons] at hlength
      omega
    have hfuel : (c :: cs).length ≤ (charsOf (c :: cs)).length + 1 :=
      (length_le_charsOf _).trans (Nat.le_succ _)
    rw [if_neg (List.cons_ne_nil c cs), ofText, if_neg hzero, String.toList_ofList]
    dsimp only
    rw [dropWhile_charsOf, readFrom_counts (List.cons_ne_nil c cs) hfuel hfits, hsum]

end Duration
end MailGateway
