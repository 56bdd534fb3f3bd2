/-
# Words without quotes

An unquoted scalar of one line, made of words of letters, digits and underscores with one blank
between two of them, is scanned as it stands.  A word is passed character by character
(`readPlainWord_append`).  Behind a word stands a colon, which ends the scalar
(`readPlainFrom_key`); or a blank, and the next word is read (`readPlainFrom_blank`); or the line
break at the end of the text, which ends the scalar too (`readPlainFrom_last`).  By induction all
words up to the line break are one scalar (`readPlainFrom_words`).
-/

import MailGateway.Yaml.Scalar

namespace MailGateway
namespace Yaml

/-- A letter, a digit or an underscore. -/
def isWordChar (x : Char) : Bool := x.isAlphanum || x = '_'

/-- A character that belongs to a word is none that does not. -/
theorem ne_of_isWordChar {x : Char} (h : isWordChar x = true) (y : Char)
    (hy : isWordChar y = false := by decide) : x ≠ y := by
  rintro rfl
  rw [hy] at h
  cases h

/-- Letters, digits and underscores, and not none of them. -/
structure IsWord (w : List Char) : Prop where
  ne_nil : w ≠ []
  chars : ∀ x ∈ w, isWordChar x = true

theorem isWord_of_all {w : List Char} (hne : w ≠ []) (hall : w.all isWordChar = true) : IsWord w :=
  ⟨hne, List.all_eq_true.1 hall⟩

theorem IsWord.exists_cons {w : List Char} (h : IsWord w) :
    ∃ x xs, w = x :: xs ∧ isWordChar x = true ∧ ∀ y ∈ xs, isWordChar y = true := by
  obtain ⟨x, xs, rfl⟩ := List.exists_cons_of_ne_nil h.ne_nil
  exact ⟨x, xs, rfl, h.chars x List.mem_cons_self,
    fun y hy => h.chars y (List.mem_cons_of_mem x hy)⟩

theorem isBreak_of_isWordChar {x : Char} (h : isWordChar x = true) : isBreak x = false := by
  simp only [isBreak, ne_of_isWordChar h '\n', ne_of_isWordChar h '\r', decide_false, Bool.or_self]

theorem isBlank_of_isWordChar {x : Char} (h : isWordChar x = true) : isBlank x = false := by
  simp only [isBlank, ne_of_isWordChar h ' ', ne_of_isWordChar h '\t', decide_false, Bool.or_self]

theorem isEnd_of_isWordChar {x : Char} (h : isWordChar x = true) : isEnd x = false := by
  simp only [isEnd, ne_of_isWordChar h '\x00', decide_false]

theorem isSpace_of_isWordChar {x : Char} (h : isWordChar x = true) : isSpace x = false := by
  simp only [isSpace, isBreakOrEnd, isBlank_of_isWordChar h, isBreak_of_isWordChar h,
    isEnd_of_isWordChar h, Bool.or_self]

namespace Cursor

variable {c : Cursor} {x : Char} {xs : List Char}

theorem char_of_rest (h : c.rest = x :: xs) : c.char = x := by
  simp [char, ahead, h]

theorem ahead_one_of_rest {y : Char} (h : c.rest = x :: y :: xs) : c.ahead 1 = y := by
  simp [ahead, h]

@[simp] theorem rest_skip (c : Cursor) (n : Nat) : (c.skip n).rest = c.rest.drop n := rfl

@[simp] theorem rest_solid (c : Cursor) (n : Nat) : (c.solid n).rest = c.rest.drop n := rfl

theorem skip_skip (c : Cursor) (m n : Nat) : (c.skip m).skip n = c.skip (m + n) := by
  simp only [skip, List.drop_drop, Nat.sub_sub, Nat.add_assoc]

theorem solid_skip (c : Cursor) (m n : Nat) : (c.solid m).skip n = c.solid (m + n) := by
  simp only [solid, skip, List.drop_drop, Nat.sub_sub, Nat.add_assoc]

theorem solid_of_not_fresh (h : c.fresh = false) (n : Nat) : c.solid n = c.skip n := by
  obtain ⟨rest, mark, fresh, seen⟩ := c
  obtain rfl : fresh = false := h
  rfl

end Cursor

/-! ### One word -/

variable {c : Cursor} {w back : List Char} {x : Char} {fuel : Nat} {d : Draft}

/-- No word goes on with these. -/
def EndsWord (back : List Char) : Prop :=
  back.head?.all isSpace = true ∨ ∃ y ys, back = ':' :: y :: ys ∧ isSpace y = true

theorem stopsWord (hrest : c.rest = back) (h : EndsWord back) :
    (isSpace c.char || !continuesPlain false c) = true := by
  rcases h with hspace | ⟨y, ys, rfl, hy⟩
  · cases back with
    | nil => simp [Cursor.char, Cursor.ahead, hrest, show isSpace '\x00' = true by decide]
    | cons y ys =>
      rw [Cursor.char_of_rest hrest]
      simp only [List.head?_cons, Option.all_some] at hspace
      rw [hspace, Bool.true_or]
  · simp [continuesPlain, Cursor.char_of_rest hrest, Cursor.ahead_one_of_rest hrest, hy]

/-- A character of a word belongs to the scalar. -/
theorem goesOn_of_isWordChar (h : isWordChar c.char = true) :
    (!isSpace c.char && continuesPlain false c) = true := by
  simp [isSpace_of_isWordChar h, continuesPlain, ne_of_isWordChar h ':']

/-- One character of a word is passed. -/
theorem readPlainWord_cons {xs : List Char} (fuel : Nat) (d : Draft) (hrest : c.rest = x :: xs)
    (hx : isWordChar x = true) :
    readPlainWord (fuel + 1) false d c = readPlainWord fuel false (x :: d) (c.solid 1) ∧
      (c.solid 1).rest = xs := by
  have hchar : c.char = x := Cursor.char_of_rest hrest
  have hgoes : ¬(isSpace c.char || !continuesPlain false c) = true := by
    simpa using goesOn_of_isWordChar (hchar ▸ hx)
  constructor
  · rw [readPlainWord, if_neg hgoes, hchar]
  · rw [Cursor.rest_solid, hrest, List.drop_succ_cons, List.drop_zero]

/-- A word is passed up to its end. -/
theorem readPlainWord_append (hfresh : c.fresh = false) (hrest : c.rest = w ++ back)
    (hw : ∀ x ∈ w, isWordChar x = true) (hback : EndsWord back) (hfuel : w.length < fuel) :
    readPlainWord fuel false d c = (d.add w, c.skip w.length) := by
  induction w generalizing c d fuel with
  | nil =>
    obtain ⟨fuel, rfl⟩ : ∃ n, fuel = n + 1 := Nat.exists_eq_add_one.2 hfuel
    rw [readPlainWord, if_pos (stopsWord hrest hback)]
    rfl
  | cons x xs ih =>
    obtain ⟨fuel, rfl⟩ : ∃ n, fuel = n + 1 := Nat.exists_eq_add_one.2 (Nat.zero_lt_of_lt hfuel)
    obtain ⟨hstep, hnext⟩ := readPlainWord_cons fuel d hrest (hw x List.mem_cons_self)
    rw [hstep, ih rfl hnext (fun y hy => hw y (List.mem_cons_of_mem x hy))
      (Nat.lt_of_succ_lt_succ hfuel), Cursor.solid_of_not_fresh hfresh, Cursor.skip_skip,
      List.length_cons, Nat.add_comm 1]
    simp [Draft.add]

/-- The same from the beginning of a line, too: the line is fresh no longer. -/
theorem readPlainWord_word (hw : IsWord w) (hrest : c.rest = w ++ back) (hback : EndsWord back)
    (hfuel : w.length < fuel) : readPlainWord fuel false d c = (d.add w, c.solid w.length) := by
  obtain ⟨x, xs, rfl, hx, hxs⟩ := hw.exists_cons
  obtain ⟨fuel, rfl⟩ : ∃ n, fuel = n + 1 := Nat.exists_eq_add_one.2 (Nat.zero_lt_of_lt hfuel)
  obtain ⟨hstep, hnext⟩ := readPlainWord_cons fuel d hrest hx
  rw [hstep, readPlainWord_append rfl hnext hxs hback (Nat.lt_of_succ_lt_succ hfuel),
    Cursor.solid_skip, List.length_cons, Nat.add_comm 1]
  simp [Draft.add]

/-! ### Words of one scalar -/

variable {indent : Int} {start : Mark} {g : PlainGap}

/-- The text with a word behind what was passed before it. -/
def PlainGap.join (g : PlainGap) (broken : Bool) (d : Draft) (w : List Char) : Draft :=
  (fold d broken g.firstBreak g.blanks.reverse g.more.reverse).add w

/-- A word is read, and what stands behind it decides whether that was all. -/
theorem readPlainFrom_word (hw : IsWord w) (hrest : c.rest = w ++ back) (hback : EndsWord back) :
    readPlainFrom (fuel + 1) false indent start g d c =
      if isBlank (c.solid w.length).char || isBreak (c.solid w.length).char then
        match passPlainBlanks (back.length + 1) indent start {} (c.solid w.length) with
        | .error f => .error f
        | .ok (g', c') =>
          if c'.column < indent then .ok (g.join c.fresh d w, c')
          else readPlainFrom fuel false indent start g' (g.join c.fresh d w) c'
      else .ok (g.join c.fresh d w, c.solid w.length) := by
  obtain ⟨x, xs, hcons, hx, -⟩ := hw.exists_cons
  have hchar : c.char = x := Cursor.char_of_rest (by rw [hrest, hcons, List.cons_append])
  have hindicator : c.isDocumentIndicator = false := by
    simp [Cursor.isDocumentIndicator, Cursor.isIndicator, hchar, ne_of_isWordChar hx '-',
      ne_of_isWordChar hx '.']
  have hgoes : (!isSpace c.char && continuesPlain false c) = true :=
    goesOn_of_isWordChar (hchar ▸ hx)
  have hfuel : w.length < c.rest.length + 1 := by
    rw [hrest, List.length_append]
    omega
  have hback' : (c.solid w.length).rest = back := by
    rw [Cursor.rest_solid, hrest, List.drop_left]
  simp only [readPlainFrom, hindicator, hchar, ne_of_isWordChar hx '#', hchar ▸ hgoes, ↓reduceIte,
    readPlainWord_word hw hrest hback hfuel, Bool.and_false, decide_false, Bool.or_self,
    Bool.false_eq_true, Bool.false_and, Bool.not_false, Bool.true_and, decide_eq_true_eq, hback']
  cases isBlank (c.solid w.length).char || isBreak (c.solid w.length).char with
  | false => rfl
  | true => cases passPlainBlanks (back.length + 1) indent start {} (c.solid w.length) <;> rfl

theorem passPlainBlanks_blank (hfresh : c.fresh = false) (hchar : c.char = ' ') :
    passPlainBlanks (fuel + 1) indent start g c =
      passPlainBlanks fuel indent start { g with blanks := ' ' :: g.blanks } c.blank := by
  have hblank : isBlank ' ' = true := by decide
  rw [passPlainBlanks, hchar, if_pos hblank, hfresh, Bool.not_false, if_pos rfl]

theorem passPlainBlanks_newline (hfresh : c.fresh = false) (hchar : c.char = '\n') :
    passPlainBlanks (fuel + 1) indent start g c =
      passPlainBlanks fuel indent start { g with firstBreak := true, blanks := [] }
        c.newline := by
  have hblank : ¬isBlank '\n' = true := by decide
  have hbreak : isBreak '\n' = true := by decide
  have hreturn : ¬('\n' = '\r' ∧ c.ahead 1 = '\n') := fun h => absurd h.1 (by decide)
  rw [passPlainBlanks, Cursor.lineBreak, hchar, if_neg hblank, if_pos hbreak, if_pos hbreak,
    if_neg hreturn, hfresh, if_neg Bool.false_ne_true]

theorem passPlainBlanks_done (hblank : isBlank c.char = false) (hbreak : isBreak c.char = false) :
    passPlainBlanks (fuel + 1) indent start g c = .ok (g, c) := by
  rw [passPlainBlanks, hblank, hbreak, if_neg Bool.false_ne_true, if_neg Bool.false_ne_true]

/-- Before a colon a word is all. -/
theorem readPlainFrom_key {y : Char} {ys : List Char} (hw : IsWord w)
    (hrest : c.rest = w ++ ':' :: y :: ys) (hy : isSpace y = true) :
    readPlainFrom (fuel + 1) false indent start g d c =
      .ok (g.join c.fresh d w, c.solid w.length) := by
  have hcolon : (c.solid w.length).char = ':' :=
    Cursor.char_of_rest (by rw [Cursor.rest_solid, hrest, List.drop_left])
  have hends : ¬(isBlank ':' || isBreak ':') = true := by decide
  rw [readPlainFrom_word hw hrest (.inr ⟨y, ys, rfl, hy⟩), hcolon, if_neg hends]

/-- Behind one blank the next word is read on. -/
theorem readPlainFrom_blank (hw : IsWord w) (hrest : c.rest = w ++ ' ' :: x :: back)
    (hx : isWordChar x = true) (hindent : indent ≤ (c.skip (w.length + 1)).column) :
    readPlainFrom (fuel + 1) false indent start g d c =
      readPlainFrom fuel false indent start { blanks := [' '] } (g.join c.fresh d w)
        (c.solid (w.length + 1)) := by
  have hback : (c.solid w.length).rest = ' ' :: x :: back := by
    rw [Cursor.rest_solid, hrest, List.drop_left]
  have hnext : (c.solid (w.length + 1)).rest = x :: back := by
    rw [← Cursor.solid_skip, Cursor.rest_skip, hback, List.drop_succ_cons, List.drop_zero]
  have hpass : passPlainBlanks ((' ' :: x :: back).length + 1) indent start {}
      (c.solid w.length) = .ok ({ blanks := [' '] }, c.solid (w.length + 1)) := by
    rw [passPlainBlanks_blank rfl (Cursor.char_of_rest hback), Cursor.blank, Cursor.solid_skip,
      List.length_cons, passPlainBlanks_done]
    · rw [Cursor.char_of_rest hnext, isBlank_of_isWordChar hx]
    · rw [Cursor.char_of_rest hnext, isBreak_of_isWordChar hx]
  have hgoes : (isBlank ' ' || isBreak ' ') = true := by decide
  have hin : ¬(c.solid (w.length + 1)).column < indent := Int.not_lt.2 hindent
  rw [readPlainFrom_word hw hrest (.inl rfl), Cursor.char_of_rest hback, if_pos hgoes, hpass]
  dsimp only
  rw [if_neg hin]

/-- At the end of the text the last line break ends the scalar. -/
theorem readPlainFrom_last (hw : IsWord w) (hrest : c.rest = w ++ ['\n']) (hindent : 0 < indent) :
    readPlainFrom (fuel + 1) false indent start g d c =
      .ok (g.join c.fresh d w, (c.skip w.length).newline) := by
  have hback : (c.solid w.length).rest = ['\n'] := by
    rw [Cursor.rest_solid, hrest, List.drop_left]
  have hpass : passPlainBlanks (['\n'].length + 1) indent start {} (c.solid w.length) =
      .ok ({ firstBreak := true }, (c.skip w.length).newline) := by
    have hend : (c.solid w.length).newline.char = '\x00' := by
      rw [Cursor.char, Cursor.ahead, Cursor.newline, hback]
      rfl
    rw [passPlainBlanks_newline rfl (Cursor.char_of_rest hback), List.length_singleton,
      passPlainBlanks_done]
    · rfl
    · rw [hend]; decide
    · rw [hend]; decide
  have hgoes : (isBlank '\n' || isBreak '\n') = true := by decide
  have hout : ((c.skip w.length).newline).column < indent := hindent
  rw [readPlainFrom_word hw hrest (.inl (by decide)), Cursor.char_of_rest hback, if_pos hgoes,
    hpass]
  dsimp only
  rw [if_pos hout]

/-- Words with a blank between two of them. -/
def spaced (words : List (List Char)) : List Char := [' '].intercalate words

/-- A text is made of words with a blank between two of them. -/
def IsWords (text : String) : Prop :=
  ∃ words, words ≠ [] ∧ (∀ w ∈ words, IsWord w) ∧ text.toList = spaced words

theorem spaced_cons_cons (w v : List Char) (words : List (List Char)) :
    spaced (w :: v :: words) = w ++ ' ' :: spaced (v :: words) := by
  rw [spaced, List.intercalate_cons_cons, List.append_assoc, List.singleton_append]
  rfl

theorem exists_spaced (hw : IsWord w) (words : List (List Char)) :
    ∃ x xs, spaced (w :: words) = x :: xs ∧ isWordChar x = true := by
  obtain ⟨x, xs, rfl, hx, -⟩ := hw.exists_cons
  cases words with
  | nil => exact ⟨x, xs, List.intercalate_singleton, hx⟩
  | cons v words => exact ⟨x, _, by rw [spaced_cons_cons, List.cons_append], hx⟩

theorem PlainGap.join_join (g : PlainGap) (d : Draft) (w v : List Char) :
    PlainGap.join { blanks := [' '] } false (g.join false d w) v =
      g.join false d (w ++ ' ' :: v) := by
  simp [join, fold, Draft.add]

/-- **Words on a line are read as they stand**, up to the line break behind them. -/
theorem readPlainFrom_words {words : List (List Char)} (hne : words ≠ [])
    (hwords : ∀ w ∈ words, IsWord w) (hfresh : c.fresh = false)
    (hrest : c.rest = spaced words ++ ['\n']) (hindent : 0 < indent) (hcolumn : indent ≤ c.column)
    (hfuel : words.length ≤ fuel) :
    readPlainFrom fuel false indent start g d c =
      .ok (g.join false d (spaced words), (c.skip (spaced words).length).newline) := by
  induction words generalizing c g d fuel with
  | nil => exact absurd rfl hne
  | cons w words ih =>
    obtain ⟨fuel, rfl⟩ : ∃ n, fuel = n + 1 := Nat.exists_eq_add_one.2 (Nat.zero_lt_of_lt hfuel)
    have hw : IsWord w := hwords w List.mem_cons_self
    cases words with
    | nil =>
      have hword : spaced [w] = w := List.intercalate_singleton
      rw [hword] at hrest ⊢
      rw [readPlainFrom_last hw hrest hindent, hfresh]
    | cons v words =>
      have hv : IsWord v := hwords v (by simp)
      obtain ⟨x, xs, hspaced, hx⟩ := exists_spaced hv words
      have hrest' : c.rest = w ++ ' ' :: x :: (xs ++ ['\n']) := by
        rw [hrest, spaced_cons_cons, hspaced, List.append_assoc, List.cons_append,
          List.cons_append]
      have hnext : (c.skip (w.length + 1)).rest = spaced (v :: words) ++ ['\n'] := by
        rw [← Cursor.skip_skip, Cursor.rest_skip, Cursor.rest_skip, hrest', List.drop_left,
          List.drop_succ_cons, List.drop_zero, hspaced, List.cons_append]
      have hin : indent ≤ (c.skip (w.length + 1)).column := by
        simp only [Cursor.column, Cursor.skip] at hcolumn ⊢
        omega
      have hsolid : (c.skip (w.length + 1)).fresh = false := hfresh
      rw [readPlainFrom_blank hw hrest' hx hin, Cursor.solid_of_not_fresh hfresh, hfresh,
        ih (List.cons_ne_nil v words) (fun u hu => hwords u (List.mem_cons_of_mem w hu)) hsolid
          hnext hin (Nat.le_of_succ_le_succ hfuel),
        PlainGap.join_join, Cursor.skip_skip, spaced_cons_cons, List.length_append,
        List.length_cons, Nat.add_assoc, Nat.add_comm 1]

theorem PlainGap.join_start (broken : Bool) (w : List Char) :
    (({} : PlainGap).join broken [] w).reverse = w := by
  cases broken <;> simp [join, fold, Draft.add]

theorem length_le_spaced {words : List (List Char)} (hwords : ∀ w ∈ words, IsWord w) :
    words.length ≤ (spaced words).length := by
  induction words with
  | nil => exact Nat.zero_le _
  | cons w words ih =>
    obtain ⟨x, xs, hcons, -⟩ := (hwords w List.mem_cons_self).exists_cons
    cases words with
    | nil => simp [spaced, hcons]
    | cons v words =>
      have hlength := ih fun u hu => hwords u (List.mem_cons_of_mem w hu)
      simp only [spaced_cons_cons, List.length_append, List.length_cons] at hlength ⊢
      omega

/-- The scalar of a key. -/
theorem readPlain_key {y : Char} {ys : List Char} (hw : IsWord w)
    (hrest : c.rest = w ++ ':' :: y :: ys) (hy : isSpace y = true) :
    readPlain false indent c =
      .ok (⟨c.mark, .scalar .plain (String.ofList w)⟩, c.solid w.length) := by
  simp only [readPlain, Bool.false_and, Bool.false_eq_true, ↓reduceIte,
    readPlainFrom_key hw hrest hy, bind, Except.bind, pure, Except.pure, PlainGap.join_start]

/-- The scalar of words at the end of the text. -/
theorem readPlain_words {words : List (List Char)} (hne : words ≠ [])
    (hwords : ∀ w ∈ words, IsWord w) (hfresh : c.fresh = false)
    (hrest : c.rest = spaced words ++ ['\n']) (hindent : 0 < indent)
    (hcolumn : indent ≤ c.column) :
    readPlain false indent c = .ok (⟨c.mark, .scalar .plain (String.ofList (spaced words))⟩,
      (c.skip (spaced words).length).newline) := by
  have hfuel : words.length ≤ c.rest.length + 1 := by
    have hlength := length_le_spaced hwords
    rw [hrest, List.length_append]
    omega
  simp only [readPlain, Bool.false_and, Bool.false_eq_true, ↓reduceIte,
    readPlainFrom_words hne hwords hfresh hrest hindent hcolumn hfuel, bind, Except.bind, pure,
    Except.pure, PlainGap.join_start]

end Yaml
end MailGateway
