/-
# A file with one setting

The file is one line: a word, a colon and a blank, and words (`Proofs.Yaml.Words`).  It is scanned
in four steps.

* The key is a plain scalar, and the place before it is kept in mind (`fetch_key`).
* The colon tells that it was a key: the tokens that begin a mapping and its key are put in there
  (`fetch_colon`).
* The words are a plain scalar, and the line break ends it (`fetch_words`).
* At the end of the file the mapping is closed (`fetch_end`).

No key is given up on the way, since the colon comes on the same line and within 1024 characters
(`KeysFresh`).  From the tokens (`tokens_setting`) the events and the node follow by evaluation: **a
mapping with one member** (`parse_setting`).
-/

import MailGateway.Yaml.Node
import MailGateway.Proofs.Yaml.Words

namespace MailGateway
namespace Yaml

namespace Scan

variable {α β : Type} {s s' : Scanner} {a : α} {x : Scan α} {f : α → Scan β} {fuel : Nat}

theorem bind_of_ok (h : x s = .ok (a, s')) : (x >>= f) s = f a s' := by
  change Except.bind (x s) _ = _
  rw [h]
  rfl

theorem bind_get (f : Scanner → Scan α) : (get >>= f) s = f s s := rfl

theorem bind_modify (g : Scanner → Scanner) (f : PUnit → Scan α) :
    ((modify g : Scan PUnit) >>= f) s = f ⟨⟩ (g s) := rfl

/-! ### Before a token -/

/-- What stands at the front is passed over by nobody: it begins a token, or ends the stream. -/
structure AtToken (c : Cursor) : Prop where
  not_blank : isBlank c.char = false
  not_break : isBreak c.char = false
  not_comment : c.char ≠ '#'

theorem AtToken.not_tab {c : Cursor} (h : AtToken c) : c.char ≠ '\t' := by
  intro htab
  have hblank := h.not_blank
  rw [htab] at hblank
  cases hblank

theorem passSpaceFrom_of_atToken (h : AtToken s.cursor) :
    passSpaceFrom (fuel + 1) s = .ok (⟨⟩, s) := by
  simp only [passSpaceFrom, bind_get, h.not_blank, h.not_break, h.not_comment, h.not_tab,
    decide_false, Bool.false_and, Bool.false_eq_true, ↓reduceIte]
  rfl

theorem passSpace_of_atToken (h : AtToken s.cursor) : passSpace s = .ok (⟨⟩, s) := by
  rw [passSpace, bind_get, passSpaceFrom_of_atToken h]

/-- One blank before a token is passed. -/
theorem passSpace_of_blank (hblank : s.cursor.char = ' ') (h : AtToken s.cursor.blank) :
    passSpace s = .ok (⟨⟩, { s with cursor := s.cursor.blank }) := by
  obtain ⟨n, hn⟩ : ∃ n, s.cursor.rest.length = n + 1 := by
    cases hrest : s.cursor.rest with
    | nil =>
      rw [Cursor.char, Cursor.ahead, hrest] at hblank
      exact absurd hblank (by decide)
    | cons x xs => exact ⟨xs.length, rfl⟩
  have htab : ¬(' ' : Char) = '\t' := by decide
  have hspace : isBlank ' ' = true := by decide
  rw [passSpace, bind_get, hn, passSpaceFrom]
  simp only [bind_get, hblank, htab, hspace, decide_false, Bool.false_and, Bool.false_eq_true,
    ↓reduceIte]
  exact passSpaceFrom_of_atToken h

/-- No colon comes too late for a key that may still begin. -/
def KeysFresh (s : Scanner) : Prop :=
  ∀ k ∈ s.keys, k.possible = true →
    s.cursor.mark.line ≤ k.mark.line ∧ s.cursor.mark.index ≤ k.mark.index + 1024

theorem keysFresh_of_impossible {k : PossibleKey} (h : s.keys = [k]) (hk : k.possible = false) :
    KeysFresh s := by
  intro k' hk' hpossible
  rw [h, List.mem_singleton] at hk'
  rw [hk', hk] at hpossible
  cases hpossible

/-- A colon comes too late for the key. -/
def isStale (s : Scanner) (k : PossibleKey) : Bool :=
  k.possible && s.flow = 0 &&
    (k.mark.line < s.cursor.mark.line || k.mark.index + 1024 < s.cursor.mark.index)

theorem not_isStale_of_keysFresh (h : KeysFresh s) : ∀ k ∈ s.keys, isStale s k = false := by
  intro k hk
  cases hpossible : k.possible with
  | false => simp [isStale, hpossible]
  | true =>
    obtain ⟨hline, hindex⟩ := h k hk hpossible
    simp [isStale, Nat.not_lt.2 hline, Nat.not_lt.2 hindex]

theorem dropStaleKeys_of_keysFresh (h : KeysFresh s) : dropStaleKeys s = .ok (⟨⟩, s) := by
  have hstale := not_isStale_of_keysFresh h
  have hany : ¬(s.keys.reverse.any fun k => isStale s k && k.required) = true := by
    simp only [List.any_reverse, List.any_eq_true, Bool.and_eq_true, not_exists, not_and]
    intro k hk hlate
    rw [hstale k hk] at hlate
    cases hlate
  have hmap : (s.keys.map fun k => if isStale s k then { k with possible := false } else k) =
      s.keys := by
    refine (List.map_congr_left fun k hk => ?_).trans (List.map_id s.keys)
    rw [hstale k hk, if_neg Bool.false_ne_true, id]
  rw [dropStaleKeys, bind_get]
  refine (congrFun (if_neg hany) s).trans ?_
  change Except.ok (_, { s with keys := s.keys.map fun k => if isStale s k then _ else k }) = _
  rw [hmap]

theorem closeBlocksFrom_of_le {column : Int} (h : s.indent ≤ column) (indents : List Indent) :
    closeBlocksFrom column indents s = .ok (⟨⟩, s) := by
  cases indents with
  | nil => rfl
  | cons i is =>
    simp only [closeBlocksFrom, bind_get, Int.not_lt.2 h, ↓reduceIte]
    rfl

theorem closeBlocks_of_le {column : Int} (h : s.indent ≤ column) :
    closeBlocks column s = .ok (⟨⟩, s) := by
  rw [closeBlocks, bind_get]
  split
  · exact closeBlocksFrom_of_le h s.indents
  · rfl

/-! ### Which token it is -/

/-- Behind blank space the front tells which token is read. -/
theorem fetch_of_passSpace (hpass : passSpace s = .ok (⟨⟩, s')) (hkeys : KeysFresh s')
    (hindent : s'.indent ≤ s'.cursor.column) (hend : isEnd s'.cursor.char = false)
    (hdirective : s'.cursor.char ≠ '%') (hhyphen : s'.cursor.char ≠ '-')
    (hdot : s'.cursor.char ≠ '.') :
    fetch s = fetchByChar { s' with cursor := s'.cursor.see 4 } := by
  rw [fetch, bind_of_ok hpass, bind_of_ok (dropStaleKeys_of_keysFresh hkeys), bind_get,
    bind_of_ok (closeBlocks_of_le hindent), move, bind_modify, bind_get]
  simp only [hend, hdirective, Cursor.isIndicator, hhyphen, hdot, Bool.and_false, decide_false,
    Bool.false_and, Bool.false_eq_true, ↓reduceIte, Int.not_lt.2 hindent]

theorem fetch_of_isEnd (hpass : passSpace s = .ok (⟨⟩, s')) (hkeys : KeysFresh s')
    (hindent : s'.indent ≤ s'.cursor.column) (hend : isEnd s'.cursor.char = true) :
    fetch s = fetchStreamEnd { s' with cursor := s'.cursor.see 4 } := by
  rw [fetch, bind_of_ok hpass, bind_of_ok (dropStaleKeys_of_keysFresh hkeys), bind_get,
    bind_of_ok (closeBlocks_of_le hindent), move, bind_modify, bind_get, if_pos hend]

theorem fetchByChar_of_isWordChar (h : isWordChar s.cursor.char = true) :
    fetchByChar s = fetchPlain s := by
  simp only [fetchByChar, bind_get, ne_of_isWordChar h '[', ne_of_isWordChar h '{',
    ne_of_isWordChar h ']', ne_of_isWordChar h '}', ne_of_isWordChar h ',',
    ne_of_isWordChar h '-', ne_of_isWordChar h '?', ne_of_isWordChar h ':',
    ne_of_isWordChar h '*', ne_of_isWordChar h '&', ne_of_isWordChar h '!',
    ne_of_isWordChar h '|', ne_of_isWordChar h '>', ne_of_isWordChar h '\'',
    ne_of_isWordChar h '"', ne_of_isWordChar h '%', ne_of_isWordChar h '@',
    ne_of_isWordChar h (Char.ofNat 0x60), decide_false, Bool.false_and, Bool.false_eq_true,
    ↓reduceIte, Bool.or_self]

theorem fetchByChar_colon (h : s.cursor.char = ':') (hnext : isSpace (s.cursor.ahead 1) = true) :
    fetchByChar s = fetchValue s := by
  simp only [fetchByChar, bind_get, h, hnext, Char.reduceEq, decide_false, decide_true,
    Bool.false_and, Bool.false_eq_true, ↓reduceIte, Bool.true_or, Bool.true_and]

/-- A plain scalar is read with the indentation of its block, and a line break at its end
lets a key begin again. -/
theorem fetchPlain_of_readPlain {s₁ s₂ : Scanner} {t : Token} {c : Cursor}
    (hsave : saveKey s = .ok (⟨⟩, s₁))
    (hunset : unsetIn { s₁ with keyAllowed := false } = .ok (⟨⟩, s₂))
    (hread : readPlain (0 < s₂.flow) (s₂.indent + 1) s₂.cursor = .ok (t, c)) :
    fetchPlain s = .ok (⟨⟩, { s₂ with
      cursor := c
      tokens := s₂.tokens.push t
      keyAllowed := c.fresh || s₂.keyAllowed }) := by
  have htoken : read (readPlain (0 < s₂.flow) (s₂.indent + 1)) s₂ =
      .ok (t, { s₂ with cursor := c }) := by
    rw [read, bind_get, hread]
    rfl
  rw [fetchPlain, bind_of_ok hsave, allowKey, bind_modify, bind_of_ok hunset, bind_get,
    bind_of_ok htoken, bind_get]
  cases hfresh : c.fresh <;> rfl

/-! ### The tokens of one setting -/

variable {c : Cursor} {key back : List Char} {words : List (List Char)} {ts : Array Token}
  {k : PossibleKey} {t : Token}

theorem atToken_of_isWordChar (h : isWordChar c.char = true) : AtToken c :=
  ⟨isBlank_of_isWordChar h, isBreak_of_isWordChar h, ne_of_isWordChar h '#'⟩

/-- A word at the front is read as a plain scalar. -/
theorem fetch_of_isWordChar (hpass : passSpace s = .ok (⟨⟩, s')) (hkeys : KeysFresh s')
    (hindent : s'.indent ≤ s'.cursor.column) (h : isWordChar s'.cursor.char = true) :
    fetch s = fetchPlain { s' with cursor := s'.cursor.see 4 } := by
  rw [fetch_of_passSpace hpass hkeys hindent (isEnd_of_isWordChar h) (ne_of_isWordChar h '%')
    (ne_of_isWordChar h '-') (ne_of_isWordChar h '.')]
  exact fetchByChar_of_isWordChar h

/-- The state behind a scalar that may turn out to be a key. -/
def behindKey (c : Cursor) (ts : Array Token) (k : PossibleKey) : Scanner :=
  { cursor := c
    tokens := ts
    keyAllowed := false
    keys := [k] }

/-- The key is read where a key may begin, and waits for its colon. -/
theorem fetch_key (hkey : IsWord key) (hrest : c.rest = key ++ ':' :: ' ' :: back) :
    fetch { cursor := c, tokens := ts } = .ok (⟨⟩,
      behindKey ((c.see 4).solid key.length)
        (ts.push ⟨c.mark, .scalar .plain (String.ofList key)⟩)
        ⟨true, false, ts.size, c.mark⟩) := by
  obtain ⟨x, xs, hcons, hx, -⟩ := hkey.exists_cons
  have hchar : isWordChar c.char = true := by
    rw [Cursor.char_of_rest (by rw [hrest, hcons, List.cons_append]), hx]
  have hsave : saveKey { cursor := c.see 4, tokens := ts } = .ok (⟨⟩,
      { cursor := c.see 4, tokens := ts, keys := [⟨true, false, ts.size, c.mark⟩] }) := by
    change Except.ok _ = _
    simp only [↓reduceIte, Bool.and_false, List.drop_one, List.tail_cons]
    rfl
  have hindent : (-1 : Int) ≤ c.column :=
    Int.le_trans (by decide) (Int.natCast_nonneg _)
  have hkeys : KeysFresh { cursor := c, tokens := ts } :=
    keysFresh_of_impossible (k := .none) rfl rfl
  have hpass : passSpace { cursor := c, tokens := ts } =
      .ok (⟨⟩, { cursor := c, tokens := ts }) :=
    passSpace_of_atToken (atToken_of_isWordChar hchar)
  rw [fetch_of_isWordChar hpass hkeys hindent hchar]
  exact fetchPlain_of_readPlain hsave rfl
    (readPlain_key (c := c.see 4) hkey hrest (by decide))

/-- The state in a mapping that has one key, behind its colon. -/
def behindColon (c : Cursor) (ts : Array Token) (k : PossibleKey) : Scanner :=
  { cursor := c
    tokens := ts
    keyAllowed := false
    keys := [{ k with possible := false }]
    indent := 1
    indents := [⟨0, false⟩, ⟨-1, true⟩] }

/-- The colon behind the first key opens the mapping. -/
theorem fetch_colon (hrest : c.rest = ':' :: ' ' :: back) (hk : k.possible = true)
    (hcolumn : k.mark.column = 0) (hkeys : KeysFresh (behindKey c ts k)) :
    fetch (behindKey c ts k) = .ok (⟨⟩,
      behindColon ((c.see 4).solid 1)
        (((ts.insertIdxIfInBounds k.number ⟨k.mark, .key⟩).insertIdxIfInBounds k.number
          ⟨c.mark, .blockMappingStart⟩).push ⟨c.mark, .value⟩) k) := by
  have hchar : c.char = ':' := Cursor.char_of_rest hrest
  have hback : ((c.see 4).solid 1).rest = ' ' :: back := by
    rw [Cursor.rest_solid, Cursor.see, hrest]
    rfl
  have hnext : ((c.see 4).solid 1).char = ' ' := Cursor.char_of_rest hback
  have htoken : AtToken c := ⟨by rw [hchar]; rfl, by rw [hchar]; rfl, by rw [hchar]; decide⟩
  have hindent : (-1 : Int) ≤ c.column :=
    Int.le_trans (by decide) (Int.natCast_nonneg _)
  have hpass : passSpace (behindKey c ts k) = .ok (⟨⟩, behindKey c ts k) :=
    passSpace_of_atToken htoken
  have hfetch : fetch (behindKey c ts k) = fetchByChar (behindKey (c.see 4) ts k) :=
    fetch_of_passSpace hpass hkeys hindent (by rw [behindKey, hchar]; rfl)
      (by rw [behindKey, hchar]; decide) (by rw [behindKey, hchar]; decide)
      (by rw [behindKey, hchar]; decide)
  have hahead : isSpace (c.ahead 1) = true := by
    rw [Cursor.ahead_one_of_rest hrest]
    rfl
  have hvalue : fetchByChar (behindKey (c.see 4) ts k) = fetchValue (behindKey (c.see 4) ts k) :=
    fetchByChar_colon hchar hahead
  have htab : ¬(' ' : Char) = '\t' := by decide
  rw [hfetch, hvalue]
  simp only [fetchValue, behindKey, bind_get, move, bind_modify, hnext, htab, ↓reduceIte,
    List.headD_cons, hk, insert, Nat.lt_irrefl, decide_false, Bool.false_and, Bool.false_eq_true]
  rw [hcolumn]
  rfl

/-- The state behind the value of the only setting. -/
def behindValue (c : Cursor) (ts : Array Token) (k : PossibleKey) : Scanner :=
  { cursor := c
    tokens := ts
    keyAllowed := true
    keys := [{ k with possible := false }]
    indent := 0
    indents := [⟨-1, true⟩] }

/-- The words behind the colon are read up to the end of the line. -/
theorem fetch_words (hne : words ≠ []) (hwords : ∀ w ∈ words, IsWord w) (hfresh : c.fresh = false)
    (hrest : c.rest = ' ' :: (spaced words ++ ['\n'])) :
    fetch (behindColon c ts k) = .ok (⟨⟩,
      behindValue (((c.blank.see 4).skip (spaced words).length).newline)
        (ts.push ⟨c.blank.mark, .scalar .plain (String.ofList (spaced words))⟩) k) := by
  have hnext : c.blank.rest = spaced words ++ ['\n'] := by
    rw [Cursor.blank, Cursor.rest_skip, hrest]
    rfl
  have hchar : isWordChar c.blank.char = true := by
    obtain ⟨w, words, rfl⟩ := List.exists_cons_of_ne_nil hne
    obtain ⟨x, xs, hspaced, hx⟩ := exists_spaced (hwords w List.mem_cons_self) words
    rw [Cursor.char_of_rest (by rw [hnext, hspaced, List.cons_append]), hx]
  have hcolumn : (1 : Int) ≤ c.blank.column := by
    simp only [Cursor.column, Cursor.blank, Cursor.skip]
    omega
  have hpass : passSpace (behindColon c ts k) = .ok (⟨⟩, behindColon c.blank ts k) :=
    passSpace_of_blank (Cursor.char_of_rest hrest) (atToken_of_isWordChar hchar)
  rw [fetch_of_isWordChar hpass (keysFresh_of_impossible rfl rfl) hcolumn hchar]
  exact fetchPlain_of_readPlain rfl rfl
    (readPlain_words (c := c.blank.see 4) hne hwords hfresh hnext Int.one_pos hcolumn)

/-- The end of a file closes the mapping. -/
theorem fetch_end (hrest : c.rest = []) (hcolumn : c.mark.column = 0) :
    fetch (behindValue c ts k) = .ok (⟨⟩,
      { cursor := c.see 4
        tokens := (ts.push ⟨c.mark, .blockEnd⟩).push ⟨c.mark, .streamEnd⟩
        keyAllowed := false
        keys := [{ k with possible := false }]
        indent := -1 }) := by
  have hchar : c.char = '\x00' := by
    rw [Cursor.char, Cursor.ahead, hrest]
    rfl
  have htoken : AtToken c := ⟨by rw [hchar]; rfl, by rw [hchar]; rfl, by rw [hchar]; decide⟩
  have hend : isEnd c.char = true := by rw [hchar]; rfl
  have hzero : (c.see 4).mark.column = 0 := hcolumn
  have hpass : passSpace (behindValue c ts k) = .ok (⟨⟩, behindValue c ts k) :=
    passSpace_of_atToken htoken
  have hkeys : KeysFresh (behindValue c ts k) := keysFresh_of_impossible rfl rfl
  rw [fetch_of_isEnd hpass hkeys (Int.natCast_nonneg _) hend, fetchStreamEnd, bind_modify]
  simp only [behindValue, hzero, ↓reduceIte, bind_get, List.any_cons, List.any_nil, Bool.and_false,
    Bool.or_false, Bool.false_eq_true]
  rfl

theorem step_of_fetch (hfetch : fetch s = .ok (⟨⟩, s')) (hkeys : KeysFresh s') :
    step s = .ok (⟨⟩, s') := by
  rw [step, bind_of_ok hfetch, dropStaleKeys_of_keysFresh hkeys]

theorem run_of_fetch (hfetch : fetch s = .ok (⟨⟩, s')) (hkeys : KeysFresh s')
    (hlast : s'.tokens.back? = some t) (ht : t.kind ≠ .streamEnd) :
    run (fuel + 1) s = run fuel s' := by
  rw [run, step_of_fetch hfetch hkeys]
  dsimp only
  rw [hlast]
  split
  · next heq => exact absurd (congrArg Token.kind (Option.some.inj heq)) ht
  · rfl

theorem run_of_fetch_end {m : Mark} (hfetch : fetch s = .ok (⟨⟩, s')) (hkeys : KeysFresh s')
    (hlast : s'.tokens.back? = some ⟨m, .streamEnd⟩) :
    run (fuel + 1) s = (s'.tokens.toList, none) := by
  rw [run, step_of_fetch hfetch hkeys]
  dsimp only
  rw [hlast]

/-- The four steps, from the beginning of a line. -/
theorem run_setting (hkey : IsWord key) (hlength : key.length ≤ 1024) (hne : words ≠ [])
    (hwords : ∀ w ∈ words, IsWord w) (hcolumn : c.mark.column = 0)
    (hrest : c.rest = key ++ ':' :: ' ' :: (spaced words ++ ['\n'])) :
    let c₁ := (c.see 4).solid key.length
    let c₂ := (c₁.see 4).solid 1
    let c₃ := ((c₂.blank.see 4).skip (spaced words).length).newline
    run (fuel + 4) { cursor := c, tokens := ts } =
      ((((((((ts.push ⟨c.mark, .scalar .plain (String.ofList key)⟩).insertIdxIfInBounds ts.size
        ⟨c.mark, .key⟩).insertIdxIfInBounds ts.size ⟨c₁.mark, .blockMappingStart⟩).push
        ⟨c₁.mark, .value⟩).push
        ⟨c₂.blank.mark, .scalar .plain (String.ofList (spaced words))⟩).push
        ⟨c₃.mark, .blockEnd⟩).push ⟨c₃.mark, .streamEnd⟩).toList, none) := by
  intro c₁ c₂ c₃
  have hrest₁ : c₁.rest = ':' :: ' ' :: (spaced words ++ ['\n']) := by
    change c.rest.drop key.length = _
    rw [hrest, List.drop_left]
  have hrest₂ : c₂.rest = ' ' :: (spaced words ++ ['\n']) := by
    change c₁.rest.drop 1 = _
    rw [hrest₁, List.drop_succ_cons, List.drop_zero]
  have hrest₃ : c₃.rest = [] := by
    change ((c₂.rest.drop 1).drop (spaced words).length).drop 1 = _
    rw [hrest₂, List.drop_succ_cons, List.drop_zero, List.drop_left]
    rfl
  let k : PossibleKey := ⟨true, false, ts.size, c.mark⟩
  have hkeys : ∀ ts, KeysFresh (behindKey c₁ ts k) := by
    intro ts k' hk' _
    rw [List.mem_singleton.1 hk']
    exact ⟨Nat.le_refl _, Nat.add_le_add_left hlength _⟩
  calc run (fuel + 4) { cursor := c, tokens := ts }
    _ = run (fuel + 3) (behindKey c₁ _ k) :=
      run_of_fetch (fetch_key hkey hrest) (hkeys _) Array.back?_push (by nofun)
    _ = run (fuel + 2) (behindColon c₂ _ k) :=
      run_of_fetch (fetch_colon hrest₁ rfl hcolumn (hkeys _)) (keysFresh_of_impossible rfl rfl)
        Array.back?_push (by nofun)
    _ = run (fuel + 1) (behindValue c₃ _ k) :=
      run_of_fetch (fetch_words hne hwords rfl hrest₂) (keysFresh_of_impossible rfl rfl)
        Array.back?_push (by nofun)
    _ = _ := run_of_fetch_end (fetch_end hrest₃ rfl) (keysFresh_of_impossible rfl rfl)
      Array.back?_push

/-- **The tokens of a file with one setting.** -/
theorem tokens_setting (hkey : IsWord key) (hlength : key.length ≤ 1024) (hne : words ≠ [])
    (hwords : ∀ w ∈ words, IsWord w) :
    tokens (String.ofList (key ++ ':' :: ' ' :: (spaced words ++ ['\n']))) =
      let colon : Mark := ⟨key.length, 1, key.length⟩
      let value : Mark := ⟨key.length + 2, 1, key.length + 2⟩
      let last : Mark := ⟨key.length + 2 + (spaced words).length + 1, 2, 0⟩
      ([⟨.start, .streamStart⟩, ⟨colon, .blockMappingStart⟩, ⟨.start, .key⟩,
        ⟨.start, .scalar .plain (String.ofList key)⟩, ⟨colon, .value⟩,
        ⟨value, .scalar .plain (String.ofList (spaced words))⟩, ⟨last, .blockEnd⟩,
        ⟨last, .streamEnd⟩], none) := by
  obtain ⟨text, htext⟩ :
      ∃ text, text = String.ofList (key ++ ':' :: ' ' :: (spaced words ++ ['\n'])) := ⟨_, rfl⟩
  have hrest : (Cursor.start text).rest = key ++ ':' :: ' ' :: (spaced words ++ ['\n']) :=
    htext ▸ String.toList_ofList
  obtain ⟨n, hfuel⟩ : ∃ n, text.length + 2 = n + 4 := by
    have htwo : 2 ≤ text.length := by
      rw [htext, String.length_ofList, List.length_append, List.length_cons, List.length_cons]
      omega
    exact ⟨text.length - 2, by omega⟩
  rw [← htext, tokens, hfuel]
  refine (run_setting hkey hlength hne hwords rfl hrest).trans ?_
  simp only [List.push_toArray, List.insertIdxIfInBounds_toArray, Cursor.start, Cursor.see,
    Cursor.solid, Cursor.skip, Cursor.blank, Cursor.newline, Mark.start, Nat.zero_add]
  rfl

end Scan

/-- **A file with one setting is a mapping with one member.** -/
theorem parse_setting {key value : String} (hkey : IsWord key.toList) (hlength : key.length ≤ 1024)
    (hplain : Node.ofPlain key = .string key) (hvalue : IsWords value) :
    Node.parse (key ++ ": " ++ value ++ "\n") =
      .ok [.mapping [(.string key, Node.ofPlain value)]] := by
  obtain ⟨words, hne, hwords, hspaced⟩ := hvalue
  have htext : key ++ ": " ++ value ++ "\n" =
      String.ofList (key.toList ++ ':' :: ' ' :: (spaced words ++ ['\n'])) := by
    refine String.toList_inj.1 ?_
    rw [String.toList_ofList, ← hspaced]
    simp
  have hvalue : String.ofList (spaced words) = value := by rw [← hspaced, String.ofList_toList]
  let colon : Mark := ⟨key.length, 1, key.length⟩
  let first : Mark := ⟨key.length + 2, 1, key.length + 2⟩
  let last : Mark := ⟨key.length + 2 + value.length + 1, 2, 0⟩
  have hevents : events (key ++ ": " ++ value ++ "\n") =
      .ok [⟨colon, .documentStart⟩, ⟨colon, .mappingStart none⟩,
        ⟨.start, .scalar .plain key none none⟩, ⟨first, .scalar .plain value none none⟩,
        ⟨last, .mappingEnd⟩, ⟨last, .documentEnd⟩] := by
    rw [htext, events, Scan.tokens_setting hkey hlength hne hwords, String.ofList_toList, hvalue,
      ← hspaced]
    rfl
  rw [Node.parse, hevents]
  simp only [bind, Except.bind, Node.ofEvents, List.foldlM_cons, Node.Builder.step,
    Node.Builder.add, Node.ofScalar, ne_eq, not_true_eq_false, ↓reduceIte, hplain, List.any_nil,
    Bool.false_eq_true, Node.Builder.close, List.reverse_cons, List.reverse_nil, List.nil_append,
    Option.getD_some, List.foldlM_nil]
  rfl

end Yaml
end MailGateway
