/-
# Values are skipped exactly as the grammar has them

`skipValue` is a machine with a stack of open brackets; the grammar is a tree.  Both ways
between them a value is met inside arbitrary open brackets, and what the machine does behind
the value is left open:

* `written_of_skipInside`: where the machine goes through, there is a value of the grammar in
  front, and the machine goes through behind it;
* `Written.skipInside`: in front of a value of the grammar the machine goes through if it does
  so behind the value.

The first is by recursion on the bytes that are left, as the machine is defined, the second on
the tree.  With no bracket open this is `written_of_skipValue` and `skipValue_of_written`: a
value may be nested to any depth.
-/

import MailGateway.Proofs.Json.Strings
import MailGateway.Proofs.Json.Tokens

namespace MailGateway
namespace Json

open Utf8 (Ascii ofChars)

variable {c : Char} {b : UInt8} {cs ds rest : List Char} {bs r t : Bytes} {outer : List Frame}

/-! ### Values without values inside -/

theorem chars_of_readWord {w : List Char} (hw : ∀ c ∈ w, c.toNat < 0x80)
    (h : readWord (ofChars w) (ofChars cs) = .ok r) :
    ∃ rest, cs = w ++ rest ∧ r = ofChars rest := by
  induction w generalizing cs with
  | nil => exact ⟨cs, rfl, (Except.ok.inj h).symm⟩
  | cons c w ih =>
    have ha := Utf8.ascii_toUInt8 (hw c List.mem_cons_self)
    rw [ha.ofChars_cons] at h
    cases hcs : ofChars cs with
    | nil =>
      rw [hcs] at h
      cases h
    | cons d t =>
      rw [hcs, readWord] at h
      split_ifs at h with hd
      subst hd
      obtain ⟨ds, rfl, rfl⟩ := ha.front hcs
      obtain ⟨rest, rfl, rfl⟩ := ih (fun d hd => hw d (List.mem_cons_of_mem c hd)) h
      exact ⟨rest, rfl, rfl⟩

theorem readWord_chars {w : List Char} (hw : ∀ c ∈ w, c.toNat < 0x80) (rest : List Char) :
    readWord (ofChars w) (ofChars (w ++ rest)) = .ok (ofChars rest) := by
  induction w with
  | nil => rfl
  | cons c w ih =>
    have ha := Utf8.ascii_toUInt8 (hw c List.mem_cons_self)
    rw [List.cons_append, ha.ofChars_cons, ha.ofChars_cons, readWord, if_pos rfl,
      ih fun d hd => hw d (List.mem_cons_of_mem c hd)]

/-- The bracket that opens. -/
def Frame.opening : Frame → Char
  | .list => '['
  | .object => '{'

/-- What stands in front where a value without values inside was read, or a bracket. -/
def Scalar : Option Frame → List Char → List Char → Prop
  | none, cs, rest => ∃ v, Written cs v rest
  | some frame, cs, rest => cs = frame.opening :: rest

theorem map_none_eq_ok {x : Except Fault Bytes} {o : Option Frame}
    (h : x.map (none, ·) = .ok (o, r)) : o = none ∧ x = .ok r := by
  obtain ⟨t, hx, heq⟩ := map_eq_ok h
  obtain ⟨rfl, rfl⟩ := Prod.mk.inj heq
  exact ⟨rfl, hx⟩

theorem scalar_of_skipScalar {o : Option Frame} (h : skipScalar (ofChars cs) = .ok (o, r)) :
    ∃ rest, Scalar o cs rest ∧ r = ofChars rest := by
  have hword {c : Char} {w : List Char} (hw : ∀ d ∈ w, d.toNat < 0x80) {v : Value}
      (hv : ∀ rest, Written (c :: (w ++ rest)) v rest) {ds : List Char} {bs : Bytes}
      (hbs : bs = ofChars w) (h : (readWord bs (ofChars ds)).map (none, ·) = .ok (o, r)) :
      ∃ rest, Scalar o (c :: ds) rest ∧ r = ofChars rest := by
    subst hbs
    obtain ⟨rfl, hread⟩ := map_none_eq_ok h
    obtain ⟨rest, rfl, rfl⟩ := chars_of_readWord hw hread
    exact ⟨rest, ⟨v, hv rest⟩, rfl⟩
  cases hcs : ofChars cs with
  | nil =>
    rw [hcs] at h
    cases h
  | cons b t =>
    unfold skipScalar at h
    rw [hcs] at h
    dsimp only at h
    split_ifs at h with hn ht hf hminus hdigit hquote hlist hobject
    · subst hn
      obtain ⟨ds, rfl, rfl⟩ := (by decide : Ascii 'n' 0x6E).front hcs
      exact hword (w := ['u', 'l', 'l']) (by simp) (fun _ => .null) rfl h
    · subst ht
      obtain ⟨ds, rfl, rfl⟩ := (by decide : Ascii 't' 0x74).front hcs
      exact hword (w := ['r', 'u', 'e']) (by simp) (fun _ => .yes) rfl h
    · subst hf
      obtain ⟨ds, rfl, rfl⟩ := (by decide : Ascii 'f' 0x66).front hcs
      exact hword (w := ['a', 'l', 's', 'e']) (by simp) (fun _ => .no) rfl h
    · subst hminus
      obtain ⟨ds, rfl, rfl⟩ := (by decide : Ascii '-' 0x2D).front hcs
      obtain ⟨rfl, hread⟩ := map_none_eq_ok h
      obtain ⟨rest, hrest, rfl⟩ := unsigned_of_skipNumber hread
      exact ⟨rest, ⟨_, .number (.negative hrest)⟩, rfl⟩
    · obtain ⟨rfl, hread⟩ := map_none_eq_ok h
      rw [← hcs] at hread
      obtain ⟨rest, hrest, rfl⟩ := unsigned_of_skipNumber hread
      exact ⟨rest, ⟨_, .number (.plain hrest)⟩, rfl⟩
    · subst hquote
      obtain ⟨ds, rfl, rfl⟩ := (by decide : Ascii '"' 0x22).front hcs
      obtain ⟨rfl, hread⟩ := map_none_eq_ok h
      obtain ⟨ps, rest, hps, rfl⟩ := skipString_eq_ok_iff.1 hread
      exact ⟨rest, ⟨_, .text hps⟩, rfl⟩
    · subst hlist
      obtain ⟨ds, rfl, rfl⟩ := (by decide : Ascii '[' 0x5B).front hcs
      obtain ⟨rfl, rfl⟩ := Prod.mk.inj (Except.ok.inj h)
      exact ⟨ds, rfl, rfl⟩
    · subst hobject
      obtain ⟨ds, rfl, rfl⟩ := (by decide : Ascii '{' 0x7B).front hcs
      obtain ⟨rfl, rfl⟩ := Prod.mk.inj (Except.ok.inj h)
      exact ⟨ds, rfl, rfl⟩

theorem skipScalar_word {b : UInt8} {w : List Char} (ha : Ascii c b)
    (hw : ∀ d ∈ w, d.toNat < 0x80)
    (hb : ∀ r, skipScalar (b :: r) = (readWord (ofChars w) r).map (none, ·))
    (rest : List Char) : skipScalar (ofChars (c :: (w ++ rest))) = .ok (none, ofChars rest) := by
  rw [ha.ofChars_cons, hb, readWord_chars hw]
  rfl

theorem skipScalar_opening (frame : Frame) (rest : List Char) :
    skipScalar (ofChars (frame.opening :: rest)) = .ok (some frame, ofChars rest) := by
  cases frame with
  | list => rw [Frame.opening, (by decide : Ascii '[' 0x5B).ofChars_cons]; rfl
  | object => rw [Frame.opening, (by decide : Ascii '{' 0x7B).ofChars_cons]; rfl

theorem skipScalar_digit (hb : isDigit b = true) (r : Bytes) :
    skipScalar (b :: r) = (skipNumber (b :: r)).map (none, ·) := by
  have hne {x : UInt8} (hx : isDigit x = false) : b ≠ x := by
    rintro rfl
    exact absurd hb (by simp [hx])
  unfold skipScalar
  dsimp only
  rw [if_neg (hne (by decide)), if_neg (hne (by decide)), if_neg (hne (by decide)),
    if_neg (hne (by decide)), if_pos hb]

theorem skipScalar_number (h : Number cs rest) (hrest : Follows rest) :
    skipScalar (ofChars cs) = .ok (none, ofChars rest) := by
  cases h with
  | plain h =>
    have hskip := skipNumber_of_unsigned h hrest
    obtain ⟨b, t, hb, hcs⟩ := h.exists_byte
    rw [hcs] at hskip ⊢
    rw [skipScalar_digit hb, hskip]
    rfl
  | @negative ds _ h =>
    have hskip := skipNumber_of_unsigned h hrest
    rw [(by decide : Ascii '-' 0x2D).ofChars_cons]
    exact congrArg (Except.map (none, ·)) hskip

theorem skipScalar_text {ps : List Piece} (h : Chars cs ps ('"' :: rest)) :
    skipScalar (ofChars ('"' :: cs)) = .ok (none, ofChars rest) := by
  have hskip : skipString (ofChars cs) = .ok (ofChars rest) :=
    skipString_eq_ok_iff.2 ⟨ps, rest, h, rfl⟩
  rw [(by decide : Ascii '"' 0x22).ofChars_cons]
  exact congrArg (Except.map (none, ·)) hskip

/-- No value begins with a blank. -/
theorem skipBlank_of_skipScalar {o : Option Frame} (h : skipScalar bs = .ok (o, r)) :
    skipBlank bs = bs := by
  cases bs with
  | nil => rfl
  | cons b t =>
    refine skipBlank_cons (Bool.eq_false_iff.2 fun hb => ?_) t
    simp only [isBlank, Bool.or_eq_true, decide_eq_true_eq] at hb
    rcases hb with ((rfl | rfl) | rfl) | rfl <;> cases h

/-! ### Names of members -/

theorem skipKey_eq_ok_iff : skipKey (ofChars cs) = .ok r ↔
    ∃ ds name es fs, Blanks cs ('"' :: ds) ∧ Chars ds name ('"' :: es) ∧ Blanks es (':' :: fs) ∧
      r = ofChars fs := by
  have hquote : Ascii '"' 0x22 := by decide
  have hcolon : Ascii ':' 0x3A := by decide
  constructor
  · intro h
    unfold skipKey at h
    split at h
    · cases h
    · next b t hb =>
      split_ifs at h with heq
      subst heq
      obtain ⟨ds, hds, rfl⟩ := blanks_front hquote hb
      split at h
      · cases h
      · next u hu =>
        obtain ⟨name, es, hname, rfl⟩ := skipString_eq_ok_iff.1 hu
        split at h
        · cases h
        · next c v hv =>
          split_ifs at h with heq
          subst heq
          obtain ⟨fs, hfs, rfl⟩ := blanks_front hcolon hv
          exact ⟨ds, name, es, fs, hds, hname, hfs, (Except.ok.inj h).symm⟩
  · rintro ⟨ds, name, es, fs, hds, hname, hfs, rfl⟩
    have hskip : skipString (ofChars ds) = .ok (ofChars es) :=
      skipString_eq_ok_iff.2 ⟨name, es, hname, rfl⟩
    unfold skipKey
    rw [skipBlank_front hquote (by decide) hds]
    simp only [↓reduceIte, hskip, skipBlank_front hcolon (by decide) hfs]

/-! ### The machine, step by step -/

/-- What the machine does between a bracket or a comma and the next value. -/
def Frame.enter : Frame → Bytes → Except Fault Bytes
  | .list, bs => .ok bs
  | .object, bs => skipKey bs

theorem skipBehind_nil (comma : Bool) (bs : Bytes) : skipBehind comma [] bs = .ok bs := by
  rw [skipBehind]

theorem skipInside_eq_ok_iff : skipInside outer bs = .ok r ↔
    (∃ t, skipScalar (skipBlank bs) = .ok (none, t) ∧ skipBehind true outer t = .ok r) ∨
      ∃ frame t, skipScalar (skipBlank bs) = .ok (some frame, t) ∧
        skipBehind false (frame :: outer) t = .ok r := by
  rw [skipInside.eq_def]
  split
  · next h => simp [h]
  · next h => simp [h]
  · next frame t h =>
    constructor
    · intro hr
      exact .inr ⟨frame, t, h, hr⟩
    · rintro (⟨u, hu, -⟩ | ⟨f, u, hu, hr⟩)
      · cases h.symm.trans hu
      · cases h.symm.trans hu
        exact hr

theorem skipBehind_cons_eq_ok_iff (comma : Bool) {frame : Frame} :
    skipBehind comma (frame :: outer) bs = .ok r ↔ ∃ b t, skipBlank bs = b :: t ∧
      (b = frame.close ∧ skipBehind true outer t = .ok r ∨
        b ≠ frame.close ∧ (comma = true → b = 0x2C) ∧
          ∃ u, frame.enter (if comma then t else bs) = .ok u ∧
            skipInside (frame :: outer) u = .ok r) := by
  rw [skipBehind.eq_def]
  dsimp only
  split
  · next h => simp [h]
  · next b t h =>
    simp only [h, List.cons.injEq, exists_eq_left', and_assoc, exists_and_left]
    by_cases hclose : b = frame.close
    · simp [hclose]
    rw [if_neg hclose]
    by_cases hcomma : comma = true → b = 0x2C
    · have hgo : ¬(comma && b != 0x2C) = true := by simpa using hcomma
      rw [if_neg hgo, eq_true hcomma]
      generalize (if comma = true then t else bs) = next
      cases frame with
      | list => simp [Frame.enter, hclose]
      | object =>
        dsimp only
        split
        · next hk => simp [Frame.enter, hk, hclose]
        · next hk => simp [Frame.enter, hk, hclose]
    · have hstop : (comma && b != 0x2C) = true := by simpa using hcomma
      rw [if_pos hstop]
      simp [hclose, hcomma]

/-- Behind an opening bracket. -/
theorem skipBehind_opening {frame : Frame} : skipBehind false (frame :: outer) bs = .ok r ↔
    ∃ b t, skipBlank bs = b :: t ∧ (b = frame.close ∧ skipBehind true outer t = .ok r ∨
      b ≠ frame.close ∧ ∃ u, frame.enter bs = .ok u ∧ skipInside (frame :: outer) u = .ok r) := by
  simpa using skipBehind_cons_eq_ok_iff false

/-- Behind a value. -/
theorem skipBehind_value {frame : Frame} : skipBehind true (frame :: outer) bs = .ok r ↔
    ∃ b t, skipBlank bs = b :: t ∧ (b = frame.close ∧ skipBehind true outer t = .ok r ∨
      b ≠ frame.close ∧ b = 0x2C ∧ ∃ u, frame.enter t = .ok u ∧
        skipInside (frame :: outer) u = .ok r) := by
  simpa using skipBehind_cons_eq_ok_iff true

theorem length_lt_of_skipBlank (h : skipBlank bs = b :: t) : t.length < bs.length := by
  have hle := skipBlank_length bs
  rw [h, List.length_cons] at hle
  omega

/-! ### Where the machine goes through there is a value -/

mutual

theorem written_of_skipInside (outer : List Frame) (cs : List Char)
    (h : skipInside outer (ofChars cs) = .ok r) :
    ∃ ds v rest, Blanks cs ds ∧ Written ds v rest ∧
      skipBehind true outer (ofChars rest) = .ok r ∧
      (ofChars rest).length < (ofChars cs).length := by
  have hle := skipBlank_length (ofChars cs)
  have hblanks := blanks_dropWhile cs
  rcases skipInside_eq_ok_iff.1 h with ⟨t, hscalar, h⟩ | ⟨frame, t, hscalar, h⟩
  · have hlt := skipScalar_length hscalar
    rw [skipBlank_ofChars] at hscalar
    obtain ⟨rest, ⟨v, hv⟩, rfl⟩ := scalar_of_skipScalar hscalar
    exact ⟨_, v, rest, hblanks, hv, h, by omega⟩
  · have hlt := skipScalar_length hscalar
    rw [skipBlank_ofChars] at hscalar
    obtain ⟨ds, hds, rfl⟩ := scalar_of_skipScalar hscalar
    rw [hds] at hblanks
    obtain ⟨v, rest, hv, h, hrest⟩ := written_of_opening frame outer ds h
    exact ⟨_, v, rest, hblanks, hv, h, by omega⟩
termination_by ((ofChars cs).length, 0)

/-- Behind an opening bracket. -/
theorem written_of_opening (frame : Frame) (outer : List Frame) (cs : List Char)
    (h : skipBehind false (frame :: outer) (ofChars cs) = .ok r) :
    ∃ v rest, Written (frame.opening :: cs) v rest ∧
      skipBehind true outer (ofChars rest) = .ok r ∧
      (ofChars rest).length < (ofChars cs).length := by
  obtain ⟨b, t, hb, ⟨rfl, h⟩ | ⟨-, u, hu, h⟩⟩ := skipBehind_opening.1 h
  · have hlt := length_lt_of_skipBlank hb
    cases frame with
    | list =>
      obtain ⟨rest, hrest, rfl⟩ := blanks_front (by decide : Ascii ']' 0x5D) hb
      exact ⟨_, rest, .emptyList hrest, h, hlt⟩
    | object =>
      obtain ⟨rest, hrest, rfl⟩ := blanks_front (by decide : Ascii '}' 0x7D) hb
      exact ⟨_, rest, .emptyObject hrest, h, hlt⟩
  · cases frame with
    | list =>
      obtain rfl := Except.ok.inj hu
      obtain ⟨ds, v, es, hds, hv, h, hes⟩ := written_of_skipInside _ cs h
      obtain ⟨vs, rest, hvs, h, hrest⟩ := items_of_skipBehind _ es h
      exact ⟨_, rest, .list hds hv hvs, h, by omega⟩
    | object =>
      have hkey := skipKey_length hu
      obtain ⟨ds, name, es, fs, hds, hname, hfs, rfl⟩ := skipKey_eq_ok_iff.1 hu
      obtain ⟨gs, v, ks, hgs, hv, h, hks⟩ := written_of_skipInside _ fs h
      obtain ⟨ms, rest, hms, h, hrest⟩ := members_of_skipBehind _ ks h
      exact ⟨_, rest, .object (.mk hds hname hfs hgs hv) hms, h, by omega⟩
termination_by ((ofChars cs).length, 1)

/-- Behind an item of a list. -/
theorem items_of_skipBehind (outer : List Frame) (cs : List Char)
    (h : skipBehind true (.list :: outer) (ofChars cs) = .ok r) :
    ∃ vs rest, Items cs vs rest ∧
      skipBehind true outer (ofChars rest) = .ok r ∧
      (ofChars rest).length < (ofChars cs).length := by
  obtain ⟨b, t, hb, ⟨rfl, h⟩ | ⟨-, rfl, u, hu, h⟩⟩ := skipBehind_value.1 h
  · have hlt := length_lt_of_skipBlank hb
    obtain ⟨rest, hrest, rfl⟩ := blanks_front (by decide : Ascii ']' 0x5D) hb
    exact ⟨_, rest, .close hrest, h, hlt⟩
  · have hlt := length_lt_of_skipBlank hb
    obtain rfl := Except.ok.inj hu
    obtain ⟨ds, hds, rfl⟩ := blanks_front (by decide : Ascii ',' 0x2C) hb
    obtain ⟨es, v, fs, hes, hv, h, hfs⟩ := written_of_skipInside _ ds h
    obtain ⟨vs, rest, hvs, h, hrest⟩ := items_of_skipBehind _ fs h
    exact ⟨_, rest, .next hds hes hv hvs, h, by omega⟩
termination_by ((ofChars cs).length, 0)

/-- Behind a member of an object. -/
theorem members_of_skipBehind (outer : List Frame) (cs : List Char)
    (h : skipBehind true (.object :: outer) (ofChars cs) = .ok r) :
    ∃ ms rest, Members cs ms rest ∧
      skipBehind true outer (ofChars rest) = .ok r ∧
      (ofChars rest).length < (ofChars cs).length := by
  obtain ⟨b, t, hb, ⟨rfl, h⟩ | ⟨-, rfl, u, hu, h⟩⟩ := skipBehind_value.1 h
  · have hlt := length_lt_of_skipBlank hb
    obtain ⟨rest, hrest, rfl⟩ := blanks_front (by decide : Ascii '}' 0x7D) hb
    exact ⟨_, rest, .close hrest, h, hlt⟩
  · have hlt := length_lt_of_skipBlank hb
    have hkey : u.length < t.length := skipKey_length hu
    obtain ⟨ds, hds, rfl⟩ := blanks_front (by decide : Ascii ',' 0x2C) hb
    obtain ⟨es, name, fs, gs, hes, hname, hgs, rfl⟩ := skipKey_eq_ok_iff.1 hu
    obtain ⟨ks, v, ls, hks, hv, h, hls⟩ := written_of_skipInside _ gs h
    obtain ⟨ms, rest, hms, h, hrest⟩ := members_of_skipBehind _ ls h
    exact ⟨_, rest, .next hds (.mk hes hname hgs hks hv) hms, h, by omega⟩
termination_by ((ofChars cs).length, 0)

end

/-! ### In front of a value the machine goes through -/

theorem skipInside_of_scalar (h : skipScalar bs = .ok (none, t))
    (hr : skipBehind true outer t = .ok r) : skipInside outer bs = .ok r := by
  refine skipInside_eq_ok_iff.2 (.inl ⟨t, ?_, hr⟩)
  rw [skipBlank_of_skipScalar h, h]

theorem skipInside_of_opening (frame : Frame)
    (hr : skipBehind false (frame :: outer) (ofChars cs) = .ok r) :
    skipInside outer (ofChars (frame.opening :: cs)) = .ok r := by
  have h := skipScalar_opening frame cs
  refine skipInside_eq_ok_iff.2 (.inr ⟨frame, ofChars cs, ?_, hr⟩)
  rw [skipBlank_of_skipScalar h, h]

theorem skipInside_of_blanks (h : Blanks cs ds) (hr : skipInside outer (ofChars ds) = .ok r) :
    skipInside outer (ofChars cs) = .ok r := by
  rw [skipInside_eq_ok_iff] at hr ⊢
  rwa [skipBlank_of_blanks h]

/-- No value begins with a closing bracket. -/
theorem skipBehind_of_skipInside (h : skipInside (.list :: outer) bs = .ok r) :
    skipBehind false (.list :: outer) bs = .ok r := by
  cases hb : skipBlank bs with
  | nil =>
    rw [skipInside_eq_ok_iff, hb] at h
    rcases h with ⟨t, ht, -⟩ | ⟨frame, t, ht, -⟩ <;> cases ht
  | cons b t =>
    refine skipBehind_opening.2 ⟨b, t, hb, .inr ⟨?_, bs, rfl, h⟩⟩
    rintro rfl
    rw [skipInside_eq_ok_iff, hb] at h
    rcases h with ⟨t, ht, -⟩ | ⟨frame, t, ht, -⟩ <;> cases ht

theorem skipBehind_of_skipKey (hk : skipKey bs = .ok t)
    (h : skipInside (.object :: outer) t = .ok r) :
    skipBehind false (.object :: outer) bs = .ok r := by
  unfold skipKey at hk
  split at hk
  · cases hk
  · next b u hb =>
    split_ifs at hk with hquote
    refine skipBehind_opening.2 ⟨b, u, hb, .inr ⟨?_, t, ?_, h⟩⟩
    · rw [hquote]
      decide
    · unfold Frame.enter skipKey
      simp only [hb, hquote, ↓reduceIte]
      exact hk

mutual

theorem Written.skipInside {cs rest : List Char} {v : Value} (outer : List Frame)
    (h : Written cs v rest) (hrest : Follows rest)
    (hr : skipBehind true outer (ofChars rest) = .ok r) :
    Json.skipInside outer (ofChars cs) = .ok r :=
  match h with
  | .null => skipInside_of_scalar
      (skipScalar_word (w := ['u', 'l', 'l']) (by decide : Ascii 'n' 0x6E) (by simp)
        (fun _ => rfl) rest) hr
  | .yes => skipInside_of_scalar
      (skipScalar_word (w := ['r', 'u', 'e']) (by decide : Ascii 't' 0x74) (by simp)
        (fun _ => rfl) rest) hr
  | .no => skipInside_of_scalar
      (skipScalar_word (w := ['a', 'l', 's', 'e']) (by decide : Ascii 'f' 0x66) (by simp)
        (fun _ => rfl) rest) hr
  | .number h => skipInside_of_scalar (skipScalar_number h hrest) hr
  | .text h => skipInside_of_scalar (skipScalar_text h) hr
  | .emptyList h => skipInside_of_opening .list <| skipBehind_opening.2
      ⟨_, _, skipBlank_front (by decide : Ascii ']' 0x5D) (by decide) h, .inl ⟨rfl, hr⟩⟩
  | .list hb hv hs => by
    have hbehind := Items.skipBehind outer hs hr
    have hinside := Written.skipInside _ hv hs.follows hbehind
    exact skipInside_of_opening .list
      (skipBehind_of_skipInside (skipInside_of_blanks hb hinside))
  | .emptyObject h => skipInside_of_opening .object <| skipBehind_opening.2
      ⟨_, _, skipBlank_front (by decide : Ascii '}' 0x7D) (by decide) h, .inl ⟨rfl, hr⟩⟩
  | .object hm hs => by
    have hbehind := Members.skipBehind outer hs hr
    obtain ⟨u, hu, hinside⟩ := Member.skipKey _ hm hs.follows hbehind
    exact skipInside_of_opening .object (skipBehind_of_skipKey hu hinside)

theorem Items.skipBehind {cs rest : List Char} {vs : List Value} (outer : List Frame)
    (h : Items cs vs rest) (hr : skipBehind true outer (ofChars rest) = .ok r) :
    Json.skipBehind true (.list :: outer) (ofChars cs) = .ok r :=
  match h with
  | .close h => skipBehind_value.2
      ⟨_, _, skipBlank_front (by decide : Ascii ']' 0x5D) (by decide) h, .inl ⟨rfl, hr⟩⟩
  | .next hc hb hv hs => by
    have hbehind := Items.skipBehind outer hs hr
    have hinside := Written.skipInside _ hv hs.follows hbehind
    exact skipBehind_value.2
      ⟨_, _, skipBlank_front (by decide : Ascii ',' 0x2C) (by decide) hc,
        .inr ⟨by decide, rfl, _, rfl, skipInside_of_blanks hb hinside⟩⟩

theorem Member.skipKey {cs rest : List Char} {m : List Piece × Value} (outer : List Frame)
    (h : Member cs m rest) (hrest : Follows rest)
    (hr : skipBehind true outer (ofChars rest) = .ok r) :
    ∃ u, Json.skipKey (ofChars cs) = .ok u ∧ Json.skipInside outer u = .ok r :=
  match h with
  | .mk hq hn hc hb hv => by
    have hinside := Written.skipInside outer hv hrest hr
    exact ⟨_, skipKey_eq_ok_iff.2 ⟨_, _, _, _, hq, hn, hc, rfl⟩, skipInside_of_blanks hb hinside⟩

theorem Members.skipBehind {cs rest : List Char} {ms : List (List Piece × Value)}
    (outer : List Frame) (h : Members cs ms rest)
    (hr : skipBehind true outer (ofChars rest) = .ok r) :
    Json.skipBehind true (.object :: outer) (ofChars cs) = .ok r :=
  match h with
  | .close h => skipBehind_value.2
      ⟨_, _, skipBlank_front (by decide : Ascii '}' 0x7D) (by decide) h, .inl ⟨rfl, hr⟩⟩
  | .next hc hm hs => by
    have hbehind := Members.skipBehind outer hs hr
    obtain ⟨u, hu, hinside⟩ := Member.skipKey _ hm hs.follows hbehind
    exact skipBehind_value.2
      ⟨_, _, skipBlank_front (by decide : Ascii ',' 0x2C) (by decide) hc,
        .inr ⟨by decide, rfl, u, hu, hinside⟩⟩

end

/-! ### Whole values -/

/-- **Behind what is skipped there was a value.** -/
theorem written_of_skipValue (h : skipValue (ofChars cs) = .ok r) :
    ∃ ds v rest, Blanks cs ds ∧ Written ds v rest ∧ r = ofChars rest := by
  obtain ⟨ds, v, rest, hds, hv, hr, -⟩ := written_of_skipInside [] cs h
  rw [skipBehind_nil] at hr
  exact ⟨ds, v, rest, hds, hv, (Except.ok.inj hr).symm⟩

/-- **Every value is skipped**, if nothing follows that prolongs a number. -/
theorem skipValue_of_written {v : Value} (hb : Blanks cs ds) (hv : Written ds v rest)
    (hrest : Follows rest) : skipValue (ofChars cs) = .ok (ofChars rest) :=
  skipInside_of_blanks hb (hv.skipInside [] hrest (skipBehind_nil true _))

end Json
end MailGateway
