/-
# The language of records

A record of one text field is an object or a list (`Value.Gives`), and the reader finds its
field by going over the members with what it has found so far.  One member changes that as
`Takes` says, and all members as `Collects`; `collects_none_iff` tells this from the whole
object.

`readRecord_eq_ok_iff` is the language of a record with whatever follows it, and
`parseRecord_eq_ok_iff` that of a record that is a whole text.  For mails this is
`Request.ofJson_eq_ok_iff`.
-/

import MailGateway.Proofs.Json.Skipping
import MailGateway.Proofs.Outcome

namespace MailGateway
namespace Json

open Utf8 (Ascii ofChars)

/-! ### The field among the members -/

/-- What a member makes of what was found so far: the field may come once and is a string, and
a member of another name is passed over. -/
inductive Takes (field : String) :
    Option String → List Piece × Value → Option String → Prop where
  | field {name ps s} (hn : Denotes name field.toList) (h : Denotes ps s.toList) :
      Takes field none (name, .text ps) (some s)
  | other {found m other} (hne : other ≠ field) (hn : Denotes m.1 other.toList) :
      Takes field found m found

/-- What members make of it, one after another. -/
inductive Collects (field : String) :
    Option String → List (List Piece × Value) → Option String → Prop where
  | nil {found} : Collects field found [] found
  | cons {found m found' ms found''} (h : Takes field found m found')
      (hs : Collects field found' ms found'') : Collects field found (m :: ms) found''

variable {cs ds rest : List Char} {bs r t : Bytes} {field s : String} {first : Bool}
  {found found' : Option String} {m : List Piece × Value} {ms : List (List Piece × Value)}

theorem Others.cons (hm : ∃ other, other ≠ field ∧ Denotes m.1 other.toList)
    (hs : Others field ms) : Others field (m :: ms) := by
  rintro m' (_ | ⟨_, hm'⟩)
  · exact hm
  · exact hs m' hm'

/-- Members of other names are passed over. -/
theorem Collects.others {before : List (List Piece × Value)} (hs : Others field before)
    (h : Collects field found ms found') : Collects field found (before ++ ms) found' := by
  induction before with
  | nil => exact h
  | cons m before ih =>
    obtain ⟨other, hne, hn⟩ := hs m List.mem_cons_self
    exact .cons (.other hne hn) (ih fun m hm => hs m (List.mem_cons_of_mem _ hm))

/-- Behind the field come other members only. -/
theorem others_of_collects (h : Collects field (some s) ms found) :
    Others field ms ∧ found = some s := by
  induction ms with
  | nil =>
    cases h
    exact ⟨fun m hm => absurd hm List.not_mem_nil, rfl⟩
  | cons m ms ih =>
    cases h with
    | cons h hs =>
      cases h with
      | other hne hn =>
        obtain ⟨hothers, rfl⟩ := ih hs
        exact ⟨hothers.cons ⟨_, hne, hn⟩, rfl⟩

theorem Value.Gives.other (hm : ∃ other, other ≠ field ∧ Denotes m.1 other.toList)
    (h : (Value.object ms).Gives field s) : (Value.object (m :: ms)).Gives field s := by
  cases h with
  | noMember hs => exact .noMember (hs.cons hm)
  | @member before after name ps s hn hps hs =>
    show (Value.object ((m :: before) ++ (name, .text ps) :: after)).Gives field s
    exact .member hn hps (hs.cons hm)

theorem gives_of_collects (h : Collects field none ms found) :
    (Value.object ms).Gives field (found.getD "") := by
  induction ms with
  | nil =>
    cases h
    exact .noMember fun m hm => absurd hm List.not_mem_nil
  | cons m ms ih =>
    cases h with
    | cons h hs =>
      cases h with
      | @field name ps s hn hps =>
        obtain ⟨hothers, rfl⟩ := others_of_collects hs
        show (Value.object ([] ++ (name, .text ps) :: ms)).Gives field s
        exact .member hn hps hothers
      | other hne hn => exact (ih hs).other ⟨_, hne, hn⟩

theorem collects_of_gives (h : (Value.object ms).Gives field s) :
    ∃ found, Collects field none ms found ∧ found.getD "" = s := by
  cases h with
  | noMember hs =>
    have hcollects := Collects.others hs (.nil : Collects field none [] none)
    rw [List.append_nil] at hcollects
    exact ⟨none, hcollects, rfl⟩
  | @member before after name ps s hn hps hs =>
    have hbefore : Others field before := fun m hm => hs m (List.mem_append_left after hm)
    have hafter : Others field after := fun m hm => hs m (List.mem_append_right before hm)
    have hcollects := Collects.others hafter (.nil : Collects field (some s) [] (some s))
    rw [List.append_nil] at hcollects
    exact ⟨some s, .others hbefore (.cons (.field hn hps) hcollects), rfl⟩

/-! ### Members -/

/-- The text in front of a member: of the first, or of one behind a comma. -/
def Front : Bool → List Char → List Char → Prop
  | true, cs, ds => cs = ds
  | false, cs, ds => Blanks cs (',' :: ds)

theorem nameStart_eq_ok_iff : nameStart first (skipBlank (ofChars cs)) = .ok r ↔
    ∃ ds es, Front first cs ds ∧ Blanks ds ('"' :: es) ∧ r = ofChars es := by
  have hquote : Ascii '"' 0x22 := by decide
  have hcomma : Ascii ',' 0x2C := by decide
  constructor
  · intro h
    cases hb : skipBlank (ofChars cs) with
    | nil =>
      rw [hb] at h
      cases h
    | cons b t =>
      rw [hb] at h
      unfold nameStart at h
      dsimp only at h
      split_ifs at h with hfirst heq heq
      · obtain rfl := Except.ok.inj h
        subst heq hfirst
        obtain ⟨es, hes, rfl⟩ := blanks_front hquote hb
        exact ⟨cs, es, rfl, hes, rfl⟩
      · obtain rfl : first = false := by simpa using hfirst
        subst heq
        obtain ⟨ds, hds, rfl⟩ := blanks_front hcomma hb
        split at h
        · cases h
        · next c u hu =>
          split_ifs at h with heq
          obtain rfl := Except.ok.inj h
          subst heq
          obtain ⟨es, hes, rfl⟩ := blanks_front hquote hu
          exact ⟨ds, es, hds, hes, rfl⟩
  · rintro ⟨ds, es, hfront, hes, rfl⟩
    have hname := skipBlank_front hquote (by decide) hes
    cases first with
    | true =>
      obtain rfl : cs = ds := hfront
      rw [hname]
      rfl
    | false =>
      rw [skipBlank_front hcomma (by decide) hfront]
      unfold nameStart
      simp [hname]

theorem colon_eq_ok_iff : colon (ofChars cs) = .ok r ↔
    ∃ ds, Blanks cs (':' :: ds) ∧ r = ofChars ds := by
  have hcolon : Ascii ':' 0x3A := by decide
  constructor
  · intro h
    unfold colon at h
    split at h
    · cases h
    · next b t hb =>
      split_ifs at h with heq
      obtain rfl := Except.ok.inj h
      subst heq
      exact blanks_front hcolon hb
  · rintro ⟨ds, hds, rfl⟩
    unfold colon
    rw [skipBlank_front hcolon (by decide) hds]
    rfl

theorem readText_eq_ok_iff : readText (ofChars cs) = .ok (s, r) ↔
    ∃ ds ps rest, Blanks cs ds ∧ Written ds (.text ps) rest ∧ Denotes ps s.toList ∧
      r = ofChars rest := by
  have hquote : Ascii '"' 0x22 := by decide
  constructor
  · intro h
    unfold readText at h
    split at h
    · cases h
    · next b t hb =>
      split_ifs at h with heq
      subst heq
      obtain ⟨ds, hds, rfl⟩ := blanks_front hquote hb
      obtain ⟨ps, rest, hps, hs, rfl⟩ := readString_eq_ok_iff.1 h
      exact ⟨_, ps, rest, hds, .text hps, hs, rfl⟩
  · rintro ⟨ds, ps, rest, hds, hps, hs, rfl⟩
    cases hps with
    | text hps =>
      have hread := readString_eq_ok_iff.2 ⟨ps, rest, hps, hs, rfl⟩
      unfold readText
      rw [skipBlank_front hquote (by decide) hds]
      exact hread

theorem readMember_eq_ok_iff : readMember field found first bs = .ok (found', r) ↔
    ∃ t name u v, nameStart first bs = .ok t ∧ readString t = .ok (name, u) ∧ colon u = .ok v ∧
      (name = field ∧ found = none ∧ (∃ s, readText v = .ok (s, r) ∧ found' = some s) ∨
        name ≠ field ∧ skipValue v = .ok r ∧ found' = found) := by
  unfold readMember
  simp only [bind_eq_ok_iff, Prod.exists]
  constructor
  · rintro ⟨t, ht, name, u, hu, h⟩
    split_ifs at h with hname hfound
    · cases h
    · obtain ⟨v, hv, h⟩ := bind_eq_ok_iff.1 h
      obtain ⟨⟨s, w⟩, hs, h⟩ := bind_eq_ok_iff.1 h
      obtain ⟨rfl, rfl⟩ := Prod.mk.inj (Except.ok.inj h)
      have hnone : found = none := by simpa using hfound
      exact ⟨t, name, u, v, ht, hu, hv, .inl ⟨hname, hnone, s, mapError_eq_ok_iff.1 hs, rfl⟩⟩
    · obtain ⟨v, hv, h⟩ := bind_eq_ok_iff.1 h
      obtain ⟨w, hskip, h⟩ := bind_eq_ok_iff.1 h
      obtain ⟨rfl, rfl⟩ := Prod.mk.inj (Except.ok.inj h)
      exact ⟨t, name, u, v, ht, hu, hv, .inr ⟨hname, mapError_eq_ok_iff.1 hskip, rfl⟩⟩
  · rintro ⟨t, name, u, v, ht, hu, hv, ⟨rfl, rfl, s, hs, rfl⟩ | ⟨hne, hskip, rfl⟩⟩
    · refine ⟨t, ht, name, u, hu, ?_⟩
      rw [if_pos rfl, if_neg (by simp)]
      exact bind_eq_ok_iff.2 ⟨v, hv, bind_eq_ok_iff.2 ⟨(s, r), mapError_eq_ok_iff.2 hs, rfl⟩⟩
    · refine ⟨t, ht, name, u, hu, ?_⟩
      rw [if_neg hne]
      exact bind_eq_ok_iff.2 ⟨v, hv, bind_eq_ok_iff.2 ⟨r, mapError_eq_ok_iff.2 hskip, rfl⟩⟩

theorem member_of_readMember
    (h : readMember field found first (skipBlank (ofChars cs)) = .ok (found', r)) :
    ∃ ds m rest, Front first cs ds ∧ Member ds m rest ∧ Takes field found m found' ∧
      r = ofChars rest := by
  obtain ⟨t, name, u, v, ht, hu, hv, h⟩ := readMember_eq_ok_iff.1 h
  obtain ⟨ds, es, hfront, hes, rfl⟩ := nameStart_eq_ok_iff.1 ht
  obtain ⟨ps, fs, hps, hname, rfl⟩ := readString_eq_ok_iff.1 hu
  obtain ⟨gs, hgs, rfl⟩ := colon_eq_ok_iff.1 hv
  rcases h with ⟨rfl, rfl, s, hs, rfl⟩ | ⟨hne, hskip, rfl⟩
  · obtain ⟨ks, qs, rest, hks, hqs, hdenotes, rfl⟩ := readText_eq_ok_iff.1 hs
    exact ⟨ds, _, rest, hfront, .mk hes hps hgs hks hqs, .field hname hdenotes, rfl⟩
  · obtain ⟨ks, w, rest, hks, hw, rfl⟩ := written_of_skipValue hskip
    exact ⟨ds, _, rest, hfront, .mk hes hps hgs hks hw, .other hne hname, rfl⟩

theorem readMember_of_member (hfront : Front first cs ds) (h : Member ds m rest)
    (hrest : Follows rest) (ht : Takes field found m found') :
    readMember field found first (skipBlank (ofChars cs)) = .ok (found', ofChars rest) := by
  obtain @⟨_, es, fs, gs, ks, name, v, _, hes, hps, hgs, hks, hw⟩ := h
  have hname := nameStart_eq_ok_iff.2 ⟨ds, es, hfront, hes, rfl⟩
  have hcolon := colon_eq_ok_iff.2 ⟨gs, hgs, rfl⟩
  cases ht with
  | @field _ ps s hn hs =>
    have hread := readString_eq_ok_iff.2 ⟨name, fs, hps, hn, rfl⟩
    have htext := readText_eq_ok_iff.2 ⟨ks, ps, rest, hks, hw, hs, rfl⟩
    exact readMember_eq_ok_iff.2
      ⟨_, field, _, _, hname, hread, hcolon, .inl ⟨rfl, rfl, s, htext, rfl⟩⟩
  | @other _ _ other hne hn =>
    have hread := readString_eq_ok_iff.2 ⟨name, fs, hps, hn, rfl⟩
    have hskip := skipValue_of_written hks hw hrest
    exact readMember_eq_ok_iff.2
      ⟨_, other, _, _, hname, hread, hcolon, .inr ⟨hne, hskip, rfl⟩⟩

/-! ### All members -/

/-- What follows an opening brace, or a member. -/
def Inside : Bool → List Char → List (List Piece × Value) → List Char → Prop
  | true, cs, ms, rest => Written ('{' :: cs) (.object ms) rest
  | false, cs, ms, rest => Members cs ms rest

theorem Inside.close (h : Blanks cs ('}' :: rest)) : Inside first cs [] rest := by
  cases first with
  | true => exact .emptyObject h
  | false => exact .close h

theorem Inside.next {es : List Char} (hfront : Front first cs ds) (hm : Member ds m es)
    (hs : Members es ms rest) : Inside first cs (m :: ms) rest := by
  cases first with
  | true =>
    obtain rfl : cs = ds := hfront
    exact .object hm hs
  | false => exact .next hfront hm hs

/-- There is nothing inside but the closing brace, or else there is a member in front. -/
theorem Inside.cases (h : Inside first cs ms rest) : ms = [] ∧ Blanks cs ('}' :: rest) ∨
    ∃ ds m es ms', ms = m :: ms' ∧ Front first cs ds ∧ Member ds m es ∧ Members es ms' rest := by
  cases first with
  | true =>
    cases h with
    | emptyObject h => exact .inl ⟨rfl, h⟩
    | object hm hs => exact .inr ⟨cs, _, _, _, rfl, rfl, hm, hs⟩
  | false =>
    cases h with
    | close h => exact .inl ⟨rfl, h⟩
    | next hc hm hs => exact .inr ⟨_, _, _, _, rfl, hc, hm, hs⟩

/-- No member begins with the closing brace. -/
theorem readMembers_succ_eq_ok_iff {fuel : Nat} :
    readMembers field (fuel + 1) found first bs = .ok (found', r) ↔
      skipBlank bs = 0x7D :: r ∧ found' = found ∨
        ∃ x t, readMember field found first (skipBlank bs) = .ok (x, t) ∧
          readMembers field fuel x false t = .ok (found', r) := by
  rw [readMembers]
  split
  · next t h =>
    constructor
    · intro hr
      obtain ⟨rfl, rfl⟩ := Prod.mk.inj (Except.ok.inj hr)
      exact .inl ⟨h, rfl⟩
    · rintro (⟨hr, rfl⟩ | ⟨x, u, hm, -⟩)
      · obtain ⟨-, rfl⟩ := List.cons.inj (h.symm.trans hr)
        rfl
      · obtain ⟨v, -, -, -, hname, -⟩ := readMember_eq_ok_iff.1 hm
        rw [h] at hname
        cases first <;> cases hname
  · next h =>
    constructor
    · intro hr
      split at hr
      · cases hr
      · next x t hm => exact .inr ⟨x, t, hm, hr⟩
    · rintro (⟨hr, -⟩ | ⟨x, t, hm, hr⟩)
      · exact absurd hr (h r)
      · rw [hm]
        exact hr

theorem inside_of_readMembers {fuel : Nat}
    (h : readMembers field fuel found first (ofChars cs) = .ok (found', r)) :
    ∃ ms rest, Inside first cs ms rest ∧ Collects field found ms found' ∧ r = ofChars rest := by
  induction fuel generalizing cs found first with
  | zero => cases h
  | succ fuel ih =>
    rcases readMembers_succ_eq_ok_iff.1 h with ⟨hclose, rfl⟩ | ⟨x, t, hread, h⟩
    · obtain ⟨rest, hrest, rfl⟩ := blanks_front (by decide : Ascii '}' 0x7D) hclose
      exact ⟨[], rest, .close hrest, .nil, rfl⟩
    · obtain ⟨ds, m, es, hfront, hm, htakes, rfl⟩ := member_of_readMember hread
      obtain ⟨ms, rest, hms, hcollects, rfl⟩ := ih h
      exact ⟨m :: ms, rest, .next hfront hm hms, .cons htakes hcollects, rfl⟩

theorem readMembers_of_inside {fuel : Nat} (h : Inside first cs ms rest)
    (hc : Collects field found ms found') (hfuel : ms.length < fuel) :
    readMembers field fuel found first (ofChars cs) = .ok (found', ofChars rest) := by
  induction fuel generalizing cs ms found first with
  | zero => omega
  | succ fuel ih =>
    refine readMembers_succ_eq_ok_iff.2 ?_
    rcases h.cases with ⟨rfl, hclose⟩ | ⟨ds, m, es, ms, rfl, hfront, hm, hms⟩
    · cases hc
      exact .inl ⟨skipBlank_front (by decide : Ascii '}' 0x7D) (by decide) hclose, rfl⟩
    · cases hc with
      | cons htakes hcollects =>
        have hread := readMember_of_member hfront hm hms.follows htakes
        exact .inr ⟨_, _, hread, ih (by exact hms) hcollects (Nat.lt_of_succ_lt_succ hfuel)⟩

/-! ### Fuel -/

theorem Blanks.length_le (h : Blanks cs rest) :
    (ofChars rest).length ≤ (ofChars cs).length := by
  induction h with
  | nil => exact Nat.le_refl _
  | cons _ _ ih =>
    rw [Utf8.ofChars_cons, List.length_append]
    omega

theorem Written.length_lt {v : Value} (h : Written cs v rest) (hrest : Follows rest) :
    (ofChars rest).length < (ofChars cs).length := by
  have hskip := h.skipInside [] hrest (skipBehind_nil true (ofChars rest))
  obtain ⟨ds, w, es, -, -, hes, hlt⟩ := written_of_skipInside [] cs hskip
  rw [skipBehind_nil] at hes
  rwa [Except.ok.inj hes] at hlt

theorem Member.length_lt (h : Member cs m rest) (hrest : Follows rest) :
    (ofChars rest).length < (ofChars cs).length := by
  obtain ⟨hq, hn, hc, hb, hv⟩ := h
  have hkey := skipKey_length (skipKey_eq_ok_iff.2 ⟨_, _, _, _, hq, hn, hc, rfl⟩)
  have hblanks := hb.length_le
  have hvalue := hv.length_lt hrest
  omega

/-- Each member has at least one byte. -/
theorem Members.length_lt (h : Members cs ms rest) : ms.length < (ofChars cs).length := by
  induction ms generalizing cs with
  | nil =>
    cases h with
    | close hb =>
      have hbrace := skipBlank_front (by decide : Ascii '}' 0x7D) (by decide) hb
      exact Nat.lt_of_le_of_lt (Nat.zero_le _) (length_lt_of_skipBlank hbrace)
  | cons m ms ih =>
    cases h with
    | next hc hm hs =>
      have hfront := skipBlank_front (by decide : Ascii ',' 0x2C) (by decide) hc
      have hcomma := length_lt_of_skipBlank hfront
      have hmember := hm.length_lt hs.follows
      have hmembers := ih hs
      rw [List.length_cons]
      omega

theorem Inside.length_le (h : Inside first cs ms rest) : ms.length ≤ (ofChars cs).length := by
  rcases h.cases with ⟨rfl, -⟩ | ⟨ds, m, es, ms, rfl, hfront, hm, hms⟩
  · exact Nat.zero_le _
  · have hmember := hm.length_lt hms.follows
    have hmembers := hms.length_lt
    have hle : (ofChars ds).length ≤ (ofChars cs).length := by
      cases first with
      | true => exact Nat.le_of_eq (congrArg (fun cs => (ofChars cs).length) (Eq.symm hfront))
      | false =>
        have hcomma := skipBlank_front (by decide : Ascii ',' 0x2C) (by decide) hfront
        exact Nat.le_of_lt (length_lt_of_skipBlank hcomma)
    rw [List.length_cons]
    omega

/-! ### Records -/

theorem listEnd_eq_ok_iff : listEnd (ofChars cs) = .ok r ↔
    ∃ rest, Blanks cs (']' :: rest) ∧ r = ofChars rest := by
  have hclose : Ascii ']' 0x5D := by decide
  constructor
  · intro h
    unfold listEnd at h
    split at h
    · cases h
    · next b t hb =>
      split_ifs at h with heq hcomma
      · obtain rfl := Except.ok.inj h
        subst heq
        exact blanks_front hclose hb
      · split at h <;> cases h
  · rintro ⟨rest, hrest, rfl⟩
    unfold listEnd
    rw [skipBlank_front hclose (by decide) hrest]
    rfl

theorem readText_skipBlank (bs : Bytes) : readText (skipBlank bs) = readText bs := by
  unfold readText
  rw [skipBlank, skipBlank, List.dropWhile_idempotent]

theorem gives_of_readElement (h : readElement (ofChars cs) = .ok (found, r)) :
    ∃ v rest, Written ('[' :: cs) v rest ∧ v.Gives field (found.getD "") ∧ r = ofChars rest := by
  unfold readElement at h
  split at h
  · cases h
  · next b t hb =>
    split_ifs at h with heq
    · obtain ⟨rfl, rfl⟩ := Prod.mk.inj (Except.ok.inj h)
      subst heq
      obtain ⟨rest, hrest, rfl⟩ := blanks_front (by decide : Ascii ']' 0x5D) hb
      exact ⟨_, rest, .emptyList hrest, .noItem, rfl⟩
    · obtain ⟨⟨s, u⟩, hs, h⟩ := bind_eq_ok_iff.1 h
      obtain ⟨w, hend, h⟩ := bind_eq_ok_iff.1 h
      obtain ⟨rfl, rfl⟩ := Prod.mk.inj (Except.ok.inj h)
      rw [← hb, mapError_eq_ok_iff, readText_skipBlank] at hs
      obtain ⟨ds, ps, es, hds, hps, hdenotes, rfl⟩ := readText_eq_ok_iff.1 hs
      obtain ⟨rest, hrest, rfl⟩ := listEnd_eq_ok_iff.1 hend
      exact ⟨_, rest, .list hds hps (.close hrest), .item hdenotes, rfl⟩

theorem readElement_empty (h : Blanks cs (']' :: rest)) :
    readElement (ofChars cs) = .ok (none, ofChars rest) := by
  unfold readElement
  rw [skipBlank_front (by decide : Ascii ']' 0x5D) (by decide) h]
  rfl

theorem readElement_item {ps : List Piece} {es : List Char} (hb : Blanks cs ds)
    (hw : Written ds (.text ps) es) (hend : Blanks es (']' :: rest)) (hs : Denotes ps s.toList) :
    readElement (ofChars cs) = .ok (some s, ofChars rest) := by
  have htext := readText_eq_ok_iff.2 ⟨ds, ps, es, hb, hw, hs, rfl⟩
  have hlist := listEnd_eq_ok_iff.2 ⟨rest, hend, rfl⟩
  cases hw with
  | text hw =>
    have hfront := skipBlank_front (by decide : Ascii '"' 0x22) (by decide) hb
    rw [← readText_skipBlank, hfront] at htext
    unfold readElement
    rw [hfront]
    dsimp only
    rw [if_neg (by decide)]
    exact bind_eq_ok_iff.2 ⟨_, mapError_eq_ok_iff.2 htext, bind_eq_ok_iff.2 ⟨_, hlist, rfl⟩⟩

theorem readRecord_brace {shape : RecordShape} {es : List Char} (hb : Blanks cs ('{' :: es))
    (h : readMembers shape.field ((ofChars es).length + 1) none true (ofChars es)
      = .ok (found, r)) :
    readRecord shape (ofChars cs) = .ok (found.getD "", r) := by
  unfold readRecord
  rw [skipBlank_front (by decide : Ascii '{' 0x7B) (by decide) hb]
  dsimp only
  rw [if_pos rfl, h]
  rfl

theorem readRecord_bracket {shape : RecordShape} {es : List Char} (hb : Blanks cs ('[' :: es))
    (h : readElement (ofChars es) = .ok (found, r)) :
    readRecord shape (ofChars cs) = .ok (found.getD "", r) := by
  unfold readRecord
  rw [skipBlank_front (by decide : Ascii '[' 0x5B) (by decide) hb]
  dsimp only
  rw [if_neg (by decide), if_pos rfl, h]
  rfl

theorem readRecord_object {shape : RecordShape} (hb : Blanks cs ds)
    (hv : Written ds (.object ms) rest) (hgives : (Value.object ms).Gives shape.field s) :
    readRecord shape (ofChars cs) = .ok (s, ofChars rest) := by
  obtain ⟨found, hcollects, rfl⟩ := collects_of_gives hgives
  have hfront : ∃ es, ds = '{' :: es := by
    cases hv with
    | emptyObject _ => exact ⟨_, rfl⟩
    | object _ _ => exact ⟨_, rfl⟩
  obtain ⟨es, rfl⟩ := hfront
  have hinside : Inside true es ms rest := hv
  exact readRecord_brace hb
    (readMembers_of_inside hinside hcollects (Nat.lt_succ_of_le hinside.length_le))

/-- **A record is a value that gives its field**, with whatever follows. -/
theorem readRecord_eq_ok_iff {shape : RecordShape} : readRecord shape (ofChars cs) = .ok (s, r) ↔
    ∃ ds v rest, Blanks cs ds ∧ Written ds v rest ∧ v.Gives shape.field s ∧ r = ofChars rest := by
  constructor
  · intro h
    unfold readRecord at h
    split at h
    · cases h
    · next b t hb =>
      split_ifs at h with hbrace hbracket
      · subst hbrace
        obtain ⟨ds, hds, rfl⟩ := blanks_front (by decide : Ascii '{' 0x7B) hb
        obtain ⟨⟨found, u⟩, hread, heq⟩ := map_eq_ok h
        obtain ⟨rfl, rfl⟩ := Prod.mk.inj heq
        obtain ⟨ms, rest, hms, hcollects, rfl⟩ := inside_of_readMembers hread
        exact ⟨_, _, rest, hds, hms, gives_of_collects hcollects, rfl⟩
      · subst hbracket
        obtain ⟨ds, hds, rfl⟩ := blanks_front (by decide : Ascii '[' 0x5B) hb
        obtain ⟨⟨found, u⟩, hread, heq⟩ := map_eq_ok h
        obtain ⟨rfl, rfl⟩ := Prod.mk.inj heq
        obtain ⟨v, rest, hv, hgives, rfl⟩ := gives_of_readElement hread
        exact ⟨_, v, rest, hds, hv, hgives, rfl⟩
  · rintro ⟨ds, v, rest, hds, hv, hgives, rfl⟩
    cases v with
    | object ms => exact readRecord_object hds hv hgives
    | list vs =>
      cases hgives with
      | item hs =>
        cases hv with
        | list hb hw hend =>
          cases hend with
          | close hend => exact readRecord_bracket hds (readElement_item hb hw hend hs)
      | noItem =>
        cases hv with
        | emptyList h => exact readRecord_bracket hds (readElement_empty h)
    | null => cases hgives
    | flag => cases hgives
    | number => cases hgives
    | text => cases hgives

/-- **A whole text is a record if it is that of a value that gives the field**, and the
field is what the value gives. -/
theorem parseRecord_eq_ok_iff (shape : RecordShape) (text value : String) :
    parseRecord shape (Utf8.encode text) = .ok value ↔
      ∃ v, IsText text v ∧ v.Gives shape.field value := by
  rw [Utf8.encode_eq_ofChars, parseRecord, bind_eq_ok_iff]
  constructor
  · rintro ⟨⟨s, r⟩, hread, h⟩
    obtain ⟨ds, v, rest, hds, hv, hgives, rfl⟩ := readRecord_eq_ok_iff.1 hread
    dsimp only at h
    split at h
    · next hend =>
      obtain rfl := Except.ok.inj h
      exact ⟨v, ⟨ds, rest, hds, hv, blanks_nil hend⟩, hgives⟩
    · cases h
  · rintro ⟨v, ⟨ds, rest, hds, hv, hend⟩, hgives⟩
    refine ⟨(value, ofChars rest), readRecord_eq_ok_iff.2 ⟨ds, v, rest, hds, hv, hgives, rfl⟩, ?_⟩
    have hnil : skipBlank (ofChars rest) = [] := skipBlank_of_blanks hend
    dsimp only
    rw [hnil]
    rfl

/-- **Anything but blanks behind a record is a fault.** -/
theorem parseRecord_trailing (shape : RecordShape) {text : String} {v : Value}
    (hb : Blanks text.toList ds) (hv : Written ds v rest) (hgives : v.Gives shape.field s)
    (h : ¬Blanks rest []) :
    ∃ f, parseRecord shape (Utf8.encode text) = .error f ∧ f.cause = .trailingCharacters := by
  have hread := readRecord_eq_ok_iff.2 ⟨ds, v, rest, hb, hv, hgives, rfl⟩
  have hrest : skipBlank (ofChars rest) ≠ [] := mt blanks_nil h
  obtain ⟨b, back, hback⟩ := List.exists_cons_of_ne_nil hrest
  refine ⟨.ahead .trailingCharacters (b :: back), ?_, rfl⟩
  rw [Utf8.encode_eq_ofChars, parseRecord, hread]
  simp only [bind, Except.bind, hback]
  rfl

end Json

namespace Mail

/-- **The language of requests.**  A text is a request exactly if it is that of one value, an
object or a list, that gives the field `message`; and the message is what the value gives. -/
theorem Request.ofJson_eq_ok_iff (text message : String) :
    Request.ofJson (Utf8.encode text) = .ok ⟨message⟩ ↔
      ∃ v, Json.IsText text v ∧ v.Gives "message" message := by
  refine Iff.trans ?_ (Json.parseRecord_eq_ok_iff Request.shape text message)
  constructor
  · intro h
    obtain ⟨value, hvalue, heq⟩ := Json.map_eq_ok h
    rwa [Request.mk.inj heq] at hvalue
  · intro h
    rw [ofJson, h]
    rfl

/-- An escaped spelling of the name is the name, and other members may hold anything. -/
example : Request.ofJson (Utf8.encode "\x7b\"m\\u0065ssage\":\"x\", \"y\":[[1e9]]\x7d")
    = .ok ⟨"x"⟩ := by cbv

end Mail
end MailGateway
