/-
# The language of records

What a record is, without a reader.  A record is one field after another (`IsRecord`), and a
field is a key and a value:

| | bytes |
| --- | --- |
| number | at most ten, seven bits each, lowest first, the high bit on all but the last |
| key | the number `tag · 8 + wire type`, below `2 ^ 32`, of a tag that is not zero |
| value | eight or four bytes, a number, a length and as many bytes, or a group |
| group | fields of any tags, and the key of its end |
| text field | tag 1, and a length and a text behind it |

The reader takes a record apart in this way and in no other (`parseRecord_eq_ok_iff`), since each
of its parts reads a word of its own language and leaves what stands behind it alone.  Such a
statement holds whatever stands behind, so records may be put one after another.
-/

import MailGateway.Proofs.Protobuf.Canonical

namespace MailGateway
namespace Protobuf

variable {bs r x : Bytes} {n tag : Nat} {wire : WireType}

/-! ### Numbers -/

/-- Bytes of seven bits each, lowest first, and their number; the last one is below 128. -/
inductive Spells : Bytes → Nat → Prop
  | last {b : UInt8} (h : b.toNat < 128) : Spells [b] b.toNat
  | more {b : UInt8} {bs : Bytes} {n : Nat} (h : 128 ≤ b.toNat) (hs : Spells bs n) :
      Spells (b :: bs) (b.toNat - 128 + 128 * n)

/-- A number of 64 bits, in at most ten bytes. -/
structure IsNumber (bs : Bytes) (n : Nat) : Prop where
  spells : Spells bs n
  length_le : bs.length ≤ 10
  lt : n < 2 ^ 64

theorem Spells.length_pos (h : Spells bs n) : 0 < bs.length := by
  cases h <;> simp

/-- The reader of numbers, at `k + 1` places.  The induction is on the places; the last one has
room for one bit. -/
theorem readVarintIn_eq_some_iff {k : Nat} :
    readVarintIn (k + 1) bs = some (n, r) ↔
      ∃ v, bs = v ++ r ∧ Spells v n ∧ v.length ≤ k + 1 ∧ n < 2 ^ (7 * k + 1) := by
  induction k generalizing bs n with
  | zero =>
    constructor
    · intro h
      cases bs with
      | nil => cases h
      | cons b t =>
        rcases Nat.lt_or_ge b.toNat 128 with hb | hb
        · rcases Nat.lt_or_ge b.toNat 2 with hlt | hge
          · rw [readVarintIn_last hb fun _ => hlt] at h
            obtain ⟨rfl, rfl⟩ := Prod.mk.inj (Option.some.inj h)
            exact ⟨[b], rfl, .last hb, Nat.le_refl 1, hlt⟩
          · rw [readVarintIn, if_pos (UInt8.lt_iff_toNat_lt.2 hb),
              if_pos ⟨rfl, UInt8.le_iff_toNat_le.2 hge⟩] at h
            cases h
        · rw [readVarintIn_more hb] at h
          cases h
    · rintro ⟨v, rfl, hv, hlen, hn⟩
      cases hv with
      | last hb => exact readVarintIn_last hb fun _ => by omega
      | more hb hs =>
        have := hs.length_pos
        rw [List.length_cons] at hlen
        omega
  | succ k ih =>
    have hpow : (2 : Nat) ^ (7 * (k + 1) + 1) = 2 ^ (7 * k + 1) * 128 := by
      rw [show 7 * (k + 1) + 1 = 7 * k + 1 + 7 by omega, Nat.pow_add]
    have hpos : 1 ≤ (2 : Nat) ^ (7 * k + 1) := Nat.one_le_two_pow
    constructor
    · intro h
      cases bs with
      | nil => cases h
      | cons b t =>
        have hbyte := b.toNat_lt
        rcases Nat.lt_or_ge b.toNat 128 with hb | hb
        · rw [readVarintIn_last hb (by omega)] at h
          obtain ⟨rfl, rfl⟩ := Prod.mk.inj (Option.some.inj h)
          exact ⟨[b], rfl, .last hb, by simp, by omega⟩
        · rw [readVarintIn_more hb] at h
          obtain ⟨⟨m, r'⟩, hm, hmr⟩ := Option.map_eq_some_iff.1 h
          obtain ⟨rfl, rfl⟩ := Prod.mk.inj hmr
          obtain ⟨v, rfl, hv, hlen, hlt⟩ := ih.1 hm
          exact ⟨b :: v, rfl, .more hb hv, by simpa using hlen, by omega⟩
    · rintro ⟨v, rfl, hv, hlen, hn⟩
      cases hv with
      | last hb => exact readVarintIn_last hb (by omega)
      | @more b v m hb hs =>
        rw [List.length_cons] at hlen
        rw [List.cons_append, readVarintIn_more hb, ih.2 ⟨v, rfl, hs, by omega, by omega⟩]
        rfl

theorem readNumber_eq_ok_iff :
    readNumber bs = .ok (n, r) ↔ ∃ v, bs = v ++ r ∧ IsNumber v n := by
  have hread : readNumber bs = .ok (n, r) ↔ readVarintIn 10 bs = some (n, r) := by
    unfold readNumber readVarint?
    cases readVarintIn 10 bs <;> simp
  rw [hread, readVarintIn_eq_some_iff]
  exact ⟨fun ⟨v, h, hs, hlen, hlt⟩ => ⟨v, h, hs, hlen, hlt⟩,
    fun ⟨v, h, hs⟩ => ⟨v, h, hs.spells, hs.length_le, hs.lt⟩⟩

/-! ### Keys and lengths -/

/-- The number of a wire type. -/
def WireType.number : WireType → Nat
  | .varint => 0
  | .sixtyFourBit => 1
  | .lengthDelimited => 2
  | .startGroup => 3
  | .endGroup => 4
  | .thirtyTwoBit => 5

theorem WireType.ofNat?_eq_some_iff : ofNat? n = some wire ↔ n = wire.number := by
  constructor
  · intro h
    unfold ofNat? at h
    split at h <;> cases h <;> rfl
  · rintro rfl
    cases wire <;> rfl

theorem WireType.number_lt (wire : WireType) : wire.number < 8 := by
  cases wire <;> decide

/-- The key of a field. -/
structure IsKey (bs : Bytes) (tag : Nat) (wire : WireType) : Prop where
  number : IsNumber bs (tag * 8 + wire.number)
  lt : tag * 8 + wire.number < 2 ^ 32
  tag_ne : tag ≠ 0

/-- Bytes with their length in front. -/
def IsDelimited (bs x : Bytes) : Prop := ∃ l, IsNumber l x.length ∧ bs = l ++ x

theorem IsKey.length_pos (h : IsKey bs tag wire) : 0 < bs.length := h.number.spells.length_pos

theorem readKey_eq_ok_iff :
    readKey bs = .ok ((tag, wire), r) ↔ ∃ k, bs = k ++ r ∧ IsKey k tag wire := by
  constructor
  · intro h
    unfold readKey at h
    split at h
    · cases h
    · next key t hkey =>
      obtain ⟨k, rfl, hk⟩ := readNumber_eq_ok_iff.1 hkey
      split at h
      · cases h
      · next hlt =>
        split at h
        · cases h
        · next w hw =>
          split at h
          · cases h
          · next htag =>
            obtain ⟨hpair, rfl⟩ := Prod.mk.inj (Except.ok.inj h)
            obtain ⟨rfl, rfl⟩ := Prod.mk.inj hpair
            have hmod := WireType.ofNat?_eq_some_iff.1 hw
            have hsum : key / 8 * 8 + w.number = key := by omega
            exact ⟨k, rfl, hsum.symm ▸ hk, by omega, htag⟩
  · rintro ⟨k, rfl, hnumber, hlt, htag⟩
    have hw := wire.number_lt
    have hdiv : (tag * 8 + wire.number) / 8 = tag := by omega
    have hmod : (tag * 8 + wire.number) % 8 = wire.number := by omega
    have hwire : WireType.ofNat? wire.number = some wire := WireType.ofNat?_eq_some_iff.2 rfl
    rw [readKey, readNumber_eq_ok_iff.2 ⟨k, rfl, hnumber⟩]
    dsimp only
    rw [if_neg (by omega), hmod, hwire, hdiv]
    simp only [htag, ↓reduceIte]

theorem takeBytes_eq_ok_iff : takeBytes n bs = .ok (x, r) ↔ bs = x ++ r ∧ x.length = n := by
  constructor
  · intro h
    have hlength := (takeBytes_length h).1
    unfold takeBytes at h
    split at h
    · obtain ⟨rfl, rfl⟩ := Prod.mk.inj (Except.ok.inj h)
      exact ⟨(List.take_append_drop n bs).symm, hlength⟩
    · cases h
  · rintro ⟨rfl, rfl⟩
    exact takeBytes_append x r

theorem readDelimited_eq_ok_iff :
    readDelimited bs = .ok (x, r) ↔ ∃ d, bs = d ++ r ∧ IsDelimited d x := by
  constructor
  · intro h
    unfold readDelimited at h
    split at h
    · cases h
    · next m t hm =>
      obtain ⟨l, rfl, hl⟩ := readNumber_eq_ok_iff.1 hm
      obtain ⟨rfl, rfl⟩ := takeBytes_eq_ok_iff.1 h
      exact ⟨l ++ x, (List.append_assoc l x r).symm, l, hl, rfl⟩
  · rintro ⟨d, rfl, l, hl, rfl⟩
    rw [readDelimited, readNumber_eq_ok_iff.2 ⟨l, List.append_assoc l x r, hl⟩]
    exact takeBytes_eq_ok_iff.2 ⟨rfl, rfl⟩

/-! ### Values and groups -/

/-- The rest of a group behind its key, up to the key of its end; `value` says which values the
fields in it may have. -/
inductive IsGroup (value : WireType → Nat → Bytes → Prop) (tag : Nat) : Bytes → Prop
  | stop {k : Bytes} (h : IsKey k tag .endGroup) : IsGroup value tag k
  | field {k v rest : Bytes} {inner : Nat} {wire : WireType} (hkey : IsKey k inner wire)
      (hwire : wire ≠ .endGroup) (hvalue : value wire inner v) (hrest : IsGroup value tag rest) :
      IsGroup value tag (k ++ (v ++ rest))

/-- The value of a field inside at most `depth` further groups. -/
def IsValue : Nat → WireType → Nat → Bytes → Prop
  | 0, _, _, _ => False
  | _ + 1, .varint, _, bs => ∃ n, IsNumber bs n
  | _ + 1, .sixtyFourBit, _, bs => bs.length = 8
  | _ + 1, .thirtyTwoBit, _, bs => bs.length = 4
  | _ + 1, .lengthDelimited, _, bs => ∃ x, IsDelimited bs x
  | _ + 1, .endGroup, _, _ => False
  | depth + 1, .startGroup, tag, bs => IsGroup (IsValue depth) tag bs

section Groups

variable {skip : WireType → Nat → Bytes → Except Cause Bytes}
  {value : WireType → Nat → Bytes → Prop} {fuel : Nat}

/-- What is skipped is a group, if what is skipped inside are values. -/
theorem isGroup_of_skipGroup
    (hskip : ∀ wire tag bs r, skip wire tag bs = .ok r → ∃ v, bs = v ++ r ∧ value wire tag v)
    (h : skipGroup skip tag fuel bs = .ok r) : ∃ g, bs = g ++ r ∧ IsGroup value tag g := by
  induction fuel generalizing bs with
  | zero => cases h
  | succ fuel ih =>
    unfold skipGroup at h
    split at h
    · cases h
    · next inner wire t hkey =>
      obtain ⟨k, rfl, hk⟩ := readKey_eq_ok_iff.1 hkey
      split at h
      · next hwire =>
        subst hwire
        split at h
        · next hinner =>
          subst hinner
          obtain rfl := Except.ok.inj h
          exact ⟨k, rfl, .stop hk⟩
        · cases h
      · next hwire =>
        split at h
        · cases h
        · next t' hvalue =>
          obtain ⟨v, rfl, hv⟩ := hskip _ _ _ _ hvalue
          obtain ⟨g, rfl, hg⟩ := ih h
          exact ⟨k ++ (v ++ g), by simp, .field hk hwire hv hg⟩

/-- A group is skipped up to its end; every field of it has a byte, so as much fuel as the group
has bytes is enough, and more does no harm. -/
theorem skipGroup_of_isGroup
    (hskip : ∀ wire tag v r, value wire tag v → skip wire tag (v ++ r) = .ok r)
    {g : Bytes} (hg : IsGroup value tag g) (r : Bytes) (hfuel : g.length ≤ fuel) :
    skipGroup skip tag fuel (g ++ r) = .ok r := by
  induction hg generalizing fuel with
  | @stop k hk =>
    have hpos := hk.length_pos
    obtain ⟨fuel, rfl⟩ : ∃ m, fuel = m + 1 := ⟨fuel - 1, by omega⟩
    rw [skipGroup, readKey_eq_ok_iff.2 ⟨k, rfl, hk⟩]
    simp only [↓reduceIte]
  | @field k v rest inner wire hk hwire hv _ ih =>
    have hpos := hk.length_pos
    rw [List.length_append, List.length_append] at hfuel
    obtain ⟨fuel, rfl⟩ : ∃ m, fuel = m + 1 := ⟨fuel - 1, by omega⟩
    rw [skipGroup, readKey_eq_ok_iff.2 ⟨k, List.append_assoc k _ r, hk⟩]
    simp only [hwire, ↓reduceIte]
    rw [List.append_assoc, hskip _ _ _ _ hv]
    exact ih (by omega)

end Groups

/-- **Skipping skips a value.**  The induction is on the groups that may still open. -/
theorem skipField_eq_ok_iff {depth : Nat} : ∀ {wire : WireType} {tag : Nat} {bs r : Bytes},
    skipField depth wire tag bs = .ok r ↔ ∃ v, bs = v ++ r ∧ IsValue depth wire tag v := by
  induction depth with
  | zero =>
    intro wire tag bs r
    constructor
    · intro h
      cases h
    · rintro ⟨v, -, h⟩
      exact h.elim
  | succ depth ih =>
    intro wire tag bs r
    cases wire with
    | varint =>
      constructor
      · intro h
        obtain ⟨n, hn⟩ := map_snd_eq_ok h
        obtain ⟨v, rfl, hv⟩ := readNumber_eq_ok_iff.1 hn
        exact ⟨v, rfl, n, hv⟩
      · rintro ⟨v, rfl, n, hv⟩
        rw [skipField, readNumber_eq_ok_iff.2 ⟨v, rfl, hv⟩]
        rfl
    | sixtyFourBit =>
      constructor
      · intro h
        obtain ⟨x, hx⟩ := map_snd_eq_ok h
        exact ⟨x, takeBytes_eq_ok_iff.1 hx⟩
      · rintro ⟨v, h⟩
        rw [skipField, takeBytes_eq_ok_iff.2 h]
        rfl
    | thirtyTwoBit =>
      constructor
      · intro h
        obtain ⟨x, hx⟩ := map_snd_eq_ok h
        exact ⟨x, takeBytes_eq_ok_iff.1 hx⟩
      · rintro ⟨v, h⟩
        rw [skipField, takeBytes_eq_ok_iff.2 h]
        rfl
    | lengthDelimited =>
      constructor
      · intro h
        obtain ⟨x, hx⟩ := map_snd_eq_ok h
        obtain ⟨d, rfl, hd⟩ := readDelimited_eq_ok_iff.1 hx
        exact ⟨d, rfl, x, hd⟩
      · rintro ⟨v, rfl, x, hv⟩
        rw [skipField, readDelimited_eq_ok_iff.2 ⟨v, rfl, hv⟩]
        rfl
    | endGroup =>
      constructor
      · intro h
        cases h
      · rintro ⟨v, -, h⟩
        exact h.elim
    | startGroup =>
      constructor
      · exact isGroup_of_skipGroup fun _ _ _ _ => ih.1
      · rintro ⟨g, rfl, hg⟩
        exact skipGroup_of_isGroup (fun _ _ _ _ hv => ih.2 ⟨_, rfl, hv⟩) hg r (by simp)

/-! ### Fields and records -/

/-- A field, and the text that it sets if it is the text field. -/
inductive IsField : Bytes → Option String → Prop
  | text {k d : Bytes} {text : String} (hkey : IsKey k 1 .lengthDelimited)
      (hvalue : IsDelimited d (Utf8.encode text)) : IsField (k ++ d) (some text)
  | other {k v : Bytes} {tag : Nat} {wire : WireType} (hkey : IsKey k tag wire) (htag : tag ≠ 1)
      (hvalue : IsValue maxDepth wire tag v) : IsField (k ++ v) none

/-- Fields one after another, and what each of them sets. -/
inductive IsRecord : Bytes → List (Option String) → Prop
  | nil : IsRecord [] []
  | cons {b bs : Bytes} {f : Option String} {fs : List (Option String)} (hfield : IsField b f)
      (hrest : IsRecord bs fs) : IsRecord (b ++ bs) (f :: fs)

/-- The text that is set last, or the one that was there. -/
def lastText (before : String) (fs : List (Option String)) : String :=
  (fs.filterMap id).getLast?.getD before

theorem IsField.length_pos {f : Option String} (h : IsField bs f) : 0 < bs.length := by
  cases h with
  | text hkey _ =>
    have := hkey.length_pos
    rw [List.length_append]
    omega
  | other hkey _ _ =>
    have := hkey.length_pos
    rw [List.length_append]
    omega

theorem readText_eq_ok_iff {text : String} :
    readText wire bs = .ok (text, r) ↔
      wire = .lengthDelimited ∧ ∃ d, bs = d ++ r ∧ IsDelimited d (Utf8.encode text) := by
  constructor
  · intro h
    unfold readText at h
    split at h
    · cases h
    · next hwire =>
      split at h
      · cases h
      · next x t hx =>
        split at h
        · next s hs =>
          obtain ⟨rfl, rfl⟩ := Prod.mk.inj (Except.ok.inj h)
          rw [← Utf8.encode_of_decode? hs] at hx
          exact ⟨Decidable.not_not.1 hwire, readDelimited_eq_ok_iff.1 hx⟩
        · cases h
  · rintro ⟨rfl, hd⟩
    rw [readText, if_neg (by simp), readDelimited_eq_ok_iff.2 hd]
    simp only [Utf8.decode?_encode]

/-- **Reading a field reads a field.** -/
theorem readField_eq_ok_iff {f : Option String} :
    readField bs = .ok (f, r) ↔ ∃ b, bs = b ++ r ∧ IsField b f := by
  constructor
  · intro h
    unfold readField at h
    split at h
    · cases h
    · next tag wire t hkey =>
      obtain ⟨k, rfl, hk⟩ := readKey_eq_ok_iff.1 hkey
      split at h
      · next htag =>
        subst htag
        split at h
        · cases h
        · next s t' hs =>
          obtain ⟨rfl, rfl⟩ := Prod.mk.inj (Except.ok.inj h)
          obtain ⟨rfl, d, rfl, hd⟩ := readText_eq_ok_iff.1 hs
          exact ⟨k ++ d, (List.append_assoc k d _).symm, .text hk hd⟩
      · next htag =>
        split at h
        · cases h
        · next t' hs =>
          obtain ⟨rfl, rfl⟩ := Prod.mk.inj (Except.ok.inj h)
          obtain ⟨v, rfl, hv⟩ := skipField_eq_ok_iff.1 hs
          exact ⟨k ++ v, (List.append_assoc k v _).symm, .other hk htag hv⟩
  · rintro ⟨b, rfl, hb⟩
    cases hb with
    | @text k d text hk hd =>
      rw [readField, readKey_eq_ok_iff.2 ⟨k, List.append_assoc k d r, hk⟩]
      simp only [↓reduceIte, readText_eq_ok_iff.2 ⟨rfl, d, rfl, hd⟩]
    | @other k v tag wire hk htag hv =>
      rw [readField, readKey_eq_ok_iff.2 ⟨k, List.append_assoc k v r, hk⟩]
      simp only [htag, ↓reduceIte, skipField_eq_ok_iff.2 ⟨v, rfl, hv⟩]

theorem lastText_cons (before : String) (f : Option String) (fs : List (Option String)) :
    lastText before (f :: fs) = lastText (f.getD before) fs := by
  unfold lastText
  cases f with
  | none => rfl
  | some text =>
    have hfirst : (some text :: fs).filterMap id = text :: fs.filterMap id := rfl
    rw [hfirst, List.getLast?_cons]
    rfl

/-- Reading fields reads a record behind the text so far, with as much fuel as there are bytes. -/
theorem readFields_eq_ok_iff {fuel : Nat} {before text : String} (hfuel : bs.length ≤ fuel) :
    readFields fuel before bs = .ok text ↔ ∃ fs, IsRecord bs fs ∧ text = lastText before fs := by
  constructor
  · intro h
    clear hfuel
    induction fuel generalizing before bs with
    | zero =>
      cases bs with
      | nil => exact ⟨[], .nil, (Except.ok.inj h).symm⟩
      | cons b t => cases h
    | succ fuel ih =>
      cases bs with
      | nil => exact ⟨[], .nil, (Except.ok.inj h).symm⟩
      | cons b t =>
        rw [readFields] at h
        split at h
        · cases h
        · next f rest hfield =>
          obtain ⟨v, hbs, hv⟩ := readField_eq_ok_iff.1 hfield
          obtain ⟨fs, hfs, htext⟩ := ih h
          rw [hbs]
          exact ⟨f :: fs, .cons hv hfs, by rw [lastText_cons, htext]⟩
  · rintro ⟨fs, hfs, rfl⟩
    induction hfs generalizing fuel before with
    | nil =>
      rw [readFields.eq_def]
      cases fuel <;> rfl
    | @cons v rest f fs hv _ ih =>
      have hpos := hv.length_pos
      rw [List.length_append] at hfuel
      obtain ⟨fuel, rfl⟩ : ∃ m, fuel = m + 1 := ⟨fuel - 1, by omega⟩
      obtain ⟨b, t, hbt⟩ := List.exists_cons_of_length_pos
        (show 0 < (v ++ rest).length by rw [List.length_append]; omega)
      have hfield : readField (v ++ rest) = .ok (f, rest) := readField_eq_ok_iff.2 ⟨v, rfl, hv⟩
      rw [hbt] at hfield ⊢
      rw [readFields, hfield, lastText_cons]
      exact ih (by omega)

/-- **Reading a record reads a record**, and its text is the one that is set last, or empty. -/
theorem parseRecord_eq_ok_iff {text : String} :
    parseRecord bs = .ok text ↔ ∃ fs, IsRecord bs fs ∧ text = lastText "" fs :=
  readFields_eq_ok_iff (Nat.le_refl _)

/-! ### Records behind records -/

/-- The record has the text field, perhaps with an empty text. -/
def HasText (bs : Bytes) : Prop := ∃ fs, IsRecord bs fs ∧ ∃ text, some text ∈ fs

/-- A record of fields that are not the text field. -/
def IsForeign (bs : Bytes) : Prop := ∃ fs, IsRecord bs fs ∧ ∀ f ∈ fs, f = none

/-- **A record behind a record is a record** of the fields of both. -/
theorem IsRecord.append {p q : Bytes} {fs gs : List (Option String)} (hp : IsRecord p fs)
    (hq : IsRecord q gs) : IsRecord (p ++ q) (fs ++ gs) := by
  induction hp with
  | nil => exact hq
  | cons hfield _ ih =>
    rw [List.append_assoc]
    exact .cons hfield ih

theorem lastText_append (before : String) (fs gs : List (Option String)) :
    lastText before (fs ++ gs) = lastText (lastText before fs) gs := by
  induction fs generalizing before with
  | nil => rfl
  | cons f fs ih => rw [List.cons_append, lastText_cons, ih, lastText_cons]

theorem lastText_of_mem {text : String} {fs : List (Option String)} (h : some text ∈ fs)
    (before after : String) : lastText before fs = lastText after fs := by
  have hne : fs.filterMap id ≠ [] := List.ne_nil_of_mem (List.mem_filterMap.2 ⟨_, h, rfl⟩)
  rw [lastText, lastText, List.getLast?_eq_some_getLast hne]
  rfl

theorem lastText_of_none {fs : List (Option String)} (h : ∀ f ∈ fs, f = none) (before : String) :
    lastText before fs = before := by
  have hnil : fs.filterMap id = [] := List.filterMap_eq_nil_iff.2 h
  rw [lastText, hnil]
  rfl

variable {p q : Bytes} {a b : String}

/-- **Of two records the text of the second one counts**, if it has the text field. -/
theorem parseRecord_append_of_hasText (hp : parseRecord p = .ok a) (hq : parseRecord q = .ok b)
    (h : HasText q) : parseRecord (p ++ q) = .ok b := by
  obtain ⟨fs, hfs, -⟩ := parseRecord_eq_ok_iff.1 hp
  obtain ⟨gs, hgs, text, hmem⟩ := h
  have hb : parseRecord q = .ok (lastText "" gs) := parseRecord_eq_ok_iff.2 ⟨gs, hgs, rfl⟩
  obtain rfl := Except.ok.inj (hq.symm.trans hb)
  refine parseRecord_eq_ok_iff.2 ⟨fs ++ gs, hfs.append hgs, ?_⟩
  rw [lastText_append]
  exact lastText_of_mem hmem _ _

/-- **Else the text of the first one counts.** -/
theorem parseRecord_append_of_not_hasText (hp : parseRecord p = .ok a)
    (hq : parseRecord q = .ok b) (h : ¬HasText q) : parseRecord (p ++ q) = .ok a := by
  obtain ⟨fs, hfs, rfl⟩ := parseRecord_eq_ok_iff.1 hp
  obtain ⟨gs, hgs, -⟩ := parseRecord_eq_ok_iff.1 hq
  have hnone : ∀ f ∈ gs, f = none := fun f hf => by
    cases f with
    | none => rfl
    | some text => exact absurd ⟨gs, hgs, text, hf⟩ h
  refine parseRecord_eq_ok_iff.2 ⟨fs ++ gs, hfs.append hgs, ?_⟩
  rw [lastText_append, lastText_of_none hnone]

/-- **Foreign fields are of no account**, in front and behind. -/
theorem IsForeign.parseRecord_append (h : IsForeign q) (hp : parseRecord p = .ok a) :
    parseRecord (q ++ p) = .ok a ∧ parseRecord (p ++ q) = .ok a := by
  obtain ⟨fs, hfs, rfl⟩ := parseRecord_eq_ok_iff.1 hp
  obtain ⟨gs, hgs, hnone⟩ := h
  constructor
  · refine parseRecord_eq_ok_iff.2 ⟨gs ++ fs, hgs.append hfs, ?_⟩
    rw [lastText_append, lastText_of_none hnone]
  · refine parseRecord_eq_ok_iff.2 ⟨fs ++ gs, hfs.append hgs, ?_⟩
    rw [lastText_append, lastText_of_none hnone]

end Protobuf
end MailGateway
