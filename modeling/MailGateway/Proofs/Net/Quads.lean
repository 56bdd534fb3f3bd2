/-
# Addresses of four octets

Text is cut at a character as lists are (`cutAt_eq_splitOn`), so parts that are joined are
got back, and what stands in no part does not stand in the text.

The canonical text of an address is read by the strict reader (`quad?_text`), and what that
one reads the lenient one reads as the same address (`parse?_of_quad?`): an octet without
leading zeros is a decimal number to both, and four numbers leave nothing for the last one
to fill.  Neither admits a colon or a bracket (`parse?_eq_none_of_mem`,
`quad?_eq_none_of_mem`).
-/

import Mathlib.Data.List.Forall2
import MailGateway.Net.Resolve
import MailGateway.Proofs.Text.Separator

namespace MailGateway
namespace Net

variable {sep c : Char} {cs : List Char}

theorem cutAt_eq_splitOn (sep : Char) (cs : List Char) : cutAt sep cs = cs.splitOn sep := by
  induction cs with
  | nil => exact (List.splitOn_nil sep).symm
  | cons d cs ih =>
    rw [cutAt]
    by_cases hd : d = sep
    · subst hd
      rw [if_pos rfl, ih, splitOn_cons_self]
    · obtain ⟨first, others, hrest⟩ := List.exists_cons_of_ne_nil (List.splitOn_ne_nil sep cs)
      rw [if_neg hd, ih, splitOn_cons_of_ne hd, hrest]
      rfl

/-- Joined parts are got back. -/
theorem cutAt_intercalate {parts : List (List Char)} (hne : parts ≠ [])
    (h : ∀ part ∈ parts, sep ∉ part) : cutAt sep ([sep].intercalate parts) = parts := by
  rw [cutAt_eq_splitOn]
  exact List.splitOn_intercalate sep h hne

/-- What stands in no part does not stand in the text. -/
theorem notMem_of_cutAt (hsep : c ≠ sep) (h : ∀ part ∈ cutAt sep cs, c ∉ part) : c ∉ cs := by
  have hjoined : [sep].intercalate (cutAt sep cs) = cs := by
    rw [cutAt_eq_splitOn, List.intercalate_splitOn]
  rw [← hjoined]
  exact notMem_intercalate (fun hc => hsep (List.mem_singleton.1 hc)) h

theorem mapM_eq_some_iff {α β : Type} {f : α → Option β} {l : List α} {l' : List β} :
    l.mapM f = some l' ↔ List.Forall₂ (fun a b => f a = some b) l l' := by
  induction l generalizing l' with
  | nil =>
    rw [List.mapM_nil, List.forall₂_nil_left_iff]
    simp [eq_comm]
  | cons a l ih =>
    rw [List.mapM_cons, List.forall₂_cons_left_iff]
    simp only [Option.bind_eq_bind, Option.bind_eq_some_iff, Option.pure_def, Option.some.injEq, ih]
    exact ⟨fun ⟨b, hb, bs, hbs, h⟩ => ⟨b, bs, hb, hbs, h.symm⟩,
      fun ⟨b, bs, hb, hbs, h⟩ => ⟨b, hb, bs, hbs, h.symm⟩⟩

/-- What is read as a whole is read part by part. -/
theorem exists_of_mapM {α β : Type} {f : α → Option β} {l : List α} {l' : List β}
    (h : l.mapM f = some l') : ∀ a ∈ l, ∃ b, f a = some b := by
  have hread := mapM_eq_some_iff.1 h
  clear h
  induction hread with
  | nil => exact fun a ha => absurd ha List.not_mem_nil
  | cons hab _ ih => exact List.forall_mem_cons.2 ⟨⟨_, hab⟩, ih⟩

/-- A character that is no digit stands in no numeral. -/
theorem notMem_of_digitsFrom {digit? : Char → Option Nat} {base value n : Nat}
    (hc : digit? c = none) (h : Numeral.digitsFrom digit? base value cs = some n) : c ∉ cs := by
  intro hmem
  have hdigit := Numeral.isSome_of_digitsFrom h c hmem
  rw [hc] at hdigit
  cases hdigit

theorem notMem_of_digits? {digit? : Char → Option Nat} {base n : Nat} (hc : digit? c = none)
    (h : Numeral.digits? digit? base cs = some n) : c ∉ cs := by
  cases cs with
  | nil => exact List.not_mem_nil
  | cons d cs => exact notMem_of_digitsFrom hc h

/-- Whether a character is neither a hexadecimal digit nor one of the marks that stand
between digits. -/
def IsOutside (marks : List Char) (c : Char) : Prop :=
  Numeral.hexadecimal? c = none ∧ c ∉ marks

instance (marks : List Char) (c : Char) : Decidable (IsOutside marks c) :=
  inferInstanceAs (Decidable (_ ∧ _))

namespace IsOutside

variable {marks fewer : List Char}

theorem mono (h : IsOutside marks c) (hfewer : ∀ d ∈ fewer, d ∈ marks) : IsOutside fewer c :=
  ⟨h.1, fun hc => h.2 (hfewer c hc)⟩

theorem ne (h : IsOutside marks c) {d : Char} (hd : d ∈ marks) : c ≠ d :=
  fun heq => h.2 (heq ▸ hd)

theorem decimal? (h : IsOutside marks c) : Numeral.decimal? c = none := by
  have hhexadecimal := h.1
  unfold Numeral.hexadecimal? at hhexadecimal
  unfold Numeral.decimal?
  split at hhexadecimal
  · cases hhexadecimal
  · next hrange => exact if_neg hrange

end IsOutside

namespace V4

variable {ip : V4}

/-- What the lenient reader takes for a number has no other characters than hexadecimal
digits and the mark of base sixteen. -/
theorem notMem_of_number? (hc : IsOutside ['x', 'X'] c) {n : Nat} (h : number? cs = some n) :
    c ∉ cs := by
  have hzero : c ≠ '0' := by
    rintro rfl
    exact absurd hc (by decide)
  unfold number? at h
  split at h
  · exact List.not_mem_cons_of_ne_of_not_mem hzero
      (List.not_mem_cons_of_ne_of_not_mem (hc.ne (by decide)) (notMem_of_digits? hc.1 h))
  · exact List.not_mem_cons_of_ne_of_not_mem hzero
      (List.not_mem_cons_of_ne_of_not_mem (hc.ne (by decide)) (notMem_of_digits? hc.1 h))
  · have hoctal : octal? c = none := by rw [octal?, hc.decimal?, Option.filter_none]
    exact List.not_mem_cons_of_ne_of_not_mem hzero (notMem_of_digits? hoctal h)
  · exact notMem_of_digits? hc.decimal? h

theorem parse?_eq_none_of_mem (hc : IsOutside ['x', 'X', '.'] c) (hmem : c ∈ cs) :
    parse? cs = none := by
  refine Option.eq_none_iff_forall_ne_some.2 fun ip h => ?_
  obtain ⟨numbers, hnumbers, -⟩ := Option.bind_eq_some_iff.1 h
  have hdot : c ≠ '.' := hc.ne (by decide)
  refine notMem_of_cutAt hdot (fun part hpart => ?_) hmem
  obtain ⟨n, hn⟩ := exists_of_mapM hnumbers part hpart
  exact notMem_of_number? (hc.mono (by simp)) hn

theorem natural?_of_octet? {n : Fin 256} (h : octet? cs = some n) :
    Numeral.natural? cs = some n.val := by
  unfold octet? at h
  split at h
  · cases h
  · split at h
    · next hn =>
      split at h
      · rw [hn, ← Option.some.inj h]
      · cases h
    · cases h

/-- An octet is a number to both readers: without a leading zero it is in no other base. -/
theorem number?_of_octet? {n : Fin 256} (h : octet? cs = some n) : number? cs = some n.val := by
  have hnatural := natural?_of_octet? h
  unfold number?
  split
  · cases h
  · cases h
  · cases h
  · exact hnatural

theorem octet?_toString : ∀ n : Fin 256, octet? (toString n.val).toList = some n := by
  decide +kernel

/-- Four octets leave nothing to fill. -/
theorem combine?_octets (a b c d : Fin 256) :
    (combine? 4 0 [a.val, b.val, c.val, d.val]).map ofNat = some ⟨a, b, c, d⟩ := by
  have hcombine : combine? 4 0 [a.val, b.val, c.val, d.val] =
      some (((a.val * 256 + b.val) * 256 + c.val) * 256 + d.val) := by
    simp [combine?, a.isLt, b.isLt, c.isLt, d.isLt]
  have := a.isLt
  have := b.isLt
  have := c.isLt
  have := d.isLt
  rw [hcombine, Option.map_some, Option.some.injEq, ofNat, mk.injEq]
  refine ⟨Fin.ext ?_, Fin.ext ?_, Fin.ext ?_, Fin.ext ?_⟩ <;>
    · simp only [Fin.ofNat]
      omega

theorem quad?_eq_some_iff :
    quad? cs = some ip ↔ (cutAt '.' cs).mapM octet? = some [ip.a, ip.b, ip.c, ip.d] := by
  unfold quad?
  constructor
  · intro h
    split at h
    · next hread =>
      rw [hread, ← Option.some.inj h]
    · cases h
  · intro h
    rw [h]

theorem notMem_of_quad? (hc : IsOutside ['.'] c) (h : quad? cs = some ip) : c ∉ cs := by
  have hdot : c ≠ '.' := hc.ne (by decide)
  refine notMem_of_cutAt hdot fun part hpart => ?_
  obtain ⟨n, hn⟩ := exists_of_mapM (quad?_eq_some_iff.1 h) part hpart
  exact notMem_of_digits? hc.decimal? (natural?_of_octet? hn)

theorem quad?_eq_none_of_mem (hc : IsOutside ['.'] c) (hmem : c ∈ cs) : quad? cs = none :=
  Option.eq_none_iff_forall_ne_some.2 fun _ h => notMem_of_quad? hc h hmem

/-- **What the strict reader reads the lenient one reads as the same address.** -/
theorem parse?_of_quad? (h : quad? cs = some ip) : parse? cs = some ip := by
  have hoctets := mapM_eq_some_iff.1 (quad?_eq_some_iff.1 h)
  have hnumbers : (cutAt '.' cs).mapM number? = some ([ip.a, ip.b, ip.c, ip.d].map Fin.val) :=
    mapM_eq_some_iff.2 (List.forall₂_map_right_iff.2 (hoctets.imp fun _ _ => number?_of_octet?))
  rw [parse?, hnumbers]
  exact combine?_octets ip.a ip.b ip.c ip.d

theorem toList_text (ip : V4) : ip.text.toList =
    ['.'].intercalate ([ip.a, ip.b, ip.c, ip.d].map fun n => (toString n.val).toList) := by
  rw [text, String.toList_intercalate, List.map_map]
  rfl

theorem dot_mem_text (ip : V4) : '.' ∈ ip.text.toList := by
  rw [toList_text, List.map_cons, List.map_cons, List.intercalate_cons_cons]
  simp

/-- **The canonical text of an address is read back.** -/
theorem quad?_text (ip : V4) : quad? ip.text.toList = some ip := by
  let octets := [ip.a, ip.b, ip.c, ip.d]
  let parts := octets.map fun n => (toString n.val).toList
  have hparts : ip.text.toList = ['.'].intercalate parts := toList_text ip
  have hread : List.Forall₂ (fun part n => octet? part = some n) parts octets :=
    List.forall₂_map_left_iff.2 (List.forall₂_same.2 fun n _ => octet?_toString n)
  have hdot : ∀ part ∈ parts, '.' ∉ part := fun part hpart => by
    obtain ⟨n, -, rfl⟩ := List.mem_map.1 hpart
    exact notMem_of_digits? (by decide) (natural?_of_octet? (octet?_toString n))
  have hne : parts ≠ [] := List.cons_ne_nil _ _
  rw [quad?_eq_some_iff, hparts, cutAt_intercalate hne hdot]
  exact mapM_eq_some_iff.2 hread

end V4
end Net
end MailGateway
