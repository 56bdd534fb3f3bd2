/-
# Lists around a separator

`front ++ c :: back`, where `c` does not stand in `front`, can be taken apart at its first
`c` (`takeWhile_front`, `dropWhile_front`); without `c` all is front (`takeWhile_of_notMem`,
`dropWhile_of_notMem`).  A part without `c` lies on one side of it
(`infix_of_notMem`); a part with `c` in it, where there is no other, lies across it
(`suffix_and_prefix_of_infix`).  Joined parts hold what they and the separator hold
(`notMem_intercalate`).  What holds no separator goes to the first or to the last part, and leaves
those between as they are (`splitOn_prepend`, `splitOn_append_of_notMem`).
-/

import Mathlib.Data.List.Basic
import Mathlib.Data.List.TakeWhile

namespace MailGateway

variable {α : Type} {c : α} {part front back x y s t : List α}

theorem takeWhile_front [DecidableEq α] (h : c ∉ front) (back : List α) :
    (front ++ c :: back).takeWhile (· ≠ c) = front := by
  rw [List.takeWhile_append_of_pos]
  · simp
  · intro d hd
    have : d ≠ c := fun heq => h (heq ▸ hd)
    simpa using this

theorem dropWhile_front [DecidableEq α] (h : c ∉ front) (back : List α) :
    (front ++ c :: back).dropWhile (· ≠ c) = c :: back := by
  rw [List.dropWhile_append_of_pos]
  · simp
  · intro d hd
    have : d ≠ c := fun heq => h (heq ▸ hd)
    simpa using this

theorem takeWhile_of_notMem [DecidableEq α] (h : c ∉ front) : front.takeWhile (· ≠ c) = front :=
  List.takeWhile_eq_self_iff.2 fun _ hd => decide_eq_true fun heq => h (heq ▸ hd)

theorem dropWhile_of_notMem [DecidableEq α] (h : c ∉ front) : front.dropWhile (· ≠ c) = [] :=
  List.dropWhile_eq_nil_iff.2 fun _ hd => decide_eq_true fun heq => h (heq ▸ hd)

/-- A part without the separator lies on one side of it. -/
theorem infix_of_notMem (hc : c ∉ part) (h : part <:+: front ++ c :: back) :
    part <:+: front ∨ part <:+: back := by
  obtain ⟨a, b, h⟩ := h
  rw [List.append_assoc] at h
  rcases List.append_eq_append_iff.1 h with ⟨as, rfl, hpart⟩ | ⟨cs, rfl, hback⟩
  · rcases List.append_eq_append_iff.1 hpart with ⟨u, rfl, -⟩ | ⟨u, rfl, hu⟩
    · exact .inl ⟨a, u, by simp⟩
    · cases u with
      | nil => exact .inl ⟨a, [], by simp⟩
      | cons d u =>
        obtain rfl : c = d := (List.cons.inj hu).1
        simp at hc
  · cases cs with
    | nil =>
      cases part with
      | nil => exact .inl List.nil_infix
      | cons d part =>
        obtain rfl : c = d := (List.cons.inj hback).1
        simp at hc
    | cons d cs => exact .inr ⟨cs, b, by simpa using (List.cons.inj hback).2.symm⟩

/-- A part across the only separator ends the front and begins the back. -/
theorem suffix_and_prefix_of_infix (ht : c ∉ t) (hs : c ∉ s)
    (h : x ++ c :: y <:+: t ++ c :: s) : x <:+ t ∧ y <+: s := by
  obtain ⟨a, b, h⟩ := h
  have hsplit : t ++ c :: s = (a ++ x) ++ c :: (y ++ b) := by simpa using h.symm
  obtain ⟨rfl, -, rfl⟩ := (List.append_cons_inj_of_notMem ht hs).1 hsplit
  exact ⟨⟨a, rfl⟩, ⟨b, rfl⟩⟩

/-- What stands neither in the separator nor in a part is not in the parts joined by it. -/
theorem notMem_intercalate {separator : List α} {parts : List (List α)} (hsep : c ∉ separator)
    (h : ∀ part ∈ parts, c ∉ part) : c ∉ separator.intercalate parts := by
  induction parts with
  | nil => simp
  | cons part parts ih =>
    have hfirst := h part List.mem_cons_self
    have hrest := ih fun p hp => h p (List.mem_cons_of_mem _ hp)
    cases parts with
    | nil => simpa using hfirst
    | cons next parts =>
      rw [List.intercalate_cons_cons, List.mem_append, List.mem_append]
      exact not_or.2 ⟨not_or.2 ⟨hfirst, hsep⟩, hrest⟩

theorem splitOn_cons_self [BEq α] [LawfulBEq α] (c : α) (back : List α) :
    (c :: back).splitOn c = [] :: back.splitOn c := by
  rw [List.splitOn, List.splitOnP_cons_eq_if_modifyHead, if_pos (beq_self_eq_true c),
    ← List.splitOn]

theorem splitOn_cons_of_ne [BEq α] [LawfulBEq α] {d : α} (h : d ≠ c) (back : List α) :
    (d :: back).splitOn c = (back.splitOn c).modifyHead (d :: ·) := by
  rw [List.splitOn, List.splitOnP_cons_eq_if_modifyHead, if_neg (by simpa using h),
    ← List.splitOn]

/-- What stands in front is in front of the first part. -/
theorem splitOn_prepend [BEq α] [LawfulBEq α] (h : c ∉ front) (back : List α) :
    ∃ first rest, back.splitOn c = first :: rest ∧
      (front ++ back).splitOn c = (front ++ first) :: rest := by
  induction front with
  | nil =>
    obtain ⟨first, rest, hback⟩ := List.exists_cons_of_ne_nil (List.splitOn_ne_nil c back)
    exact ⟨first, rest, hback, hback⟩
  | cons d front ih =>
    obtain ⟨first, rest, hback, hfront⟩ := ih fun hc => h (List.mem_cons_of_mem d hc)
    have hd : d ≠ c := fun heq => h (heq ▸ List.mem_cons_self)
    refine ⟨first, rest, hback, ?_⟩
    rw [List.cons_append, splitOn_cons_of_ne hd, hfront]
    rfl

/-- What stands behind is behind the last part. -/
theorem splitOn_append_of_notMem [BEq α] [LawfulBEq α] (h : c ∉ back) (front : List α) :
    ∃ init last, front.splitOn c = init ++ [last] ∧
      (front ++ back).splitOn c = init ++ [last ++ back] := by
  induction front with
  | nil => exact ⟨[], [], List.splitOn_nil c, List.splitOn_eq_singleton h⟩
  | cons d front ih =>
    obtain ⟨init, last, hfront, hback⟩ := ih
    by_cases hd : d = c
    · subst hd
      refine ⟨[] :: init, last, ?_, ?_⟩
      · rw [splitOn_cons_self, hfront]
        rfl
      · rw [List.cons_append, splitOn_cons_self, hback]
        rfl
    · rw [List.cons_append, splitOn_cons_of_ne hd, splitOn_cons_of_ne hd, hfront, hback]
      cases init with
      | nil => exact ⟨[], d :: last, rfl, rfl⟩
      | cons first init => exact ⟨(d :: first) :: init, last, rfl, rfl⟩

/-- Parts between the first and the last one are as they are without what stands around. -/
theorem splitOn_inside [BEq α] [LawfulBEq α] (hf : c ∉ front) (hb : c ∉ back) (s : List α) :
    ((front ++ (s ++ back)).splitOn c).length = (s.splitOn c).length ∧
      ∀ i, 0 < i → i + 1 < (s.splitOn c).length →
        ((front ++ (s ++ back)).splitOn c)[i]? = (s.splitOn c)[i]? := by
  obtain ⟨first, rest, hrest, hfront⟩ := splitOn_prepend hf (s ++ back)
  obtain ⟨init, last, hs, hback⟩ := splitOn_append_of_notMem hb s
  have hsame : first :: rest = init ++ [last ++ back] := hrest.symm.trans hback
  have hlength : rest.length + 1 = init.length + 1 := by
    simpa using congrArg List.length hsame
  rw [hfront, hs]
  refine ⟨by simpa using hlength, fun i hpos hlt => ?_⟩
  obtain ⟨i, rfl⟩ := Nat.exists_eq_succ_of_ne_zero (Nat.ne_of_gt hpos)
  have hinit : i + 1 < init.length := by simpa using hlt
  have hnext : (first :: rest)[i + 1]? = init[i + 1]? := by
    rw [hsame, List.getElem?_append_left hinit]
  rw [List.getElem?_append_left hinit, ← hnext]
  rfl

end MailGateway
