/-
# Addresses of eight groups

The canonical text of an address has one of three forms, and the reader gives the address
back from each of them (`parse?_text`):

| form | when | what the reader does |
| --- | --- | --- |
| `::ffff:a.b.c.d` | the address is a mapped one | takes the octets for two groups |
| eight groups | no two zero groups in a row | finds no pair of colons |
| `head::tail` | else | fills up with zero groups |

In the last form the zero groups between head and tail are the run that was cut out
(`exists_around_longestZeros`), so filling up to eight groups puts back just these.  The pair
of colons that the reader finds is the one that stands for them, since joined groups have no
pair of colons of their own and do not begin or end with one (`cutPair_groups_append`).
-/

import Mathlib.Data.List.TakeWhile
import MailGateway.Proofs.Net.Quads
import MailGateway.Proofs.Text.Hexadecimal

namespace MailGateway
namespace Net

variable {c : Char} {cs front back : List Char} {gs : List (Fin 65536)} {g : Fin 65536}

/-! ### Zero groups -/

theorem exists_behind_zerosAtFront (gs : List (Fin 65536)) :
    ∃ rest, gs = List.replicate (zerosAtFront gs) 0 ++ rest := by
  have hzeros : gs.takeWhile (· = 0) = List.replicate (zerosAtFront gs) 0 :=
    List.eq_replicate_iff.2 ⟨rfl, fun g hg => by simpa using List.mem_takeWhile_imp hg⟩
  exact ⟨gs.dropWhile (· = 0), by rw [← hzeros, List.takeWhile_append_dropWhile]⟩

/-- Around the longest run of zero groups stand a head and a tail. -/
theorem exists_around_longestZeros (gs : List (Fin 65536)) :
    ∃ head tail, gs = head ++ List.replicate (longestZeros gs).2 0 ++ tail ∧
      head.length = (longestZeros gs).1 := by
  induction gs with
  | nil => exact ⟨[], [], rfl, rfl⟩
  | cons g gs ih =>
    rw [longestZeros]
    dsimp only
    split
    · obtain ⟨rest, hrest⟩ := exists_behind_zerosAtFront (g :: gs)
      exact ⟨[], rest, hrest, rfl⟩
    · obtain ⟨head, tail, hgs, hlength⟩ := ih
      refine ⟨g :: head, tail, ?_, congrArg Nat.succ hlength⟩
      rw [List.cons_append, List.cons_append, ← hgs]

theorem around_longestZeros (gs : List (Fin 65536)) :
    gs.take (longestZeros gs).1 ++ List.replicate (longestZeros gs).2 0 ++
      gs.drop ((longestZeros gs).1 + (longestZeros gs).2) = gs := by
  obtain ⟨head, tail, hgs, hlength⟩ := exists_around_longestZeros gs
  generalize longestZeros gs = run at hgs hlength ⊢
  subst hgs
  have htake : (head ++ List.replicate run.2 0 ++ tail).take run.1 = head := by
    rw [← hlength, List.append_assoc, List.take_left]
  have hdrop : (head ++ List.replicate run.2 0 ++ tail).drop (run.1 + run.2) = tail :=
    List.drop_left' (by simp [hlength])
  rw [htake, hdrop]

/-! ### The text of groups -/

theorem toList_groupText (g : Fin 65536) : (groupText g).toList = Nat.toDigits 16 g.val := by
  have hpos : 1 - (Nat.toDigits 16 g.val).length = 0 := by
    have := Nat.length_toDigits_pos (b := 16) (n := g.val)
    omega
  rw [groupText, Numeral.toList_hex, Numeral.padded, hpos]
  rfl

theorem toList_groupsText (gs : List (Fin 65536)) :
    (groupsText gs).toList = [':'].intercalate (gs.map fun g => Nat.toDigits 16 g.val) := by
  rw [groupsText, String.toList_intercalate, List.map_map]
  exact congrArg [':'].intercalate (List.map_congr_left fun g _ => toList_groupText g)

@[simp]
theorem toList_groupsText_nil : (groupsText []).toList = [] := by
  rw [toList_groupsText]
  rfl

@[simp]
theorem toList_groupsText_singleton (g : Fin 65536) :
    (groupsText [g]).toList = Nat.toDigits 16 g.val := by
  rw [toList_groupsText, List.map_singleton, List.intercalate_singleton]

theorem toList_groupsText_cons_cons (g g' : Fin 65536) (gs : List (Fin 65536)) :
    (groupsText (g :: g' :: gs)).toList =
      Nat.toDigits 16 g.val ++ ':' :: (groupsText (g' :: gs)).toList := by
  rw [toList_groupsText, toList_groupsText, List.map_cons, List.map_cons,
    List.intercalate_cons_cons, List.append_assoc]
  rfl

namespace V6

variable {ip : V6} {quad : Bool} {parts : List (List Char)} {before behind : List Char}

/-! ### Reading groups -/

/-- **A group is read back.** -/
theorem group?_toDigits (g : Fin 65536) : group? (Nat.toDigits 16 g.val) = some g := by
  have hlength : (Nat.toDigits 16 g.val).length ≤ 4 :=
    (Nat.length_toDigits_le_iff (by decide) (by decide)).2 g.isLt
  have hread : Numeral.digits? Numeral.hexadecimal? 16 (Nat.toDigits 16 g.val) = some g.val := by
    have hdigits := Numeral.digitsFrom_toDigits g.val
    cases hcs : Nat.toDigits 16 g.val with
    | nil => exact absurd hcs Nat.toDigits_ne_nil
    | cons c cs => rwa [hcs] at hdigits
  rw [group?, if_neg (by omega), hread]
  exact dif_pos g.isLt

theorem notMem_of_group? (hc : Numeral.hexadecimal? c = none) (h : group? cs = some g) :
    c ∉ cs := by
  unfold group? at h
  split at h
  · cases h
  · split at h
    · next hread => exact notMem_of_digits? hc hread
    · cases h

theorem colon_notMem_toDigits (g : Fin 65536) : ':' ∉ Nat.toDigits 16 g.val :=
  notMem_of_group? (by decide) (group?_toDigits g)

theorem groups?_toDigits (quad : Bool) (gs : List (Fin 65536)) :
    groups? quad (gs.map fun g => Nat.toDigits 16 g.val) = some gs := by
  induction gs with
  | nil => rfl
  | cons g gs ih =>
    cases gs with
    | nil => simp [groups?, group?_toDigits]
    | cons g' gs =>
      rw [List.map_cons] at ih ⊢
      simp [groups?, group?_toDigits, ih]

theorem notMem_of_groups? (hc : IsOutside ['.'] c) (h : groups? quad parts = some gs) :
    ∀ part ∈ parts, c ∉ part := by
  induction parts using groups?.induct quad generalizing gs with
  | case1 => exact fun part hpart => absurd hpart List.not_mem_nil
  | case2 cs g hg => exact List.forall_mem_singleton.2 (notMem_of_group? hc.1 hg)
  | case3 cs hg hquad =>
    simp only [groups?, hg, hquad, if_true, Option.map_eq_some_iff] at h
    obtain ⟨ip, hip, -⟩ := h
    exact List.forall_mem_singleton.2 (V4.notMem_of_quad? hc hip)
  | case4 cs hg hquad => simp [groups?, hg, hquad] at h
  | case5 cs rest hne ih =>
    rw [groups?.eq_3 _ _ _ hne] at h
    obtain ⟨g, hg, h⟩ := Option.bind_eq_some_iff.1 h
    obtain ⟨gs, hgs, -⟩ := Option.bind_eq_some_iff.1 h
    exact List.forall_mem_cons.2 ⟨notMem_of_group? hc.1 hg, ih hgs⟩

/-- **A part is read back,** an empty one, too. -/
theorem part?_groupsText (quad : Bool) (gs : List (Fin 65536)) :
    part? quad (groupsText gs).toList = some gs := by
  cases gs with
  | nil => simp [part?]
  | cons g gs =>
    have hne : (groupsText (g :: gs)).toList ≠ [] := by
      cases gs with
      | nil => simp
      | cons g' gs => simp [toList_groupsText_cons_cons]
    have hcolon : ∀ part ∈ (g :: gs).map (fun g => Nat.toDigits 16 g.val), ':' ∉ part :=
      List.forall_mem_map.2 fun g _ => colon_notMem_toDigits g
    have hparts : cutAt ':' (groupsText (g :: gs)).toList =
        (g :: gs).map fun g => Nat.toDigits 16 g.val := by
      rw [toList_groupsText]
      exact cutAt_intercalate (List.cons_ne_nil _ _) hcolon
    rw [part?, if_neg (by simpa using hne), hparts]
    exact groups?_toDigits quad (g :: gs)

theorem notMem_of_part? (hc : IsOutside [':', '.'] c) (h : part? quad cs = some gs) :
    c ∉ cs := by
  have hcolon : c ≠ ':' := hc.ne (by decide)
  unfold part? at h
  split at h
  · next hempty =>
    rw [List.isEmpty_iff.1 hempty]
    exact List.not_mem_nil
  · exact notMem_of_cutAt hcolon (notMem_of_groups? (hc.mono (by simp)) h)

/-! ### The pair of colons -/

theorem cutPair_append_of_notMem (h : ':' ∉ front) (back : List Char) :
    cutPair (front ++ back) = (cutPair back).map fun p => (front ++ p.1, p.2) := by
  induction front with
  | nil => simp
  | cons d front ih =>
    have hd : d ≠ ':' := fun heq => h (heq ▸ List.mem_cons_self)
    rw [List.cons_append, cutPair.eq_2 _ _ fun _ heq => absurd heq hd,
      ih fun hc => h (List.mem_cons_of_mem d hc), Option.map_map]
    rfl

/-- One colon alone is no pair. -/
theorem cutPair_colon_cons (h : cs.head? ≠ some ':') :
    cutPair (':' :: cs) = (cutPair cs).map fun p => (':' :: p.1, p.2) :=
  cutPair.eq_2 _ _ fun _ _ heq => h (heq ▸ rfl)

theorem cutPair_eq_some (h : cutPair cs = some (before, behind)) :
    cs = before ++ ':' :: ':' :: behind := by
  induction cs using cutPair.induct generalizing before with
  | case1 rest =>
    obtain ⟨rfl, rfl⟩ := Prod.mk.inj (Option.some.inj h)
    rfl
  | case2 d cs hpair ih =>
    rw [cutPair.eq_2 _ _ hpair] at h
    obtain ⟨⟨before', behind'⟩, hcut, heq⟩ := Option.map_eq_some_iff.1 h
    obtain ⟨rfl, rfl⟩ := Prod.mk.inj heq
    rw [List.cons_append, ← ih hcut]
  | case3 => cases h

/-- Joined groups do not begin with a colon. -/
theorem head?_groupsText_append (g : Fin 65536) (gs : List (Fin 65536)) (back : List Char) :
    ((groupsText (g :: gs)).toList ++ back).head? ≠ some ':' := by
  obtain ⟨d, ds, hdigits⟩ := List.exists_cons_of_ne_nil (Nat.toDigits_ne_nil (b := 16) (n := g.val))
  have hd : d ≠ ':' := fun heq => colon_notMem_toDigits g (heq ▸ hdigits ▸ List.mem_cons_self)
  cases gs with
  | nil => simpa [hdigits] using hd
  | cons g' gs => simpa [toList_groupsText_cons_cons, hdigits] using hd

/-- **Joined groups have no pair of colons,** not even with what stands behind them. -/
theorem cutPair_groups_append (gs : List (Fin 65536)) (back : List Char) :
    cutPair ((groupsText gs).toList ++ back) =
      (cutPair back).map fun p => ((groupsText gs).toList ++ p.1, p.2) := by
  induction gs with
  | nil => simp
  | cons g gs ih =>
    cases gs with
    | nil =>
      rw [toList_groupsText_singleton]
      exact cutPair_append_of_notMem (colon_notMem_toDigits g) back
    | cons g' gs =>
      rw [toList_groupsText_cons_cons, List.append_assoc,
        cutPair_append_of_notMem (colon_notMem_toDigits g), List.cons_append,
        cutPair_colon_cons (head?_groupsText_append g' gs back), ih, Option.map_map, Option.map_map]
      exact congrArg (Option.map · _) (funext fun p => by simp)

/-! ### Reading an address -/

theorem ofGroups?_groups (ip : V6) : ofGroups? ip.groups = some ip := dif_pos ip.length_groups

theorem parse?_of_cutPair_eq_none (h : cutPair cs = none) :
    parse? cs = (part? true cs).bind ofGroups? := by
  rw [parse?, h]
  rfl

/-- Between head and tail the reader fills up with zero groups. -/
theorem parse?_of_cutPair_eq_some {head tail : List (Fin 65536)} {n : Nat}
    (h : cutPair cs = some (before, behind)) (hhead : part? false before = some head)
    (htail : part? true behind = some tail) (hn : 0 < n)
    (hlength : head.length + n + tail.length = 8) :
    parse? cs = ofGroups? (head ++ List.replicate n 0 ++ tail) := by
  have hfill : 8 - (head.length + tail.length) = n := by omega
  rw [parse?, h]
  simp only [hhead, htail, Option.bind_eq_bind, Option.bind_some]
  rw [if_neg (by omega), hfill]

theorem notMem_of_parse? (hc : IsOutside [':', '.'] c) (h : parse? cs = some ip) : c ∉ cs := by
  cases hcut : cutPair cs with
  | none =>
    rw [parse?_of_cutPair_eq_none hcut] at h
    obtain ⟨gs, hgs, -⟩ := Option.bind_eq_some_iff.1 h
    exact notMem_of_part? hc hgs
  | some cut =>
    obtain ⟨before, behind⟩ := cut
    rw [parse?, hcut] at h
    obtain ⟨head, hhead, h⟩ := Option.bind_eq_some_iff.1 h
    obtain ⟨tail, htail, -⟩ := Option.bind_eq_some_iff.1 h
    rw [cutPair_eq_some hcut, List.mem_append]
    have hcolon : c ≠ ':' := hc.ne (by decide)
    refine not_or.2 ⟨notMem_of_part? hc hhead, ?_⟩
    exact List.not_mem_cons_of_ne_of_not_mem hcolon
      (List.not_mem_cons_of_ne_of_not_mem hcolon (notMem_of_part? hc htail))

/-- One part alone is at most two groups. -/
theorem colon_mem_of_parse? (h : parse? cs = some ip) : ':' ∈ cs := by
  by_contra hcolon
  have hcut : cutPair cs = none := by
    simpa [cutPair] using cutPair_append_of_notMem hcolon []
  rw [parse?_of_cutPair_eq_none hcut] at h
  obtain ⟨gs, hgs, hip⟩ := Option.bind_eq_some_iff.1 h
  have hparts : cutAt ':' cs = [cs] := by
    simpa using cutAt_intercalate (List.cons_ne_nil cs []) (List.forall_mem_singleton.2 hcolon)
  have hfew : gs.length ≤ 2 := by
    unfold part? at hgs
    rw [hparts, groups?] at hgs
    split at hgs
    · simp [← Option.some.inj hgs]
    split at hgs
    · simp [← Option.some.inj hgs]
    split at hgs
    · obtain ⟨quad, -, rfl⟩ := Option.map_eq_some_iff.1 hgs
      simp
    · cases hgs
  unfold ofGroups? at hip
  split at hip
  · omega
  · cases hip

/-! ### The canonical text -/

/-- The octets at the end of a mapped address stand for its last two groups. -/
theorem groups?_octets (g h : Fin 65536) :
    groups? true [(V4.ofNat (g.val * 65536 + h.val)).text.toList] = some [g, h] := by
  have hgroup : group? (V4.ofNat (g.val * 65536 + h.val)).text.toList = none := by
    refine Option.eq_none_iff_forall_ne_some.2 fun _ hread => ?_
    exact notMem_of_group? (by decide) hread (V4.dot_mem_text _)
  have := g.isLt
  have := h.isLt
  have hg : Fin.ofNat 65536 ((V4.ofNat (g.val * 65536 + h.val)).a.val * 256 +
      (V4.ofNat (g.val * 65536 + h.val)).b.val) = g := by
    refine Fin.ext ?_
    simp only [V4.ofNat, Fin.ofNat]
    omega
  have hh : Fin.ofNat 65536 ((V4.ofNat (g.val * 65536 + h.val)).c.val * 256 +
      (V4.ofNat (g.val * 65536 + h.val)).d.val) = h := by
    refine Fin.ext ?_
    simp only [V4.ofNat, Fin.ofNat]
    omega
  rw [groups?, hgroup]
  simp only [if_true, V4.quad?_text, Option.map_some, hg, hh]

/-- The text of a mapped address. -/
theorem parse?_mapped (g h : Fin 65536) :
    parse? ("::ffff:" ++ (V4.ofNat (g.val * 65536 + h.val)).text).toList =
      ofGroups? [0, 0, 0, 0, 0, 0xFFFF, g, h] := by
  let octets := (V4.ofNat (g.val * 65536 + h.val)).text.toList
  have hcolon : ∀ part ∈ ["ffff".toList, octets], ':' ∉ part := by
    refine List.forall_mem_cons.2 ⟨by decide, List.forall_mem_singleton.2 ?_⟩
    exact V4.notMem_of_quad? (by decide) (V4.quad?_text _)
  have hparts : cutAt ':' ("ffff".toList ++ ':' :: octets) = ["ffff".toList, octets] := by
    simpa using cutAt_intercalate (List.cons_ne_nil _ _) hcolon
  have htail : part? true ("ffff".toList ++ ':' :: octets) = some [0xFFFF, g, h] := by
    have hmark : group? "ffff".toList = some 0xFFFF := by decide
    rw [part?, if_neg (by simp), hparts, groups?.eq_3 _ _ _ (List.cons_ne_nil _ _), hmark,
      groups?_octets]
    rfl
  have hprefix : "::ffff:".toList = ':' :: ':' :: ("ffff".toList ++ [':']) := by
    repeat rw [String.toList_ofList]
    rfl
  have hcut : cutPair (':' :: ':' :: ("ffff".toList ++ ':' :: octets)) =
      some ([], "ffff".toList ++ ':' :: octets) := rfl
  rw [String.toList_append, hprefix, List.cons_append, List.cons_append, List.append_assoc]
  exact parse?_of_cutPair_eq_some hcut rfl htail (by decide : 0 < 5) rfl

/-- The text of an address that has no zero groups to cut out. -/
theorem parse?_groupsText (gs : List (Fin 65536)) :
    parse? (groupsText gs).toList = ofGroups? gs := by
  have hcut : cutPair (groupsText gs).toList = none := by
    simpa [cutPair] using cutPair_groups_append gs []
  rw [parse?_of_cutPair_eq_none hcut, part?_groupsText]
  rfl

/-- The text of an address whose zero groups are cut out. -/
theorem parse?_compressed {head tail : List (Fin 65536)} {n : Nat} (hn : 0 < n)
    (hlength : head.length + n + tail.length = 8) :
    parse? (groupsText head ++ "::" ++ groupsText tail).toList =
      ofGroups? (head ++ List.replicate n 0 ++ tail) := by
  have hcut : cutPair (groupsText head ++ "::" ++ groupsText tail).toList =
      some ((groupsText head).toList, (groupsText tail).toList) := by
    rw [String.toList_append, String.toList_append, List.append_assoc, cutPair_groups_append]
    simp [cutPair]
  exact parse?_of_cutPair_eq_some hcut (part?_groupsText false head) (part?_groupsText true tail)
    hn hlength

/-- **The canonical text of an address is read back.** -/
theorem parse?_text (ip : V6) : parse? ip.text.toList = some ip := by
  rw [← ofGroups?_groups ip, text]
  split
  · next g h hgroups =>
    rw [hgroups]
    exact parse?_mapped g h
  · dsimp only
    split
    · exact parse?_groupsText ip.groups
    · next hlong =>
      have haround := around_longestZeros ip.groups
      have hlength := congrArg List.length haround
      rw [List.length_append, List.length_append, List.length_replicate,
        ip.length_groups] at hlength
      rw [parse?_compressed (Nat.lt_of_succ_lt (Nat.not_le.1 hlong)) hlength, haround]

example : (parse? "::ffff:1.2.3.4".toList).map text = some "::ffff:1.2.3.4" := by decide

end V6
end Net
end MailGateway
