/-
# Paths of one step

A name without a slash is a path of one step (`steps_of_notMem`), and so it leads nowhere if
the tree has no entry for it (`Tree.exists?_of_at?_eq_none`).
-/

import MailGateway.Files.Tree
import Mathlib.Data.String.Basic

namespace MailGateway
namespace Files

/-- Behind characters that have been passed, none of which is a slash. -/
theorem splitOnAux_slash (done rest : List Char) (h : '/' ∉ rest) :
    String.splitOnAux (String.ofList (done ++ rest)) "/" 0 ⟨String.utf8Len done⟩ 0 [] =
      [String.ofList (done ++ rest)] := by
  induction rest generalizing done with
  | nil =>
    have hextract := String.extract_of_valid [] done []
    unfold String.splitOnAux
    simpa [-String.ofList_append] using hextract
  | cons c rest ih =>
    have hc : c ≠ '/' := fun heq => h (heq ▸ List.mem_cons_self)
    have hrest := ih (done ++ [c]) fun hmem => h (List.mem_cons_of_mem _ hmem)
    have hget := String.get_of_valid done (c :: rest)
    have hnext : String.Pos.Raw.next (String.ofList (done ++ c :: rest))
        (String.Pos.Raw.unoffsetBy ⟨String.utf8Len done⟩ 0) =
          ⟨String.utf8Len (done ++ [c])⟩ := by
      rw [String.utf8Len_append, String.utf8Len_cons, String.utf8Len_nil, Nat.zero_add]
      exact String.next_of_valid done c rest
    have hsep : String.Pos.Raw.get "/" 0 = '/' := by decide
    have hmore : ¬String.utf8Len done + String.utf8Len (c :: rest) ≤ String.utf8Len done := by
      have := c.utf8Size_pos
      rw [String.utf8Len_cons]
      omega
    rw [String.splitOnAux]
    simp only [String.atEnd_iff, String.rawEndPos_ofList, String.utf8Len_append,
      String.Pos.Raw.mk_le_mk, hmore, hget, hsep, List.headD_cons, beq_iff_eq, hc, ↓reduceIte,
      hnext]
    simpa using hrest

/-- A name without a slash is a path of one step. -/
theorem steps_of_notMem {name : String} (h : '/' ∉ name.toList) : steps name = [name] := by
  have hsplit := splitOnAux_slash [] name.toList h
  rw [List.nil_append, String.ofList_toList] at hsplit
  exact hsplit

namespace Tree

/-- Names that a directory may have an entry under. -/
structure IsName (name : String) : Prop where
  ne_empty : name ≠ ""
  ne_here : name ≠ "."
  ne_up : name ≠ ".."
  slash : '/' ∉ name.toList
  nul : '\x00' ∉ name.toList
  short : name.utf8ByteSize ≤ 255

/-- A name that the tree has no entry for is not found. -/
theorem exists?_of_at?_eq_none {t : Tree} {name : String} (hname : IsName name)
    (hlookedUp : t.lookedUp.lookup name = none) (hroot : t.at? [] = some .directory)
    (hat : t.at? [name] = none) : t.exists? name = false := by
  have hshort : ¬lengthLimit ≤ name.utf8ByteSize := by
    have := hname.short
    rw [lengthLimit]
    omega
  have hsteps := steps_of_notMem hname.slash
  have hwalk : t.walk (some []) name = .error .missing := by
    simp [walk, hroot, hname.ne_empty, hname.ne_here, hname.ne_up, hname.short, hat]
  have hfollow : t.follow name = .error .missing := by
    have hnul : name.toList.contains '\x00' = false := by simpa using hname.nul
    simp only [follow, hsteps, hname.ne_empty, hshort, hnul, Bool.false_eq_true, ↓reduceIte,
      List.foldlM_cons]
    cases name.startsWith "/" with
    | true =>
      -- What lies outside of the tree is not there either.
      simp [hname.ne_empty, hname.ne_here, hname.ne_up]
      rfl
    | false =>
      simp [hwalk]
      rfl
  rw [exists?, find, hlookedUp]
  simp only [hfollow]
  rfl

end Tree
end Files
end MailGateway
