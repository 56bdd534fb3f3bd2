/-
# The path of a target

The path of a target is empty, a lone asterisk, or begins with a slash (`targetPath_cases`).
Of a target that is a path with a query, it is what stands in front of the query
(`targetPath_query`).
-/

import Mathlib.Data.List.TakeWhile
import MailGateway.Http.Target

namespace MailGateway
namespace Http

variable {path query : List Char}

/-- What the path of a target begins with, if it has one. -/
theorem targetPath_cases (target : String) : targetPath target = "" ∨ targetPath target = "*" ∨
    (targetPath target).toList.head? = some '/' := by
  unfold targetPath
  split
  · next cs _ => exact .inr (.inr (by simp [untilQuery]))
  · exact .inr (.inl rfl)
  · split
    · exact .inl rfl
    · next cs _ =>
      refine .inr (.inr ?_)
      -- the authority ends at a slash or at a query, and there is no path in front of a query
      have hstop : ∀ c, (cs.dropWhile fun c => c ≠ '/' ∧ c ≠ '?' ∧ c ≠ '#').head? = some c →
          c = '/' ∨ c = '?' ∨ c = '#' := by
        intro c hc
        have hfalse := List.head?_dropWhile_not (fun c => decide (c ≠ '/' ∧ c ≠ '?' ∧ c ≠ '#')) cs
        rw [hc] at hfalse
        by_contra hnone
        simp_all
      cases hrest : cs.dropWhile fun c => c ≠ '/' ∧ c ≠ '?' ∧ c ≠ '#' with
      | nil => rfl
      | cons c rest =>
        rw [hrest] at hstop
        rcases hstop c rfl with rfl | rfl | rfl
        all_goals simp [untilQuery]

/-- What begins with a slash is a path with or without a query. -/
theorem targetPath_of_slash {cs : List Char} (h : cs.head? = some '/') :
    targetPath (String.ofList cs) = String.ofList (untilQuery cs) := by
  obtain ⟨rest, rfl⟩ : ∃ rest, cs = '/' :: rest := List.head?_eq_some_iff.1 h
  unfold targetPath
  rw [String.toList_ofList]
  rfl

section

variable (hslash : path.head? = some '/') (hquery : '?' ∉ path) (hfragment : '#' ∉ path)

include hquery hfragment in
theorem not_query_of_mem (c : Char) (hc : c ∈ path) : decide (c ≠ '?' ∧ c ≠ '#') = true :=
  decide_eq_true ⟨fun h => hquery (h ▸ hc), fun h => hfragment (h ▸ hc)⟩

include hslash hquery hfragment

/-- A path alone is its own target. -/
theorem targetPath_of_no_query : targetPath (String.ofList path) = String.ofList path := by
  rw [targetPath_of_slash hslash, untilQuery,
    List.takeWhile_eq_self_iff.2 (not_query_of_mem hquery hfragment)]

/-- A query is no part of the path in front of it. -/
theorem targetPath_query :
    targetPath (String.ofList (path ++ '?' :: query)) = String.ofList path := by
  have hhead : (path ++ '?' :: query).head? = some '/' := by
    rw [List.head?_append, hslash, Option.some_or]
  rw [targetPath_of_slash hhead, untilQuery,
    List.takeWhile_append_of_pos (not_query_of_mem hquery hfragment)]
  simp

end

end Http
end MailGateway
