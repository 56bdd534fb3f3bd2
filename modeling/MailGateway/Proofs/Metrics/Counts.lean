/-
# Counting without order

A recorder is a list of increments, and all that can be asked of it is how often
something stands there.  So joined lists add up, and the order is of no account:

* counting a list of series puts it in front, in some order
  (`Recorder.increments_countAll_perm`);
* the sum of a family is the number of its increments (`Recorder.total_eq_countP`);
* whether a list of increments is `Balanced` survives joining.
-/

import MailGateway.Metrics.Recorder
import Mathlib.Algebra.BigOperators.Group.List.Lemmas
import Mathlib.Data.List.Perm.Basic

namespace MailGateway
namespace Metrics

/-- The sum of all values of a family. -/
def Recorder.total (ρ : Recorder) (f : Family) : Nat :=
  ((ρ.series.filter fun s => s.family = f).map ρ.value).sum

theorem Recorder.increments_countAll_perm (ρ : Recorder) (ss : List Series) :
    (ρ.countAll ss).increments.Perm (ss ++ ρ.increments) := by
  induction ss generalizing ρ with
  | nil => exact .refl _
  | cons s ss ih =>
    have hstep : (ρ.countAll (s :: ss)).increments.Perm (ss ++ s :: ρ.increments) := ih (ρ.count s)
    exact hstep.trans List.perm_middle

/-- Each series, and each family, is listed once. -/
theorem nodup_eraseDups {α : Type} [DecidableEq α] (ss : List α) : ss.eraseDups.Nodup := by
  induction hn : ss.length using Nat.strong_induction_on generalizing ss with
  | _ n ih =>
    cases ss with
    | nil => simp
    | cons s ss =>
      rw [List.eraseDups_cons, List.nodup_cons]
      refine ⟨by simp [List.mem_eraseDups], ih _ ?_ _ rfl⟩
      rw [← hn, List.length_cons]
      exact Nat.lt_succ_of_le (List.length_filter_le _ _)

/-- The sum of a family is the number of its increments. -/
theorem Recorder.total_eq_countP (ρ : Recorder) (f : Family) :
    ρ.total f = ρ.increments.countP fun s => s.family = f := by
  have hperm : ρ.series.Perm ρ.increments.dedup := by
    refine (List.perm_ext_iff_of_nodup (nodup_eraseDups _) (List.nodup_dedup _)).2 fun s => ?_
    rw [List.mem_eraseDups, List.mem_dedup]
  calc ρ.total f
      = ((ρ.increments.dedup.filter fun s => s.family = f).map ρ.value).sum :=
        ((hperm.filter _).map _).sum_eq
    _ = ρ.increments.countP fun s => s.family = f :=
        List.sum_map_count_dedup_filter_eq_countP _ _

/-- A list of increments has for each label as many times as requests, and as many ends
of calls and codes as starts. -/
structure Balanced (ss : List Series) : Prop where
  timed : ∀ l, ss.count (.requests l) = ss.count (.requestSeconds l)
  observed : ∀ l, ss.count (.started l) = ss.count (.handlingSeconds l)
  coded : ∀ l, ss.count (.started l) = (Grpc.Code.all.map fun c => ss.count (.handled l c)).sum

theorem Balanced.nil : Balanced [] :=
  ⟨fun _ => by simp, fun _ => by simp, fun _ => by simp⟩

theorem Balanced.append {ss ts : List Series} (hs : Balanced ss) (ht : Balanced ts) :
    Balanced (ss ++ ts) := by
  refine ⟨fun l => ?_, fun l => ?_, fun l => ?_⟩
  · rw [List.count_append, List.count_append, hs.timed, ht.timed]
  · rw [List.count_append, List.count_append, hs.observed, ht.observed]
  · simp only [List.count_append, List.sum_map_add, ← hs.coded, ← ht.coded]

end Metrics
end MailGateway
