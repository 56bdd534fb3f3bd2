/-
# The recorder of a whole process

A process installs the recorder, adds to a counter, or renders the page of one of the handles
that it was given, in any order and as often as it likes.  Only the first install matters:

| place before it | pages | warnings |
| --- | --- | --- |
| free | the sums of what was added since | none |
| taken | empty | one, by the first install |

A sum is one of 64 bits, and a counter to which nothing was added yet has none.  Counters that
are written alike share a line, which shows the sum of one of them (`alike_counters_share`).

There are two phases, one before the first install and one from it on, and `After` says what
the process is like in each.  An action goes from a phase to the same or the next one
(`After.step`), hence so does a run (`After.run`), and what is seen of an action is read off
the phase in which it is taken (`first_install_decides`).
-/

import MailGateway.Metrics.Slot
import MailGateway.Proofs.Metrics.Values
import Mathlib.Data.List.TakeWhile
import Mathlib.Data.UInt

namespace MailGateway
namespace Metrics

/-! ### Actions -/

/-- What a process does with its recorder. -/
inductive Action where
  | install
  | add (k : Key) (amount : UInt64)
  /-- Renders the page of the `k`-th handle that was handed out. -/
  | render (k : Nat)
  deriving DecidableEq

/-- A process, and the handles that were handed out, the first one first. -/
structure Process where
  slot : Slot
  handed : List Handle

/-- What is seen of an action. -/
structure Seen where
  events : List Log.Event := []
  page : Option Exposition := none

namespace Process

/-- A process that has just begun, in which the place is free or another recorder has it. -/
def start (free : Bool) : Process := ⟨if free then .fresh else Slot.fresh.takeByOther.1, []⟩

/-- Takes an action. -/
def step (p : Process) : Action → Process × Seen
  | .install =>
    let (slot, events) := p.slot.install
    (⟨slot, p.handed ++ slot.kept.toList⟩, { events })
  | .add k amount => ({ p with slot := p.slot.add k amount }, {})
  | .render k => (p, { page := p.handed[k]?.map p.slot.page })

/-- Takes actions one after another. -/
def run (p : Process) : List Action → Process × List Seen
  | [] => (p, [])
  | a :: as =>
    let (p, seen) := p.step a
    let (p, rest) := run p as
    (p, seen :: rest)

end Process

/-- What an action adds, and to which counter. -/
def Action.addition? : Action → Option (Key × UInt64)
  | .add k amount => some (k, amount)
  | _ => none

/-- All that was added since the first install, first first. -/
def addedSince (actions : List Action) : List (Key × UInt64) :=
  (actions.dropWhile (· ≠ .install)).filterMap Action.addition?

/-- The sum in 64 bits of what was added to a counter, if anything was. -/
def sumOf (added : List (Key × UInt64)) (k : Key) : Option UInt64 :=
  let amounts := (added.filter fun x => x.1 = k).map fun x => x.2.toNat
  if amounts = [] then none else some (.ofNat amounts.sum)

/-- What a page shows of counters with these sums at a moment: a line for each way of writing
them and no other line with a value.  It has the sum of a counter that is written so, which is
the counter's own where no other one is written like it. -/
structure Exposition.Shows (page : Exposition) (m : Moment) (sum : Key → Option UInt64)
    (shown : List (Written × UInt64)) : Prop where
  lines : ((page.lines m).filter isSample).Perm (shown.map counterLine)
  once : (shown.map Prod.fst).Nodup
  sums : ∀ x ∈ shown, ∃ k, k.written = x.1 ∧ sum k = some x.2
  all : ∀ k n, sum k = some n → k.written ∈ shown.map Prod.fst
  own : ∀ k n, sum k = some n → (∀ k', (sum k').isSome → k'.written = k.written → k' = k) →
    (k.written, n) ∈ shown

variable {free : Bool} {before after actions : List Action} {a : Action} {p : Process}
  {g : Registry} {k : Key} {added : List (Key × UInt64)}

/-! ### Sums and pages -/

theorem foldr_add_eq (amounts : List UInt64) :
    amounts.foldr (· + ·) 0 = .ofNat (amounts.map UInt64.toNat).sum := by
  induction amounts with
  | nil => rfl
  | cons a amounts ih =>
    rw [List.foldr_cons, ih, List.map_cons, List.sum_cons, UInt64.ofNat_add, UInt64.ofNat_toNat]

/-- A registry that was filled in this order has these sums. -/
theorem Registry.mem_counters_iff_sumOf (h : g.additions = added.reverse) {n : UInt64} :
    (k, n) ∈ g.counters ↔ sumOf added k = some n := by
  have htotal : g.total k =
      .ofNat ((added.filter fun x => x.1 = k).map fun x => x.2.toNat).sum := by
    rw [total, foldr_add_eq, h, List.filter_reverse, List.map_reverse, List.map_reverse,
      List.sum_reverse, List.map_map]
    rfl
  have hmem : k ∈ g.additions.map (·.1) ↔
      ((added.filter fun x => x.1 = k).map fun x => x.2.toNat) ≠ [] := by
    rw [h, Ne, List.map_eq_nil_iff, List.filter_eq_nil_iff]
    simp
  rw [mem_counters, hmem, htotal, sumOf]
  split
  · next hnone => exact iff_of_false (fun h => h.1 hnone) nofun
  · next hsome => exact ⟨fun h => h.2 ▸ rfl, fun h => ⟨hsome, (Option.some.inj h).symm⟩⟩

/-- **The page of a registry** that was filled in this order. -/
theorem Registry.shows_exposition (h : g.additions = added.reverse) (hnone : g.observations = [])
    (m : Moment) :
    g.exposition.Shows m (sumOf added) (g.exposition.values m) where
  lines := Exposition.filter_isSample_lines (by rw [exposition, summaries, hnone]; rfl)
  once := g.exposition.nodup_values m
  sums x hx := by
    obtain ⟨⟨k, n⟩, hk, hwritten, rfl⟩ := Exposition.exists_of_mem_values hx
    exact ⟨k, hwritten, (mem_counters_iff_sumOf h).1 hk⟩
  all k n hsum := by
    have hk : (k, n) ∈ g.exposition.counters := (mem_counters_iff_sumOf h).2 hsum
    obtain ⟨n', hn'⟩ := Exposition.exists_mem_values (m := m) hk
    exact List.mem_map_of_mem hn'
  own k n hsum hown := by
    have hk : (k, n) ∈ g.exposition.counters := (mem_counters_iff_sumOf h).2 hsum
    have hsame : ∀ y ∈ g.exposition.counters, y.1.written = k.written → y.2 = n := by
      rintro ⟨k', n'⟩ hk' hwritten
      have hsum' := (mem_counters_iff_sumOf h).1 hk'
      obtain rfl : k' = k := hown k' (by rw [hsum']; rfl) hwritten
      exact Option.some.inj (hsum'.symm.trans hsum)
    exact Exposition.mem_values_of_unique hk hsame

theorem Registry.lines_exposition_empty (m : Moment) : Registry.empty.exposition.lines m = [] := by
  have hvisited : m.visited [] = [] := (m.visited_perm []).eq_nil
  have hvalues : Exposition.values ⟨[], []⟩ m = [] := by
    rw [Exposition.values, hvisited]
    rfl
  change blocks _ _ (Exposition.values ⟨[], []⟩ m) ++ _ = _
  rw [hvalues]
  rfl

theorem addedSince_concat (h : .install ∈ before) :
    addedSince (before ++ [a]) = addedSince before ++ a.addition?.toList := by
  have hsince : (before.dropWhile (· ≠ .install)).isEmpty = false := by
    rw [List.isEmpty_eq_false_iff, Ne, List.dropWhile_eq_nil_iff]
    exact fun hnone => absurd (hnone _ h) (by simp)
  rw [addedSince, List.dropWhile_append, hsince, if_neg Bool.false_ne_true,
    List.filterMap_append]
  cases a <;> rfl

theorem addedSince_of_notMem (h : .install ∉ before) : addedSince (before ++ [.install]) = [] := by
  have hsince : before.dropWhile (· ≠ .install) = [] :=
    List.dropWhile_eq_nil_iff.2 fun a ha => decide_eq_true fun heq => h (heq ▸ ha)
  rw [addedSince, List.dropWhile_append, hsince]
  rfl

/-! ### The two phases -/

/-- What the library's recorder learns of. -/
def learned (free : Bool) (actions : List Action) : List (Key × UInt64) :=
  if free then addedSince actions else []

/-- How often the recorder was installed, which is how many handles were handed out. -/
def installs (actions : List Action) : Nat := actions.count .install

/-- The process after these actions, in the phase before the first install or in the one from it
on.  In the second one there is one recorder, and all handles are to it. -/
inductive After (free : Bool) (actions : List Action) : Process → Prop where
  | waiting (h : .install ∉ actions) :
    After free actions ⟨⟨if free then .nobody else .other, none, []⟩, []⟩
  | installed {handles : Nat} (h : .install ∈ actions) (hhandles : handles = installs actions) :
    After free actions
      ⟨⟨if free then .library 0 else .other, some 0, [⟨(learned free actions).reverse, []⟩]⟩,
        List.replicate handles 0⟩

theorem after_start (free : Bool) : After free [] (.start free) := by
  have hnone : Action.install ∉ ([] : List Action) := List.not_mem_nil
  cases free with
  | true => exact .waiting hnone
  | false => exact .waiting hnone

theorem installs_concat (ha : a ≠ .install) : installs (before ++ [a]) = installs before := by
  rw [installs, List.count_append, List.count_singleton, if_neg (by simpa using ha)]
  rfl

theorem installs_concat_install : installs (before ++ [.install]) = installs before + 1 := by
  rw [installs, List.count_append, List.count_singleton_self]
  rfl

theorem learned_concat (h : .install ∈ before) :
    learned free (before ++ [a]) =
      learned free before ++ if free then a.addition?.toList else [] := by
  unfold learned
  split
  · exact addedSince_concat h
  · rfl

theorem learned_of_notMem (h : .install ∉ before) : learned free (before ++ [.install]) = [] := by
  unfold learned
  split
  · exact addedSince_of_notMem h
  · rfl

/-! ### Steps and runs -/

/-- Before the first install nobody learns of what is counted. -/
theorem Slot.add_waiting (free : Bool) (k : Key) (amount : UInt64) :
    Slot.add ⟨if free then .nobody else .other, none, []⟩ k amount =
      ⟨if free then .nobody else .other, none, []⟩ := by
  cases free <;> rfl

/-- From it on the recorder does if it has the place. -/
theorem Slot.add_installed (free : Bool) (as : List (Key × UInt64)) (k : Key) (amount : UInt64) :
    Slot.add ⟨if free then .library 0 else .other, some 0, [⟨as.reverse, []⟩]⟩ k amount =
      ⟨if free then .library 0 else .other, some 0,
        [⟨(as ++ if free then [(k, amount)] else []).reverse, []⟩]⟩ := by
  cases free with
  | true =>
    rw [if_pos rfl, if_pos rfl, List.reverse_append]
    rfl
  | false =>
    rw [if_neg Bool.false_ne_true, if_neg Bool.false_ne_true, List.append_nil]
    rfl

/-- What an action reports: the first install warns if the place was taken. -/
def warning (free : Bool) (before : List Action) (a : Action) : List Log.Event :=
  if free = false ∧ a = .install ∧ .install ∉ before then [.recorderTaken] else []

theorem warning_of_ne (ha : a ≠ .install) : warning free before a = [] :=
  if_neg fun h => ha h.2.1

theorem warning_of_mem (h : .install ∈ before) : warning free before a = [] :=
  if_neg fun hw => hw.2.2 h

/-- **One action** leads from a phase to a phase, and reports what it is to report. -/
theorem After.step (h : After free before p) (a : Action) :
    After free (before ++ [a]) (p.step a).1 ∧ (p.step a).2.events = warning free before a := by
  cases h with
  | waiting h =>
    have hwaiting (ha : a ≠ .install) : After free (before ++ [a])
        ⟨⟨if free then .nobody else .other, none, []⟩, []⟩ :=
      .waiting (by simp [h, Ne.symm ha])
    cases a with
    | install =>
      have hinstalled : After free (before ++ [.install])
          ⟨⟨if free then .library 0 else .other, some 0, [.empty]⟩, List.replicate 1 0⟩ := by
        have hhandles : 1 = installs (before ++ [.install]) := by
          rw [installs_concat_install, installs, List.count_eq_zero_of_not_mem h]
        have hphase : After free (before ++ [.install]) _ := .installed (by simp) hhandles
        rwa [learned_of_notMem h] at hphase
      cases free with
      | true => exact ⟨hinstalled, rfl⟩
      | false => exact ⟨hinstalled, (if_pos ⟨rfl, rfl, h⟩).symm⟩
    | add k amount =>
      have hne : Action.add k amount ≠ .install := nofun
      rw [Process.step, Slot.add_waiting, warning_of_ne hne]
      exact ⟨hwaiting hne, rfl⟩
    | render k =>
      have hne : Action.render k ≠ .install := nofun
      rw [warning_of_ne hne]
      exact ⟨hwaiting hne, rfl⟩
  | @installed handles h hhandles =>
    have hnext : After free (before ++ [a]) _ :=
      .installed (List.mem_append_left _ h) rfl
    rw [learned_concat h] at hnext
    rw [warning_of_mem h]
    cases a with
    | install =>
      have hnothing : (if free then Action.addition? .install |>.toList else []) = [] := by
        cases free <;> rfl
      rw [hnothing, List.append_nil, installs_concat_install, ← hhandles,
        List.replicate_succ'] at hnext
      exact ⟨hnext, rfl⟩
    | add k amount =>
      have hne : Action.add k amount ≠ .install := nofun
      rw [installs_concat hne, ← hhandles] at hnext
      rw [Process.step, Slot.add_installed]
      exact ⟨hnext, rfl⟩
    | render k =>
      have hne : Action.render k ≠ .install := nofun
      have hnothing : (if free then Action.addition? (.render k) |>.toList else []) = [] := by
        cases free <;> rfl
      rw [hnothing, List.append_nil, installs_concat hne, ← hhandles] at hnext
      exact ⟨hnext, rfl⟩

/-- **Any run** leads from a phase to a phase. -/
theorem After.run (h : After free before p) (actions : List Action) :
    After free (before ++ actions) (p.run actions).1 := by
  induction actions generalizing before p with
  | nil => rwa [List.append_nil]
  | cons a actions ih =>
    have hrun := ih (h.step a).1
    rwa [List.append_assoc, List.singleton_append] at hrun

theorem Process.length_run (p : Process) (actions : List Action) :
    (p.run actions).2.length = actions.length := by
  induction actions generalizing p with
  | nil => rfl
  | cons a actions ih => exact congrArg (· + 1) (ih (p.step a).1)

theorem Process.run_append (p : Process) (before after : List Action) :
    p.run (before ++ after) = (((p.run before).1.run after).1,
      (p.run before).2 ++ ((p.run before).1.run after).2) := by
  induction before generalizing p with
  | nil => rfl
  | cons a before ih => simp only [List.cons_append, run, ih]

/-- What is seen of an action is up to the process that the actions before it have left. -/
theorem Process.seen_run (p : Process) (before after : List Action) (a : Action) :
    (p.run (before ++ a :: after)).2[before.length]? = some ((p.run before).1.step a).2 := by
  rw [run_append, List.getElem?_append_right (Nat.le_of_eq (p.length_run before)), p.length_run,
    Nat.sub_self]
  rfl

theorem After.handed (h : After free before p) :
    p.handed.length = installs before ∧ ∀ handle ∈ p.handed, p.slot.kept = some handle := by
  cases h with
  | waiting h => exact ⟨(List.count_eq_zero_of_not_mem h).symm, nofun⟩
  | installed _ hhandles =>
    refine ⟨List.length_replicate.trans hhandles, fun handle hmem => ?_⟩
    rw [List.eq_of_mem_replicate hmem]

/-- **The page of any handle** shows what the recorder learned. -/
theorem After.page (h : After free before p) {k : Nat} (hk : k < installs before) :
    ∃ page, (p.step (.render k)).2.page = some page ∧ ∀ m,
      (∃ shown, page.Shows m (sumOf (learned free before)) shown) ∧
      (free = false → page.lines m = []) := by
  cases h with
  | waiting h =>
    rw [installs, List.count_eq_zero_of_not_mem h] at hk
    exact absurd hk (Nat.not_lt_zero k)
  | @installed handles h hhandles =>
    have hhandle : (List.replicate handles (0 : Handle))[k]? = some 0 := by
      rw [List.getElem?_replicate, if_pos (hhandles ▸ hk)]
    let g : Registry := ⟨(learned free before).reverse, []⟩
    refine ⟨g.exposition, ?_, fun m =>
      ⟨⟨g.exposition.values m, Registry.shows_exposition rfl rfl m⟩, ?_⟩⟩
    · simp only [Process.step, hhandle]
      rfl
    · rintro rfl
      exact Registry.lines_exposition_empty m

/-- **A run warns once** if it has the first install and the place is taken, else never. -/
theorem After.warnings (h : After free before p) (actions : List Action) :
    (p.run actions).2.flatMap Seen.events =
      if free = false ∧ .install ∈ actions ∧ .install ∉ before then [.recorderTaken] else [] := by
  induction actions generalizing before p with
  | nil => exact (if_neg fun hw => List.not_mem_nil hw.2.1).symm
  | cons a actions ih =>
    obtain ⟨hnext, hevents⟩ := h.step a
    show (p.step a).2.events ++ ((p.step a).1.run actions).2.flatMap Seen.events = _
    rw [hevents, ih hnext, warning]
    by_cases hbefore : .install ∈ before
    · simp [hbefore]
    by_cases ha : a = .install
    · simp [hbefore, ha]
    · simp [hbefore, ha, Ne.symm ha]

/-- **The first install decides.**  Whatever a process does in whatever order, and whether the
place was free or taken when it began:

* one warning is reported in all if the place was taken and there is an install, by the first
  one, and none if the place was free;
* every handle is the one that was kept;
* every page, whichever handle is asked and whenever, shows the sums of what was added to the
  counters since the first install if the place was free, and is empty if it was taken. -/
theorem first_install_decides (free : Bool) (actions : List Action) :
    let ran := (Process.start free).run actions
    ran.2.flatMap Seen.events =
      (if free = false ∧ .install ∈ actions then [.recorderTaken] else []) ∧
    ran.1.handed.length = installs actions ∧
    (∀ handle ∈ ran.1.handed, ran.1.slot.kept = some handle) ∧
    ∀ before a after, actions = before ++ a :: after →
      ∃ seen, ran.2[before.length]? = some seen ∧ seen.events = warning free before a ∧
        ∀ k, a = .render k → k < installs before →
          ∃ page, seen.page = some page ∧ ∀ moment,
            (free = true → ∃ shown, page.Shows moment (sumOf (addedSince before)) shown) ∧
            (free = false → page.lines moment = []) := by
  intro ran
  have hran : After free actions ran.1 := (after_start free).run actions
  refine ⟨?warnings, hran.handed.1, hran.handed.2, ?seen⟩
  case warnings =>
    rw [(after_start free).warnings actions]
    simp
  case seen =>
    rintro before a after rfl
    have hbefore : After free before ((Process.start free).run before).1 :=
      (after_start free).run before
    refine ⟨_, Process.seen_run _ before after a, (hbefore.step a).2, ?_⟩
    rintro k rfl hk
    obtain ⟨page, hpage, hshows⟩ := hbefore.page hk
    refine ⟨page, hpage, fun moment => ⟨?_, (hshows moment).2⟩⟩
    rintro rfl
    exact (hshows moment).1

example : (((Process.start true).run [.add ⟨"started", [("service", "s")]⟩ 5, .install,
      .add ⟨"started", [("service", "s")]⟩ 2, .install, .render 1]).2.getLast?.bind Seen.page).map
        Exposition.series =
    some ["started\x7bservice=\"s\"\x7d 2"] := by
  decide +kernel

/-- **Not each counter is shown with all that was added.**  Two counters whose labels differ in a
backslash have one line between them, and a sum that passes the last number of 64 bits begins
again. -/
theorem alike_counters_share :
    let single : Key := (Series.started ⟨"a\\b", "m"⟩).key
    let double : Key := (Series.started ⟨"a\\\\b", "m"⟩).key
    let page (added : List Action) : Option Exposition :=
      ((Process.start true).run (.install :: (added ++ [.render 0]))).2.getLast?.bind Seen.page
    single ≠ double ∧
    (∃ e, page [.add single 1, .add double 2] = some e ∧
      ∀ moment, ((e.lines moment).filter isSample).length = 1) ∧
    ∃ e, page [.add single 18446744073709551615, .add single 1] = some e ∧
      ∀ moment, (e.lines moment).filter isSample = [counterLine (single.written, 0)] := by
  intro single double page
  let shared : Exposition := ⟨[(double, 2), (single, 1)], []⟩
  let passed : Exposition := ⟨[(single, 0)], []⟩
  have hwritten : double.written = single.written := by decide
  have halike : ∀ y ∈ shared.counters, y.1.written = single.written := by simp [shared, hwritten]
  have halone : ∀ y ∈ passed.counters, y.1.written = single.written := by simp [passed]
  refine ⟨by decide, ⟨shared, by decide, fun moment => ?_⟩,
    passed, by decide, fun moment => ?_⟩
  · obtain ⟨_, -, hlines⟩ :=
      Exposition.exists_filter_isSample_lines (m := moment) rfl (List.cons_ne_nil _ _) halike
    rw [hlines]
    rfl
  · obtain ⟨y, hy, hlines⟩ :=
      Exposition.exists_filter_isSample_lines (m := moment) rfl (List.cons_ne_nil _ _) halone
    rw [hlines, List.mem_singleton.1 hy]

end Metrics
end MailGateway
