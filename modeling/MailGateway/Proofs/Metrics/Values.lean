/-
# What a page shows of a registry

A registry has each counter once (`Registry.nodup_counters`), with its sum
(`Registry.mem_counters`).  A page writes each metric in one way, and shows each way of writing
once (`Exposition.nodup_values`):

* what is shown is the sum of a counter that is written so (`Exposition.exists_of_mem_values`);
* a counter that is written like no other is shown with its own sum
  (`Exposition.mem_values_of_unique`), at every moment;
* what is shown stands on a line (`Exposition.counterLine_mem_lines`), and of a summary on all
  its lines (`Exposition.exists_summaryLines_mem_lines`);
* where there are no summaries, the lines that are neither empty nor remarks are one for each way
  of writing (`Exposition.filter_isSample_lines`).
-/

import MailGateway.Metrics.Exposition
import MailGateway.Proofs.Metrics.Counts

namespace MailGateway
namespace Metrics

/-! ### Registries -/

namespace Registry

variable {g : Registry} {k : Key} {n : UInt64}

theorem nodup_counters (g : Registry) : (g.counters.map (·.1)).Nodup := by
  have hkeys : g.counters.map (·.1) = (g.additions.map (·.1)).eraseDups := by
    rw [counters, List.map_map]
    exact List.map_id _
  rw [hkeys]
  exact nodup_eraseDups _

/-- **The counters** are those to which something was added, with their sums. -/
theorem mem_counters : (k, n) ∈ g.counters ↔ k ∈ g.additions.map (·.1) ∧ n = g.total k := by
  simp only [counters, List.mem_map, List.mem_eraseDups, Prod.mk.injEq]
  constructor
  · rintro ⟨_, hk, rfl, rfl⟩
    exact ⟨hk, rfl⟩
  · rintro ⟨hk, rfl⟩
    exact ⟨k, hk, rfl, rfl⟩

end Registry

/-! ### Pages -/

/-- The lines on a metric stand in the block of its name. -/
theorem mem_blocks {α : Type} {kind line : String} {lines : Written × α → List String}
    {metrics : List (Written × α)} {x : Written × α} (hx : x ∈ metrics) (hline : line ∈ lines x) :
    line ∈ blocks kind lines metrics := by
  refine List.mem_flatMap.2 ⟨x.1.name, List.mem_eraseDups.2 (List.mem_map.2 ⟨x, hx, rfl⟩), ?_⟩
  refine List.mem_append_left _ (List.mem_append_right _ (List.mem_flatMap.2 ⟨x, ?_, hline⟩))
  exact List.mem_filter.2 ⟨hx, decide_eq_true rfl⟩

variable {e : Exposition} {m : Moment} {x : Written × UInt64} {k : Key} {n : UInt64}

namespace Exposition

/-- The counters in the order in which they are visited, as they are written. -/
theorem mem_visited : x ∈ (m.visited e.counters).map (fun y => (y.1.written, y.2)) ↔
    ∃ y ∈ e.counters, y.1.written = x.1 ∧ y.2 = x.2 := by
  simp only [List.mem_map, (m.visited_perm e.counters).mem_iff, Prod.ext_iff]

/-- No two counters are shown that are written alike. -/
theorem nodup_values (e : Exposition) (m : Moment) : ((e.values m).map (·.1)).Nodup := by
  rw [values, List.map_map]
  exact (List.map_id _).symm ▸ nodup_eraseDups _

/-- **What is shown** is the sum of a counter that is written so. -/
theorem exists_of_mem_values (h : x ∈ e.values m) :
    ∃ y ∈ e.counters, y.1.written = x.1 ∧ y.2 = x.2 := by
  obtain ⟨w, hw, rfl⟩ := List.mem_map.1 h
  obtain ⟨v, hv, rfl⟩ := List.mem_map.1 (List.mem_eraseDups.1 hw)
  have hfound := List.lookup_isSome_iff.2 ⟨v, hv, beq_self_eq_true v.1⟩
  obtain ⟨n, hn⟩ := Option.isSome_iff_exists.1 hfound
  obtain ⟨_, _, hsplit, -⟩ := List.lookup_eq_some_iff.1 hn
  have hmem : (v.1, n) ∈ (m.visited e.counters).map fun y => (y.1.written, y.2) := by
    rw [hsplit]
    exact List.mem_append_right _ List.mem_cons_self
  rw [hn, Option.getD_some]
  exact mem_visited.1 hmem

/-- Something is shown of each counter. -/
theorem exists_mem_values (h : (k, n) ∈ e.counters) : ∃ shown, (k.written, shown) ∈ e.values m :=
  ⟨_, List.mem_map.2 ⟨_, List.mem_eraseDups.2 (List.mem_map.2
    ⟨(k.written, n), mem_visited.2 ⟨(k, n), h, rfl, rfl⟩, rfl⟩), rfl⟩⟩

/-- **A counter that is written like no other** is shown with its own sum. -/
theorem mem_values_of_unique (hk : (k, n) ∈ e.counters)
    (h : ∀ y ∈ e.counters, y.1.written = k.written → y.2 = n) : (k.written, n) ∈ e.values m := by
  obtain ⟨shown, hshown⟩ := exists_mem_values (m := m) hk
  obtain ⟨y, hy, hwritten, rfl⟩ := exists_of_mem_values hshown
  rwa [h y hy hwritten] at hshown

/-- What is shown of a counter stands on a line of the page. -/
theorem counterLine_mem_lines (h : x ∈ e.values m) : counterLine x ∈ e.lines m :=
  List.mem_append_left _ (mem_blocks h (List.mem_singleton_self _))

/-- What is shown of a summary stands on lines of the page, whatever the clock has measured. -/
theorem exists_summaryLines_mem_lines (h : k ∈ e.summaries.map Prod.fst) :
    ∃ times, ∀ line ∈ summaryLines m (k.written, times), line ∈ e.lines m := by
  obtain ⟨y, hy, rfl⟩ := List.mem_map.1 h
  exact ⟨_, fun line hline => List.mem_append_right _ (mem_blocks (List.mem_map.2
    ⟨_, List.mem_eraseDups.2 (List.mem_map.2 ⟨y, hy, rfl⟩), rfl⟩) hline)⟩

/-- Something is observed of each summary that is shown. -/
theorem exists_of_mem_observed {x : Written × Nat} (h : x ∈ e.observed) :
    ∃ y ∈ e.summaries, y.1.written = x.1 := by
  obtain ⟨w, hw, rfl⟩ := List.mem_map.1 h
  obtain ⟨y, hy, rfl⟩ := List.mem_map.1 (List.mem_eraseDups.1 hw)
  exact ⟨y, hy, rfl⟩

end Exposition

/-! ### Lines with values -/

/-- Whether a line is neither empty nor a remark. -/
def isSample (line : String) : Bool := line.toList.head?.any (· ≠ '#')

theorem isSample_of_mem_aboutLines {kind name line : String} (h : line ∈ aboutLines kind name) :
    isSample line = false := by
  have hhelp : (toString "# HELP ").toList.head? = some '#' := by decide
  have htype : (toString "# TYPE ").toList.head? = some '#' := by decide
  rcases List.mem_append.1 h with h | h
  · simp only [helpLine?, Option.mem_toList, Option.map_eq_some_iff] at h
    obtain ⟨f, -, rfl⟩ := h
    simp [isSample, String.toList_append, hhelp]
  · rw [List.mem_singleton.1 h]
    simp [isSample, String.toList_append, htype]

theorem hash_notMem_writeName (name : String) :
    '#' ∉ (writeName isMetricLetter name).toList := by
  have hletter {c : Char} {p : Bool} (hp : p = true → c ≠ '#') :
      '#' ≠ if p then c else '_' := by
    split
    · next h => exact (hp h).symm
    · decide
  rw [writeName, String.toList_ofList]
  split
  · exact List.not_mem_nil
  · next c cs _ =>
    refine List.not_mem_cons_of_ne_of_not_mem (hletter ?_) fun hmem => ?_
    · rintro h rfl
      exact absurd h (by decide)
    · obtain ⟨d, -, hd⟩ := List.mem_map.1 hmem
      refine hletter ?_ hd.symm
      rintro h rfl
      exact absurd h (by decide)

/-- The line of a counter shows a value, whatever the counter is called. -/
theorem isSample_counterLine (k : Key) (n : UInt64) :
    isSample (counterLine (k.written, n)) = true := by
  have hname : '#' ∉ k.written.name.toList := hash_notMem_writeName k.name
  rw [isSample, counterLine, Written.line]
  dsimp only
  simp only [String.toList_append]
  cases hchars : k.written.name.toList with
  | nil => split <;> simp
  | cons c cs =>
    have hc : c ≠ '#' := fun h => hname (by simp [hchars, h])
    simpa using hc

variable {α : Type} {kind : String} {lines : Written × α → List String}
  {metrics : List (Written × α)}

theorem filter_isSample_blocks (h : ∀ x ∈ metrics, ∀ line ∈ lines x, isSample line = true) :
    (blocks kind lines metrics).filter isSample =
      ((names metrics).flatMap fun name => metrics.filter (·.1.name = name)).flatMap lines := by
  rw [blocks, List.filter_flatMap, List.flatMap_assoc]
  refine List.flatMap_congr fun name _ => ?_
  have habout : (aboutLines kind name).filter isSample = [] :=
    List.filter_eq_nil_iff.2 fun line hline => by simp [isSample_of_mem_aboutLines hline]
  have hlines : ((metrics.filter (·.1.name = name)).flatMap lines).filter isSample =
      (metrics.filter (·.1.name = name)).flatMap lines := List.filter_eq_self.2 fun line hline => by
    obtain ⟨x, hx, hline⟩ := List.mem_flatMap.1 hline
    exact h x (List.mem_filter.1 hx).1 line hline
  have hempty : [""].filter isSample = [] := by decide
  rw [List.filter_append, List.filter_append, habout, hlines, hempty, List.append_nil,
    List.nil_append]

/-- Each metric stands under its name. -/
theorem flatMap_names_perm (h : metrics.Nodup) :
    ((names metrics).flatMap fun name => metrics.filter (·.1.name = name)).Perm metrics := by
  refine (List.perm_ext_iff_of_nodup (List.nodup_flatMap.2 ⟨fun _ _ => h.filter _, ?_⟩) h).2
    fun x => ?_
  · refine (nodup_eraseDups _).imp fun {a b} hne => ?_
    refine List.disjoint_left.2 fun x ha hb => hne ?_
    rw [← of_decide_eq_true (List.mem_filter.1 ha).2]
    exact of_decide_eq_true (List.mem_filter.1 hb).2
  · simp only [List.mem_flatMap, names, List.mem_eraseDups, List.mem_map, List.mem_filter,
      decide_eq_true_eq]
    exact ⟨fun ⟨_, _, hx, _⟩ => hx, fun hx => ⟨x.1.name, ⟨x, hx, rfl⟩, hx, rfl⟩⟩

namespace Exposition

/-- **A page without summaries** has one line with a value for each way of writing counters. -/
theorem filter_isSample_lines (h : e.summaries = []) :
    ((e.lines m).filter isSample).Perm ((e.values m).map counterLine) := by
  have hobserved : e.observed = [] := by rw [observed, h]; rfl
  have hsample : ∀ x ∈ e.values m, ∀ line ∈ [counterLine x], isSample line = true := by
    rintro ⟨w, n⟩ hx line hline
    obtain ⟨⟨k, _⟩, -, rfl, -⟩ := exists_of_mem_values hx
    rw [List.mem_singleton.1 hline]
    exact isSample_counterLine k n
  have hblocks : e.lines m = blocks "counter" (fun x => [counterLine x]) (e.values m) := by
    rw [lines, hobserved]
    exact List.append_nil _
  rw [hblocks, filter_isSample_blocks hsample, ← List.map_eq_flatMap]
  exact (flatMap_names_perm (.of_map Prod.fst (e.nodup_values m))).map counterLine

/-- **Counters that are all written alike** have one line between them, with the sum of one. -/
theorem exists_filter_isSample_lines {w : Written} (hsummaries : e.summaries = [])
    (hne : e.counters ≠ []) (h : ∀ y ∈ e.counters, y.1.written = w) :
    ∃ y ∈ e.counters, (e.lines m).filter isSample = [counterLine (w, y.2)] := by
  have hall : ∀ v ∈ (e.values m).map Prod.fst, v = w := by
    intro v hv
    obtain ⟨x, hx, rfl⟩ := List.mem_map.1 hv
    obtain ⟨y, hy, hwritten, -⟩ := exists_of_mem_values hx
    rw [← hwritten, h y hy]
  have hshown := List.eq_replicate_of_mem hall
  have hfew := e.nodup_values m
  rw [hshown, List.nodup_replicate, List.length_map] at hfew
  obtain ⟨⟨k, _⟩, hk⟩ := List.exists_mem_of_ne_nil _ hne
  obtain ⟨n, hn⟩ := exists_mem_values (m := m) hk
  rw [h _ hk] at hn
  obtain ⟨x, hx⟩ := List.length_eq_one_iff.1
    (Nat.le_antisymm hfew (List.length_pos_of_mem hn))
  obtain rfl : (w, n) = x := List.mem_singleton.1 (hx ▸ hn)
  obtain ⟨z, hz, -, rfl⟩ := exists_of_mem_values hn
  have hlines := filter_isSample_lines (m := m) hsummaries
  rw [hx] at hlines
  exact ⟨z, hz, List.perm_singleton.1 hlines⟩

end Exposition
end Metrics
end MailGateway
