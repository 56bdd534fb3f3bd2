/-
# Every page is well formed

`WellFormed` says what a reader of a page may rely on: each line on a series can be taken apart
in one way only, and gives the labels of a series that was counted, of a family that the page
describes in a HELP line and a TYPE line that stand there once.  Counters end in `_total` and no
other line on a series stands under them.

* `Tells` is what the lines of some families are: the remarks on each, once, and lines of their
  series.  It survives joining (`Tells.append`), and the lines on metrics of one kind are such
  (`exists_tells_blocks`);
* a family is described once, however many series it has (`Tells.describes`);
* what tells of families of which none stands twice is well formed (`Tells.wellFormed`), and so
  is the page of every recorder, at every moment (`Recorder.wellFormed_lines`).
-/

import MailGateway.Proofs.Metrics.Lines
import MailGateway.Proofs.Metrics.Values
import Mathlib.Data.Set.List

namespace MailGateway
namespace Metrics

/-! ### The lines on a family -/

/-- A line that describes a family, taken apart. -/
structure Remark where
  keyword : String
  name : String
  text : String
  deriving DecidableEq, Repr

namespace Remark

/-- The written form of a remark. -/
def line (r : Remark) : String := "# " ++ r.keyword ++ " " ++ r.name ++ " " ++ r.text

/-- Reads a line. -/
def read? (line : String) : Option Remark :=
  match line.toList with
  | '#' :: ' ' :: cs =>
    match cs.dropWhile (· ≠ ' ') with
    | _ :: named =>
      match named.dropWhile (· ≠ ' ') with
      | _ :: text =>
        some ⟨String.ofList (cs.takeWhile (· ≠ ' ')), String.ofList (named.takeWhile (· ≠ ' ')),
          String.ofList text⟩
      | [] => none
    | [] => none
  | _ => none

theorem read?_line {r : Remark} (hkeyword : ' ' ∉ r.keyword.toList)
    (hname : ' ' ∉ r.name.toList) : read? r.line = some r := by
  have hline : r.line.toList =
      '#' :: ' ' :: (r.keyword.toList ++ ' ' :: (r.name.toList ++ ' ' :: r.text.toList)) := by
    simp [line]
  simp only [read?, hline, dropWhile_front hkeyword, takeWhile_front hkeyword,
    dropWhile_front hname, takeWhile_front hname, String.ofList_toList]

end Remark

/-- The word for the kind of a family. -/
def Family.kind (f : Family) : String := if f.isSummary then "summary" else "counter"

/-- What the words on a family are. -/
def Family.helpRemark (f : Family) : Remark := ⟨"HELP", f.name, f.help⟩

/-- What the line on the kind of a family is. -/
def Family.typeRemark (f : Family) : Remark := ⟨"TYPE", f.name, f.kind⟩

/-- The remarks on a family. -/
def Family.remarks (f : Family) : List Remark := [f.helpRemark, f.typeRemark]

theorem Family.aboutLines_eq (f : Family) :
    aboutLines f.kind f.name = f.remarks.map Remark.line := by
  have hall : ∀ f ∈ all, aboutLines f.kind f.name = f.remarks.map Remark.line := by
    decide
  exact hall f f.mem_all

theorem Family.name_injective {f g : Family} (h : f.name = g.name) : f = g := by
  have hall : ∀ f ∈ all, ∀ g ∈ all, f.name = g.name → f = g := by decide
  exact hall f f.mem_all g g.mem_all h

theorem Family.space_notMem_name (f : Family) : ' ' ∉ f.name.toList :=
  Sample.notMem_of_isNameChar f.isNameChar_name (by decide)

/-- The words on a family are a single line. -/
theorem Family.newline_notMem_help (f : Family) : '\n' ∉ f.help.toList := by
  cases f <;> (rw [help, String.toList_ofList]; decide)

theorem Family.newline_notMem_kind (f : Family) : '\n' ∉ f.kind.toList := by
  unfold kind
  split <;> decide

/-- A remark on a family is a single line. -/
theorem Family.newline_notMem_line {f : Family} {r : Remark} (h : r ∈ f.remarks) :
    '\n' ∉ r.line.toList := by
  have hname : '\n' ∉ f.name.toList :=
    Sample.notMem_of_isNameChar f.isNameChar_name (by decide)
  simp only [remarks, List.mem_cons, List.not_mem_nil, or_false] at h
  rcases h with rfl | rfl
  · simp [Remark.line, helpRemark, hname, f.newline_notMem_help]
  · simp [Remark.line, typeRemark, hname, f.newline_notMem_kind]

/-- The remarks on a family are read back from their lines. -/
theorem Family.read?_line {f : Family} {r : Remark} (h : r ∈ f.remarks) :
    Remark.read? r.line = some r := by
  simp only [remarks, List.mem_cons, List.not_mem_nil, or_false] at h
  rcases h with rfl | rfl
  · exact Remark.read?_line (show ' ' ∉ "HELP".toList by decide) f.space_notMem_name
  · exact Remark.read?_line (show ' ' ∉ "TYPE".toList by decide) f.space_notMem_name

/-- The remarks of a page. -/
def remarks (page : List String) : List Remark := page.filterMap Remark.read?

/-- The remarks of a page with a keyword on a name. -/
def remarksOn (page : List String) (keyword name : String) : List Remark :=
  (remarks page).filter fun r => r.keyword = keyword ∧ r.name = name

variable {counted : List Series} {page rest : List String} {fs gs : List Family} {f : Family}

theorem Family.remarks_aboutLines (f : Family) :
    Metrics.remarks (aboutLines f.kind f.name) = f.remarks := by
  have hread : f.remarks.filterMap (Remark.read? ∘ Remark.line) = f.remarks.filterMap some :=
    List.filterMap_congr fun r hr => read?_line hr
  rw [aboutLines_eq, Metrics.remarks, List.filterMap_map, hread, List.filterMap_some]

/-- The line of a series is no remark. -/
theorem Sample.IsReadingOf.read?_eq_none {s : Sample} {line : String} (h : s.IsReadingOf line) :
    Remark.read? line = none := by
  have hchars : line.toList = s.chars := by rw [← h.text, Sample.text, String.toList_ofList]
  rw [Remark.read?, hchars, Sample.chars]
  cases hname : s.name.toList with
  | nil => rfl
  | cons c cs =>
    have hc : c ≠ '#' := by
      rintro rfl
      have hletter := h.readable.name '#' (hname ▸ List.mem_cons_self)
      exact absurd hletter (by decide)
    rw [List.cons_append]
    split
    · next heq => exact absurd (List.cons.inj heq).1 hc
    · rfl

/-- What a remark is looked up by. -/
def Remark.key (r : Remark) : String × String := (r.keyword, r.name)

theorem nodup_map_key {fs : List Family} (h : fs.Nodup) :
    ((fs.flatMap Family.remarks).map Remark.key).Nodup := by
  rw [List.map_flatMap, List.nodup_flatMap]
  refine ⟨fun f _ => ?_, h.imp fun {f g} hne => ?_⟩
  · simp [Family.remarks, Family.helpRemark, Family.typeRemark, Remark.key]
  · -- A key that two families share has the name of both.
    have hname : f.name ≠ g.name := fun heq => hne (Family.name_injective heq)
    simp [Function.onFun, List.disjoint_left, Family.remarks, Family.helpRemark,
      Family.typeRemark, Remark.key, hname]

/-- Where no key stands twice, a remark is the only one under its key. -/
theorem filter_key_eq {rs : List Remark} {r : Remark} (h : (rs.map Remark.key).Nodup)
    (hr : r ∈ rs) :
    (rs.filter fun t => t.keyword = r.keyword ∧ t.name = r.name) = [r] := by
  have hkey : ∀ t ∈ rs, decide (t.keyword = r.keyword ∧ t.name = r.name) = decide (t = r) := by
    refine fun t ht => decide_eq_decide.2 ⟨fun heq => ?_, fun heq => heq ▸ ⟨rfl, rfl⟩⟩
    exact List.inj_on_of_nodup_map h ht hr (Prod.ext heq.1 heq.2)
  rw [List.filter_congr hkey, List.filter_eq, List.count_eq_one_of_mem h.of_map hr]
  rfl

/-! ### Lines on families -/

theorem Family.mem_flatMap_remarks {r : Remark} :
    r ∈ fs.flatMap Family.remarks ↔ ∃ f ∈ fs, r = f.helpRemark ∨ r = f.typeRemark := by
  simp [Family.remarks]

/-- The lines of some families: the remarks on each, and lines of their series that were
counted. -/
structure Tells (counted : List Series) (page : List String) (fs : List Family) : Prop where
  remarks : Metrics.remarks page = fs.flatMap Family.remarks
  lines : ∀ line ∈ page, line = "" ∨ (∃ f ∈ fs, ∃ r ∈ f.remarks, line = r.line) ∨
    ∃ s ∈ counted, s.family ∈ fs ∧ s.Writes line

theorem Tells.append (h : Tells counted page fs) (hrest : Tells counted rest gs) :
    Tells counted (page ++ rest) (fs ++ gs) where
  remarks := by
    rw [Metrics.remarks, List.filterMap_append, List.flatMap_append, ← h.remarks, ← hrest.remarks]
    rfl
  lines line hline := by
    rcases List.mem_append.1 hline with hline | hline
    · refine (h.lines line hline).imp_right (.imp ?_ ?_)
      · exact fun ⟨f, hf, hr⟩ => ⟨f, List.mem_append_left _ hf, hr⟩
      · exact fun ⟨s, hs, hf, hw⟩ => ⟨s, hs, List.mem_append_left _ hf, hw⟩
    · refine (hrest.lines line hline).imp_right (.imp ?_ ?_)
      · exact fun ⟨f, hf, hr⟩ => ⟨f, List.mem_append_right _ hf, hr⟩
      · exact fun ⟨s, hs, hf, hw⟩ => ⟨s, hs, List.mem_append_right _ hf, hw⟩

theorem Tells.flatMap {lines : Family → List String}
    (h : ∀ f ∈ fs, Tells counted (lines f) [f]) : Tells counted (fs.flatMap lines) fs := by
  induction fs with
  | nil => exact ⟨rfl, nofun⟩
  | cons f fs ih =>
    exact (h f List.mem_cons_self).append (ih fun g hg => h g (List.mem_cons_of_mem _ hg))

/-- The lines on one family. -/
theorem tells_family {lines : List String}
    (h : ∀ line ∈ lines, ∃ s ∈ counted, s.family = f ∧ s.Writes line) :
    Tells counted (aboutLines f.kind f.name ++ lines ++ [""]) [f] where
  remarks := by
    have hlines : Metrics.remarks lines = [] := List.filterMap_eq_nil_iff.2 fun line hline => by
      obtain ⟨s, -, -, sample, hread, -⟩ := h line hline
      exact hread.read?_eq_none
    have hempty : Metrics.remarks [""] = [] := by decide
    rw [Metrics.remarks, List.filterMap_append, List.filterMap_append]
    change Metrics.remarks _ ++ Metrics.remarks _ ++ Metrics.remarks _ = _
    rw [f.remarks_aboutLines, hlines, hempty]
    simp
  lines line hline := by
    rcases List.mem_append.1 hline with hline | hline
    · rcases List.mem_append.1 hline with hline | hline
      · rw [f.aboutLines_eq] at hline
        obtain ⟨r, hr, rfl⟩ := List.mem_map.1 hline
        exact .inr (.inl ⟨f, List.mem_singleton_self f, r, hr, rfl⟩)
      · obtain ⟨s, hcounted, rfl, hs⟩ := h line hline
        exact .inr (.inr ⟨s, hcounted, List.mem_singleton_self _, hs⟩)
    · exact .inl (List.mem_singleton.1 hline)

/-- **The lines on metrics of one kind**, all of which are series. -/
theorem exists_tells_blocks {α : Type} {kind : String} {lines : Written × α → List String}
    {metrics : List (Written × α)}
    (h : ∀ x ∈ metrics, ∃ s ∈ counted, s.family.kind = kind ∧ x.1 = s.key.written ∧
      ∀ line ∈ lines x, s.Writes line) :
    ∃ fs : List Family, fs.Nodup ∧ (∀ f ∈ fs, f.kind = kind) ∧
      Tells counted (blocks kind lines metrics) fs := by
  have hname : ∀ s : Series, s.key.written.name = s.family.name := fun s => by rw [s.written_key]
  have hrange : names metrics ∈ Set.range (List.map Family.name) := by
    rw [Set.range_list_map]
    intro name hname'
    obtain ⟨x, hx, rfl⟩ := List.mem_map.1 (List.mem_eraseDups.1 hname')
    obtain ⟨s, -, -, hs, -⟩ := h x hx
    exact ⟨s.family, by rw [hs, hname]⟩
  obtain ⟨fs, hfs⟩ := hrange
  have hkind : ∀ f ∈ fs, f.kind = kind := by
    intro f hf
    have hmem : f.name ∈ names metrics := hfs ▸ List.mem_map_of_mem hf
    obtain ⟨x, hx, hxf⟩ := List.mem_map.1 (List.mem_eraseDups.1 hmem)
    obtain ⟨s, -, hs, hwritten, -⟩ := h x hx
    rw [hwritten, hname] at hxf
    rwa [← Family.name_injective hxf]
  refine ⟨fs, .of_map Family.name (hfs ▸ nodup_eraseDups _), hkind, ?_⟩
  rw [blocks, ← hfs, List.flatMap_map]
  refine Tells.flatMap fun f hf => ?_
  rw [← hkind f hf]
  refine tells_family fun line hline => ?_
  obtain ⟨x, hx, hline⟩ := List.mem_flatMap.1 hline
  obtain ⟨hx, hxf⟩ := List.mem_filter.1 hx
  obtain ⟨s, hcounted, -, hwritten, hs⟩ := h x hx
  refine ⟨s, hcounted, Family.name_injective ?_, hs line hline⟩
  rw [← hname, ← hwritten]
  exact of_decide_eq_true hxf

/-! ### The whole page -/

/-- A page describes a family in one line of help and one line on its kind. -/
structure Describes (page : List String) (f : Family) : Prop where
  help : remarksOn page "HELP" f.name = [f.helpRemark]
  type : remarksOn page "TYPE" f.name = [f.typeRemark]

/-- What a reader of a page of the series that were counted relies on.

* `lines`: a line that is not empty is a remark on a family, with its words or with its kind, or
  it has one reading, a sample of a family that the page describes; the labels of a series that
  was counted are its labels, or the first of them, and no label stands twice;
* `counters`: a counter's name ends in `_total`, and no sample has a longer name that begins
  with it. -/
structure WellFormed (counted : List Series) (page : List String) : Prop where
  lines : ∀ line ∈ page, line = "" ∨
    (∃ f : Family, ∃ r ∈ f.remarks, Remark.read? line = some r ∧ r.line = line ∧
      '\n' ∉ line.toList) ∨
    ∃ s ∈ counted, ∃ sample : Sample, sample.IsReadingOf line ∧ s.family.Has sample ∧
      s.shownLabels <+: sample.labels ∧ (sample.labels.map Prod.fst).Nodup ∧
      Describes page s.family
  counters : ∀ r ∈ remarks page, r.keyword = "TYPE" → r.text = "counter" →
    "_total".toList <:+ r.name.toList ∧
    ∀ line ∈ page, ∀ s : Sample, s.IsReadingOf line →
      ∀ suffix : String, s.name = r.name ++ suffix → suffix = ""

/-- **A family is described once**, however many series it has. -/
theorem Tells.describes (h : Tells counted page fs) (hfs : fs.Nodup) (hf : f ∈ fs) :
    Describes page f := by
  have hone {r : Remark} (hr : r ∈ f.remarks) : remarksOn page r.keyword r.name = [r] := by
    rw [remarksOn, h.remarks]
    exact filter_key_eq (nodup_map_key hfs) (List.mem_flatMap.2 ⟨f, hf, hr⟩)
  exact ⟨hone List.mem_cons_self, hone (List.mem_cons_of_mem _ List.mem_cons_self)⟩

theorem Family.Has.nodup_labels {s : Sample} (h : f.Has s) : (s.labels.map Prod.fst).Nodup := by
  have hnames := (List.nodup_append.1 f.nodup_labelNames).1
  cases h with
  | counter _ _ labels _ => rwa [labels]
  | count _ _ labels _ => rwa [labels]
  | sum _ _ labels _ => rwa [labels]
  | quantile _ _ labels _ =>
    rw [labels]
    exact f.nodup_labelNames

/-- The names of the samples of a family. -/
def Family.sampleNames (f : Family) : List String :=
  if f.isSummary then [f.name ++ "_count", f.name ++ "_sum", f.name] else [f.name]

theorem Family.Has.name_mem {s : Sample} (h : f.Has s) : s.name ∈ f.sampleNames := by
  cases h with
  | counter kind name _ _ => simp [sampleNames, kind, name]
  | count kind name _ _ => simp [sampleNames, kind, name]
  | sum kind name _ _ => simp [sampleNames, kind, name]
  | quantile kind name _ _ => simp [sampleNames, kind, name]

/-- A counter's name begins the lines of its own family only, and is all of their name. -/
theorem Family.Has.eq_empty {g : Family} {s : Sample} (h : g.Has s) (hf : f.isSummary = false)
    {suffix : String} (hname : s.name = f.name ++ suffix) : suffix = "" := by
  have hprefix : f.name.toList <+: s.name.toList :=
    ⟨suffix.toList, by rw [hname, String.toList_append]⟩
  have hall : ∀ f ∈ all, f.isSummary = false → ∀ g ∈ all, ∀ name ∈ g.sampleNames,
      f.name.toList <+: name.toList → name = f.name := by
    decide
  rw [hall f f.mem_all hf g g.mem_all _ h.name_mem hprefix] at hname
  apply String.toList_inj.1
  simpa using congrArg String.toList hname

theorem Family.total_suffix (hf : f.isSummary = false) : "_total".toList <:+ f.name.toList := by
  have hall : ∀ f ∈ all, f.isSummary = false → "_total".toList <:+ f.name.toList := by
    decide
  exact hall f f.mem_all hf

theorem Family.isSummary_of_kind (h : f.kind = "counter") : f.isSummary = false := by
  cases f <;> first | rfl | exact absurd h (by decide)

theorem Tells.exists_has (h : Tells counted page fs) {line : String} (hline : line ∈ page)
    {s : Sample} (hs : s.IsReadingOf line) : ∃ f ∈ fs, f.Has s := by
  rcases h.lines line hline with
    rfl | ⟨f, -, r, hr, rfl⟩ | ⟨t, -, hfamily, sample, hread, hhas, -⟩
  · have hchars : s.chars = [] := by
      have htext := congrArg String.toList hs.text
      rwa [Sample.text, String.toList_ofList] at htext
    exact absurd hchars (by simp [Sample.chars])
  · have hnone := hs.read?_eq_none
    rw [Family.read?_line hr] at hnone
    cases hnone
  · obtain rfl := hread.unique s hs.readable hs.text
    exact ⟨_, hfamily, hhas⟩

/-- **What tells of families** of which none stands twice is well formed. -/
theorem Tells.wellFormed (h : Tells counted page fs) (hfs : fs.Nodup) :
    WellFormed counted page where
  lines line hline := by
    rcases h.lines line hline with
      rfl | ⟨f, -, r, hr, rfl⟩ | ⟨s, hs, hfamily, sample, hread, hhas, hlabels⟩
    · exact .inl rfl
    · exact .inr (.inl ⟨f, r, hr, Family.read?_line hr, rfl, Family.newline_notMem_line hr⟩)
    · exact .inr (.inr ⟨s, hs, sample, hread, hhas, hlabels, hhas.nodup_labels,
        h.describes hfs hfamily⟩)
  counters r hr hkeyword htext := by
    rw [h.remarks] at hr
    obtain ⟨f, -, rfl | rfl⟩ := Family.mem_flatMap_remarks.1 hr
    · exact absurd hkeyword (show "HELP" ≠ "TYPE" by decide)
    · have hf : f.isSummary = false := Family.isSummary_of_kind htext
      refine ⟨Family.total_suffix hf, fun line hline s hs suffix hname => ?_⟩
      obtain ⟨g, -, hhas⟩ := h.exists_has hline hs
      exact hhas.eq_empty hf hname

/-! ### The page of a recorder -/

theorem Recorder.additions_registry (ρ : Recorder) :
    ρ.registry.additions =
      (ρ.increments.filter fun s => !s.family.isSummary).map fun s => (s.key, 1) := by
  rw [registry]
  induction ρ.increments with
  | nil => rfl
  | cons s ss ih =>
    rw [List.foldr_cons, Registry.count]
    cases hs : s.family.isSummary with
    | true => simpa [hs, Registry.observe] using ih
    | false => simpa [hs, Registry.add] using ih

theorem Recorder.observations_registry (ρ : Recorder) :
    ρ.registry.observations = (ρ.increments.filter fun s => s.family.isSummary).map Series.key := by
  rw [registry]
  induction ρ.increments with
  | nil => rfl
  | cons s ss ih =>
    rw [List.foldr_cons, Registry.count]
    cases hs : s.family.isSummary with
    | true => simpa [hs, Registry.observe] using ih
    | false => simpa [hs, Registry.add] using ih

/-- A counter that a recorder shows is a series that was counted. -/
theorem Recorder.exists_of_mem_values {ρ : Recorder} {m : Moment} {x : Written × UInt64}
    (h : x ∈ ρ.exposition.values m) :
    ∃ s ∈ ρ.increments, s.family.isSummary = false ∧ x.1 = s.key.written := by
  obtain ⟨⟨k, n⟩, hy, hwritten, -⟩ := Exposition.exists_of_mem_values h
  obtain ⟨hk, -⟩ := Registry.mem_counters.1 hy
  rw [additions_registry, List.map_map] at hk
  obtain ⟨s, hs, rfl⟩ := List.mem_map.1 hk
  obtain ⟨hcounted, hkind⟩ := List.mem_filter.1 hs
  exact ⟨s, hcounted, by simpa using hkind, hwritten.symm⟩

/-- A summary that a recorder shows is a series that was counted. -/
theorem Recorder.exists_of_mem_observed {ρ : Recorder} {x : Written × Nat}
    (h : x ∈ ρ.exposition.observed) :
    ∃ s ∈ ρ.increments, s.family.isSummary = true ∧ x.1 = s.key.written := by
  obtain ⟨y, hy, hwritten⟩ := Exposition.exists_of_mem_observed h
  obtain ⟨k, hk, rfl⟩ := List.mem_map.1 hy
  rw [List.mem_eraseDups, observations_registry] at hk
  obtain ⟨s, hs, rfl⟩ := List.mem_map.1 hk
  obtain ⟨hcounted, hkind⟩ := List.mem_filter.1 hs
  exact ⟨s, hcounted, hkind, hwritten.symm⟩

/-- **The page of every recorder is well formed**, at every moment. -/
theorem Recorder.wellFormed_lines (ρ : Recorder) (m : Moment) :
    WellFormed ρ.increments (ρ.exposition.lines m) := by
  have hvalues : ∀ x ∈ ρ.exposition.values m, ∃ s ∈ ρ.increments, s.family.kind = "counter" ∧
      x.1 = s.key.written ∧ ∀ line ∈ [counterLine x], s.Writes line := by
    rintro ⟨w, n⟩ hx
    obtain ⟨s, hcounted, hs, rfl⟩ := exists_of_mem_values hx
    refine ⟨s, hcounted, by rw [Family.kind, hs]; rfl, rfl, fun line hline => ?_⟩
    rw [List.mem_singleton.1 hline]
    exact Series.writes_counterLine hs n
  have hobserved : ∀ x ∈ ρ.exposition.observed, ∃ s ∈ ρ.increments, s.family.kind = "summary" ∧
      x.1 = s.key.written ∧ ∀ line ∈ summaryLines m x, s.Writes line := by
    rintro ⟨w, n⟩ hx
    obtain ⟨s, hcounted, hs, rfl⟩ := exists_of_mem_observed hx
    exact ⟨s, hcounted, by rw [Family.kind, hs]; rfl, rfl,
      fun line hline => Series.writes_of_mem_summaryLines hs m n hline⟩
  obtain ⟨counters, hcounters, hcounter, hfirst⟩ := exists_tells_blocks hvalues
  obtain ⟨summaries, hsummaries, hsummary, hsecond⟩ := exists_tells_blocks hobserved
  refine (hfirst.append hsecond).wellFormed ?_
  refine List.nodup_append.2 ⟨hcounters, hsummaries, fun f hf g hg heq => ?_⟩
  have hkind := hcounter f hf
  rw [heq, hsummary g hg] at hkind
  exact absurd hkind (by decide)

end Metrics
end MailGateway
