/-
# The lines of a series

The page writes a series under its own name and its own labels (`Series.written_key`), as none
of the five families has a name that would have to be changed.  Whatever the values of its
labels are, each of its lines is the written form of a sample (`Series.line_eq_text`), and the
sample is one of these (`Family.Has`):

| of | name | last label | value |
| --- | --- | --- | --- |
| counter | that of the family | its own | whole number |
| summary | the same and `_count` | its own | whole number |
| summary | the same and `_sum` | its own | number |
| summary | that of the family | `quantile` | number |

The escaping of a page takes some pairs in a value for escaped already, so what a reader
finds is not always the value that was counted: `shown` says what it is instead.
-/

import MailGateway.Proofs.Binary64.Texts
import MailGateway.Proofs.Metrics.Samples

namespace MailGateway
namespace Metrics

/-! ### Labels -/

/-- What a reader finds of a label value; `held` says that a backslash was read and not yet
shown.  A pair of backslashes is shown as one, and none is shown before a quote. -/
def shownFrom (held : Bool) : List Char → List Char
  | [] => if held then ['\\'] else []
  | '\n' :: cs => '\n' :: shownFrom held cs
  | '"' :: cs => '"' :: shownFrom false cs
  | '\\' :: cs => if held then '\\' :: shownFrom false cs else shownFrom true cs
  | c :: cs => if held then '\\' :: c :: shownFrom false cs else c :: shownFrom false cs

/-- What a reader finds of a label value. -/
def shown (value : String) : String := String.ofList (shownFrom false value.toList)

/-- The escaped form of a value is the written form of what is shown of it. -/
theorem escapeLabelFrom_eq (held : Bool) (cs : List Char) :
    escapeLabelFrom held cs = (shownFrom held cs).flatMap Sample.escape := by
  fun_induction escapeLabelFrom held cs <;> simp_all [shownFrom, Sample.escape]

theorem toList_labelText {label : String × String}
    (hname : writeName isLabelLetter label.1 = label.1) :
    (labelText label).toList = Sample.labelChars (label.1, shown label.2) := by
  simp [labelText, hname, escapeLabel, escapeLabelFrom_eq, Sample.labelChars, shown]

/-! ### Names -/

/-- The names of the labels of a family, in order. -/
def Family.labelNames : Family → List String
  | .requests | .requestSeconds => ["method", "path", "status"]
  | .started | .handlingSeconds => ["grpc_type", "grpc_service", "grpc_method"]
  | .handled => ["grpc_type", "grpc_service", "grpc_method", "grpc_code"]

theorem Series.map_fst_labels (s : Series) : s.labels.map Prod.fst = s.family.labelNames := by
  cases s <;> rfl

theorem Family.nodup_labelNames (f : Family) : (f.labelNames ++ ["quantile"]).Nodup := by
  cases f <;> decide

theorem Family.writeName_name (f : Family) : writeName isMetricLetter f.name = f.name := by
  have hall : ∀ f ∈ all, writeName isMetricLetter f.name = f.name := by decide
  exact hall f f.mem_all

theorem writeName_quantile : writeName isLabelLetter "quantile" = "quantile" := by decide

theorem Family.writeName_labelNames (f : Family) :
    ∀ name ∈ f.labelNames, writeName isLabelLetter name = name := by
  have hall : ∀ f ∈ all, ∀ name ∈ f.labelNames, writeName isLabelLetter name = name := by
    decide
  exact hall f f.mem_all

theorem Series.writeName_labels (s : Series) :
    ∀ label ∈ s.labels, writeName isLabelLetter label.1 = label.1 := fun _ hlabel =>
  s.family.writeName_labelNames _ (s.map_fst_labels ▸ List.mem_map_of_mem hlabel)

/-- No label of a series has the name of another. -/
theorem Series.distinctLabels_labels (s : Series) : distinctLabels s.labels = s.labels := by
  cases s <;> rfl

/-- **A series is written** under its own name and labels. -/
theorem Series.written_key (s : Series) :
    s.key.written = ⟨s.family.name, s.labels.map labelText⟩ := by
  rw [Key.written, Series.key, s.family.writeName_name, s.distinctLabels_labels]

theorem Family.isNameChar_name (f : Family) :
    ∀ c ∈ f.name.toList, Sample.isNameChar c = true := by
  have hall : ∀ f ∈ all, f.name.toList.all Sample.isNameChar = true := by decide
  exact List.all_eq_true.1 (hall f f.mem_all)

theorem Family.isNameChar_labelNames (f : Family) :
    ∀ name ∈ f.labelNames ++ ["quantile"], ∀ c ∈ name.toList, Sample.isNameChar c = true := by
  have hall : ∀ f ∈ all, ∀ name ∈ f.labelNames ++ ["quantile"],
      name.toList.all Sample.isNameChar = true := by
    decide
  exact fun name hname => List.all_eq_true.1 (hall f f.mem_all name hname)

/-! ### Lines -/

/-- What a reader finds on a line of a series. -/
def Series.sample (s : Series) (ending : String) (more : List (String × String))
    (value : String) : Sample :=
  ⟨s.family.name ++ ending, (s.labels ++ more).map fun label => (label.1, shown label.2), value⟩

/-- The labels of a series as a reader finds them. -/
def Series.shownLabels (s : Series) : List (String × String) :=
  s.labels.map fun label => (label.1, shown label.2)

variable {s : Series} {ending value : String} {more : List (String × String)}

theorem Series.shownLabels_prefix : s.shownLabels <+: (s.sample ending more value).labels :=
  ⟨_, List.map_append.symm⟩

/-- **A line of a series** is the written form of a sample. -/
theorem Series.line_eq_text
    (hmore : ∀ label ∈ more, writeName isLabelLetter label.1 = label.1) :
    s.key.written.line ending (more.map labelText) value = (s.sample ending more value).text := by
  have hlabels : ((s.labels ++ more).map labelText).map String.toList =
      (s.sample ending more value).labels.map Sample.labelChars := by
    rw [Series.sample, List.map_map, List.map_map]
    refine List.map_congr_left fun label hlabel => toList_labelText ?_
    exact (List.mem_append.1 hlabel).elim (s.writeName_labels label) (hmore label)
  have hnonempty : ((s.labels ++ more).map labelText).isEmpty = false := by
    cases s <;> rfl
  apply String.toList_inj.1
  simp only [Written.line, Series.written_key, ← List.map_append, hnonempty, Bool.false_eq_true,
    if_false, String.toList_append, String.toList_intercalate, hlabels, Sample.text,
    String.toList_ofList, Sample.chars]
  simp [Series.sample]

/-- The samples that stand under a family. -/
inductive Family.Has (f : Family) (s : Sample) : Prop where
  | counter (kind : f.isSummary = false) (name : s.name = f.name)
    (labels : s.labels.map Prod.fst = f.labelNames) (value : ∃ n : Nat, s.value = toString n)
  | count (kind : f.isSummary = true) (name : s.name = f.name ++ "_count")
    (labels : s.labels.map Prod.fst = f.labelNames) (value : ∃ n : Nat, s.value = toString n)
  | sum (kind : f.isSummary = true) (name : s.name = f.name ++ "_sum")
    (labels : s.labels.map Prod.fst = f.labelNames)
    (value : ∃ x, Binary64.ofNumeral? s.value = some x)
  | quantile (kind : f.isSummary = true) (name : s.name = f.name)
    (labels : s.labels.map Prod.fst = f.labelNames ++ ["quantile"])
    (value : ∃ x, Binary64.ofNumeral? s.value = some x)

/-- What is said of the line of a series: it can be taken apart in one way only, and gives a
sample of the family, with the labels of the series. -/
def Series.Writes (s : Series) (line : String) : Prop :=
  ∃ sample : Sample, sample.IsReadingOf line ∧ s.family.Has sample ∧ s.shownLabels <+: sample.labels

theorem Series.map_fst_sample :
    (s.sample ending more value).labels.map Prod.fst =
      s.family.labelNames ++ more.map Prod.fst := by
  rw [Series.sample, List.map_map, ← s.map_fst_labels, ← List.map_append]
  rfl

theorem Series.isReadingOf_line (hending : ending.toList.all Sample.isNameChar = true)
    (hmore : ∀ label ∈ more, label.1 = "quantile")
    (hvalue : ∀ c ∈ value.toList, c.isWhitespace = false) :
    (s.sample ending more value).IsReadingOf
      (s.key.written.line ending (more.map labelText) value) := by
  rw [Series.line_eq_text fun label hlabel => hmore label hlabel ▸ writeName_quantile]
  refine Sample.Readable.isReadingOf_text ⟨?name, ?labels, ?labelNames, hvalue⟩
  case name =>
    rw [Series.sample, String.toList_append]
    exact List.forall_mem_append.2 ⟨s.family.isNameChar_name, List.all_eq_true.1 hending⟩
  case labels => cases s <;> exact List.cons_ne_nil _ _
  case labelNames =>
    intro label hlabel
    refine s.family.isNameChar_labelNames _ ?_
    have hname := List.mem_map_of_mem (f := Prod.fst) hlabel
    rw [Series.map_fst_sample] at hname
    refine List.mem_append.2 ((List.mem_append.1 hname).imp_right fun hmem => ?_)
    obtain ⟨label, hlabel, heq⟩ := List.mem_map.1 hmem
    rw [← heq, hmore label hlabel]
    exact List.mem_singleton_self _

theorem isWhitespace_of_mem_toString (n : Nat) :
    ∀ c ∈ (toString n).toList, c.isWhitespace = false :=
  (Binary64.isPositional_toString n).isWhitespace

theorem Series.isReadingOf_counterLine (s : Series) (n : UInt64) :
    (s.sample "" [] (toString n)).IsReadingOf (counterLine (s.key.written, n)) :=
  Series.isReadingOf_line rfl nofun (isWhitespace_of_mem_toString n.toNat)

theorem Series.isReadingOf_sumLine (s : Series) (x : Binary64) :
    (s.sample "_sum" [] (seconds x)).IsReadingOf (s.key.written.line "_sum" [] (seconds x)) :=
  Series.isReadingOf_line (by decide) nofun (Binary64.isWhitespace_of_mem_text x)

theorem Series.isReadingOf_quantileLine (s : Series) (m : Moment) (q : String) :
    (s.sample "" [("quantile", q)] (seconds (m.quantile s.key.written q))).IsReadingOf
      (quantileLine m s.key.written q) :=
  Series.isReadingOf_line rfl (by simp) (Binary64.isWhitespace_of_mem_text _)

theorem Series.writes_counterLine (hs : s.family.isSummary = false) (n : UInt64) :
    s.Writes (counterLine (s.key.written, n)) := by
  refine ⟨_, s.isReadingOf_counterLine n, .counter hs ?_ ?_ ⟨n.toNat, rfl⟩,
    Series.shownLabels_prefix⟩
  · exact String.append_empty
  · exact Series.map_fst_sample.trans (List.append_nil _)

theorem Series.writes_countLine (hs : s.family.isSummary = true) (n : Nat) :
    s.Writes (countLine (s.key.written, n)) := by
  refine ⟨s.sample "_count" [] (toString n), ?_, .count hs rfl ?_ ⟨n, rfl⟩,
    Series.shownLabels_prefix⟩
  · exact Series.isReadingOf_line (by decide) nofun (isWhitespace_of_mem_toString n)
  · exact Series.map_fst_sample.trans (List.append_nil _)

/-- **The lines of a summary** are lines of its series. -/
theorem Series.writes_of_mem_summaryLines (hs : s.family.isSummary = true) (m : Moment) (n : Nat)
    {line : String} (h : line ∈ summaryLines m (s.key.written, n)) : s.Writes line := by
  have hnumber (x : Binary64) : ∃ y, Binary64.ofNumeral? (seconds x) = some y :=
    Binary64.exists_ofNumeral?_text x
  rcases List.mem_append.1 h with h | h
  · obtain ⟨q, -, rfl⟩ := List.mem_map.1 h
    exact ⟨_, s.isReadingOf_quantileLine m q,
      .quantile hs String.append_empty Series.map_fst_sample (hnumber _),
      Series.shownLabels_prefix⟩
  · rcases List.mem_cons.1 h with rfl | h
    · exact ⟨_, s.isReadingOf_sumLine _,
        .sum hs rfl (Series.map_fst_sample.trans (List.append_nil _)) (hnumber _),
        Series.shownLabels_prefix⟩
    · obtain rfl := List.mem_singleton.1 h
      exact Series.writes_countLine hs n

end Metrics
end MailGateway
