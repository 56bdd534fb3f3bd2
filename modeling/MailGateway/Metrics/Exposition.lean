/-
# The exposition format

The metrics page: for each name two lines on it, the lines of its series, and an empty line.

| line | of |
| --- | --- |
| `# HELP name words` | a name that is described |
| `# TYPE name kind` | every name |
| `name{label="value",…} sum` | a counter |
| `name{label="value",…,quantile="0.5"} seconds` | a summary, for each of the `quantiles` |
| `name_sum{label="value",…} seconds` | a summary |
| `name_count{label="value",…} count` | a summary |

Names are written with `_` for whatever they may not hold.  Label values are escaped so that a
reader finds their end: a quote gets a backslash, a line feed becomes `\n`, and every backslash
becomes a pair (`escapeLabel`); a pair of backslashes is taken to be escaped already, and so is
a quote behind a backslash.  Hence two metrics may be written alike (`Key.written`).  They share
their lines: of counters the one that is visited last is shown, and summaries are taken together.

Counts do not tell everything about a page, and what they leave open is a `Moment`.
-/

import MailGateway.Binary64.Shortest
import MailGateway.Metrics.Registry

namespace MailGateway
namespace Metrics

/-! ### How a metric is written -/

/-- Escapes a label value; `held` says that a backslash was read and not yet written. -/
def escapeLabelFrom (held : Bool) : List Char → List Char
  | [] => if held then ['\\', '\\'] else []
  | '\n' :: cs => '\\' :: 'n' :: escapeLabelFrom held cs
  | '"' :: cs => '\\' :: '"' :: escapeLabelFrom false cs
  | '\\' :: cs => if held then '\\' :: '\\' :: escapeLabelFrom false cs else escapeLabelFrom true cs
  | c :: cs =>
    if held then '\\' :: '\\' :: c :: escapeLabelFrom false cs else c :: escapeLabelFrom false cs

/-- The escaped form of a label value. -/
def escapeLabel (s : String) : String := String.ofList (escapeLabelFrom false s.toList)

/-- A name with `_` for what it may not hold.  Its first character may not be a digit. -/
def writeName (isLetter : Char → Bool) (name : String) : String :=
  String.ofList <| match name.toList with
    | [] => []
    | c :: cs =>
      (if isLetter c then c else '_') ::
        cs.map fun c => if isLetter c || c.isDigit then c else '_'

/-- A letter of a label's name. -/
def isLabelLetter (c : Char) : Bool := c.isAlpha || c = '_'

/-- A letter of a metric's name. -/
def isMetricLetter (c : Char) : Bool := isLabelLetter c || c = ':'

/-- One label. -/
def labelText (label : String × String) : String :=
  writeName isLabelLetter label.1 ++ "=\"" ++ escapeLabel label.2 ++ "\""

/-- Labels of which none has the name of another: a later value takes the place of an earlier
one. -/
def distinctLabels (labels : List (String × String)) : List (String × String) :=
  (labels.map (·.1)).eraseDups.map fun name => (name, (labels.reverse.lookup name).getD "")

/-- A metric as the page writes it. -/
structure Written where
  name : String
  labels : List String
  deriving DecidableEq, Repr, Inhabited

/-- How a metric is written. -/
def Key.written (k : Key) : Written :=
  ⟨writeName isMetricLetter k.name, (distinctLabels k.labels).map labelText⟩

/-- A line on a metric: its name with an ending, its labels and perhaps one more, and a
value. -/
def Written.line (w : Written) (ending : String) (more : List String) (value : String) : String :=
  let labels := w.labels ++ more
  let braced := if labels.isEmpty then "" else "\x7b" ++ ",".intercalate labels ++ "\x7d"
  w.name ++ ending ++ braced ++ " " ++ value

/-! ### What is on a page -/

/-- What a page shows: counters with their sums, and summaries with the number of their
observations. -/
structure Exposition where
  counters : List (Key × UInt64)
  summaries : List (Key × Nat)
  deriving DecidableEq, Repr, Inhabited

/-- The page that shows a registry. -/
def Registry.exposition (g : Registry) : Exposition := ⟨g.counters, g.summaries⟩

/-- The page that shows a recorder. -/
def Recorder.exposition (r : Recorder) : Exposition := r.registry.exposition

/-- What the counts leave open of a page: the order in which the counters are visited, from the
last one to the first, and what the clock has measured of a summary. -/
structure Moment where
  visited : List (Key × UInt64) → List (Key × UInt64)
  visited_perm : ∀ counters, (visited counters).Perm counters
  sum : Written → Binary64
  quantile : Written → String → Binary64

instance : Inhabited Moment := ⟨id, fun _ => .refl _, fun _ => .zero false, fun _ _ => .zero false⟩

namespace Exposition

/-- The counters as they are written, with the sum that is shown. -/
def values (e : Exposition) (m : Moment) : List (Written × UInt64) :=
  let visited := (m.visited e.counters).map fun x => (x.1.written, x.2)
  (visited.map (·.1)).eraseDups.map fun w => (w, (visited.lookup w).getD 0)

/-- The summaries as they are written, with the number of observations. -/
def observed (e : Exposition) : List (Written × Nat) :=
  (e.summaries.map (·.1.written)).eraseDups.map fun w =>
    (w, ((e.summaries.filter fun x => x.1.written = w).map (·.2)).sum)

end Exposition

/-! ### The lines of a page -/

/-- The quantiles that are shown of a summary. -/
def quantiles : List String := ["0", "0.5", "0.9", "0.95", "0.99", "0.999", "1"]

/-- The line of a counter. -/
def counterLine (x : Written × UInt64) : String := x.1.line "" [] (toString x.2)

/-- The line that tells how often a summary was observed. -/
def countLine (x : Written × Nat) : String := x.1.line "_count" [] (toString x.2)

/-- A time in seconds. -/
def seconds (x : Binary64) : String := x.text .plain

/-- The line of a quantile. -/
def quantileLine (m : Moment) (w : Written) (q : String) : String :=
  w.line "" [labelText ("quantile", q)] (seconds (m.quantile w q))

/-- The lines of a summary. -/
def summaryLines (m : Moment) (x : Written × Nat) : List String :=
  quantiles.map (quantileLine m x.1) ++ [x.1.line "_sum" [] (seconds (m.sum x.1)), countLine x]

/-- The line that describes a name, if one does. -/
def helpLine? (name : String) : Option String :=
  (Family.all.find? (·.name = name)).map fun f => s!"# HELP {name} {f.help}"

/-- The lines on a name. -/
def aboutLines (kind name : String) : List String :=
  (helpLine? name).toList ++ [s!"# TYPE {name} {kind}"]

/-- The names of metrics, each once. -/
def names {α : Type} (metrics : List (Written × α)) : List String :=
  (metrics.map (·.1.name)).eraseDups

/-- The lines on metrics of one kind. -/
def blocks {α : Type} (kind : String) (lines : Written × α → List String)
    (metrics : List (Written × α)) : List String :=
  (names metrics).flatMap fun name =>
    aboutLines kind name ++ (metrics.filter (·.1.name = name)).flatMap lines ++ [""]

namespace Exposition

/-- The lines of a page. -/
def lines (e : Exposition) (m : Moment) : List String :=
  blocks "counter" (fun x => [counterLine x]) (e.values m) ++
    blocks "summary" (summaryLines m) e.observed

/-- The lines on names, in alphabetic order. -/
def about (e : Exposition) : List String :=
  let counters := (names (e.values default)).flatMap (aboutLines "counter")
  let summaries := (names e.observed).flatMap (aboutLines "summary")
  (counters ++ summaries).mergeSort fun a b => decide (a ≤ b)

/-- The lines with what was counted, in alphabetic order. -/
def series (e : Exposition) : List String :=
  ((e.values default).map counterLine ++ e.observed.map countLine).mergeSort
    fun a b => decide (a ≤ b)

end Exposition
end Metrics
end MailGateway
