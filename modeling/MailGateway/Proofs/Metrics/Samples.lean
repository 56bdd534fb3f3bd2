/-
# Reading a page of metrics

A line on a series, `name{label="text",…} value`, is a `Sample` in its written form.
Within the text of a label `\\`, `\"` and `\n` stand for a backslash, a quote and a line
feed, so that none of the three stands there itself and the first bare quote is the end of
the text.  A sample is read back from its written form (`Sample.read?_text`), and hence a line
can be taken apart in one way only (`Sample.Readable.isReadingOf_text`).
-/

import MailGateway.Metrics.Exposition
import MailGateway.Proofs.Text.Separator

namespace MailGateway
namespace Metrics

/-- A line on a series, taken apart. -/
structure Sample where
  name : String
  labels : List (String × String)
  value : String
  deriving DecidableEq, Repr

namespace Sample

/-! ### The written form -/

/-- A character within the text of a label. -/
def escape (c : Char) : List Char :=
  if c = '\\' ∨ c = '"' then ['\\', c] else if c = '\n' then ['\\', 'n'] else [c]

/-- The characters of a label. -/
def labelChars (label : String × String) : List Char :=
  label.1.toList ++ '=' :: '"' :: (label.2.toList.flatMap escape ++ ['"'])

/-- The characters of a line. -/
def chars (s : Sample) : List Char :=
  s.name.toList ++ '\x7b' :: ([','].intercalate (s.labels.map labelChars) ++
    '\x7d' :: ' ' :: s.value.toList)

/-- The written form of a sample. -/
def text (s : Sample) : String := String.ofList s.chars

/-- The characters of names. -/
def isNameChar (c : Char) : Bool := c.isAlphanum || c = '_'

/-- Names are made of their characters, there are labels, and the value has no blanks. -/
structure Readable (s : Sample) : Prop where
  name : ∀ c ∈ s.name.toList, isNameChar c = true
  labels : s.labels ≠ []
  labelNames : ∀ label ∈ s.labels, ∀ c ∈ label.1.toList, isNameChar c = true
  value : ∀ c ∈ s.value.toList, c.isWhitespace = false

instance (s : Sample) : Decidable s.Readable :=
  decidable_of_iff
    (s.name.toList.all isNameChar = true ∧ s.labels ≠ [] ∧
      s.labels.all (fun label => label.1.toList.all isNameChar) = true ∧
      s.value.toList.all (!·.isWhitespace) = true)
    ⟨fun ⟨hname, hlabels, hnames, hvalue⟩ =>
      ⟨List.all_eq_true.1 hname, hlabels,
        fun label hlabel => List.all_eq_true.1 (List.all_eq_true.1 hnames label hlabel),
        fun c hc => by simpa using List.all_eq_true.1 hvalue c hc⟩,
    fun h =>
      ⟨List.all_eq_true.2 h.name, h.labels,
        List.all_eq_true.2 fun label hlabel => List.all_eq_true.2 (h.labelNames label hlabel),
        List.all_eq_true.2 fun c hc => by simpa using h.value c hc⟩⟩

/-! ### The reader -/

/-- What a character behind a backslash stands for. -/
def unescape? (c : Char) : Option Char :=
  if c = '\\' ∨ c = '"' then some c else if c = 'n' then some '\n' else none

/-- The text of a label up to its closing quote, and the rest.  A raw line feed is no part of
it, and neither is a backslash that no escape follows. -/
def readValue? : List Char → Option (List Char × List Char)
  | [] => none
  | '"' :: r => some ([], r)
  | '\n' :: _ => none
  | ['\\'] => none
  | '\\' :: c :: r =>
    match unescape? c, readValue? r with
    | some d, some (cs, rest) => some (d :: cs, rest)
    | _, _ => none
  | c :: r => (readValue? r).map fun (cs, rest) => (c :: cs, rest)

/-- A label, and the rest. -/
def readLabel? (cs : List Char) : Option ((String × String) × List Char) :=
  match cs.dropWhile (· ≠ '=') with
  | '=' :: '"' :: r =>
    (readValue? r).map fun (value, rest) =>
      ((String.ofList (cs.takeWhile (· ≠ '=')), String.ofList value), rest)
  | _ => none

/-- Labels up to the closing brace, and the rest.  Each label has at least one character, so
`fuel` may be their number. -/
def readLabels? : Nat → List Char → Option (List (String × String) × List Char)
  | 0, _ => none
  | fuel + 1, cs =>
    match readLabel? cs with
    | some (label, ',' :: r) =>
      (readLabels? fuel r).map fun (labels, rest) => (label :: labels, rest)
    | some (label, '\x7d' :: r) => some ([label], r)
    | _ => none

/-- Reads a line. -/
def read? (line : String) : Option Sample :=
  match line.toList.dropWhile (· ≠ '\x7b') with
  | _ :: r =>
    match readLabels? r.length r with
    | some (labels, ' ' :: value) =>
      some ⟨String.ofList (line.toList.takeWhile (· ≠ '\x7b')), labels, String.ofList value⟩
    | _ => none
  | [] => none

/-! ### Reading the written form -/

variable {label : String × String} {labels : List (String × String)} {rest : List Char}

/-- **A character is read back**, in its escape or as itself. -/
theorem readValue?_escape (c : Char) (rest : List Char) :
    readValue? (escape c ++ rest) = (readValue? rest).map fun (cs, r) => (c :: cs, r) := by
  unfold escape
  split
  · next h =>
    have hunescape : unescape? c = some c := if_pos h
    rw [List.cons_append, List.singleton_append, readValue?, hunescape]
    cases readValue? rest <;> rfl
  · next hc =>
    rw [not_or] at hc
    split
    · next h =>
      subst h
      have hunescape : unescape? 'n' = some '\n' := by decide
      rw [List.cons_append, List.singleton_append, readValue?, hunescape]
      cases readValue? rest <;> rfl
    · next hn =>
      rw [List.singleton_append, readValue?]
      · exact fun h => hc.2 h
      · exact fun h => hn h
      · exact fun h => absurd h hc.1
      · exact fun _ _ h => absurd h hc.1

theorem readValue?_write (cs rest : List Char) :
    readValue? (cs.flatMap escape ++ '"' :: rest) = some (cs, rest) := by
  induction cs with
  | nil => rfl
  | cons c cs ih => rw [List.flatMap_cons, List.append_assoc, readValue?_escape, ih]; rfl

/-- A name ends before the first character that is none of its own. -/
theorem notMem_of_isNameChar {name : String} {c : Char}
    (h : ∀ d ∈ name.toList, isNameChar d = true) (hc : isNameChar c = false) :
    c ∉ name.toList := fun hmem => by simp [h c hmem] at hc

theorem readLabel?_write (h : ∀ c ∈ label.1.toList, isNameChar c = true) (rest : List Char) :
    readLabel? (labelChars label ++ rest) = some (label, rest) := by
  have hname : '=' ∉ label.1.toList := notMem_of_isNameChar h (by decide)
  have hchars : labelChars label ++ rest =
      label.1.toList ++ '=' :: '"' :: (label.2.toList.flatMap escape ++ '"' :: rest) := by
    simp [labelChars]
  simp only [hchars, readLabel?, dropWhile_front hname, takeWhile_front hname, readValue?_write,
    Option.map_some, String.ofList_toList]

/-- Labels are read back up to the brace behind them. -/
theorem readLabels?_write (hlabels : labels ≠ [])
    (h : ∀ label ∈ labels, ∀ c ∈ label.1.toList, isNameChar c = true) {fuel : Nat}
    (hfuel : labels.length ≤ fuel) (rest : List Char) :
    readLabels? fuel ([','].intercalate (labels.map labelChars) ++ '\x7d' :: rest) =
      some (labels, rest) := by
  induction labels generalizing fuel with
  | nil => exact absurd rfl hlabels
  | cons label labels ih =>
    obtain ⟨fuel, rfl⟩ : ∃ n, fuel = n + 1 :=
      Nat.exists_eq_add_one.2 (Nat.lt_of_lt_of_le (Nat.succ_pos _) hfuel)
    have hread := readLabel?_write (h label List.mem_cons_self)
    cases labels with
    | nil => simp [readLabels?, hread]
    | cons next labels =>
      have hrest := ih (List.cons_ne_nil _ _) (fun l hl => h l (List.mem_cons_of_mem _ hl))
        (Nat.le_of_succ_le_succ hfuel)
      rw [List.map_cons] at hrest
      simp [readLabels?, hread, hrest]

theorem length_le_length_intercalate (labels : List (String × String)) :
    labels.length ≤ ([','].intercalate (labels.map labelChars)).length := by
  have hlabel : ∀ label : String × String, 1 ≤ (labelChars label).length := fun label => by
    simp [labelChars]
    omega
  induction labels with
  | nil => simp
  | cons label labels ih =>
    cases labels with
    | nil => simpa using hlabel label
    | cons next labels =>
      have := hlabel label
      simp only [List.map_cons, List.intercalate_cons_cons, List.length_append,
        List.length_cons] at ih ⊢
      omega

/-- **A line is read back** as the sample that it is the written form of. -/
theorem read?_text {s : Sample} (h : s.Readable) : read? s.text = some s := by
  have hname : '\x7b' ∉ s.name.toList := notMem_of_isNameChar h.name (by decide)
  have hlength := length_le_length_intercalate s.labels
  simp only [read?, text, String.toList_ofList, chars, dropWhile_front hname,
    takeWhile_front hname]
  rw [readLabels?_write h.labels h.labelNames (by rw [List.length_append]; omega)]
  simp only [String.ofList_toList]

theorem newline_notMem_escape (c : Char) : '\n' ∉ escape c := by
  unfold escape
  split
  · next h => rcases h with rfl | rfl <;> decide
  · next hn =>
    split
    · decide
    · next h => simpa using Ne.symm h

theorem newline_notMem_labelChars (h : ∀ c ∈ label.1.toList, isNameChar c = true) :
    '\n' ∉ labelChars label := by
  have hname : '\n' ∉ label.1.toList := notMem_of_isNameChar h (by decide)
  simp [labelChars, hname, newline_notMem_escape]

/-- The written form is a single line. -/
theorem newline_notMem_text {s : Sample} (h : s.Readable) : '\n' ∉ s.text.toList := by
  have hname : '\n' ∉ s.name.toList := notMem_of_isNameChar h.name (by decide)
  have hlabels : '\n' ∉ [','].intercalate (s.labels.map labelChars) := by
    refine notMem_intercalate (by decide) fun part hpart => ?_
    obtain ⟨label, hlabel, rfl⟩ := List.mem_map.1 hpart
    exact newline_notMem_labelChars (h.labelNames label hlabel)
  have hvalue : '\n' ∉ s.value.toList := fun hmem => absurd (h.value _ hmem) (by decide)
  simp [text, chars, hname, hvalue, hlabels]

/-- The one way to take a line apart. -/
structure IsReadingOf (s : Sample) (line : String) : Prop where
  readable : s.Readable
  text : s.text = line
  unique : ∀ t : Sample, t.Readable → t.text = line → t = s
  single : '\n' ∉ line.toList

/-- **The written form** can be taken apart in one way only. -/
theorem Readable.isReadingOf_text {s : Sample} (h : s.Readable) : s.IsReadingOf s.text where
  readable := h
  text := rfl
  unique t ht heq := by
    have hread := read?_text ht
    rw [heq, read?_text h] at hread
    exact (Option.some.inj hread).symm
  single := newline_notMem_text h

end Sample
end Metrics
end MailGateway
