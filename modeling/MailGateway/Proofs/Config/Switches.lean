/-
# Two switches

`secure` and `debug` are yes or no, but they do not read the same texts.

| text of the variable | `secure` | `debug` |
| --- | --- | --- |
| `true`, `false` in any case | as it says | as it says |
| any other numeral or word for yes or no (`IsLoose`) | refused | on or off |
| any other | refused | refused |

The environment has taken a text for a truth value, a number or a text before either is asked.
`secure` takes truth values and nothing else (`Value.toBoolean`), `debug` also what can be
understood as one (`Value.toSwitch`).  So the two agree on a text exactly if it is not loose
(`switches_agree_iff`).
-/

import MailGateway.Proofs.Config.Variable

namespace MailGateway
namespace Config

variable {files : Files.Tree} {file : Option String} {s : Settings} {f : Field} {text : String}
  {b : Bool}

/-- The text is `true` or `false`, in any case. -/
def IsTruthValue (text : String) (b : Bool) : Prop := Text.lower text = toString b

/-- The text is a numeral or a word for yes or no, but not `true` or `false`. -/
def IsLoose (text : String) : Prop :=
  (∀ b, ¬IsTruthValue text b) ∧
    ((Binary64.ofNumeral? text).isSome ∨ Text.lower text ∈ ["1", "on", "yes", "0", "off", "no"])

instance (text : String) (b : Bool) : Decidable (IsTruthValue text b) :=
  inferInstanceAs (Decidable (_ = _))

instance (text : String) : Decidable (IsLoose text) := inferInstanceAs (Decidable (_ ∧ _))

/-- The settings are not loaded, for a reason that is told. -/
def IsLoadError (loaded : Except LoadError Settings) : Prop :=
  ∃ e, loaded = .error e ∧ e.isFatal = false ∧ ∀ path, e ≠ .notFound path

/-- The variables of the two switches come to the same with this text. -/
structure SwitchesAgree (files : Files.Tree) (file : Option String) (text : String) : Prop where
  value : ∀ b,
    (∃ s, load files [(Field.secure.variableName, text)] file = .ok s ∧ s.secure = b) ↔
      ∃ s, load files [(Field.debug.variableName, text)] file = .ok s ∧ s.debug = b
  error : IsLoadError (load files [(Field.secure.variableName, text)] file) ↔
    IsLoadError (load files [(Field.debug.variableName, text)] file)

/-! ### How the two read a text -/

theorem not_isTruthValue_iff : (∀ b, ¬IsTruthValue text b) ↔
    Text.lower text ≠ "true" ∧ Text.lower text ≠ "false" :=
  ⟨fun h => ⟨h true, h false⟩, fun h b => by cases b; exacts [h.2, h.1]⟩

/-- `true` and `false` are truth values before they are anything else. -/
theorem IsTruthValue.ofText (h : IsTruthValue text b) : Scalar.ofText text = .boolean b := by
  cases b with
  | false =>
    have hfalse : Text.lower text = "false" := h
    simp [Scalar.ofText, hfalse]
  | true =>
    have htrue : Text.lower text = "true" := h
    simp [Scalar.ofText, htrue]

/-- Any other text is a number if it is a numeral, and else stays as it is. -/
theorem ofText_of_not_isTruthValue (h : ∀ b, ¬IsTruthValue text b) :
    ((Binary64.ofNumeral? text).isSome ∧
      ((∃ n, Scalar.ofText text = .integer n) ∨ ∃ x, Scalar.ofText text = .real x)) ∨
    Binary64.ofNumeral? text = none ∧ Scalar.ofText text = .text text := by
  obtain ⟨htrue, hfalse⟩ := not_isTruthValue_iff.1 h
  simp only [Scalar.ofText, htrue, hfalse, ↓reduceIte]
  split
  · next n hn => exact .inl ⟨isSome_ofNumeral?_of_inBase? hn, .inl ⟨n, rfl⟩⟩
  · split
    · next x hx => exact .inl ⟨by rw [hx]; rfl, .inr ⟨x, rfl⟩⟩
    · next hnone => exact .inr ⟨hnone, rfl⟩

theorem IsTruthValue.read_secure (h : IsTruthValue text b) :
    Field.read .secure (.ofEnvironment text) = .ok b := by
  rw [Value.ofEnvironment, h.ofText]
  rfl

theorem IsTruthValue.read_debug (h : IsTruthValue text b) :
    Field.read .debug (.ofEnvironment text) = .ok b := by
  rw [Value.ofEnvironment, h.ofText]
  rfl

/-- `secure` reads truth values alone. -/
theorem read_secure_of_not_isTruthValue (h : ∀ b, ¬IsTruthValue text b) :
    Field.read .secure (.ofEnvironment text) = .error (.kind (.ofEnvironment text) .boolean) := by
  rw [Value.ofEnvironment]
  rcases ofText_of_not_isTruthValue h with ⟨-, ⟨n, hn⟩ | ⟨x, hx⟩⟩ | ⟨-, htext⟩
  · rw [hn]
    rfl
  · rw [hx]
    rfl
  · rw [htext]
    rfl

theorem read_secure_eq_ok_iff :
    Field.read .secure (.ofEnvironment text) = .ok b ↔ IsTruthValue text b := by
  refine ⟨fun hread => ?_, IsTruthValue.read_secure⟩
  by_cases hvalue : ∃ b', IsTruthValue text b'
  · obtain ⟨b', hb'⟩ := hvalue
    rw [hb'.read_secure] at hread
    exact Except.ok.inj hread ▸ hb'
  · rw [read_secure_of_not_isTruthValue (not_exists.1 hvalue)] at hread
    cases hread

theorem mem_looseWords_iff {word : String} (h : word ≠ "true" ∧ word ≠ "false") :
    word ∈ ["1", "on", "yes", "0", "off", "no"] ↔
      word ∈ ["1", "true", "on", "yes"] ∨ word ∈ ["0", "false", "off", "no"] := by
  simp only [List.mem_cons, List.not_mem_nil, h.1, h.2, false_or, or_false, or_assoc]

/-- `debug` reads a text that stays as it is if it is one of its words. -/
theorem read_debug_text (hlower : Text.lower text ≠ "true" ∧ Text.lower text ≠ "false")
    (h : Scalar.ofText text = .text text) :
    (Text.lower text ∈ ["1", "on", "yes", "0", "off", "no"] ∧
      ∃ b, Field.read .debug (.ofEnvironment text) = .ok b) ∨
    Text.lower text ∉ ["1", "on", "yes", "0", "off", "no"] ∧
      Field.read .debug (.ofEnvironment text) =
        .error (.debug (.scalar (.text (Text.lower text)) environmentOrigin)) := by
  simp only [mem_looseWords_iff hlower, Field.read, Value.ofEnvironment, h, Value.toSwitch]
  split
  · next hon => exact .inl ⟨.inl (List.contains_iff_mem.1 hon), true, rfl⟩
  split
  · next hoff => exact .inl ⟨.inr (List.contains_iff_mem.1 hoff), false, rfl⟩
  · next hon hoff =>
    exact .inr ⟨not_or.2 ⟨mt List.contains_iff_mem.2 hon, mt List.contains_iff_mem.2 hoff⟩, rfl⟩

theorem IsLoose.exists_read_debug (h : IsLoose text) :
    ∃ b, Field.read .debug (.ofEnvironment text) = .ok b := by
  obtain ⟨hvalue, hloose⟩ := h
  rcases ofText_of_not_isTruthValue hvalue with ⟨-, ⟨n, hn⟩ | ⟨x, hx⟩⟩ | ⟨hnone, htext⟩
  · exact ⟨n ≠ 0, by rw [Value.ofEnvironment, hn]; rfl⟩
  · exact ⟨!x.isZero, by rw [Value.ofEnvironment, hx]; rfl⟩
  · rcases read_debug_text (not_isTruthValue_iff.1 hvalue) htext with ⟨-, hread⟩ | ⟨hword, -⟩
    · exact hread
    · rcases hloose with hnumeral | hloose
      · rw [hnone] at hnumeral
        cases hnumeral
      · exact absurd hloose hword

theorem read_debug_of_not_isLoose (hvalue : ∀ b, ¬IsTruthValue text b) (h : ¬IsLoose text) :
    Field.read .debug (.ofEnvironment text) =
      .error (.debug (.scalar (.text (Text.lower text)) environmentOrigin)) := by
  rcases ofText_of_not_isTruthValue hvalue with ⟨hnumeral, -⟩ | ⟨-, htext⟩
  · exact absurd ⟨hvalue, .inl hnumeral⟩ h
  · rcases read_debug_text (not_isTruthValue_iff.1 hvalue) htext with ⟨hword, -⟩ | ⟨-, hread⟩
    · exact absurd ⟨hvalue, .inr hword⟩ h
    · exact hread

/-! ### What the variables come to -/

theorem exists_load_iff (hload : load files [] file = .ok s) {x : f.Content} :
    (∃ s', load files [(f.variableName, text)] file = .ok s' ∧ s'.get f = x) ↔
      f.read (.ofEnvironment text) = .ok x := by
  constructor
  · rintro ⟨s', hs', rfl⟩
    cases hread : f.read (.ofEnvironment text) with
    | error refusal =>
      rw [load_changed_error (.singleton f text) hload hread] at hs'
      cases hs'
    | ok y =>
      obtain ⟨s'', hs'', rfl, -⟩ := load_changed (.singleton f text) hload hread
      rw [Except.ok.inj (hs'.symm.trans hs'')]
  · intro hread
    obtain ⟨s', hs', hx, -⟩ := load_changed (.singleton f text) hload hread
    exact ⟨s', hs', hx⟩

theorem isLoadError_iff (hload : load files [] file = .ok s) :
    IsLoadError (load files [(f.variableName, text)] file) ↔
      ∃ refusal, f.read (.ofEnvironment text) = .error refusal ∧
        (LoadError.refused refusal).isFatal = false := by
  cases hread : f.read (.ofEnvironment text) with
  | error refusal =>
    rw [load_changed_error (.singleton f text) hload hread]
    constructor
    · rintro ⟨e, he, hfatal, -⟩
      obtain rfl := Except.error.inj he
      exact ⟨refusal, rfl, hfatal⟩
    · rintro ⟨_, ⟨⟩, hfatal⟩
      exact ⟨_, rfl, hfatal, nofun⟩
  | ok x =>
    obtain ⟨s', hs', -⟩ := load_changed (.singleton f text) hload hread
    rw [hs']
    exact ⟨fun ⟨_, he, _, _⟩ => (nomatch he), fun ⟨_, he, _⟩ => (nomatch he)⟩

theorem switchesAgree_iff (hload : load files [] file = .ok s) : SwitchesAgree files file text ↔
    (∀ b, Field.read .secure (.ofEnvironment text) = .ok b ↔
      Field.read .debug (.ofEnvironment text) = .ok b) ∧
    ((∃ refusal, Field.read .secure (.ofEnvironment text) = .error refusal ∧
        (LoadError.refused refusal).isFatal = false) ↔
      ∃ refusal, Field.read .debug (.ofEnvironment text) = .error refusal ∧
        (LoadError.refused refusal).isFatal = false) := by
  rw [← isLoadError_iff hload, ← isLoadError_iff hload]
  simp only [← exists_load_iff hload]
  exact ⟨fun h => ⟨h.value, h.error⟩, fun h => ⟨h.1, h.2⟩⟩

/-- A loose text is refused for `secure`, while `debug` takes it and nothing else changes. -/
theorem IsLoose.load (h : IsLoose text) (hload : load files [] file = .ok s) :
    load files [(Field.secure.variableName, text)] file =
      .error (.refused (.kind (.ofEnvironment text) .boolean)) ∧
    ∃ s', load files [(Field.debug.variableName, text)] file = .ok s' ∧
      ∀ g, g ≠ .debug → s'.get g = s.get g := by
  have hsecure := read_secure_of_not_isTruthValue h.1
  obtain ⟨b, hdebug⟩ := h.exists_read_debug
  obtain ⟨s', hs', -, hothers⟩ := load_changed (.singleton .debug text) hload hdebug
  exact ⟨load_changed_error (.singleton .secure text) hload hsecure, s', hs', hothers⟩

theorem SwitchesAgree.not_isLoose (h : SwitchesAgree files file text)
    (hload : load files [] file = .ok s) : ¬IsLoose text := by
  intro hloose
  obtain ⟨hsecure, s', hdebug, -⟩ := hloose.load hload
  obtain ⟨s'', hs'', -⟩ := (h.value s'.debug).2 ⟨s', hdebug, rfl⟩
  rw [hsecure] at hs''
  cases hs''

theorem switchesAgree_of_not_isLoose (h : ¬IsLoose text) (hload : load files [] file = .ok s) :
    SwitchesAgree files file text := by
  rw [switchesAgree_iff hload]
  by_cases hvalue : ∃ b, IsTruthValue text b
  · obtain ⟨b, hb⟩ := hvalue
    rw [hb.read_secure, hb.read_debug]
    exact ⟨fun _ => .rfl, .rfl⟩
  · have hvalue : ∀ b, ¬IsTruthValue text b := not_exists.1 hvalue
    rw [read_secure_of_not_isTruthValue hvalue, read_debug_of_not_isLoose hvalue h]
    exact ⟨fun _ => ⟨nofun, nofun⟩, fun _ => ⟨_, rfl, rfl⟩, fun _ => ⟨_, rfl, rfl⟩⟩

/-- **The two switches agree on a text exactly if it is not loose.**  A loose text is refused for
`secure`, which takes `true` and `false` alone, while `debug` takes it and is on or off. -/
theorem switches_agree_iff (text : String) (hload : load files [] file = .ok s) :
    (SwitchesAgree files file text ↔ ¬IsLoose text) ∧
    (∀ b, (∃ s', load files [(Field.secure.variableName, text)] file = .ok s' ∧ s'.secure = b) ↔
      IsTruthValue text b) ∧
    (IsLoose text → load files [(Field.secure.variableName, text)] file =
        .error (.refused (.kind (.ofEnvironment text) .boolean)) ∧
      ∃ s', load files [(Field.debug.variableName, text)] file = .ok s' ∧
        ∀ g, g ≠ .debug → s'.get g = s.get g) := by
  refine ⟨⟨fun h => h.not_isLoose hload, fun h => switchesAgree_of_not_isLoose h hload⟩,
    fun b => ?_, fun h => h.load hload⟩
  rw [← read_secure_eq_ok_iff]
  exact exists_load_iff hload

/-- Capitals do not make a text loose. -/
theorem switches_agree_iff_capitals :
    load {} [] none = .ok {} ∧ SwitchesAgree {} none "TRUE" ∧
      ∃ s, load {} [(Field.secure.variableName, "TRUE")] none = .ok s ∧ s.secure = true := by
  have hload : load {} [] none = .ok {} := rfl
  obtain ⟨hagree, htruth, -⟩ := switches_agree_iff "TRUE" hload
  exact ⟨hload, hagree.2 (by decide), (htruth true).2 (by decide)⟩

/-- The numeral `1` is refused for `secure`, though it turns `debug` on. -/
theorem one_for_secure_refused :
    load {} [] none = .ok {} ∧ ¬SwitchesAgree {} none "1" ∧
      (¬∃ s, load {} [(Field.secure.variableName, "1")] none = .ok s ∧ s.secure = true) ∧
      ∃ s, load {} [(Field.debug.variableName, "1")] none = .ok s ∧ s.debug = true := by
  have hload : load {} [] none = .ok {} := rfl
  have hone : Scalar.ofText "1" = .integer 1 := by decide
  have hdebug : ∃ s, load {} [(Field.debug.variableName, "1")] none = .ok s ∧ s.debug = true := by
    refine (exists_load_iff hload).2 ?_
    rw [Value.ofEnvironment, hone]
    rfl
  have hsecure :
      ¬∃ s, load {} [(Field.secure.variableName, "1")] none = .ok s ∧ s.secure = true :=
    fun h => absurd (read_secure_eq_ok_iff.1 ((exists_load_iff hload).1 h)) (by decide)
  exact ⟨hload, fun hagree => hsecure ((hagree.value true).2 hdebug), hsecure, hdebug⟩

end Config
end MailGateway
