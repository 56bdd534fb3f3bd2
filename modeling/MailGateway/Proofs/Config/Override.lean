/-
# Settings that are texts, from the environment

The environment takes a text for a truth value or a number where it reads as one
(`IsGuessed`), before anybody asks what the setting wants.  Settings that are texts take texts
only.  So the variable of such a setting gives it exactly the texts that are not guessed to be
something else (`text_overrides_iff`), and any other text is refused, whatever the file has.
-/

import MailGateway.Proofs.Config.Precedence
import MailGateway.Proofs.Text.Numerals

namespace MailGateway
namespace Config

/-- A setting that is a text. -/
inductive TextField where
  | host
  | certFile
  | keyFile
  | otlpEndpoint
  | serviceName
  deriving DecidableEq, Repr

namespace TextField

/-- The field of the settings. -/
def field : TextField → Field
  | .host => .host
  | .certFile => .certFile
  | .keyFile => .keyFile
  | .otlpEndpoint => .otlpEndpoint
  | .serviceName => .serviceName

/-- What the field holds for a text. -/
def content : (k : TextField) → String → k.field.Content
  | .host, s | .certFile, s | .keyFile, s | .serviceName, s => s
  | .otlpEndpoint, s => some s

/-- What is asked for in its place. -/
def expected : TextField → Expected
  | .host | .otlpEndpoint | .serviceName => .text
  | .certFile | .keyFile => .path

end TextField

/-- A text that the environment takes for a truth value or a number. -/
def IsGuessed (text : String) : Prop :=
  Text.lower text = "true" ∨ Text.lower text = "false" ∨ (Binary64.ofNumeral? text).isSome

instance (text : String) : Decidable (IsGuessed text) := inferInstanceAs (Decidable (_ ∨ _ ∨ _))

variable {files : Files.Tree} {file : Option String} {base : Layer} {s : Settings}
  {text : String}

/-! ### What a text is taken for -/

/-- Decimal digits are a numeral. -/
theorem isSome_ofUnsigned? {negative : Bool} {cs : List Char} (hne : cs ≠ [])
    (h : ∀ c ∈ cs, c.isDigit = true) : (Binary64.ofUnsigned? negative cs).isSome := by
  have hwhole : cs.takeWhile Char.isDigit = cs := List.takeWhile_eq_self_iff.2 h
  have hrest : cs.dropWhile Char.isDigit = [] := List.dropWhile_eq_nil_iff.2 h
  have hnatural : Numeral.natural? (cs ++ []) = some (Nat.ofDigitChars 10 cs 0) := by
    rw [List.append_nil, ← Numeral.digitsFrom_decimal? h]
    cases cs with
    | nil => exact absurd rfl hne
    | cons c cs => rfl
  have hexponent : Binary64.exponent? [] = some 0 := rfl
  unfold Binary64.ofUnsigned?
  dsimp only
  split
  · rfl
  split
  · rfl
  · simp only [Binary64.ofDigits?, hwhole, hrest, hnatural, hexponent, Option.isSome_some]

theorem isSome_ofUnsigned?_of_digits? {negative : Bool} {cs : List Char} {n : Nat}
    (h : Numeral.digits? (fun c => (Numeral.hexadecimal? c).filter (· < 10)) 10 cs = some n) :
    (Binary64.ofUnsigned? negative cs).isSome := by
  rw [funext Numeral.filter_hexadecimal?] at h
  obtain ⟨hdigits, -⟩ := Numeral.natural?_eq_some_iff.1 h
  exact isSome_ofUnsigned? hdigits.ne_nil hdigits.digits

theorem ofNumeral?_unsigned (hminus : ∀ cs, text.toList ≠ '-' :: cs)
    (hplus : ∀ cs, text.toList ≠ '+' :: cs) :
    Binary64.ofNumeral? text = Binary64.ofUnsigned? false text.toList := by
  unfold Binary64.ofNumeral?
  split
  · next cs h => exact absurd h (hminus cs)
  · next cs h => exact absurd h (hplus cs)
  · rfl

/-- A whole number is a numeral. -/
theorem isSome_ofNumeral?_of_inBase? {n : Int} (h : Yaml.Node.inBase? 10 text.toList = some n) :
    (Binary64.ofNumeral? text).isSome := by
  unfold Yaml.Node.inBase? Yaml.Node.int64? at h
  obtain ⟨h, -⟩ := Option.filter_eq_some_iff.1 h
  split at h
  · next cs htext =>
    obtain ⟨m, hm, -⟩ := Option.map_eq_some_iff.1 h
    obtain ⟨k, hk, -⟩ := Option.bind_eq_some_iff.1 hm
    rw [Binary64.ofNumeral?, htext]
    exact isSome_ofUnsigned?_of_digits? hk
  · next cs htext =>
    obtain ⟨k, hk, -⟩ := Option.map_eq_some_iff.1 h
    rw [Binary64.ofNumeral?, htext]
    exact isSome_ofUnsigned?_of_digits? hk
  · next hminus hplus =>
    obtain ⟨k, hk, -⟩ := Option.map_eq_some_iff.1 h
    rw [ofNumeral?_unsigned hminus hplus]
    exact isSome_ofUnsigned?_of_digits? hk

theorem ofText_of_not_isGuessed (h : ¬IsGuessed text) : Scalar.ofText text = .text text := by
  obtain ⟨htrue, hrest⟩ := not_or.1 h
  obtain ⟨hfalse, hreal⟩ := not_or.1 hrest
  have hreal : Binary64.ofNumeral? text = none := by simpa using hreal
  have hinteger : Yaml.Node.inBase? 10 text.toList = none := by
    cases hinteger : Yaml.Node.inBase? 10 text.toList with
    | none => rfl
    | some n =>
      have hsome := isSome_ofNumeral?_of_inBase? hinteger
      rw [hreal] at hsome
      cases hsome
  simp only [Scalar.ofText, htrue, hfalse, ↓reduceIte, hinteger, hreal]

/-- What a text is taken for that is not left as it is. -/
theorem exists_guess (h : IsGuessed text) :
    (∃ b, Scalar.ofText text = .boolean b) ∨ (∃ n, Scalar.ofText text = .integer n) ∨
      ∃ x, Scalar.ofText text = .real x := by
  unfold Scalar.ofText
  dsimp only
  split
  · exact .inl ⟨true, rfl⟩
  split
  · exact .inl ⟨false, rfl⟩
  · next htrue hfalse =>
    split
    · next n _ => exact .inr (.inl ⟨n, rfl⟩)
    · obtain ⟨x, hx⟩ : ∃ x, Binary64.ofNumeral? text = some x := by
        rcases h with h | h | h
        · exact absurd h htrue
        · exact absurd h hfalse
        · exact Option.isSome_iff_exists.1 h
      exact .inr (.inr ⟨x, by rw [hx]⟩)

theorem TextField.read_text (k : TextField) (h : ¬IsGuessed text) :
    k.field.read (.ofEnvironment text) = .ok (k.content text) := by
  rw [Value.ofEnvironment, ofText_of_not_isGuessed h]
  cases k <;> rfl

theorem TextField.read_guess (k : TextField) (h : IsGuessed text) :
    k.field.read (.ofEnvironment text) =
      .error (.kind (.ofEnvironment text) k.expected) := by
  rw [Value.ofEnvironment]
  rcases exists_guess h with ⟨b, hb⟩ | ⟨n, hn⟩ | ⟨x, hx⟩
  · rw [hb]
    cases k <;> rfl
  · rw [hn]
    cases k <;> rfl
  · rw [hx]
    cases k <;> rfl

/-! ### The layer of one variable -/

theorem exists_baseLayer {env : Environment} (h : load files env file = .ok s) :
    ∃ base, baseLayer files file = .ok base := by
  cases file with
  | none => exact ⟨[], rfl⟩
  | some path =>
    unfold load at h
    obtain ⟨base, hbase, -⟩ := bind_eq_ok_iff.1 h
    exact ⟨base, hbase⟩

theorem ofEnvironment_singleton (f : Field) (text : String) :
    Layer.ofEnvironment [(f.variableName, text)] = [(f.name, .ofEnvironment text)] := by
  rw [Layer.ofEnvironment_eq_foldl, List.foldl_cons, List.foldl_nil, Layer.putVariable,
    f.settingName?_variableName]
  rfl

theorem merge_pair (base l : Layer) :
    merge [base, l] = ((base.onto (.table [])).bind l.onto).map Value.members := by
  simp only [merge, List.foldlM_cons, List.foldlM_nil, Option.bind_eq_bind, Option.pure_def,
    Option.bind_fun_some]

/-- Over any layer, one field takes its place and leaves the others. -/
theorem merge_singleton {t : Table} {v : Value} (f : Field) (hv : v.IsScalar)
    (h : merge [base, []] = some t) : ∃ t', merge [base, [(f.name, v)]] = some t' ∧
      ∀ g : Field, t'.get? g.name = if f = g then some v else t.get? g.name := by
  rw [merge_pair] at h
  obtain ⟨root, hroot, rfl⟩ := Option.map_eq_some_iff.1 h
  obtain ⟨root, hbase, hroot⟩ := Option.bind_eq_some_iff.1 hroot
  obtain rfl := Option.some.inj hroot
  obtain ⟨root', honto, hget⟩ := Layer.onto_of_plain (.singleton f hv) root
  refine ⟨root'.members, ?_, fun g => ?_⟩
  · rw [merge_pair, hbase, Option.bind_some, honto]
    rfl
  · rw [hget, Layer.last?_singleton]
    split <;> rfl

/-- Settings with one field that cannot be read are refused for that field. -/
theorem ofTable?_eq_error {t : Table} {f : Field} {refusal : Refusal}
    (hf : t.field f = .error refusal) (h : ∀ g, g ≠ f → ∃ x, t.field g = .ok x) :
    Settings.ofTable? t = .error refusal := by
  choose x hx using h
  rw [Settings.ofTable?_eq]
  cases f <;> simp only [hf, hx, ne_eq, reduceCtorEq, not_false_eq_true, bind, Except.bind]

/-- **A variable gives a setting that is a text every text that stays one**, and leaves the other
settings.  A text that the environment takes for a truth value or a number is refused. -/
theorem text_overrides_iff (k : TextField) (text : String) (hload : load files [] file = .ok s) :
    (¬IsGuessed text → ∃ s', load files [(k.field.variableName, text)] file = .ok s' ∧
      s'.get k.field = k.content text ∧ ∀ g, g ≠ k.field → s'.get g = s.get g) ∧
    (IsGuessed text → load files [(k.field.variableName, text)] file =
      .error (.refused (.kind (.ofEnvironment text) k.expected))) := by
  obtain ⟨base, hbase⟩ := exists_baseLayer hload
  rw [load_of_baseLayer hbase] at hload ⊢
  rw [ofEnvironment_singleton]
  have hempty : Layer.ofEnvironment [] = [] := rfl
  rw [hempty, ofLayers] at hload
  cases hmerge : merge [base, []] with
  | none =>
    rw [hmerge] at hload
    cases hload
  | some t =>
    rw [hmerge] at hload
    have hfields := Settings.ofTable?_eq_ok_iff.1 (mapError_eq_ok_iff.1 hload)
    have hscalar : (Value.ofEnvironment text).IsScalar := ⟨_, _, rfl⟩
    obtain ⟨t', hmerge', hget⟩ := merge_singleton k.field hscalar hmerge
    have hself : t'.field k.field = k.field.read (.ofEnvironment text) := by
      rw [Table.field, hget, if_pos rfl]
      rfl
    have hother (g : Field) (hg : g ≠ k.field) : t'.field g = .ok (s.get g) := by
      rw [Table.field, hget, if_neg (Ne.symm hg)]
      exact hfields g
    rw [ofLayers, hmerge']
    refine ⟨fun h => ?_, fun h => ?_⟩
    · rw [k.read_text h] at hself
      obtain ⟨s', hs'⟩ : ∃ s', Settings.ofTable? t' = .ok s' := by
        refine Settings.exists_ofTable?_iff.2 fun g => ?_
        by_cases hg : g = k.field
        · exact hg ▸ ⟨_, hself⟩
        · exact ⟨_, hother g hg⟩
      have hfields' := Settings.ofTable?_eq_ok_iff.1 hs'
      refine ⟨s', mapError_eq_ok_iff.2 hs', ?_, fun g hg => ?_⟩
      · exact Except.ok.inj ((hfields' k.field).symm.trans hself)
      · exact Except.ok.inj ((hfields' g).symm.trans (hother g hg))
    · rw [k.read_guess h] at hself
      have hrefused := ofTable?_eq_error hself fun g hg => ⟨_, hother g hg⟩
      dsimp only
      rw [hrefused]
      rfl

/-- A name with a number in it is taken as it is, over the defaults. -/
theorem text_overrides_iff_numbered :
    load {} [] none = .ok {} ∧ ¬IsGuessed "mail 42" ∧
      ∃ s', load {} [(Field.serviceName.variableName, "mail 42")] none = .ok s' ∧
        s'.serviceName = "mail 42" ∧ s'.host = "0.0.0.0" := by
  have hload : load {} [] none = .ok {} := rfl
  have htext : ¬IsGuessed "mail 42" := by decide
  obtain ⟨hoverrides, -⟩ := text_overrides_iff .serviceName "mail 42" hload
  obtain ⟨s', hs', hname, hothers⟩ := hoverrides htext
  exact ⟨hload, htext, s', hs', hname, hothers .host (by decide)⟩

/-- A number is no name, though the settings load without it. -/
theorem number_for_name_refused :
    load {} [] none = .ok {} ∧
      ¬∃ s', load {} [(Field.serviceName.variableName, "42")] none = .ok s' ∧
        s'.serviceName = "42" := by
  refine ⟨rfl, ?_⟩
  rintro ⟨s', hs', -⟩
  have hrefused := TextField.read_guess .serviceName (by decide : IsGuessed "42")
  have hscalar : (Value.ofEnvironment "42").IsScalar := ⟨_, _, rfl⟩
  rw [load_eq_alone_of_variable, alone_eq_ok_iff hscalar] at hs'
  cases hrefused.symm.trans hs'.1

end Config
end MailGateway
