/-
# Where a slash stands in a media type

A media type that is read is spelled `type "/" subtype`, both tokens, perhaps with a
semicolon and parameters behind them (`parse?_spelling`).  A token has no slash, so there
is one slash in front of the parameters, and every other one lies between the quotes of a
parameter (`quote_mem_of_isParameters`, `quote_mem_parameters`).

Hence a text with one slash and without a semicolon stands in a media type across its
first slash, or in the parameters (`across_or_parameters`).
-/

import Mathlib.Tactic.SplitIfs
import MailGateway.Proofs.Http.MediaGrammar

namespace MailGateway

namespace Http.MediaType

variable {text : String} {m : MediaType} {type subtype cs : List Char} {p q : Place}

/-- The text behind the first semicolon. -/
def parameters (text : String) : List Char := (text.toList.dropWhile (· ≠ ';')).drop 1

theorem ne_of_isToken {c : Char} (h : isToken c = true) : c ≠ '/' ∧ c ≠ ';' := by
  constructor <;> rintro rfl <;> revert h <;> decide

theorem parameters_of_semicolon (hcs : ';' ∉ cs) {ps : List Char}
    (h : text.toList = cs ++ ';' :: ps) : parameters text = ps := by
  rw [parameters, h, dropWhile_front hcs]
  rfl

/-- A subtype begins with what stands in front of its suffix. -/
theorem splitSuffix_prefix (cs : List Char) : (splitSuffix cs).1 <+: cs := by
  unfold splitSuffix
  dsimp only
  split
  · next plus c before hback =>
    have hsuffix : c :: before <:+ cs.reverse :=
      (List.suffix_cons plus _).trans (hback ▸ List.dropWhile_suffix _)
    rw [← List.reverse_suffix, List.reverse_reverse]
    exact hsuffix
  · exact List.prefix_rfl

/-- There is no semicolon in front of the parameters. -/
theorem semicolon_notMem (htype : ∀ c ∈ type, isToken c = true)
    (hsubtype : ∀ c ∈ subtype, isToken c = true) : ';' ∉ type ++ '/' :: subtype := by
  intro hmem
  rcases List.mem_append.1 hmem with hmem | hmem
  · exact (ne_of_isToken (htype _ hmem)).2 rfl
  · rcases List.mem_cons.1 hmem with hmem | hmem
    · revert hmem
      decide
    · exact (ne_of_isToken (hsubtype _ hmem)).2 rfl

/-- How a media type is spelled. -/
structure Spelling (text : String) (m : MediaType) (type subtype : List Char) : Prop where
  typeTokens : ∀ c ∈ type, isToken c = true
  subtypeTokens : ∀ c ∈ subtype, isToken c = true
  subtypeLower : (String.ofList (splitSuffix subtype).1).toLower = m.subtype
  whole : text.toList = type ++ '/' :: subtype ∨
    text.toList = (type ++ '/' :: subtype) ++ ';' :: parameters text ∧
      isParameters (parameters text) = true

/-- **What is read is a type, a slash, a subtype, and perhaps parameters.** -/
theorem parse?_spelling (h : parse? text = some m) :
    ∃ type subtype, Spelling text m type subtype := by
  obtain ⟨type, subtype, hwritten, rfl⟩ := parse?_eq_some_iff.1 h
  refine ⟨type, subtype, hwritten.typeTokens, hwritten.subtypeTokens, rfl, ?_⟩
  rcases hwritten.whole with hwhole | ⟨ps, hwhole, -, hps⟩
  · exact .inl hwhole
  · rw [← List.cons_append, ← List.append_assoc] at hwhole
    have hsemicolon := semicolon_notMem hwritten.typeTokens hwritten.subtypeTokens
    have hparameters : parameters text = ps := parameters_of_semicolon hsemicolon hwhole
    rw [hparameters]
    exact .inr ⟨hwhole, isParameters_iff.2 hps⟩

/-- **A part across a slash stands across the first one, or in the parameters.** -/
theorem across_or_parameters {x y : List Char} (h : parse? text = some m) (hx : ';' ∉ x)
    (hy : ';' ∉ y) (hpart : x ++ '/' :: y <:+: text.toList) :
    (∃ type subtype, Spelling text m type subtype ∧ x <:+ type ∧ y <+: subtype) ∨
      x ++ '/' :: y <:+: parameters text := by
  obtain ⟨type, subtype, hs⟩ := parse?_spelling h
  have htype : '/' ∉ type := fun hc => (ne_of_isToken (hs.typeTokens _ hc)).1 rfl
  have hsubtype : '/' ∉ subtype := fun hc => (ne_of_isToken (hs.subtypeTokens _ hc)).1 rfl
  have hsemicolon : ';' ∉ x ++ '/' :: y := by simp [hx, hy]
  have hfront : x ++ '/' :: y <:+: type ++ '/' :: subtype → x <:+ type ∧ y <+: subtype :=
    suffix_and_prefix_of_infix htype hsubtype
  rcases hs.whole with hwhole | ⟨hwhole, -⟩
  · rw [hwhole] at hpart
    exact .inl ⟨type, subtype, hs, hfront hpart⟩
  · rw [hwhole] at hpart
    rcases infix_of_notMem hsemicolon hpart with hpart | hpart
    · exact .inl ⟨type, subtype, hs, hfront hpart⟩
    · exact .inr hpart

/-! ### Slashes in parameters -/

/-- A place between the quotes of a parameter. -/
def Place.isQuoted : Place → Bool
  | .quoted _ => true
  | _ => false

/-- Only a quote leads between quotes. -/
theorem Place.isQuoted_of_step {c : Char} (hc : c ≠ '"') (h : p.step c = some q)
    (hq : q.isQuoted = true) : p.isQuoted = true := by
  cases p with
  | quoted filled => rfl
  | gap | name | value | behindQuote =>
    simp only [Place.step] at h
    split_ifs at h
    all_goals
      obtain rfl := Option.some.inj h
      simp_all [Place.isQuoted]

/-- A slash is read between quotes only. -/
theorem Place.isQuoted_of_step_slash (h : p.step '/' = some q) : p.isQuoted = true := by
  have htoken : isToken '/' = false := by decide
  cases p with
  | quoted filled => rfl
  | gap | name | value | behindQuote => simp [Place.step, htoken] at h

theorem quote_mem_of_foldlM (hp : p.isQuoted = false) (h : cs.foldlM Place.step p = some q)
    (hq : q.isQuoted = true) : '"' ∈ cs := by
  induction cs generalizing p with
  | nil =>
    obtain rfl := Option.some.inj h
    rw [hp] at hq
    cases hq
  | cons c cs ih =>
    obtain ⟨p', hstep, hrest⟩ := Option.bind_eq_some_iff.1 h
    by_cases hc : c = '"'
    · exact hc ▸ List.mem_cons_self
    · refine List.mem_cons_of_mem _ (ih ?_ hrest)
      by_contra hp'
      rw [Bool.not_eq_false] at hp'
      rw [Place.isQuoted_of_step hc hstep hp'] at hp
      cases hp

/-- **A slash in parameters has a quote in front of it.** -/
theorem quote_mem_of_isParameters {before after : List Char}
    (h : isParameters (before ++ '/' :: after) = true) : '"' ∈ before := by
  unfold isParameters at h
  split at h
  · next last hfold =>
    rw [List.foldlM_append] at hfold
    obtain ⟨p, hbefore, hslash⟩ := Option.bind_eq_some_iff.1 hfold
    obtain ⟨q, hstep, -⟩ := Option.bind_eq_some_iff.1 hslash
    exact quote_mem_of_foldlM rfl hbefore (Place.isQuoted_of_step_slash hstep)
  · cases h

/-- **Parameters with a slash have a quote.** -/
theorem quote_mem_parameters (h : parse? text = some m) (hslash : '/' ∈ parameters text) :
    '"' ∈ parameters text := by
  obtain ⟨type, subtype, hs⟩ := parse?_spelling h
  rcases hs.whole with hwhole | ⟨-, hform⟩
  · have hnone : text.toList.dropWhile (· ≠ ';') = [] := by
      rw [List.dropWhile_eq_nil_iff, hwhole]
      intro c hc
      have : c ≠ ';' := fun heq =>
        semicolon_notMem hs.typeTokens hs.subtypeTokens (heq ▸ hc)
      simpa using this
    rw [parameters, hnone] at hslash
    cases hslash
  · obtain ⟨before, after, hparts⟩ := List.append_of_mem hslash
    rw [hparts] at hform ⊢
    exact List.mem_append_left _ (quote_mem_of_isParameters hform)

end Http.MediaType
end MailGateway
