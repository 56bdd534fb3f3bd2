/-
# The grammar of media types

A media type is spelled `type "/" subtype`, both of them tokens, the type not empty.  Behind a
subtype that is not empty may stand a semicolon and parameters:

| part | form |
| --- | --- |
| parameters | `*" " name "=" value`, between two of them a semicolon |
| value | a token, or characters between quotes with `*" "` behind them |

Two liberties are taken.  After the last semicolon there may be nothing but blanks, and the last
value may be missing (`Parameters.blanks`, `Valued.missing`).  The first character between
quotes may itself be a quote.

Parameters are read by one step for each character, and `Place.Ahead` says what may lie ahead of
each place.  A place may be the last one if nothing may lie ahead of it (`ahead_nil`); a character
may lie ahead if there is a step for it and the others may lie ahead of the next place
(`ahead_cons`).  So what is read to its end are the parameters of the grammar
(`isParameters_iff`), and a media type is read from its spellings alone (`parse?_eq_some_iff`).
-/

import Mathlib.Data.List.TakeWhile
import Mathlib.Tactic.SplitIfs
import MailGateway.Http.MediaType
import MailGateway.Proofs.Text.Separator

namespace MailGateway
namespace Http.MediaType

/-! ### Parameters -/

/-- What may stand between quotes. -/
def IsPrinted (c : Char) : Prop := 0x1F < c.toNat ∧ c.toNat ≠ 0x7F
  deriving Decidable

mutual
/-- Parameters, or blanks in their place. -/
inductive Parameters : List Char → Prop where
  | blanks {cs} (h : ∀ c ∈ cs, c = ' ') : Parameters cs
  | next {front name tail} (hfront : ∀ c ∈ front, c = ' ') (hfilled : name ≠ [])
      (hname : ∀ c ∈ name, isToken c = true) (h : Valued tail) :
      Parameters (front ++ (name ++ '=' :: tail))

/-- A value, and what follows it. -/
inductive Valued : List Char → Prop where
  | missing : Valued []
  | token {value tail} (hfilled : value ≠ []) (hvalue : ∀ c ∈ value, isToken c = true)
      (h : Ended tail) : Valued (value ++ tail)
  | quoted {first inside back tail} (hfirst : IsPrinted first)
      (hinside : ∀ c ∈ inside, IsPrinted c ∧ c ≠ '"') (hback : ∀ c ∈ back, c = ' ')
      (h : Ended tail) : Valued ('"' :: first :: (inside ++ '"' :: (back ++ tail)))

/-- What follows a value. -/
inductive Ended : List Char → Prop where
  | here : Ended []
  | semicolon {cs} (h : Parameters cs) : Ended (';' :: cs)
end

variable {text : String} {m : MediaType} {type subtype cs ps : List Char} {c : Char} {p q : Place}
variable {P : Char → Prop} {R : List Char → Prop}

/-- One character of a kind, and then the rest. -/
def First (P : Char → Prop) (R : List Char → Prop) (cs : List Char) : Prop :=
  ∃ c back, cs = c :: back ∧ P c ∧ R back

/-- Any number of characters of a kind, and then the rest. -/
def Run (P : Char → Prop) (R : List Char → Prop) (cs : List Char) : Prop :=
  ∃ front back, cs = front ++ back ∧ (∀ c ∈ front, P c) ∧ R back

@[simp] theorem first_nil : ¬First P R [] := by
  rintro ⟨c, back, h, -⟩
  cases h

@[simp] theorem first_cons : First P R (c :: cs) ↔ P c ∧ R cs := by
  constructor
  · rintro ⟨d, back, heq, hd, hback⟩
    obtain ⟨rfl, rfl⟩ := List.cons.inj heq
    exact ⟨hd, hback⟩
  · rintro ⟨hc, hcs⟩
    exact ⟨c, cs, rfl, hc, hcs⟩

@[simp] theorem run_nil : Run P R [] ↔ R [] := by
  constructor
  · rintro ⟨front, back, heq, -, hback⟩
    obtain ⟨rfl, rfl⟩ := List.append_eq_nil_iff.1 heq.symm
    exact hback
  · intro h
    exact ⟨[], [], rfl, by simp, h⟩

@[simp] theorem run_cons : Run P R (c :: cs) ↔ (P c ∧ Run P R cs) ∨ R (c :: cs) := by
  constructor
  · rintro ⟨front, back, heq, hfront, hback⟩
    cases front with
    | nil => exact .inr (heq ▸ hback)
    | cons d front =>
      obtain ⟨rfl, rfl⟩ := List.cons.inj heq
      obtain ⟨hd, hfront⟩ := List.forall_mem_cons.1 hfront
      exact .inl ⟨hd, front, back, rfl, hfront, hback⟩
  · rintro (⟨hc, front, back, rfl, hfront, hback⟩ | h)
    · exact ⟨c :: front, back, rfl, List.forall_mem_cons.2 ⟨hc, hfront⟩, hback⟩
    · exact ⟨[], c :: cs, rfl, by simp, h⟩

/-- The rest of a name, an equals sign, and a value. -/
def InName : List Char → Prop := Run (isToken · = true) (First (· = '=') Valued)

/-- The rest between quotes, the closing quote, and what follows. -/
def InQuotes : List Char → Prop :=
  Run (fun c => IsPrinted c ∧ c ≠ '"') (First (· = '"') (Run (· = ' ') Ended))

/-- What may lie ahead of a place. -/
def Place.Ahead : Place → List Char → Prop
  | .gap => Parameters
  | .name true => InName
  | .name false => First (isToken · = true) InName
  | .value true => Run (isToken · = true) Ended
  | .value false => Valued
  | .quoted true => InQuotes
  | .quoted false => First IsPrinted InQuotes
  | .behindQuote => Run (· = ' ') Ended

theorem ended_iff : Ended cs ↔ cs = [] ∨ First (· = ';') Parameters cs := by
  constructor
  · rintro (_ | h)
    · exact .inl rfl
    · exact .inr ⟨_, _, rfl, rfl, h⟩
  · rintro (rfl | ⟨_, _, rfl, rfl, h⟩)
    · exact .here
    · exact .semicolon h

theorem valued_iff : Valued cs ↔ cs = [] ∨
    First (isToken · = true) (Run (isToken · = true) Ended) cs ∨
      First (· = '"') (First IsPrinted InQuotes) cs := by
  constructor
  · rintro (_ | ⟨hfilled, hvalue, h⟩ | ⟨hfirst, hinside, hback, h⟩)
    · exact .inl rfl
    · obtain ⟨c, value, rfl⟩ := List.exists_cons_of_ne_nil hfilled
      obtain ⟨hc, hvalue⟩ := List.forall_mem_cons.1 hvalue
      exact .inr (.inl ⟨c, _, rfl, hc, value, _, rfl, hvalue, h⟩)
    · exact .inr (.inr ⟨_, _, rfl, rfl, _, _, rfl, hfirst, _, _, rfl, hinside, _, _, rfl, rfl,
        _, _, rfl, hback, h⟩)
  · rintro (rfl | ⟨c, _, rfl, hc, value, tail, rfl, hvalue, h⟩ | ⟨_, _, rfl, rfl, first, _, rfl,
      hfirst, inside, _, rfl, hinside, _, _, rfl, rfl, back, tail, rfl, hback, h⟩)
    · exact .missing
    · rw [← List.cons_append]
      exact .token (List.cons_ne_nil c value) (List.forall_mem_cons.2 ⟨hc, hvalue⟩) h
    · exact .quoted hfirst hinside hback h

theorem parameters_iff : Parameters cs ↔
    (∀ c ∈ cs, c = ' ') ∨ Run (· = ' ') (First (isToken · = true) InName) cs := by
  constructor
  · rintro (h | ⟨hfront, hfilled, hname, h⟩)
    · exact .inl h
    · obtain ⟨c, name, rfl⟩ := List.exists_cons_of_ne_nil hfilled
      obtain ⟨hc, hname⟩ := List.forall_mem_cons.1 hname
      exact .inr ⟨_, _, rfl, hfront, c, _, rfl, hc, name, _, rfl, hname, _, _, rfl, rfl, h⟩
  · rintro (h | ⟨front, _, rfl, hfront, c, _, rfl, hc, name, _, rfl, hname, _, tail, rfl, rfl, h⟩)
    · exact .blanks h
    · rw [← List.cons_append]
      exact .next hfront (List.cons_ne_nil c name) (List.forall_mem_cons.2 ⟨hc, hname⟩) h

/-- **A place may be the last one if nothing may lie ahead of it.** -/
theorem Place.ahead_nil : p.Ahead [] ↔ p.final = true := by
  cases p with
  | gap => simp [Ahead, final, parameters_iff]
  | name filled => cases filled <;> simp [Ahead, final, InName]
  | value filled => cases filled <;> simp [Ahead, final, valued_iff, ended_iff]
  | quoted filled => cases filled <;> simp [Ahead, final, InQuotes]
  | behindQuote => simp [Ahead, final, ended_iff]

/-! ### One character further -/

@[simp] theorem parameters_cons :
    Parameters (c :: cs) ↔ (c = ' ' ∧ Parameters cs) ∨ (isToken c = true ∧ InName cs) := by
  rw [parameters_iff, parameters_iff, List.forall_mem_cons, run_cons, first_cons, and_or_left,
    or_assoc]

@[simp] theorem inName_cons :
    InName (c :: cs) ↔ (isToken c = true ∧ InName cs) ∨ (c = '=' ∧ Valued cs) := by
  rw [InName, run_cons, first_cons]

@[simp] theorem ended_cons : Ended (c :: cs) ↔ c = ';' ∧ Parameters cs := by
  simp [ended_iff]

@[simp] theorem valued_cons : Valued (c :: cs) ↔
    (isToken c = true ∧ Run (isToken · = true) Ended cs) ∨
      (c = '"' ∧ First IsPrinted InQuotes cs) := by
  simp [valued_iff]

@[simp] theorem inQuotes_cons : InQuotes (c :: cs) ↔
    ((IsPrinted c ∧ c ≠ '"') ∧ InQuotes cs) ∨ (c = '"' ∧ Run (· = ' ') Ended cs) := by
  rw [InQuotes, run_cons, first_cons]

/-- The characters that divide parameters are in no token. -/
theorem not_isToken : isToken ' ' = false ∧ isToken '=' = false ∧ isToken ';' = false ∧
    isToken '"' = false := by decide

/-- **A character may lie ahead if there is a step for it** and the others may lie ahead of the
next place. -/
theorem Place.ahead_cons : p.Ahead (c :: cs) ↔ ∃ q, p.step c = some q ∧ q.Ahead cs := by
  obtain ⟨hblank, hequals, hsemicolon, hquote⟩ := not_isToken
  cases p with
  | gap =>
    by_cases hc : c = ' '
    · subst hc
      simp [Ahead, step, hblank]
    · by_cases htoken : isToken c = true <;> simp [Ahead, step, hc, htoken]
  | name filled =>
    by_cases htoken : isToken c = true
    · have hc : c ≠ '=' := fun heq => by simp [heq, hequals] at htoken
      cases filled <;> simp [Ahead, step, htoken, hc]
    · cases filled <;> by_cases hc : c = '=' <;> simp [Ahead, step, htoken, hc, hequals]
  | value filled =>
    cases filled with
    | false =>
      by_cases hc : c = '"'
      · subst hc
        simp [Ahead, step, hquote]
      · by_cases htoken : isToken c = true <;> simp [Ahead, step, hc, htoken]
    | true =>
      by_cases htoken : isToken c = true
      · have hc : c ≠ ';' := fun heq => by simp [heq, hsemicolon] at htoken
        simp [Ahead, step, htoken, hc]
      · by_cases hc : c = ';' <;> simp [Ahead, step, htoken, hc, hsemicolon]
  | quoted filled =>
    by_cases hprinted : IsPrinted c
    · have hstep : 0x1F < c.toNat ∧ c.toNat ≠ 0x7F := hprinted
      by_cases hc : c = '"'
      · subst hc
        cases filled <;> simp [Ahead, step, hprinted]
      · cases filled <;> simp [Ahead, step, hprinted, hstep, hc]
    · have hstep : ¬(0x1F < c.toNat ∧ c.toNat ≠ 0x7F) := hprinted
      have hc : c ≠ '"' := fun heq => hprinted (heq ▸ by decide)
      cases filled <;> simp [Ahead, step, hprinted, hstep, hc]
  | behindQuote =>
    by_cases hc : c = ';'
    · subst hc
      simp [Ahead, step]
    · by_cases hback : c = ' ' <;> simp [Ahead, step, hc, hback]

/-- What is read from a place to the end is what may lie ahead of it. -/
theorem Place.ahead_iff : p.Ahead cs ↔ ∃ q, cs.foldlM Place.step p = some q ∧ q.final = true := by
  induction cs generalizing p with
  | nil => simp [ahead_nil]
  | cons c cs ih =>
    rw [ahead_cons, List.foldlM_cons]
    simp only [ih, Option.bind_eq_bind, Option.bind_eq_some_iff]
    constructor
    · rintro ⟨q, hstep, last, hrest, hlast⟩
      exact ⟨last, ⟨q, hstep, hrest⟩, hlast⟩
    · rintro ⟨last, ⟨q, hstep, hrest⟩, hlast⟩
      exact ⟨q, hstep, last, hrest, hlast⟩

/-- **Parameters are read exactly if they are of the grammar.** -/
theorem isParameters_iff : isParameters cs = true ↔ Parameters cs := by
  refine Iff.trans ?_ (Place.ahead_iff (p := .gap)).symm
  unfold isParameters
  cases cs.foldlM Place.step .gap with
  | none => simp
  | some last => simp

/-! ### Suffixes -/

/-- A subtype has a suffix behind its last plus sign, unless that is its first character. -/
theorem suffix_or_notMem (cs : List Char) : '+' ∉ cs.tail ∨
    ∃ stem suffix, stem ≠ [] ∧ '+' ∉ suffix ∧ cs = stem ++ '+' :: suffix := by
  by_cases h : '+' ∈ cs.tail
  · obtain ⟨back, front, hsplit, hback⟩ := List.eq_append_cons_of_mem (List.mem_reverse.2 h)
    obtain ⟨c, tail, rfl⟩ := List.exists_cons_of_ne_nil (l := cs) (by rintro rfl; simp at h)
    refine .inr ⟨c :: front.reverse, back.reverse, List.cons_ne_nil _ _, by simpa using hback, ?_⟩
    simpa using congrArg List.reverse hsplit
  · exact .inl h

theorem splitSuffix_of_suffix {stem suffix : List Char} (hstem : stem ≠ []) (hplus : '+' ∉ suffix) :
    splitSuffix (stem ++ '+' :: suffix) = (stem, some suffix) := by
  have hback : (stem ++ '+' :: suffix).reverse = suffix.reverse ++ '+' :: stem.reverse := by simp
  have hnone : '+' ∉ suffix.reverse := by simpa using hplus
  obtain ⟨c, before, hbefore⟩ := List.exists_cons_of_ne_nil (mt List.reverse_eq_nil_iff.1 hstem)
  unfold splitSuffix
  dsimp only
  rw [hback, dropWhile_front hnone, takeWhile_front hnone, hbefore]
  dsimp only
  rw [← hbefore, List.reverse_reverse, List.reverse_reverse]

theorem splitSuffix_of_notMem (h : '+' ∉ cs.tail) : splitSuffix cs = (cs, none) := by
  have hback : cs.reverse.dropWhile (· ≠ '+') = [] ∨ cs.reverse.dropWhile (· ≠ '+') = ['+'] := by
    cases cs with
    | nil => exact .inl rfl
    | cons c tail =>
      have htail : '+' ∉ tail.reverse := by simpa using h
      rw [List.reverse_cons]
      by_cases hc : c = '+'
      · exact .inr (hc ▸ dropWhile_front htail [])
      · refine .inl (List.dropWhile_eq_nil_iff.2 fun d hd => ?_)
        have : d ≠ '+' := by
          rintro rfl
          rcases List.mem_append.1 hd with hd | hd
          · exact htail hd
          · exact hc (List.mem_singleton.1 hd).symm
        simpa using this
  unfold splitSuffix
  dsimp only
  rcases hback with hback | hback <;> rw [hback]

/-- What stands in front of a suffix is not empty. -/
theorem splitSuffix_fst_eq_nil : (splitSuffix cs).1 = [] ↔ cs = [] := by
  rcases suffix_or_notMem cs with h | ⟨stem, suffix, hstem, hplus, rfl⟩
  · rw [splitSuffix_of_notMem h]
  · rw [splitSuffix_of_suffix hstem hplus]
    simp [hstem]

/-! ### Types and subtypes -/

/-- How a media type is written. -/
structure Written (type subtype cs : List Char) : Prop where
  typeFilled : type ≠ []
  typeTokens : ∀ c ∈ type, isToken c = true
  subtypeTokens : ∀ c ∈ subtype, isToken c = true
  whole : cs = type ++ '/' :: subtype ∨
    ∃ ps, cs = type ++ '/' :: (subtype ++ ';' :: ps) ∧ subtype ≠ [] ∧ Parameters ps

/-- What is read from a type and a subtype. -/
def ofParts (type subtype : List Char) : MediaType :=
  let lower := fun (cs : List Char) => (String.ofList cs).toLower
  ⟨lower type, lower (splitSuffix subtype).1, (splitSuffix subtype).2.map lower⟩

/-- Tokens end at a character that is in none. -/
theorem takeWhile_tokens {d : Char} (h : ∀ c ∈ cs, isToken c = true) (hd : isToken d = false)
    (back : List Char) : (cs ++ d :: back).takeWhile isToken = cs ∧
      (cs ++ d :: back).dropWhile isToken = d :: back := by
  rw [List.takeWhile_append_of_pos h, List.dropWhile_append_of_pos h]
  simp [hd]

/-- Without parameters, the subtype is all that follows the slash. -/
theorem Written.dropWhile_eq (h : Written type subtype cs) (hnone : ';' ∉ cs) :
    cs.dropWhile isToken = '/' :: subtype := by
  rcases h.whole with rfl | ⟨ps, rfl, -⟩
  · exact (takeWhile_tokens h.typeTokens (by decide) subtype).2
  · simp at hnone

theorem written_of_parse? (h : parse? text = some m) :
    ∃ type subtype, Written type subtype text.toList ∧ m = ofParts type subtype := by
  unfold parse? at h
  dsimp only at h
  split at h
  · next first others rest htype hrest =>
    have htokens : ∀ cs : List Char, ∀ c ∈ cs.takeWhile isToken, isToken c = true :=
      fun _ _ hc => List.mem_takeWhile_imp hc
    have hfilled : text.toList.takeWhile isToken ≠ [] := htype ▸ List.cons_ne_nil _ _
    have hwhole : text.toList = text.toList.takeWhile isToken ++ '/' ::
        (rest.takeWhile isToken ++ rest.dropWhile isToken) := by
      rw [List.takeWhile_append_dropWhile, ← hrest, List.takeWhile_append_dropWhile]
    split at h
    · next hend =>
      rw [hend, List.append_nil] at hwhole
      exact ⟨_, _, ⟨hfilled, htokens _, htokens _, .inl hwhole⟩, (Option.some.inj h).symm⟩
    · next ps hps =>
      rw [hps] at hwhole
      split at h
      · next hform =>
        have hsubtype := mt splitSuffix_fst_eq_nil.2 hform.1
        exact ⟨_, _, ⟨hfilled, htokens _, htokens _, .inr ⟨ps, hwhole, hsubtype,
          isParameters_iff.1 hform.2⟩⟩, (Option.some.inj h).symm⟩
      · cases h
    · cases h
  · cases h

theorem Written.parse? (h : Written type subtype text.toList) :
    MediaType.parse? text = some (ofParts type subtype) := by
  have hslash : isToken '/' = false := by decide
  have hsemicolon : isToken ';' = false := by decide
  obtain ⟨c, others, rfl⟩ := List.exists_cons_of_ne_nil h.typeFilled
  unfold MediaType.parse?
  dsimp only
  rcases h.whole with hwhole | ⟨ps, hwhole, hfilled, hps⟩
  · have htake : subtype.takeWhile isToken = subtype := List.takeWhile_eq_self_iff.2 h.subtypeTokens
    have hdrop : subtype.dropWhile isToken = [] := List.dropWhile_eq_nil_iff.2 h.subtypeTokens
    obtain ⟨hfront, hback⟩ := takeWhile_tokens h.typeTokens hslash subtype
    rw [hwhole, hfront, hback]
    simp only [htake, hdrop]
    rfl
  · obtain ⟨htake, hdrop⟩ := takeWhile_tokens h.subtypeTokens hsemicolon ps
    have hform : (splitSuffix subtype).1 ≠ [] ∧ isParameters ps = true :=
      ⟨mt splitSuffix_fst_eq_nil.1 hfilled, isParameters_iff.2 hps⟩
    obtain ⟨hfront, hback⟩ := takeWhile_tokens h.typeTokens hslash (subtype ++ ';' :: ps)
    rw [hwhole, hfront, hback]
    simp only [htake, hdrop, if_pos hform]
    rfl

/-- **A media type is read exactly from its spellings.** -/
theorem parse?_eq_some_iff : parse? text = some m ↔
    ∃ type subtype, Written type subtype text.toList ∧ m = ofParts type subtype := by
  refine ⟨written_of_parse?, ?_⟩
  rintro ⟨type, subtype, h, rfl⟩
  exact h.parse?

/-! ### JSON -/

/-- A subtype of JSON, in lower case: `json`, or a suffix with `json` on one side of it. -/
def IsJsonSubtype (cs : List Char) : Prop :=
  cs = "json".toList ∨ (∃ stem, stem ≠ [] ∧ cs = stem ++ "+json".toList) ∨
    ∃ suffix, '+' ∉ suffix ∧ cs = "json+".toList ++ suffix

theorem isJsonSubtype_iff : IsJsonSubtype cs ↔
    (splitSuffix cs).1 = "json".toList ∨ (splitSuffix cs).2 = some "json".toList := by
  constructor
  · rintro (rfl | ⟨stem, hstem, rfl⟩ | ⟨suffix, hsuffix, rfl⟩)
    · exact .inl (congrArg Prod.fst (splitSuffix_of_notMem (by decide)))
    · exact .inr (congrArg Prod.snd (splitSuffix_of_suffix hstem (by decide)))
    · have hstem : "json".toList ≠ [] := by decide
      exact .inl (congrArg Prod.fst (splitSuffix_of_suffix hstem hsuffix))
  · intro h
    rcases suffix_or_notMem cs with hplus | ⟨stem, suffix, hstem, hplus, rfl⟩
    · rw [splitSuffix_of_notMem hplus] at h
      exact .inl (h.resolve_right (by simp))
    · rw [splitSuffix_of_suffix hstem hplus] at h
      rcases h with rfl | hsuffix
      · exact .inr (.inr ⟨suffix, hplus, rfl⟩)
      · obtain rfl := Option.some.inj hsuffix
        exact .inr (.inl ⟨stem, hstem, rfl⟩)

theorem toLower_eq_plus : c.toLower = '+' ↔ c = '+' := by
  constructor
  · intro h
    unfold Char.toLower at h
    split at h
    · next hupper =>
      have hval : (c.val.toNat + 32) % 2 ^ 32 = 43 := congrArg (fun c : Char => c.val.toNat) h
      have hlow : 65 ≤ c.val.toNat := hupper.1
      have hhigh : c.val.toNat ≤ 90 := hupper.2
      omega
    · exact h
  · rintro rfl
    rfl

theorem splitSuffix_toLower (cs : List Char) : splitSuffix (cs.map Char.toLower) =
    ((splitSuffix cs).1.map Char.toLower, (splitSuffix cs).2.map (List.map Char.toLower)) := by
  have hlower : ∀ {ds : List Char}, '+' ∉ ds → '+' ∉ ds.map Char.toLower := by
    intro ds hds hmem
    obtain ⟨d, hd, hplus⟩ := List.mem_map.1 hmem
    exact hds (toLower_eq_plus.1 hplus ▸ hd)
  rcases suffix_or_notMem cs with hplus | ⟨stem, suffix, hstem, hplus, rfl⟩
  · rw [splitSuffix_of_notMem hplus, splitSuffix_of_notMem (by simpa using hlower hplus)]
    rfl
  · rw [splitSuffix_of_suffix hstem hplus, List.map_append, List.map_cons,
      toLower_eq_plus.2 rfl, splitSuffix_of_suffix (by simpa using hstem) (hlower hplus)]
    rfl

theorem toLower_eq_iff {s : String} :
    (String.ofList cs).toLower = s ↔ cs.map Char.toLower = s.toList := by
  have hspelled : (String.ofList cs).toLower = (String.ofList cs).map Char.toLower := rfl
  rw [hspelled, ← String.toList_inj, String.toList_map, String.toList_ofList]

/-- **A type is JSON by its two names, whatever their case.** -/
theorem isJson_ofParts : (ofParts type subtype).isJson = true ↔
    type.map Char.toLower = "application".toList ∧
      IsJsonSubtype (subtype.map Char.toLower) := by
  rw [isJsonSubtype_iff, splitSuffix_toLower, isJson, ofParts]
  cases hsuffix : (splitSuffix subtype).2 with
  | none => simp [toLower_eq_iff]
  | some suffix => simp [toLower_eq_iff]

end Http.MediaType
end MailGateway
