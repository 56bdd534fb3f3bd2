/-
# Grace periods, from their own words

The grace period is the one setting that is written otherwise than it is kept: as a duration in
words.  Where it is read, its words might be taken for something else before: a file takes
unquoted words for numbers where they look like some, and so does the environment.  Words of
durations never do (`ofPlain_of_isMeasure`, `not_isGuessed_of_isMeasure`), they can stand in a
file as they are (`parse_gracePeriod`), and they are read back (`Duration.ofText_text`).  So a
grace period survives writing and loading, from a file or from the environment, whatever the other
settings are (`gracePeriod_loaded_back`).
-/

import MailGateway.Proofs.Config.Override
import MailGateway.Proofs.Duration.Counts
import MailGateway.Proofs.Yaml.OneSetting

namespace MailGateway
namespace Config

variable {files : Files.Tree} {env : Environment} {file : Option String} {base : Layer}
  {text : String} {d : Duration}

/-! ### What words of durations are not -/

/-- No numeral goes on, behind digits, like the name of a unit. -/
theorem not_numeral_of_mem_initials : ∀ x ∈ Duration.initials,
    x.isDigit = false ∧ x ≠ '.' ∧ x ≠ 'e' ∧ x ≠ 'E' ∧ x ≠ 'x' ∧ x ≠ 'o' :=
  List.all_iff_forall_prop.1 (by decide)

/-- The first character of a measure is a digit. -/
theorem exists_cons_of_isMeasure {cs : List Char} (h : Duration.IsMeasure cs) :
    ∃ y ys, cs = y :: ys ∧ y.isDigit = true := by
  obtain ⟨digits, x, rest, rfl, hne, hdigits, -⟩ := h
  obtain ⟨y, ys, rfl⟩ := List.exists_cons_of_ne_nil hne
  exact ⟨y, ys ++ x :: rest, rfl, hdigits y List.mem_cons_self⟩

/-- What does not begin with a digit is no measure. -/
theorem ne_of_isMeasure (word : String) (h : Duration.IsMeasure text.toList)
    (hword : word.toList.head?.all (fun c => !c.isDigit) = true) : text ≠ word := by
  rintro rfl
  obtain ⟨y, ys, htext, hy⟩ := exists_cons_of_isMeasure h
  rw [htext] at hword
  simp [hy] at hword

theorem toLower_of_isDigit {y : Char} (h : y.isDigit = true) : y.toLower = y := by
  have hrange := Numeral.toNat_of_isDigit h
  rw [Char.toLower, dif_neg]
  rw [ge_iff_le, UInt32.le_iff_toNat_le]
  have hletter : 'A'.val.toNat = 65 := rfl
  change ¬('A'.val.toNat ≤ y.toNat ∧ _)
  omega

/-- Behind its first character no measure has the sign of a base. -/
theorem second_of_isMeasure {cs : List Char} (h : Duration.IsMeasure cs) :
    ∀ a b rest, cs = a :: b :: rest → b ≠ 'x' ∧ b ≠ 'o' := by
  obtain ⟨digits, x, back, rfl, hne, hdigits, hx⟩ := h
  intro a b rest heq
  obtain ⟨y, ys, rfl⟩ := List.exists_cons_of_ne_nil hne
  cases ys with
  | nil =>
    obtain rfl : x = b := (List.cons.inj (List.cons.inj heq).2).1
    exact (not_numeral_of_mem_initials x hx).2.2.2.2
  | cons z zs =>
    obtain rfl : z = b := (List.cons.inj (List.cons.inj heq).2).1
    have hz : z.isDigit = true := hdigits z (by simp)
    constructor <;> rintro rfl <;> cases hz

theorem ofUnsigned?_of_isMeasure {cs : List Char} (h : Duration.IsMeasure cs) :
    Binary64.ofUnsigned? false cs = none := by
  obtain ⟨y, ys, hcons, hy⟩ := exists_cons_of_isMeasure h
  have hword : ∀ word : String, word.toList.head?.all (fun c => !c.isDigit) = true →
      String.ofList (cs.map Char.toLower) ≠ word := by
    rintro word hword rfl
    rw [String.toList_ofList, hcons, List.map_cons, toLower_of_isDigit hy] at hword
    simp [hy] at hword
  obtain ⟨digits, x, rest, rfl, -, hdigits, hx⟩ := h
  obtain ⟨hdigit, hdot, he, hE, -⟩ := not_numeral_of_mem_initials x hx
  have hstop : ¬x.isDigit = true := by simp [hdigit]
  have hfront : (digits ++ x :: rest).takeWhile Char.isDigit = digits := by
    rw [List.takeWhile_append_of_pos hdigits, List.takeWhile_cons_of_neg hstop, List.append_nil]
  have hback : (digits ++ x :: rest).dropWhile Char.isDigit = x :: rest := by
    rw [List.dropWhile_append_of_pos hdigits, List.dropWhile_cons_of_neg hstop]
  have hexponent : Binary64.exponent? (x :: rest) = none := by
    unfold Binary64.exponent?
    split
    · next heq => exact absurd (List.cons.inj heq).1 he
    · next heq => exact absurd (List.cons.inj heq).1 hE
    · next heq => cases heq
    · rfl
  have hofDigits : Binary64.ofDigits? false (digits ++ x :: rest) = none := by
    unfold Binary64.ofDigits?
    dsimp only
    rw [hfront, hback]
    split
    · next hread =>
      split at hread
      · next heq => exact absurd (List.cons.inj heq).1 hdot
      · rw [hexponent] at hread
        cases hread
    · rfl
  have hinf := hword "inf" (by decide)
  have hinfinity := hword "infinity" (by decide)
  have hnan := hword "nan" (by decide)
  simp only [Binary64.ofUnsigned?, hinf, hinfinity, hnan, hofDigits, decide_false, Bool.or_self,
    Bool.false_eq_true, ↓reduceIte]

theorem ofNumeral?_of_isMeasure (h : Duration.IsMeasure text.toList) :
    Binary64.ofNumeral? text = none := by
  obtain ⟨y, ys, hcons, hy⟩ := exists_cons_of_isMeasure h
  have hsign : ∀ sign : Char, sign.isDigit = false → ∀ cs, text.toList ≠ sign :: cs := by
    rintro sign hsign cs heq
    rw [hcons] at heq
    rw [(List.cons.inj heq).1, hsign] at hy
    cases hy
  rw [ofNumeral?_unsigned (hsign '-' (by decide)) (hsign '+' (by decide))]
  exact ofUnsigned?_of_isMeasure h

theorem not_isGuessed_of_isMeasure (h : Duration.IsMeasure text.toList) : ¬IsGuessed text := by
  obtain ⟨y, ys, hcons, hy⟩ := exists_cons_of_isMeasure h
  have hlower : (Text.lower text).toList.head? = some y := by
    have hrange := Numeral.toNat_of_isDigit hy
    have hsigma : y ≠ 'Σ' := by
      rintro rfl
      cases hy
    have hchar : Text.lowerChar y = [y] := by
      have hascii : y.toNat < 0x80 := by omega
      simp only [Text.lowerChar, hascii, ↓reduceIte, toLower_of_isDigit hy]
    rw [Text.lower, String.toList_ofList, hcons, Text.lowerFrom, if_neg hsigma, hchar]
    rfl
  rintro (htrue | hfalse | hnumeral)
  · rw [htrue] at hlower
    obtain rfl : 't' = y := Option.some.inj hlower
    cases hy
  · rw [hfalse] at hlower
    obtain rfl : 'f' = y := Option.some.inj hlower
    cases hy
  · rw [ofNumeral?_of_isMeasure h] at hnumeral
    cases hnumeral

/-- Unquoted words that are no texts. -/
def reserved : List String := ["", "~", "null", "true", "false"]

/-- A file takes for a text what it takes for nothing else. -/
theorem ofPlain_eq_string (hinteger : Yaml.Node.ofInteger? text = none)
    (hreal : Yaml.Node.isReal text = false) (hreserved : ∀ word ∈ reserved, text ≠ word) :
    Yaml.Node.ofPlain text = .string text := by
  have hne : ∀ word, word ∈ reserved → (decide (text = word)) = false := fun word hword =>
    decide_eq_false (hreserved word hword)
  simp only [Yaml.Node.ofPlain, hinteger, hreal, hne "" (by decide), hne "~" (by decide),
    hne "null" (by decide), hreserved "true" (by decide), hreserved "false" (by decide),
    Bool.or_self, Bool.false_eq_true, ↓reduceIte]

/-- A file takes an unquoted measure for a text. -/
theorem ofPlain_of_isMeasure (h : Duration.IsMeasure text.toList) :
    Yaml.Node.ofPlain text = .string text := by
  have hreal := ofNumeral?_of_isMeasure h
  have hdecimal : Yaml.Node.inBase? 10 text.toList = none := by
    cases hdecimal : Yaml.Node.inBase? 10 text.toList with
    | none => rfl
    | some n =>
      have hsome := isSome_ofNumeral?_of_inBase? hdecimal
      rw [hreal] at hsome
      cases hsome
  have hinteger : Yaml.Node.ofInteger? text = none := by
    obtain ⟨y, ys, hcons, hy⟩ := exists_cons_of_isMeasure h
    have hsecond := second_of_isMeasure h
    unfold Yaml.Node.ofInteger?
    dsimp only
    split
    · next heq => exact absurd rfl (hsecond _ _ _ heq).1
    · next heq => exact absurd rfl (hsecond _ _ _ heq).2
    · next heq =>
      rw [hcons] at heq
      rw [(List.cons.inj heq).1] at hy
      cases hy
    · rw [hdecimal]
      rfl
  have hword : Yaml.Node.wordFor.lookup text = none := by
    have hwords : ∀ word ∈ Yaml.Node.wordFor,
        word.1.toList.head?.all (fun c => !c.isDigit) = true := by decide
    refine List.lookup_eq_none_iff.2 fun word hword => ?_
    simpa using ne_of_isMeasure word.1 h (hwords word hword)
  refine ofPlain_eq_string hinteger ?_ fun word hreserved => ?_
  · rw [Yaml.Node.isReal, hword, hreal]
    rfl
  · have hwords : ∀ word ∈ reserved, word.toList.head?.all (fun c => !c.isDigit) = true := by
      decide
    exact ne_of_isMeasure word h (hwords word hreserved)

/-- Names of units are written with letters that need no quotes. -/
theorem isWordChar_written (unit : TimeUnit) :
    (Duration.written unit).1.toList.all Yaml.isWordChar = true ∧
      (Duration.written unit).2.toList.all Yaml.isWordChar = true := by
  cases unit <;> decide

theorem isWord_count (c : Duration.Count) : Yaml.IsWord c.text.toList := by
  obtain ⟨y, ys, hcons, -⟩ := c.exists_text
  refine ⟨by simp [hcons], fun x hx => ?_⟩
  rw [c.toList_text, List.mem_append] at hx
  rcases hx with hx | hx
  · simp [Yaml.isWordChar, Char.isAlphanum, c.isDigit_number x hx]
  · have hname : c.name.toList.all Yaml.isWordChar = true := by
      unfold Duration.Count.name
      split
      · exact (isWordChar_written c.unit).1
      · exact (isWordChar_written c.unit).2
    exact List.all_eq_true.1 hname x hx

/-- A duration is words with a blank between two of them. -/
theorem isWords_text (d : Duration) : Yaml.IsWords d.text := by
  rw [Duration.text_eq]
  split
  · exact ⟨[['0', 's']], by decide,
      List.forall_mem_singleton.2 (Yaml.isWord_of_all (by decide) (by decide)), rfl⟩
  · next hne =>
    refine ⟨d.writtenCounts.map fun c => c.text.toList, by simpa using hne, ?_, ?_⟩
    · intro w hw
      obtain ⟨c, -, rfl⟩ := List.mem_map.1 hw
      exact isWord_count c
    · exact String.toList_ofList

/-- The name of a setting is a word, and a file takes it for a text. -/
theorem isWord_name (f : Field) : Yaml.IsWord f.name.toList := by
  cases f <;> exact Yaml.isWord_of_all (by decide) (by decide)

theorem ofPlain_name (f : Field) : Yaml.Node.ofPlain f.name = .string f.name := by
  have hnot : Yaml.Node.ofInteger? f.name = none ∧ Yaml.Node.isReal f.name = false ∧
      f.name ∉ reserved := by
    cases f <;> decide
  obtain ⟨hinteger, hreal, hreserved⟩ := hnot
  refine ofPlain_eq_string hinteger hreal fun word hword hname => ?_
  exact hreserved (hname ▸ hword)

/-- A line of the name and the words is the setting in a file. -/
theorem parse_gracePeriod (d : Duration) :
    Yaml.Node.parse (Field.gracePeriod.name ++ ": " ++ d.text ++ "\n") =
      .ok [.mapping [(.string Field.gracePeriod.name, .string d.text)]] := by
  rw [Yaml.parse_setting (isWord_name _) (by decide) (ofPlain_name _) (isWords_text d),
    ofPlain_of_isMeasure d.isMeasure_text]

/-! ### Loading -/

/-- The value of a duration's words, wherever they are from. -/
def words (d : Duration) (origin : Option String) : Value := .scalar (.text d.text) origin

theorem ofEnvironment_text (d : Duration) :
    Value.ofEnvironment d.text = words d environmentOrigin := by
  rw [Value.ofEnvironment, ofText_of_not_isGuessed (not_isGuessed_of_isMeasure d.isMeasure_text),
    words]

theorem read_words (h : d.Fits) (origin : Option String) :
    Field.read .gracePeriod (words d origin) = .ok d := by
  rw [words, Field.read, Value.toDuration, Duration.ofText_text h]

theorem alone_words (h : d.Fits) (origin : Option String) :
    alone .gracePeriod (words d origin) = .ok { gracePeriod := d } := by
  refine (alone_eq_ok_iff ⟨_, _, rfl⟩).2 ⟨read_words h origin, fun g hg => ?_⟩
  cases g <;> first | rfl | exact absurd rfl hg

/-- The layer of a file with a duration's words for the grace period, and nothing else. -/
theorem ofYaml_words {origin : String}
    (h : Yaml.Node.parse text = .ok [.mapping [(.string Field.gracePeriod.name, .string d.text)]]) :
    Layer.ofYaml origin text = .ok [(Field.gracePeriod.name, words d origin)] := by
  rw [Layer.ofYaml, h]
  rfl

/-- A duration's words are what counts for the grace period: those of the environment, or else
those of a file. -/
def GivesWords (base : Layer) (env : Environment) (d : Duration) : Prop :=
  env.get? Field.gracePeriod.variableName = some d.text ∨
    env.get? Field.gracePeriod.variableName = none ∧
      ∃ origin, base.last? Field.gracePeriod.name = some (words d origin)

theorem GivesWords.winner? (h : GivesWords base env d) :
    ∃ origin, winner? base env .gracePeriod = some (words d origin) := by
  rcases h with hvariable | ⟨hnone, origin, hlast⟩
  · refine ⟨environmentOrigin, ?_⟩
    rw [Config.winner?, hvariable, Option.map_some, Option.some_or, ofEnvironment_text]
  · refine ⟨origin, ?_⟩
    rw [Config.winner?, hnone, Option.map_none, Option.none_or, hlast]

/-- The words of a duration are never the fault of a file or of the environment, and they are
the grace period wherever the other settings load. -/
theorem load_of_givesWords (h : d.Fits) (hbase : baseLayer files file = .ok base)
    (hplain : base.Plain) (hcanonical : env.Canonical) (hwords : GivesWords base env d) :
    (∀ s, load files env file = .ok s → s.gracePeriod = d) ∧
    ((∃ s, load files env file = .ok s) ↔
      ∀ f, f ≠ .gracePeriod → ∀ v, winner? base env f = some v → ∃ s, alone f v = .ok s) := by
  obtain ⟨origin, hwinner⟩ := hwords.winner?
  obtain ⟨hlayers, hplace⟩ := canonical_layers hplain hcanonical
  rw [load_of_baseLayer hbase]
  constructor
  · intro s hs
    have hread := (ofLayers_eq_ok_iff hlayers hplace).1 hs .gracePeriod
    rw [last?_layers hcanonical.direct, hwinner, Field.readMember, read_words h] at hread
    exact (Except.ok.inj hread).symm
  · rw [exists_ofLayers_iff hlayers hplace]
    constructor
    · intro hfields f _ v hv
      refine (exists_alone_iff (isScalar_of_winner? hplain hv)).2 ?_
      simpa only [last?_layers hcanonical.direct, hv, Field.readMember] using hfields f
    · intro hothers f
      rw [last?_layers hcanonical.direct]
      by_cases hf : f = .gracePeriod
      · rw [hf, hwinner]
        exact ⟨d, read_words h origin⟩
      · cases hv : winner? base env f with
        | none => exact ⟨_, rfl⟩
        | some v => exact (exists_alone_iff (isScalar_of_winner? hplain hv)).1 (hothers f hf v hv)

/-- **A grace period survives writing and loading.**  Its words give it back:

* from the environment alone, and from a file that has them for its only setting;
* such a file is one line of the name, a colon and the words, which need no quotes;
* beside other settings, with the file under the environment: the words are no fault, and where
  the others load the grace period is what was written. -/
theorem gracePeriod_loaded_back (d : Duration) (h : d.Fits) :
    (∀ files, load files [(Field.gracePeriod.variableName, d.text)] none =
      .ok { gracePeriod := d }) ∧
    (∀ files path found text, readable? files path = some found → files.read found = .ok text →
      Yaml.Node.parse text = .ok [.mapping [(.string Field.gracePeriod.name, .string d.text)]] →
      load files [] (some path) = .ok { gracePeriod := d }) ∧
    Yaml.Node.parse (Field.gracePeriod.name ++ ": " ++ d.text ++ "\n") =
      .ok [.mapping [(.string Field.gracePeriod.name, .string d.text)]] ∧
    (∀ files env file base, baseLayer files file = .ok base → base.Plain → env.Canonical →
      GivesWords base env d →
      (∀ s, load files env file = .ok s → s.gracePeriod = d) ∧
      ((∃ s, load files env file = .ok s) ↔
        ∀ f, f ≠ .gracePeriod → ∀ v, winner? base env f = some v → ∃ s, alone f v = .ok s)) := by
  refine ⟨fun files => ?environment, fun files path found text hfound htext hparse => ?file,
    parse_gracePeriod d, fun files env file base hbase hplain hcanonical hwords =>
      load_of_givesWords h hbase hplain hcanonical hwords⟩
  case environment =>
    rw [load_eq_alone_of_variable, ofEnvironment_text, alone_words h]
  case file =>
    have hbase : baseLayer files (some path) =
        .ok [(Field.gracePeriod.name, words d (originOf found))] := by
      simp only [baseLayer, Layer.ofFile, hfound, htext, ofYaml_words hparse]
      rfl
    exact (load_eq_alone_of_baseLayer ⟨_, _, rfl⟩ hbase).trans (alone_words h _)

/-- A file with the longest grace period of all. -/
def longestGrace : Files.Tree :=
  { entries := [(["c"], .file ("shutdown_grace_period: " ++
      "584542046090years 7months 15days 17h 5m 3s 999ms 999us 999ns\n"))] }

/-- The longest grace period, from the environment and from a file. -/
theorem gracePeriod_loaded_back_longest :
    let d : Duration := ⟨18446744073709551615, 999999999⟩
    d.Fits ∧
      d.text = "584542046090years 7months 15days 17h 5m 3s 999ms 999us 999ns" ∧
      load {} [("EMAIL_BACKEND_SHUTDOWN_GRACE_PERIOD", d.text)] none =
        .ok { gracePeriod := d } ∧
      load longestGrace [] (some "c") = .ok { gracePeriod := d } := by
  intro d
  have hfits : d.Fits := ⟨by decide, by decide⟩
  have htext : d.text = "584542046090years 7months 15days 17h 5m 3s 999ms 999us 999ns" := by
    decide
  have hname : Field.gracePeriod.variableName = "EMAIL_BACKEND_SHUTDOWN_GRACE_PERIOD" := by
    decide +kernel
  have hfound : readable? longestGrace "c" = some "c" := by cbv
  have hread : longestGrace.read "c" =
      .ok (Field.gracePeriod.name ++ ": " ++ d.text ++ "\n") := by
    rw [htext]
    cbv
  obtain ⟨hvariable, hfile, hline, -⟩ := gracePeriod_loaded_back d hfits
  exact ⟨hfits, htext, hname ▸ hvariable {}, hfile longestGrace "c" "c" _ hfound hread hline⟩

end Config
end MailGateway
