/-
# One language of ports

A port comes from the environment or from the command line, and each has a reader of its own.

| | reads | then asks for |
| --- | --- | --- |
| environment | a truth value, or a number, or a text | a whole number below 65536 |
| command line | a whole number of 64 bits | one below 65536 |

Both take the same texts for the same port: the numerals that stand for it
(`toPort_ofEnvironment_eq_ok_iff`, `port_eq_ok_iff`).  Every other text is refused, so there is no
text that is cut down to a port (`port_same_from_both`).
-/

import MailGateway.Proofs.CommandLine.Options
import MailGateway.Proofs.Config.Variable
import MailGateway.Proofs.Text.Numerals

namespace MailGateway

namespace Config

variable {text : String} {n : Port} {z : Int}

/-- A whole number of 64 bits is taken for one by the environment. -/
theorem ofText_of_spells (h : Numeral.Spells text.toList z) (hle : -2 ^ 63 ≤ z) (hlt : z < 2 ^ 63) :
    Scalar.ofText text = .integer z := by
  have hlower : Text.lower text = text := Text.lower_of_not_isUpper h.plain
  have hread : Yaml.Node.inBase? 10 text.toList = some z := by
    rw [Yaml.Node.inBase?_ten, Numeral.signed?_eq_some_iff.2 h]
    exact Option.filter_eq_some_iff.2 ⟨rfl, decide_eq_true ⟨hle, hlt⟩⟩
  have hword (word : String) (hword : Yaml.Node.inBase? 10 word.toList = none) : text ≠ word := by
    rintro rfl
    rw [hread] at hword
    cases hword
  simp only [Scalar.ofText, hlower, if_neg (hword "true" (by decide)),
    if_neg (hword "false" (by decide)), hread]

/-- The environment takes nothing else for a whole number. -/
theorem spells_of_ofText (h : Scalar.ofText text = .integer z) : Numeral.Spells text.toList z := by
  unfold Scalar.ofText at h
  dsimp only at h
  split at h
  · cases h
  split at h
  · cases h
  split at h
  · next m hm =>
    obtain rfl := Scalar.integer.inj h
    rw [Yaml.Node.inBase?_ten] at hm
    exact Numeral.signed?_eq_some_iff.1 (Option.filter_eq_some_iff.1 hm).1
  split at h <;> cases h

theorem toPort_eq_ok_iff {v : Value} :
    v.toPort = .ok n ↔ ∃ origin, v = .scalar (.integer n.val) origin := by
  constructor
  · intro h
    unfold Value.toPort at h
    split at h
    · next m origin =>
      split at h
      · next hlt =>
        split at h
        · next hle =>
          obtain rfl := Except.ok.inj h
          exact ⟨origin, by rw [Int.toNat_of_nonneg hle]⟩
        · cases h
      · cases h
    · cases h
  · rintro ⟨origin, rfl⟩
    have hlt : (n.val : Int).toNat < 65536 := n.isLt
    have hle : (0 : Int) ≤ n.val := Int.natCast_nonneg _
    rw [Value.toPort, dif_pos hlt, if_pos hle]
    rfl

/-- **The environment takes the numerals of a port for it.** -/
theorem toPort_ofEnvironment_eq_ok_iff :
    (Value.ofEnvironment text).toPort = .ok n ↔ Numeral.Spells text.toList n.val := by
  rw [toPort_eq_ok_iff]
  have hlt := n.isLt
  constructor
  · rintro ⟨origin, h⟩
    exact spells_of_ofText (Value.scalar.inj h).1
  · intro h
    exact ⟨_, by rw [Value.ofEnvironment, ofText_of_spells h (by omega) (by omega)]⟩

/-- A value that is no port is refused for its kind or for its size, which does not end the
program. -/
theorem isFatal_of_toPort {v : Value} {refusal : Refusal} (h : v.toPort = .error refusal) :
    (LoadError.refused refusal).isFatal = false := by
  unfold Value.toPort at h
  split at h
  · split at h
    · split at h
      · cases h
      · obtain rfl := Except.error.inj h
        rfl
    · obtain rfl := Except.error.inj h
      rfl
  · obtain rfl := Except.error.inj h
    rfl

open Environment (around)

variable {files : Files.Tree} {file : Option String} {s : Settings} {before after : Environment}
  {text₀ : String}

section Load

variable (hcanonical : (around before after .port text₀).Canonical)
  (hload : load files (around before after .port text₀) file = .ok s)
include hcanonical hload

/-- A variable with a numeral of a port sets the port, and nothing else. -/
theorem load_port (h : Numeral.Spells text.toList n.val) :
    load files (around before after .port text) file = .ok { s with port := n } := by
  obtain ⟨s', hs', hport, hothers⟩ :=
    load_variable hcanonical hload (toPort_ofEnvironment_eq_ok_iff.2 h)
  rw [hs']
  refine congrArg Except.ok (Settings.ext_get fun f => ?_)
  cases f with
  | port => exact hport
  | _ => exact hothers _ (by decide)

/-- A variable with any other text is refused. -/
theorem load_not_port (h : ¬∃ n : Port, Numeral.Spells text.toList n.val) :
    ∃ refusal, load files (around before after .port text) file = .error (.refused refusal) ∧
      (LoadError.refused refusal).isFatal = false := by
  cases hread : (Value.ofEnvironment text).toPort with
  | ok n => exact absurd ⟨n, toPort_ofEnvironment_eq_ok_iff.1 hread⟩ h
  | error refusal =>
    exact ⟨refusal, load_variable_error hcanonical hload hread, isFatal_of_toPort hread⟩

end Load

end Config

namespace CommandLine

variable {text : String} {n : Port}

/-- **The command line takes the numerals of a port for it.** -/
theorem port_eq_ok_iff : port text = .ok n ↔ Numeral.Spells text.toList n.val := by
  have hlt := n.isLt
  rw [port, bind_eq_ok_iff]
  constructor
  · rintro ⟨z, hz, hport⟩
    split at hport
    · next hrange =>
      obtain rfl := Except.ok.inj hport
      dsimp only
      rw [Int.toNat_of_nonneg hrange.1]
      exact (signed_eq_ok_iff.1 hz).1
    · cases hport
  · intro h
    refine ⟨n.val, signed_eq_ok_iff.2 ⟨h, by omega, by omega⟩, ?_⟩
    rw [dif_pos ⟨Int.natCast_nonneg _, hlt⟩]
    rfl

theorem write_port (text : String) : write (.port, some text) = "--port=" ++ text := by
  have hname : "--" ++ Choice.port.spelling.long ++ "=" = "--port=" := by decide
  rw [write, ← hname]

/-- The word for a port is taken in as its text is read. -/
theorem word_port (text : String) :
    Level.word ⟨some .serve, [], [], .nothing, false⟩ (write (.port, some text)) =
      match port text with
      | .ok _ => .ok ⟨some .serve, [(.port, some text)], [], .nothing, false⟩
      | .error fault => .error (.badPort text fault) := by
  have hlong : long? (some .serve) Choice.port.spelling.long = some .port := long?_long (by decide)
  have hvalue : Choice.port.spelling.value = some ("PORT", .port) := rfl
  rw [word_write_eq, Level.long, hlong]
  simp only [hvalue, Level.option, Level.settle, Level.accept, Level.has, checkValue,
    bind, Except.bind, List.any_nil]
  cases port text <;> rfl

/-- **A command line with a port** is read as its text is. -/
theorem parse_port (text : String) : parse ["serve", "--port=" ++ text] =
    match port text with
    | .ok n => .ok { command := .serve { port := some n } }
    | .error fault => .error (.badPort text fault) := by
  have hverb : Verb.ofWord? "serve" = some .serve := by decide
  have hwords : Level.words { place := some .serve } ["--port=" ++ text] =
      Level.word ⟨some .serve, [], [], .nothing, false⟩ (write (.port, some text)) >>= pure := by
    rw [write_port]
    rfl
  simp only [parse, parseFrom, Level.isWaiting, Bool.or_self, Bool.false_eq_true, ↓reduceIte,
    hverb, parseVerb, hwords, word_port]
  cases hport : port text with
  | error fault => rfl
  | ok n =>
    have hcommand : Level.command ⟨some .serve, [(.port, some text)], [], .nothing, false⟩ .serve =
        .ok (.serve { port := some n }) := by
      have hport' : (port text).toOption = some n := by rw [hport]; rfl
      change Except.ok (Command.serve
        ⟨none, ((some text).bind fun s => (port s).toOption), none, none, false⟩) = _
      rw [Option.bind_some, hport']
    simp only [bind, Except.bind, pure, Except.pure, Level.settle, hcommand]
    rfl

open Config (Environment Settings LoadError)
open Config.Environment (around)

variable {files : Files.Tree} {file : Option String} {s : Settings} {before after : Environment}
  {text₀ : String}

/-- **A text is the same port from both.**  Where some text of the variable gives settings, so that
the file and the other variables are in order, each numeral of a port does, and it gives exactly
this port and changes nothing else; behind the option it is the same port.  A text
that is no numeral of a port gives none, which is an error that is reported. -/
theorem port_same_from_both (hcanonical : (around before after .port text₀).Canonical)
    (hload : Config.load files (around before after .port text₀) file = .ok s) (text : String) :
    let loaded := Config.load files (around before after .port text) file
    let parsed := parse ["serve", "--port=" ++ text]
    (∀ n : Port, (∃ s', loaded = .ok s' ∧ s'.port = n) ↔ Numeral.Spells text.toList n.val) ∧
    (∀ n : Port, (∃ o, parsed = .ok { command := .serve o } ∧ ∀ s', (o.apply s').port = n) ↔
      Numeral.Spells text.toList n.val) ∧
    (∀ s', loaded = .ok s' → s' = { s with port := s'.port }) ∧
    ((¬∃ n : Port, Numeral.Spells text.toList n.val) →
      (∃ refusal, loaded = .error (.refused refusal) ∧
        (LoadError.refused refusal).isFatal = false) ∧
      ∃ fault, parsed = .error (.badPort text fault)) := by
  intro loaded parsed
  have hparsed : parsed = _ := parse_port text
  -- the text is a port for both readers, or for neither
  by_cases hspells : ∃ n : Port, Numeral.Spells text.toList n.val
  · obtain ⟨n, hn⟩ := hspells
    have hloaded : loaded = .ok { s with port := n } := Config.load_port hcanonical hload hn
    rw [port_eq_ok_iff.2 hn] at hparsed
    have honly {m : Port} (hm : Numeral.Spells text.toList m.val) : n = m :=
      Except.ok.inj ((port_eq_ok_iff.2 hn).symm.trans (port_eq_ok_iff.2 hm))
    refine ⟨fun m => ⟨?_, fun hm => ⟨_, hloaded, honly hm⟩⟩,
      fun m => ⟨?_, fun hm => ⟨_, hparsed, fun _ => honly hm⟩⟩, ?_,
      fun hnone => absurd ⟨n, hn⟩ hnone⟩
    · rintro ⟨s', hs', rfl⟩
      obtain rfl := Except.ok.inj (hloaded.symm.trans hs')
      exact hn
    · rintro ⟨o, ho, hport⟩
      obtain rfl : ({ port := some n } : ServeOptions) = o := by
        have hsame := Except.ok.inj (hparsed.symm.trans ho)
        exact Command.serve.inj (congrArg Invocation.command hsame)
      obtain rfl : n = m := hport s
      exact hn
    · intro s' hs'
      obtain rfl := Except.ok.inj (hloaded.symm.trans hs')
      rfl
  · obtain ⟨refusal, hloaded, hfatal⟩ := Config.load_not_port hcanonical hload hspells
    obtain ⟨fault, hfault⟩ : ∃ fault, port text = .error fault := by
      cases hport : port text with
      | ok n => exact absurd ⟨n, port_eq_ok_iff.1 hport⟩ hspells
      | error fault => exact ⟨fault, rfl⟩
    rw [hfault] at hparsed
    have hloaded : loaded = _ := hloaded
    refine ⟨fun m => ⟨?_, fun hm => absurd ⟨m, hm⟩ hspells⟩,
      fun m => ⟨?_, fun hm => absurd ⟨m, hm⟩ hspells⟩, ?_,
      fun _ => ⟨⟨refusal, hloaded, hfatal⟩, fault, hparsed⟩⟩
    · rintro ⟨s', hs', -⟩
      cases hloaded.symm.trans hs'
    · rintro ⟨o, ho, -⟩
      cases hparsed.symm.trans ho
    · intro s' hs'
      cases hloaded.symm.trans hs'

/-- The environment of a server that may have any port. -/
def withPort (text : String) : Environment := around [("PATH", "/bin")] [] .port text

theorem settingName?_path : Config.settingName? "PATH" = none := by decide

theorem canonical_withPort (text : String) : (withPort text).Canonical :=
  .cons settingName?_path (.singleton .port text)

theorem load_withPort : Config.load {} (withPort "1") none = .ok { port := 1 } := by
  have hcanonical := canonical_withPort "1"
  have hbase : Config.baseLayer {} none = .ok [] := rfl
  obtain ⟨hlayers, hplace⟩ := Config.canonical_layers .nil hcanonical
  rw [Config.load_of_baseLayer hbase, Config.ofLayers_eq_ok_iff hlayers hplace]
  intro f
  have hget : (withPort "1").get? f.variableName = if .port = f then some "1" else none := by
    rw [withPort, around, List.singleton_append, Environment.get?_cons_of_none settingName?_path,
      Environment.get?_singleton]
  rw [Config.last?_layers hcanonical.direct, Config.winner?, hget]
  cases f with
  | port =>
    have hspells : Numeral.Spells "1".toList (1 : Port).val :=
      Numeral.signed?_eq_some_iff.1 (by decide)
    exact Config.toPort_ofEnvironment_eq_ok_iff.2 hspells
  | _ => rfl

/-- A sign and zeros in front are of no account, and the first number past the ports is none. -/
theorem port_same_from_both_signed :
    Config.load {} (withPort "1") none = .ok { port := 1 } ∧
      (∃ s', Config.load {} (withPort "+0008080") none = .ok s' ∧ s'.port = 8080) ∧
      (∃ o, parse ["serve", "--port=" ++ "+0008080"] = .ok { command := .serve o } ∧
        ∀ s', (o.apply s').port = 8080) ∧
      ∃ fault, parse ["serve", "--port=" ++ "65536"] = .error (.badPort "65536" fault) := by
  have hspells : Numeral.Spells "+0008080".toList (8080 : Port).val :=
    Numeral.signed?_eq_some_iff.1 (by decide)
  have hnone : ¬∃ n : Port, Numeral.Spells "65536".toList n.val := by
    rintro ⟨n, hn⟩
    have hread : Numeral.signed? "65536".toList = some 65536 := by decide
    have hval : (65536 : Int) = n.val :=
      Option.some.inj (hread.symm.trans (Numeral.signed?_eq_some_iff.2 hn))
    have hlt := n.isLt
    omega
  obtain ⟨henvironment, hoption, -⟩ :=
    port_same_from_both (canonical_withPort "1") load_withPort "+0008080"
  obtain ⟨-, -, -, hrefused⟩ :=
    port_same_from_both (canonical_withPort "1") load_withPort "65536"
  exact ⟨load_withPort, (henvironment 8080).2 hspells, (hoption 8080).2 hspells, (hrefused hnone).2⟩

end CommandLine
end MailGateway
