/-
# Command lines that carry their values

What a user gives is a choice of options with values, and, for `send-mail`, messages.  It may be
written in any order, the two global options in front of the subcommand or behind it
(`Arranged`).  Reading gives it back (`options_in_any_order`): every option as it was given or at
its default, and every message as it is, whatever it looks like.

A CA file and a connection without encryption exclude each other.  The CA file has a default, and
the default excludes nothing.
-/

import MailGateway.Proofs.CommandLine.Options
import MailGateway.Proofs.Program.Replies
import MailGateway.Proofs.Text.Numerals

namespace MailGateway
namespace CommandLine

/-! ### Numbers of ports -/

/-- The number of a port is read from its decimal digits. -/
theorem port_toString (n : Port) : port (toString n.val) = .ok n := by
  have hlist : (toString n.val).toList = Nat.toDigits 10 n.val := Nat.toList_repr
  have hdigits : ∀ c ∈ Nat.toDigits 10 n.val, c.isDigit = true := fun c hc =>
    Nat.isDigit_of_mem_toDigits (by decide) (by decide) hc
  have hread : digitsWithin (2 ^ 63 - 1) 0 .tooLarge (Nat.toDigits 10 n.val) = .ok n.val := by
    have hvalue : Nat.ofDigitChars 10 (Nat.toDigits 10 n.val) 0 = n.val :=
      Nat.ofDigitChars_ten_toDigits
    have hlt := n.isLt
    refine (digitsWithin_eq_ok_iff (Nat.zero_le _)).2 ⟨?_, by omega⟩
    rw [Numeral.digitsFrom_decimal? hdigits, hvalue]
  have hsigned : signed (toString n.val) = .ok (n.val : Int) := by
    unfold signed
    rw [hlist]
    split
    · next h => exact absurd h Nat.toDigits_ne_nil
    · next h => exact absurd (hdigits '+' (by simp [h])) (by decide)
    · next h => exact absurd (hdigits '-' (by simp [h])) (by decide)
    · next h => exact absurd (hdigits '-' (by simp [h])) (by decide)
    · next h => exact absurd (hdigits '+' (by simp [h])) (by decide)
    · rw [hread]
      rfl
  have hport : 0 ≤ (n.val : Int) ∧ (n.val : Int).toNat < 65536 := ⟨by omega, by simp⟩
  rw [port, hsigned]
  simp only [bind, Except.bind, dif_pos hport]
  rfl

/-! ### What is given -/

variable {place : Option Verb} {o k : Choice} {value : Option String} {b : Bool}

/-- An option with its value, if there is one. -/
def valued (o : Choice) (value : Option String) : List Given :=
  (value.map fun v => (o, some v)).toList

/-- A switch, if it is given. -/
def switched (o : Choice) (b : Bool) : List Given := if b then [(o, none)] else []

@[simp] theorem lookup_valued :
    (valued o value).lookup k = if k = o then value.map some else none := by
  cases value with
  | none => simp [valued]
  | some v =>
    by_cases h : k = o
    · simp [valued, h]
    · have hbeq : (k == o) = false := by simpa using h
      simp [valued, List.lookup_cons, hbeq, h]

@[simp] theorem lookup_switched :
    (switched o b).lookup k = if k = o ∧ b then some none else none := by
  cases b with
  | false => simp [switched]
  | true =>
    by_cases h : k = o
    · simp [switched, h]
    · have hbeq : (k == o) = false := by simpa using h
      simp [switched, List.lookup_cons, hbeq, h]

@[simp] theorem join_map_some (value : Option String) : (value.map some).join = value := by
  cases value <;> rfl

@[simp] theorem isSome_switch (b : Bool) :
    (if b then some (none : Option String) else none).isSome = b := by
  cases b <;> rfl

theorem keys_valued (o : Choice) (value : Option String) :
    ((valued o value).map Prod.fst).Sublist [o] := by
  cases value <;> simp [valued]

theorem keys_switched (o : Choice) (b : Bool) : ((switched o b).map Prod.fst).Sublist [o] := by
  cases b <;> simp [switched]

theorem fits_valued (hmem : o ∈ choices place) (hhelp : o ≠ .help ∧ o ≠ .version)
    (hvalue : o.spelling.value.isSome) (hcheck : ∀ v, value = some v → checkValue o v = .ok ()) :
    ∀ g ∈ valued o value, Fits place g := by
  intro g hg
  obtain ⟨v, rfl, rfl⟩ : ∃ v, value = some v ∧ (o, some v) = g := by
    simpa [valued] using hg
  exact ⟨hmem, hhelp, by simp [hvalue], fun w hw => hcheck w (by simpa using hw)⟩

theorem fits_switched (hmem : o ∈ choices place) (hhelp : o ≠ .help ∧ o ≠ .version)
    (hvalue : o.spelling.value = none) : ∀ g ∈ switched o b, Fits place g := by
  intro g hg
  obtain ⟨-, rfl⟩ : b = true ∧ g = (o, none) := by
    simpa [switched] using hg
  exact ⟨hmem, hhelp, by simp [hvalue], nofun⟩

theorem checkValue_path {v name : String} (h : o.spelling.value = some (name, .path))
    (hv : v ≠ "") : checkValue o v = .ok () := by
  simp [checkValue, h, hv]

theorem checkValue_text {v name : String} (h : o.spelling.value = some (name, .text)) :
    checkValue o v = .ok () := by
  simp [checkValue, h]

/-- What may be given to any subcommand. -/
structure Globals where
  config : Option String := none
  debug : Bool := false

/-- What may be given to `send-mail`, besides its messages. -/
structure Connection where
  address : Option String := none
  caFile : Option String := none
  serverName : Option String := none
  insecure : Bool := false

/-- The global options. -/
def Globals.options (g : Globals) : List Given :=
  valued .config g.config ++ switched .debug g.debug

/-- The options of `send-mail`. -/
def Connection.options (c : Connection) : List Given :=
  valued .address c.address ++ valued .caFile c.caFile ++ valued .serverName c.serverName ++
    switched .connectPlain c.insecure

/-- The options of `serve`. -/
def ServeOptions.options (o : ServeOptions) : List Given :=
  valued .host o.host ++ valued .port (o.port.map fun n => toString n.val) ++
    valued .certFile o.certFile ++ valued .keyFile o.keyFile ++ switched .listenPlain o.insecure

/-- Options in some order, in front of the subcommand and behind it.  In front there are global
ones only. -/
structure Arranged (options before after : List Given) : Prop where
  perm : (before ++ after).Perm options
  globals : ∀ g ∈ before, g.1 = .config ∨ g.1 = .debug

/-- The words of a command line. -/
def commandLine (before : List Given) (v : Verb) (after : List Given) (tail : List String) :
    List String := before.map write ++ v.word :: (after.map write ++ tail)

example : commandLine [(.debug, none)] .sendMail [(.address, some "a=b"), (.config, some "c")]
    ["--", "--", "-x", ""] =
      ["--debug", "send-mail", "--address=a=b", "--config=c", "--", "--", "-x", ""] := by
  decide

/-! ### Reading -/

namespace Arranged

variable {options before after : List Given} {v : Verb}

theorem lookup (h : Arranged options before after) (hnodup : (options.map Prod.fst).Nodup)
    (o : Choice) : (before ++ after).lookup o = options.lookup o :=
  lookup_of_perm h.perm ((h.perm.map Prod.fst).nodup_iff.2 hnodup) o

/-- An option that is not global stands behind the subcommand. -/
theorem lookup_after (h : Arranged options before after) (hnodup : (options.map Prod.fst).Nodup)
    (hconfig : o ≠ .config) (hdebug : o ≠ .debug) : after.lookup o = options.lookup o := by
  have hbefore : before.lookup o = none := by
    refine lookup_eq_none_iff.2 fun hmem => ?_
    obtain ⟨g, hg, rfl⟩ := List.mem_map.1 hmem
    exact (h.globals g hg).elim hconfig hdebug
  rw [← h.lookup hnodup, List.lookup_append, hbefore, Option.none_or]

/-- What the level behind the subcommand has of such an option. -/
theorem level (h : Arranged options before after) (hnodup : (options.map Prod.fst).Nodup)
    (place : Option Verb) (words : List String) (escaped : Bool) (o : Choice)
    (hconfig : o ≠ .config) (hdebug : o ≠ .debug) :
    Level.has ⟨place, after, words, .nothing, escaped⟩ o = (options.lookup o).isSome ∧
      Level.value? ⟨place, after, words, .nothing, escaped⟩ o = (options.lookup o).join := by
  rw [Level.has, Level.value?, any_eq_isSome_lookup, h.lookup_after hnodup hconfig hdebug]
  exact ⟨rfl, rfl⟩

/-- Arranged options are read as the options that they are. -/
theorem parse {tail words : List String} {escaped : Bool} (h : Arranged options before after)
    (hnodup : (options.map Prod.fst).Nodup) (hfits : ∀ g ∈ options, Fits (some v) g)
    (htail : Level.words ⟨some v, after, [], .nothing, false⟩ tail =
      .ok ⟨some v, after, words, .nothing, escaped⟩) :
    parse (commandLine before v after tail) =
      (Level.command ⟨some v, after, words, .nothing, escaped⟩ v).map fun command =>
        { config := (options.lookup .config).join
          debug := (options.lookup .debug).isSome
          command } := by
  have hafter : ∀ g ∈ after, Fits (some v) g := fun g hg =>
    hfits g (h.perm.mem_iff.1 (List.mem_append_right _ hg))
  have hbefore : ∀ g ∈ before, Fits none g := fun g hg => by
    have hfit := hfits g (h.perm.mem_iff.1 (List.mem_append_left _ hg))
    refine ⟨?_, hfit.notHelp, hfit.valued, hfit.check⟩
    rcases h.globals g hg with hg | hg <;> rw [hg] <;> decide
  rw [commandLine, parse_write hbefore hafter ((h.perm.map Prod.fst).nodup_iff.2 hnodup) htail,
    h.lookup hnodup, h.lookup hnodup]

end Arranged

variable {g : Globals} {c : Connection} {s : ServeOptions} {before after : List Given}

theorem Globals.fits {v : Verb} (hconfig : g.config ≠ some "") :
    ∀ x ∈ g.options, Fits (some v) x := by
  have hmem : .config ∈ choices (some v) ∧ .debug ∈ choices (some v) := by cases v <;> decide
  rw [Globals.options, List.forall_mem_append]
  exact ⟨fits_valued hmem.1 (by decide) (by decide) fun w hw =>
      checkValue_path rfl fun h => hconfig (h ▸ hw),
    fits_switched hmem.2 (by decide) rfl⟩

theorem Connection.fits (hca : c.caFile ≠ some "") :
    ∀ x ∈ c.options, Fits (some .sendMail) x := by
  rw [Connection.options]
  simp only [List.forall_mem_append]
  refine ⟨⟨⟨?address, ?caFile⟩, ?serverName⟩, ?insecure⟩
  case address => exact fits_valued (by decide) (by decide) rfl fun _ _ => checkValue_text rfl
  case caFile =>
    exact fits_valued (by decide) (by decide) rfl fun w hw =>
      checkValue_path rfl fun h => hca (h ▸ hw)
  case serverName => exact fits_valued (by decide) (by decide) rfl fun _ _ => checkValue_text rfl
  case insecure => exact fits_switched (by decide) (by decide) rfl

theorem ServeOptions.fits (hcert : s.certFile ≠ some "") (hkey : s.keyFile ≠ some "") :
    ∀ x ∈ s.options, Fits (some .serve) x := by
  rw [ServeOptions.options]
  simp only [List.forall_mem_append]
  refine ⟨⟨⟨⟨?host, ?port⟩, ?certFile⟩, ?keyFile⟩, ?insecure⟩
  case host => exact fits_valued (by decide) (by decide) rfl fun _ _ => checkValue_text rfl
  case port =>
    refine fits_valued (by decide) (by decide) rfl fun w hw => ?_
    obtain ⟨n, -, rfl⟩ := Option.map_eq_some_iff.1 hw
    simp only [checkValue, Choice.spelling, port_toString]
  case certFile =>
    exact fits_valued (by decide) (by decide) rfl fun w hw =>
      checkValue_path rfl fun h => hcert (h ▸ hw)
  case keyFile =>
    exact fits_valued (by decide) (by decide) rfl fun w hw =>
      checkValue_path rfl fun h => hkey (h ▸ hw)
  case insecure => exact fits_switched (by decide) (by decide) rfl

/-- No option of `send-mail` is given twice. -/
theorem nodup_connection (g : Globals) (c : Connection) :
    ((c.options ++ g.options).map Prod.fst).Nodup := by
  have hkeys : ((c.options ++ g.options).map Prod.fst).Sublist
      [.address, .caFile, .serverName, .connectPlain, .config, .debug] := by
    simp only [Connection.options, Globals.options, List.map_append]
    exact ((((keys_valued _ _).append (keys_valued _ _)).append (keys_valued _ _)).append
      (keys_switched _ _)).append ((keys_valued _ _).append (keys_switched _ _))
  exact hkeys.nodup (by decide)

/-- No option of `serve` is given twice. -/
theorem nodup_serve (g : Globals) (s : ServeOptions) :
    ((s.options ++ g.options).map Prod.fst).Nodup := by
  have hkeys : ((s.options ++ g.options).map Prod.fst).Sublist
      [.host, .port, .certFile, .keyFile, .listenPlain, .config, .debug] := by
    simp only [ServeOptions.options, Globals.options, List.map_append]
    exact (((((keys_valued _ _).append (keys_valued _ _)).append (keys_valued _ _)).append
      (keys_valued _ _)).append (keys_switched _ _)).append
        ((keys_valued _ _).append (keys_switched _ _))
  exact hkeys.nodup (by decide)

/-! ### What is asked for -/

/-- What a connection and messages ask for: all that was given, and defaults for the rest. -/
def Connection.invocation (c : Connection) (g : Globals) (messages : List String) : Invocation where
  config := g.config
  debug := g.debug
  command := .sendMail
    { address := c.address.getD "https://localhost:9091"
      caFile := c.caFile.getD "certs/server.pem"
      serverName := c.serverName
      insecure := c.insecure
      messages }

/-- What the options of `serve` ask for. -/
def ServeOptions.invocation (s : ServeOptions) (g : Globals) : Invocation where
  config := g.config
  debug := g.debug
  command := .serve s

theorem lookup_globals (g : Globals) (options : List Given)
    (hconfig : options.lookup .config = none) (hdebug : options.lookup .debug = none) :
    ((options ++ g.options).lookup .config).join = g.config ∧
      ((options ++ g.options).lookup .debug).isSome = g.debug := by
  rw [List.lookup_append, List.lookup_append, hconfig, hdebug, Globals.options]
  cases g.debug <;> cases g.config <;> simp [List.lookup_append]

/-- What the level behind `send-mail` has of a connection. -/
structure HasConnection (l : Level) (c : Connection) : Prop where
  address : l.value? .address = c.address
  hasCaFile : l.has .caFile = c.caFile.isSome
  caFile : l.value? .caFile = c.caFile
  serverName : l.value? .serverName = c.serverName
  insecure : l.has .connectPlain = c.insecure

theorem hasConnection (h : Arranged (c.options ++ g.options) before after)
    (messages : List String) :
    HasConnection ⟨some .sendMail, after, messages, .nothing, true⟩ c := by
  have hlevel := h.level (nodup_connection g c) (some .sendMail) messages true
  obtain ⟨-, haddress⟩ := hlevel .address (by decide) (by decide)
  obtain ⟨hca, hcaFile⟩ := hlevel .caFile (by decide) (by decide)
  obtain ⟨-, hserverName⟩ := hlevel .serverName (by decide) (by decide)
  obtain ⟨hinsecure, -⟩ := hlevel .connectPlain (by decide) (by decide)
  refine ⟨haddress.trans ?_, hca.trans ?_, hcaFile.trans ?_, hserverName.trans ?_,
    hinsecure.trans ?_⟩
  all_goals simp [Connection.options, Globals.options, List.lookup_append]

/-- What the level behind `serve` has of its options. -/
structure HasServe (l : Level) (s : ServeOptions) : Prop where
  host : l.value? .host = s.host
  port : l.value? .port = s.port.map fun n => toString n.val
  certFile : l.value? .certFile = s.certFile
  keyFile : l.value? .keyFile = s.keyFile
  insecure : l.has .listenPlain = s.insecure
  noCaFile : l.has .caFile = false

theorem hasServe (h : Arranged (s.options ++ g.options) before after) :
    HasServe ⟨some .serve, after, [], .nothing, false⟩ s := by
  have hlevel := h.level (nodup_serve g s) (some .serve) [] false
  obtain ⟨-, hhost⟩ := hlevel .host (by decide) (by decide)
  obtain ⟨-, hport⟩ := hlevel .port (by decide) (by decide)
  obtain ⟨-, hcertFile⟩ := hlevel .certFile (by decide) (by decide)
  obtain ⟨-, hkeyFile⟩ := hlevel .keyFile (by decide) (by decide)
  obtain ⟨hinsecure, -⟩ := hlevel .listenPlain (by decide) (by decide)
  obtain ⟨hcaFile, -⟩ := hlevel .caFile (by decide) (by decide)
  refine ⟨hhost.trans ?_, hport.trans ?_, hcertFile.trans ?_, hkeyFile.trans ?_,
    hinsecure.trans ?_, hcaFile.trans ?_⟩
  case refine_2 =>
    cases hn : s.port <;> simp [ServeOptions.options, Globals.options, List.lookup_append, hn]
  all_goals simp [ServeOptions.options, Globals.options, List.lookup_append]

namespace HasConnection

variable {l : Level}

theorem conflict?_eq_none (h : HasConnection l c) (hone : ¬(c.caFile.isSome ∧ c.insecure)) :
    l.conflict? = none := by
  rw [Level.conflict?, h.hasCaFile, h.insecure, if_neg (by simpa using hone)]

/-- A CA file that is given and a connection without encryption exclude each other. -/
theorem conflict?_of_both (h : HasConnection l c) (hca : c.caFile.isSome) (hplain : c.insecure) :
    l.conflict? = some (.conflict .caFile .connectPlain) ∨
      l.conflict? = some (.conflict .connectPlain .caFile) := by
  rw [Level.conflict?, h.hasCaFile, h.insecure, hca, hplain]
  simp only [Bool.and_self, ↓reduceIte]
  split
  · exact .inl rfl
  · exact .inr rfl

theorem command_eq (h : HasConnection l c) (hone : ¬(c.caFile.isSome ∧ c.insecure))
    (hmessages : l.positionals ≠ []) : l.command .sendMail =
      .ok (c.invocation {} l.positionals).command := by
  have hsome : l.positionals.isEmpty = false := by simpa using hmessages
  simp only [Level.command, h.conflict?_eq_none hone, hsome, h.address, h.caFile, h.serverName,
    h.insecure, Bool.and_false]
  rfl

end HasConnection

theorem command_of_conflict {l : Level} {v : Verb} {e : UsageError} (h : l.conflict? = some e) :
    l.command v = .error e := by
  simp only [Level.command, h]
  rfl

theorem HasServe.command_eq {l : Level} (h : HasServe l s) : l.command .serve = .ok (.serve s) := by
  have hconflict : l.conflict? = none := by
    rw [Level.conflict?, h.noCaFile, Bool.false_and, if_neg Bool.false_ne_true]
  have hport : (l.value? .port).bind (fun w => (CommandLine.port w).toOption) = s.port := by
    rw [h.port]
    cases s.port with
    | none => rfl
    | some n =>
      change (CommandLine.port (toString n.val)).toOption = some n
      rw [port_toString]
      rfl
  simp only [Level.command, hconflict, h.host, hport, h.certFile, h.keyFile, h.insecure,
    Verb.positional, Option.isSome_none, Bool.false_and, Bool.false_eq_true, ↓reduceIte]
  rfl

/-- A path that is given is not empty. -/
def Named (path : Option String) : Prop := path ≠ some ""

/-- What is read of a connection and messages, however they are arranged. -/
theorem parse_connection (h : Arranged (c.options ++ g.options) before after)
    (hconfig : Named g.config) (hca : Named c.caFile) (messages : List String) :
    parse (commandLine before .sendMail after ("--" :: messages)) =
      (Level.command ⟨some .sendMail, after, messages, .nothing, true⟩ .sendMail).map
        fun command => { config := g.config, debug := g.debug, command } := by
  have hfits : ∀ x ∈ c.options ++ g.options, Fits (some .sendMail) x :=
    List.forall_mem_append.2 ⟨Connection.fits hca, Globals.fits hconfig⟩
  have hglobals := lookup_globals g c.options
    (by simp [Connection.options, List.lookup_append])
    (by simp [Connection.options, List.lookup_append])
  have htail : Level.words ⟨some .sendMail, after, [], .nothing, false⟩ ("--" :: messages) =
      .ok ⟨some .sendMail, after, messages, .nothing, true⟩ := words_escaped after [] messages
  rw [h.parse (nodup_connection g c) hfits htail, hglobals.1, hglobals.2]

/-- **A command line carries its values, in any order.**

* `send-mail`: whatever connection is given, and whatever the messages look like behind `--`,
  all of it is read as it was given, and the rest is at its default;
* `serve`: so are its options;
* a CA file that is given does not go with a connection that is not encrypted. -/
theorem options_in_any_order :
    (∀ (g : Globals) (c : Connection) (messages : List String) (before after : List Given),
      Named g.config → Named c.caFile → ¬(c.caFile.isSome ∧ c.insecure) → messages ≠ [] →
      Arranged (c.options ++ g.options) before after →
      parse (commandLine before .sendMail after ("--" :: messages)) =
        .ok (c.invocation g messages)) ∧
    (∀ (g : Globals) (s : ServeOptions) (before after : List Given),
      Named g.config → Named s.certFile → Named s.keyFile →
      Arranged (s.options ++ g.options) before after →
      parse (commandLine before .serve after []) = .ok (s.invocation g)) ∧
    ∀ (g : Globals) (c : Connection) (messages : List String) (before after : List Given),
      Named g.config → Named c.caFile → c.caFile.isSome → c.insecure →
      Arranged (c.options ++ g.options) before after →
      parse (commandLine before .sendMail after ("--" :: messages)) =
          .error (.conflict .caFile .connectPlain) ∨
        parse (commandLine before .sendMail after ("--" :: messages)) =
          .error (.conflict .connectPlain .caFile) := by
  refine ⟨fun g c messages before after hconfig hca hone hmessages h => ?send,
    fun g s before after hconfig hcert hkey h => ?serve,
    fun g c messages before after hconfig hca hgiven hplain h => ?conflict⟩
  case send =>
    rw [parse_connection h hconfig hca, (hasConnection h messages).command_eq hone hmessages]
    rfl
  case serve =>
    have hfits : ∀ x ∈ s.options ++ g.options, Fits (some .serve) x :=
      List.forall_mem_append.2 ⟨ServeOptions.fits hcert hkey, Globals.fits hconfig⟩
    have hglobals := lookup_globals g s.options
      (by simp [ServeOptions.options, List.lookup_append])
      (by simp [ServeOptions.options, List.lookup_append])
    have htail : Level.words ⟨some .serve, after, [], .nothing, false⟩ [] =
        .ok ⟨some .serve, after, [], .nothing, false⟩ := rfl
    rw [h.parse (nodup_serve g s) hfits htail, hglobals.1, hglobals.2, (hasServe h).command_eq]
    rfl
  case conflict =>
    rw [parse_connection h hconfig hca]
    rcases (hasConnection h messages).conflict?_of_both hgiven hplain with hfirst | hlast
    · exact .inl (by rw [command_of_conflict hfirst]; rfl)
    · exact .inr (by rw [command_of_conflict hlast]; rfl)

/-- Messages that look like options, a value with an equals sign, and options in front; and a CA
file behind what excludes it. -/
theorem options_in_any_order_mixed :
    parse ["--debug", "send-mail", "--server-name=n", "--config=c", "--address=a=b", "--",
        "", "--", "-x"] =
      .ok
        { config := some "c", debug := true
          command := .sendMail
            { address := "a=b", caFile := "certs/server.pem", serverName := some "n"
              insecure := false, messages := ["", "--", "-x"] } } ∧
    parse ["--config=c", "serve", "--insecure", "--port=65535"] =
      .ok { config := some "c", command := .serve { port := some 65535, insecure := true } } ∧
    (parse ["send-mail", "--insecure", "--ca-file=c", "--", "m"] =
        .error (.conflict .caFile .connectPlain) ∨
      parse ["send-mail", "--insecure", "--ca-file=c", "--", "m"] =
        .error (.conflict .connectPlain .caFile)) := by
  obtain ⟨hsend, hserve, hconflict⟩ := options_in_any_order
  have hc : Named (some "c") := by simp [Named]
  have hnone : Named none := nofun
  refine ⟨?_, ?_, ?_⟩
  · exact hsend ⟨some "c", true⟩ { address := some "a=b", serverName := some "n" }
      ["", "--", "-x"] [(.debug, none)]
      [(.serverName, some "n"), (.config, some "c"), (.address, some "a=b")] hc hnone (by simp)
      (by simp) ⟨by decide, by simp⟩
  · exact hserve ⟨some "c", false⟩ { port := some 65535, insecure := true }
      [(.config, some "c")] [(.listenPlain, none), (.port, some "65535")] hc hnone hnone
      ⟨by decide, by simp⟩
  · exact hconflict {} { caFile := some "c", insecure := true } ["m"] []
      [(.connectPlain, none), (.caFile, some "c")] hnone hc rfl rfl ⟨by decide, by simp⟩

end CommandLine
end MailGateway
