/-
# Which value a field gets

The command line stands over the environment, the environment over the file, and the
file over the defaults, for each field on its own (`load_field_by_field`).  The value that
counts for a field is the one of the environment, or else that of the file (`winner?`), and
the settings hold in the field what the settings of that one value alone would hold.

So a value that another one stands over is never read, and a field that cannot be read
is the fault of its own value.

All this takes an environment whose other names do not lead to a field (`Environment.Direct`).
Names count in any case, and a dot leads into a value, so that one may well do
(`stray_names_count`).
-/

import MailGateway.Program
import MailGateway.Proofs.Config.Environment

namespace MailGateway
namespace Config

/-- The settings of layers, the lowest first. -/
def ofLayers (layers : List Layer) : Except LoadError Settings :=
  match merge layers with
  | none => .error .noPlace
  | some t => (Settings.ofTable? t).mapError .refused

/-- The layer of a file, if there is one. -/
def baseLayer (files : Files.Tree) : Option String → Except LoadError Layer
  | some path => Layer.ofFile files path
  | none => .ok []

/-- The settings of one value for a field. -/
def alone (f : Field) (v : Value) : Except LoadError Settings := ofLayers [[(f.name, v)]]

/-- The value that counts for a field: that of the environment, or else that of a layer. -/
def winner? (base : Layer) (env : Environment) (f : Field) : Option Value :=
  ((env.get? f.variableName).map .ofEnvironment).or (base.last? f.name)

variable {files : Files.Tree} {env : Environment} {file : Option String} {base : Layer}
  {layers : List Layer} {s : Settings} {f : Field} {v : Value}

theorem load_of_baseLayer (h : baseLayer files file = .ok base) :
    load files env file = ofLayers [base, .ofEnvironment env] := by
  cases file with
  | none =>
    obtain rfl := Except.ok.inj h
    rfl
  | some path =>
    simp only [baseLayer] at h
    simp only [load, h]
    rfl

/-- There is no place for a value exactly where there is no table. -/
theorem ofLayers_eq_noPlace_iff : ofLayers layers = .error .noPlace ↔ merge layers = none := by
  unfold ofLayers
  cases merge layers with
  | none => exact iff_of_true rfl rfl
  | some t =>
    refine iff_of_false (fun h => ?_) nofun
    dsimp only at h
    cases hread : Settings.ofTable? t with
    | ok s =>
      rw [hread] at h
      cases h
    | error refusal =>
      rw [hread] at h
      cases h

theorem ofLayers_ne_noPlace (h : ∀ l ∈ layers, l.NoItems) : ofLayers layers ≠ .error .noPlace := by
  obtain ⟨t, ht⟩ := exists_merge_of_noItems h
  rw [Ne, ofLayers_eq_noPlace_iff, ht]
  exact nofun

/-- The settings of direct layers are those of a table with their last values. -/
theorem ofLayers_of_direct (h : ∀ l ∈ layers, l.Direct)
    (hplace : ofLayers layers ≠ .error .noPlace) :
    ∃ t, ofLayers layers = (Settings.ofTable? t).mapError .refused ∧
      ∀ f : Field, t.get? f.name = Layer.last? layers.flatten f.name := by
  obtain ⟨t, hmerge⟩ := Option.ne_none_iff_exists'.1 (mt ofLayers_eq_noPlace_iff.2 hplace)
  exact ⟨t, by rw [ofLayers, hmerge], merge_of_direct h hmerge⟩

theorem ofLayers_eq_ok_iff (h : ∀ l ∈ layers, l.Direct)
    (hplace : ofLayers layers ≠ .error .noPlace) : ofLayers layers = .ok s ↔
      ∀ f : Field, f.readMember (Layer.last? layers.flatten f.name) = .ok (s.get f) := by
  obtain ⟨t, hsettings, hget⟩ := ofLayers_of_direct h hplace
  rw [hsettings, mapError_eq_ok_iff, Settings.ofTable?_eq_ok_iff]
  exact forall_congr' fun f => by rw [Table.field, hget]

theorem exists_ofLayers_iff (h : ∀ l ∈ layers, l.Direct)
    (hplace : ofLayers layers ≠ .error .noPlace) : (∃ s, ofLayers layers = .ok s) ↔
      ∀ f : Field, ∃ x, f.readMember (Layer.last? layers.flatten f.name) = .ok x := by
  obtain ⟨t, hsettings, hget⟩ := ofLayers_of_direct h hplace
  rw [hsettings]
  simp only [mapError_eq_ok_iff]
  rw [Settings.exists_ofTable?_iff]
  exact forall_congr' fun f => by rw [Table.field, hget]

/-- Direct layers with the same last values give the same settings, or the same error. -/
theorem ofLayers_congr {layers' : List Layer} (h : ∀ l ∈ layers, l.Direct)
    (h' : ∀ l ∈ layers', l.Direct) (hplace : ofLayers layers ≠ .error .noPlace)
    (hplace' : ofLayers layers' ≠ .error .noPlace)
    (hlast : ∀ f : Field, Layer.last? layers.flatten f.name = Layer.last? layers'.flatten f.name) :
    ofLayers layers = ofLayers layers' := by
  obtain ⟨t, hsettings, hget⟩ := ofLayers_of_direct h hplace
  obtain ⟨t', hsettings', hget'⟩ := ofLayers_of_direct h' hplace'
  have htable : Settings.ofTable? t = Settings.ofTable? t' :=
    Settings.ofTable?_congr fun f => by rw [hget, hget', hlast]
  rw [hsettings, hsettings', htable]

/-- Layers of plain names are direct, and there is a place for each of their values. -/
theorem direct_and_placed (h : ∀ l ∈ layers, l.Plain) :
    (∀ l ∈ layers, l.Direct) ∧ ofLayers layers ≠ .error .noPlace :=
  ⟨fun l hl => (h l hl).direct, ofLayers_ne_noPlace fun l hl => (h l hl).noItems⟩

/-! ### One value alone -/

theorem direct_alone (f : Field) (h : v.IsScalar) :
    (∀ l ∈ [[(f.name, v)]], Layer.Direct l) ∧ ofLayers [[(f.name, v)]] ≠ .error .noPlace :=
  direct_and_placed (List.forall_mem_singleton.2 (.singleton f h))

theorem alone_eq_ok_iff (h : v.IsScalar) : alone f v = .ok s ↔
    f.read v = .ok (s.get f) ∧ ∀ g : Field, f ≠ g → s.get g = Settings.get {} g := by
  rw [alone, ofLayers_eq_ok_iff (direct_alone f h).1 (direct_alone f h).2]
  simp only [List.flatten_singleton, Layer.last?_singleton]
  constructor
  · intro hread
    have hf := hread f
    rw [if_pos rfl] at hf
    refine ⟨hf, fun g hg => ?_⟩
    have hg' := hread g
    rw [if_neg hg] at hg'
    exact (Except.ok.inj hg').symm
  · rintro ⟨hf, hothers⟩ g
    by_cases hg : f = g
    · subst hg
      rwa [if_pos rfl]
    · rw [if_neg hg, hothers g hg]
      rfl

theorem exists_alone_iff (h : v.IsScalar) :
    (∃ s, alone f v = .ok s) ↔ ∃ x, f.read v = .ok x := by
  rw [alone, exists_ofLayers_iff (direct_alone f h).1 (direct_alone f h).2]
  simp only [List.flatten_singleton, Layer.last?_singleton]
  constructor
  · intro hread
    simpa [Field.readMember] using hread f
  · intro hread g
    by_cases hg : f = g
    · subst hg
      simpa [Field.readMember] using hread
    · exact ⟨_, by rw [if_neg hg]; rfl⟩

/-- A file with one value and an environment without any give the settings of that value. -/
theorem load_eq_alone_of_baseLayer (h : v.IsScalar)
    (hbase : baseLayer files file = .ok [(f.name, v)]) : load files [] file = alone f v := by
  have hlayers : ∀ l ∈ [[(f.name, v)], Layer.ofEnvironment []], Layer.Plain l :=
    List.forall_mem_cons.2 ⟨.singleton f h, List.forall_mem_singleton.2 (.ofEnvironment .nil)⟩
  obtain ⟨hdirect, hplace⟩ := direct_and_placed hlayers
  rw [load_of_baseLayer hbase]
  exact ofLayers_congr hdirect (direct_alone f h).1 hplace (direct_alone f h).2 fun g => rfl

/-! ### File, environment and command line -/

theorem last?_layers (hdirect : env.Direct) (f : Field) :
    Layer.last? [base, .ofEnvironment env].flatten f.name = winner? base env f := by
  rw [List.flatten_cons, List.flatten_singleton, Layer.last?_append,
    Layer.last?_ofEnvironment hdirect, winner?]

theorem isScalar_of_winner? (hplain : base.Plain) (h : winner? base env f = some v) :
    v.IsScalar := by
  rcases Option.or_eq_some_iff.1 h with hvariable | ⟨-, hlast⟩
  · obtain ⟨text, -, rfl⟩ := Option.map_eq_some_iff.1 hvariable
    exact ⟨_, _, rfl⟩
  · exact hplain.scalar _ (Layer.mem_of_last? hlast) f rfl

theorem direct_layers (hplain : base.Plain) (hdirect : env.Direct) :
    ∀ l ∈ [base, .ofEnvironment env], Layer.Direct l :=
  List.forall_mem_cons.2 ⟨hplain.direct, List.forall_mem_singleton.2 (.ofEnvironment hdirect)⟩

theorem placed_layers (hplain : base.Plain) (hitems : (Layer.ofEnvironment env).NoItems) :
    ofLayers [base, .ofEnvironment env] ≠ .error .noPlace :=
  ofLayers_ne_noPlace (List.forall_mem_cons.2 ⟨hplain.noItems, List.forall_mem_singleton.2 hitems⟩)

/-- Among plain names every field is reached directly, and there is a place for every value. -/
theorem canonical_layers (hplain : base.Plain) (hcanonical : env.Canonical) :
    (∀ l ∈ [base, .ofEnvironment env], Layer.Direct l) ∧
      ofLayers [base, .ofEnvironment env] ≠ .error .noPlace :=
  ⟨direct_layers hplain hcanonical.direct,
    placed_layers hplain (Layer.Plain.ofEnvironment hcanonical).noItems⟩

/-- No file and an environment with one variable give the settings of its value. -/
theorem load_eq_alone_of_variable (files : Files.Tree) (f : Field) (text : String) :
    load files [(f.variableName, text)] none = alone f (.ofEnvironment text) := by
  have hcanonical := Environment.Canonical.singleton f text
  obtain ⟨hdirect, hplace⟩ := canonical_layers .nil hcanonical
  obtain ⟨hdirect', hplace'⟩ := direct_alone (v := .ofEnvironment text) f ⟨_, _, rfl⟩
  have hbase : baseLayer files none = .ok [] := rfl
  rw [load_of_baseLayer hbase]
  refine ofLayers_congr hdirect hdirect' hplace hplace' fun g => ?_
  rw [last?_layers hcanonical.direct, winner?, Environment.get?_singleton, List.flatten_singleton,
    Layer.last?_singleton]
  by_cases hg : f = g
  · rw [if_pos hg, if_pos hg]
    rfl
  · rw [if_neg hg, if_neg hg]
    rfl

/-- What the command line has for a field. -/
def Field.flag? (o : CommandLine.ServeOptions) : (f : Field) → Option f.Content
  | .host => o.host
  | .port => o.port
  | .certFile => o.certFile
  | .keyFile => o.keyFile
  | .secure => if o.insecure then some false else none
  | .gracePeriod => none
  | .otlpEndpoint => none
  | .serviceName => none
  | .debug => none

/-- The command line changes a field where it has something for it. -/
theorem get_apply (o : CommandLine.ServeOptions) (s : Settings) (f : Field) :
    (o.apply s).get f = (f.flag? o).getD (s.get f) := by
  cases f with
  | secure =>
    show (s.secure && !o.insecure) = (if o.insecure then some false else none).getD s.secure
    cases o.insecure <;> simp
  | _ => rfl

/-- Where the settings do not load it does not matter what would be done under them. -/
theorem runWithSettings_of_load {w : Program.Surroundings} {i : CommandLine.Invocation}
    (hfile : chooseFile w.files w.environment i.config = .ok file)
    (h : ¬∃ s, load w.files w.environment file = .ok s)
    (act act' : Settings → List Program.Output × Program.Ending) :
    Program.runWithSettings w i act = Program.runWithSettings w i act' := by
  have hsettings : ¬∃ x, Program.settings w i.config = .ok x := by
    rintro ⟨x, hx⟩
    simp only [Program.settings, hfile, bind_eq_ok_iff] at hx
    obtain ⟨found, hfound, s, hload, -⟩ := hx
    obtain rfl := Except.ok.inj hfound
    exact h ⟨s, hload⟩
  unfold Program.runWithSettings
  split
  · rfl
  · next x hx => exact absurd ⟨_, hx⟩ hsettings

/-- **Each field has its own value.**  In an environment whose other names lead to no field, the
settings load where there is a place for every name and every value that counts loads alone, and
a field is what its value alone makes it; values that others stand over, other fields and names
that are no fields do not matter, even to an error.  There is a place where no name counts items.
The command line stands over what was loaded. -/
theorem load_field_by_field (hbase : baseLayer files file = .ok base) (hplain : base.Plain)
    (hdirect : env.Direct) (o : CommandLine.ServeOptions) :
    ((∃ s, load files env file = .ok s) ↔ load files env file ≠ .error .noPlace ∧
      ∀ f v, winner? base env f = some v → ∃ s, alone f v = .ok s) ∧
    ((∀ x ∈ env, ∀ name, settingName? x.1 = some name → (Path.ofName name).NoItems) →
      load files env file ≠ .error .noPlace) ∧
    (∀ s, load files env file = .ok s → ∀ f : Field,
      (match winner? base env f with
        | some v => ∃ s', alone f v = .ok s' ∧ s.get f = s'.get f
        | none => s.get f = Settings.get {} f) ∧
      (o.apply s).get f = (f.flag? o).getD (s.get f)) ∧
    (∀ files' env' file' base', baseLayer files' file' = .ok base' → base'.Plain →
      env'.Direct → (∀ f, winner? base' env' f = winner? base env f) →
      load files env file ≠ .error .noPlace → load files' env' file' ≠ .error .noPlace →
      load files' env' file' = load files env file) ∧
    (∀ f v files' file', winner? base env f = some v →
      baseLayer files' file' = .ok [(f.name, v)] → load files' [] file' = alone f v) ∧
    (∀ f text files', env.get? f.variableName = some text →
      load files' [(f.variableName, text)] none = alone f (.ofEnvironment text)) ∧
    (∀ (w : Program.Surroundings) (i : CommandLine.Invocation) (act act' : Settings → _),
      w.files = files → w.environment = env → chooseFile files env i.config = .ok file →
      (¬∃ s, load files env file = .ok s) →
      Program.runWithSettings w i act = Program.runWithSettings w i act') := by
  have hlayers := direct_layers hplain hdirect
  rw [load_of_baseLayer hbase]
  refine ⟨?loads, ?placed, fun s hs f => ⟨?field, get_apply o s f⟩, ?congr, ?file, ?text, ?flags⟩
  case loads =>
    by_cases hplace : ofLayers [base, .ofEnvironment env] = .error .noPlace
    · refine iff_of_false ?_ fun h => h.1 hplace
      rintro ⟨s, hs⟩
      cases hplace.symm.trans hs
    rw [exists_ofLayers_iff hlayers hplace, and_iff_right hplace]
    refine forall_congr' fun f => ?_
    rw [last?_layers hdirect]
    cases hwinner : winner? base env f with
    | none =>
      constructor
      · rintro - v hv
        cases hv
      · exact fun _ => ⟨_, rfl⟩
    | some v =>
      have halone : (∃ s, alone f v = .ok s) ↔ ∃ x, f.read v = .ok x :=
        exists_alone_iff (isScalar_of_winner? hplain hwinner)
      constructor
      · intro h w hw
        rw [← Option.some.inj hw]
        exact halone.2 h
      · exact fun h => halone.1 (h v rfl)
  case placed =>
    intro hitems
    refine placed_layers hplain fun m hm => ?_
    obtain ⟨x, hx, hname, -⟩ := Layer.mem_ofEnvironment hm
    exact hitems x hx m.1 hname
  case field =>
    have hplace : ofLayers [base, .ofEnvironment env] ≠ .error .noPlace := by
      rw [hs]
      exact nofun
    have hread := (ofLayers_eq_ok_iff hlayers hplace).1 hs f
    rw [last?_layers hdirect] at hread
    cases hwinner : winner? base env f with
    | none =>
      rw [hwinner] at hread
      exact (Except.ok.inj hread).symm
    | some v =>
      rw [hwinner] at hread
      have hscalar := isScalar_of_winner? hplain hwinner
      obtain ⟨s', hs'⟩ := (exists_alone_iff hscalar).2 ⟨_, hread⟩
      have hread' : f.read v = .ok (s'.get f) := ((alone_eq_ok_iff hscalar).1 hs').1
      exact ⟨s', hs', Except.ok.inj (hread.symm.trans hread')⟩
  case congr =>
    intro files' env' file' base' hbase' hplain' hdirect' hwinner hplace hplace'
    rw [load_of_baseLayer hbase'] at hplace' ⊢
    refine ofLayers_congr (direct_layers hplain' hdirect') hlayers hplace' hplace fun f => ?_
    rw [last?_layers hdirect', last?_layers hdirect, hwinner]
  case file =>
    intro f v files' file' hwinner hbase'
    exact load_eq_alone_of_baseLayer (isScalar_of_winner? hplain hwinner) hbase'
  case text =>
    intro f text files' _
    exact load_eq_alone_of_variable files' f text
  case flags =>
    rintro w i act act' rfl rfl hfile hnone
    rw [← load_of_baseLayer hbase] at hnone
    exact runWithSettings_of_load hfile hnone act act'

/-! ### A value that is never read -/

/-- A file whose port is none. -/
def wordForPort : Files.Tree := { entries := [(["c"], .file "port: a")] }

theorem Value.eq_of_toText {expected : Expected} {text : String}
    (h : (v.toText expected).toOption = some text) : v = .scalar (.text text) v.origin := by
  unfold toText at h
  split at h
  · obtain rfl := Option.some.inj h
    rfl
  · cases h

theorem ofYaml_wordForPort : Layer.ofYaml "c" "port: a" =
    .ok [(Field.port.name, .scalar (.text "a") (some "c"))] := by
  have hread : (Layer.ofYaml "c" "port: a").toOption.map
      (List.map fun x => (x.1, (x.2.toText .text).toOption, x.2.origin)) =
        some [(Field.port.name, some "a", some "c")] := by decide +kernel
  cases hlayer : Layer.ofYaml "c" "port: a" with
  | error f =>
    rw [hlayer] at hread
    cases hread
  | ok l =>
    rw [hlayer] at hread
    obtain ⟨⟨name, v⟩, rfl, hmember⟩ := List.map_eq_singleton_iff.1 (Option.some.inj hread)
    simp only [Prod.mk.injEq] at hmember
    obtain ⟨rfl, htext, horigin⟩ := hmember
    rw [v.eq_of_toText htext, horigin]

theorem readable?_wordForPort : readable? wordForPort "c" = some "c" := by cbv

theorem read_wordForPort : wordForPort.read "c" = .ok "port: a" := by cbv

theorem originOf_wordForPort : originOf "c" = "c" := by cbv

theorem baseLayer_wordForPort : baseLayer wordForPort (some "c") =
    .ok [(Field.port.name, .scalar (.text "a") (some "c"))] := by
  rw [baseLayer, Layer.ofFile, readable?_wordForPort]
  simp only [read_wordForPort, originOf_wordForPort, ofYaml_wordForPort]
  rfl

/-- Under a variable for the port the file loads all the same. -/
theorem load_field_by_field_wordForPort :
    ∃ s, load wordForPort [(Field.port.variableName, "8080")] (some "c") = .ok s ∧
      s.port = 8080 ∧ s.host = "0.0.0.0" ∧
      (CommandLine.ServeOptions.apply { insecure := true } s).secure = false := by
  have hplain : Layer.Plain [(Field.port.name, .scalar (.text "a") (some "c"))] :=
    .singleton .port ⟨_, _, rfl⟩
  have hwinner : ∀ f, winner? [(Field.port.name, .scalar (.text "a") (some "c"))]
      [(Field.port.variableName, "8080")] f =
        if .port = f then some (.ofEnvironment "8080") else none := fun f => by
    rw [winner?, Environment.get?_singleton, Layer.last?_singleton]
    split <;> rfl
  have hvalue : Value.ofEnvironment "8080" = .scalar (.integer 8080) environmentOrigin :=
    congrArg (Value.scalar · _) (by decide)
  have hread : Field.read .port (.ofEnvironment "8080") = .ok 8080 := by
    rw [hvalue]
    rfl
  have hcanonical := Environment.Canonical.singleton .port "8080"
  obtain ⟨hloads, hplaced, hfields, -⟩ := load_field_by_field baseLayer_wordForPort hplain
    hcanonical.direct { insecure := true }
  have hplace := hplaced fun x hx name hname => (hcanonical.plain x hx name hname).noItems
  obtain ⟨s, hs⟩ := hloads.2 ⟨hplace, fun f v hv => by
    rw [hwinner] at hv
    obtain ⟨rfl, hv⟩ := Option.ite_none_right_eq_some.1 hv
    obtain rfl := Option.some.inj hv
    exact (exists_alone_iff ⟨_, _, rfl⟩).2 ⟨8080, hread⟩⟩
  obtain ⟨hport, -⟩ := hfields s hs .port
  obtain ⟨hhost, -⟩ := hfields s hs .host
  rw [hwinner] at hport hhost
  obtain ⟨s', halone, heq⟩ := hport
  have hport' : Field.read .port (.ofEnvironment "8080") = .ok s'.port :=
    ((alone_eq_ok_iff ⟨_, _, rfl⟩).1 halone).1
  refine ⟨s, hs, ?_, hhost, ?_⟩
  · exact heq.trans (Except.ok.inj (hport'.symm.trans hread))
  · exact (hfields s hs .secure).2

/-- **Not only canonical names count.**  A dot leads into the host, which is then no text, and the
port is found in lower case: with no value for any field the settings do not load, or differ from
the defaults. -/
theorem stray_names_count :
    let inside : Environment := [("EMAIL_BACKEND_HOST.X", "1")]
    let lower : Environment := [("email_backend_port", "77")]
    (∀ f, winner? [] inside f = none ∧ winner? [] lower f = none) ∧
    (¬∃ s, load {} inside none = .ok s) ∧ ∃ s, load {} lower none = .ok s ∧ s.port = 77 := by
  intro inside lower
  have hstray : settingName? "EMAIL_BACKEND_HOST.X" = some "host.x" ∧
      settingName? "email_backend_port" = some "port" ∧
      Field.port.variableName ≠ "email_backend_port" := by decide +kernel
  obtain ⟨hdotted, hsmall, hport⟩ := hstray
  refine ⟨fun f => ?_, ?_, ?_⟩
  · have hinside : f.variableName ≠ "EMAIL_BACKEND_HOST.X" := fun heq => by
      rw [← heq, f.settingName?_variableName] at hdotted
      cases f <;> exact absurd hdotted (by decide)
    have hlower : f.variableName ≠ "email_backend_port" := fun heq => by
      rw [← heq, f.settingName?_variableName] at hsmall
      obtain rfl : f = .port := Field.name_inj.1 (Option.some.inj hsmall)
      exact hport heq
    simp [winner?, Environment.get?, List.lookup, beq_eq_false_iff_ne.2 hinside,
      beq_eq_false_iff_ne.2 hlower, inside, lower, Layer.last?]
  · rintro ⟨s, hs⟩
    have hnone : (load {} inside none).toOption.isSome = false := by decide +kernel
    rw [hs] at hnone
    cases hnone
  · have hport : (load {} lower none).toOption.map (·.port) = some 77 := by decide +kernel
    cases hload : load {} lower none with
    | error e => rw [hload] at hport; cases hport
    | ok s =>
      rw [hload] at hport
      exact ⟨s, rfl, Option.some.inj hport⟩

end Config
end MailGateway
