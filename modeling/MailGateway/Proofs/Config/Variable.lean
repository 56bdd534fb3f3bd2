/-
# One variable among others

Where settings load without a variable, or with another text of it, they load with this text or the
fault is in it (`load_changed`, `load_changed_error`): the text is read as the field reads its
value, and the outcome is that of this reading, the settings with the field changed and no other,
or the refusal of the value.  What the file has for the field plays no part, not even if it could
not be read.

The other variables may be any as long as no field comes twice (`Environment.Canonical`), which
depends on their names alone (`Environment.Canonical.of_names`).
-/

import MailGateway.Proofs.Config.Override

namespace MailGateway
namespace Config

variable {files : Files.Tree} {file : Option String} {s : Settings} {f : Field}
  {text text₀ : String}

/-- Settings are the same where all of their fields are. -/
theorem Settings.ext_get {s t : Settings} (h : ∀ f, s.get f = t.get f) : s = t :=
  congrArg Settings.ofFields (funext h)

namespace Environment

variable {env env' before after : Environment}

/-- An environment with a text for a field, between other variables. -/
def around (before after : Environment) (f : Field) (text : String) : Environment :=
  before ++ (f.variableName, text) :: after

/-- The texts of variables do not matter to their spelling. -/
theorem Canonical.of_names (h : env.Canonical) (hnames : env'.map Prod.fst = env.map Prod.fst) :
    env'.Canonical := by
  have hsame : ∀ x ∈ env', ∃ y ∈ env, y.1 = x.1 := fun x hx => by
    have hx : x.1 ∈ env.map Prod.fst := hnames ▸ List.mem_map_of_mem hx
    exact List.mem_map.1 hx
  constructor
  · intro x hx name hname
    obtain ⟨y, hy, heq⟩ := hsame x hx
    exact h.plain y hy name (heq ▸ hname)
  · intro x hx g hg
    obtain ⟨y, hy, heq⟩ := hsame x hx
    exact heq ▸ h.spelled y hy g (heq ▸ hg)
  · intro g
    rw [hnames]
    exact h.once g

theorem Canonical.around (h : (around before after f text₀).Canonical) (text : String) :
    (around before after f text).Canonical :=
  h.of_names (by simp [Environment.around])

/-- A variable of another program gives no field. -/
theorem ne_variableName {name : String} (h : settingName? name = none) (f : Field) :
    name ≠ f.variableName := by
  rintro rfl
  rw [f.settingName?_variableName] at h
  cases h

theorem get?_cons_of_none {name : String} (h : settingName? name = none) (f : Field) :
    get? ((name, text) :: env) f.variableName = env.get? f.variableName := by
  have hdiffer : (f.variableName == name) = false :=
    beq_eq_false_iff_ne.2 (ne_variableName h f).symm
  simp [get?, List.lookup, hdiffer]

theorem Canonical.cons {x : String × String} (hx : settingName? x.1 = none) (h : env.Canonical) :
    Canonical (x :: env) := by
  constructor
  · refine List.forall_mem_cons.2 ⟨fun name hname => ?_, h.plain⟩
    rw [hx] at hname
    cases hname
  · refine List.forall_mem_cons.2 ⟨fun g hg => ?_, h.spelled⟩
    rw [hx] at hg
    cases hg
  · intro g
    rw [List.map_cons, List.count_cons_of_ne (ne_variableName hx g)]
    exact h.once g

/-- The variable of a field is found among the others. -/
theorem get?_around_self (h : (around before after f text).Canonical) :
    (around before after f text).get? f.variableName = some text := by
  have hbefore : before.lookup f.variableName = none := by
    refine List.lookup_eq_none_iff.2 fun x hx => bne_iff_ne.2 fun heq => ?_
    have honce := h.once f
    have hpos : 0 < (before.map Prod.fst).count f.variableName :=
      List.count_pos_iff.2 (heq ▸ List.mem_map_of_mem hx)
    rw [around, List.map_append, List.count_append, List.map_cons, List.count_cons_self] at honce
    omega
  rw [get?, around, List.lookup_append, hbefore]
  simp

theorem get?_around_of_ne {g : Field} (hg : g ≠ f) (text text' : String) :
    (around before after f text).get? g.variableName =
      (around before after f text').get? g.variableName := by
  have hdiffer : (g.variableName == f.variableName) = false :=
    beq_eq_false_iff_ne.2 fun heq => hg (Field.variableName_inj.1 heq)
  simp [get?, around, List.lookup_append, List.lookup, hdiffer]

end Environment

open Environment (around)

/-- Plain layers go over any layer, and differ where they have different values. -/
theorem exists_merge {base l l' : Layer} {t : Table} (h : merge [base, l] = some t)
    (hplain : l.Plain) (hplain' : l'.Plain) : ∃ t', merge [base, l'] = some t' ∧
      (∀ f : Field, l'.last? f.name = l.last? f.name → t'.get? f.name = t.get? f.name) ∧
      ∀ (f : Field) (v : Value), l'.last? f.name = some v → t'.get? f.name = some v := by
  rw [merge_pair] at h
  obtain ⟨merged, hmerged, rfl⟩ := Option.map_eq_some_iff.1 h
  obtain ⟨root, hbase, hmerged⟩ := Option.bind_eq_some_iff.1 hmerged
  obtain ⟨onto, honto, hget⟩ := Layer.onto_of_plain hplain root
  obtain ⟨onto', honto', hget'⟩ := Layer.onto_of_plain hplain' root
  obtain rfl := Option.some.inj (honto.symm.trans hmerged)
  refine ⟨onto'.members, ?_, fun f hf => ?_, fun f v hf => ?_⟩
  · rw [merge_pair, hbase, Option.bind_some, honto']
    rfl
  · rw [hget', hget, hf]
  · rw [hget', hf]
    rfl

variable {env env' before after : Environment}

/-- The second environment has a text for a field, and for the others what the first one has. -/
structure Environment.Changes (env env' : Environment) (f : Field) (text : String) : Prop where
  before : env.Canonical
  after : env'.Canonical
  self : env'.get? f.variableName = some text
  others : ∀ g, g ≠ f → env'.get? g.variableName = env.get? g.variableName

/-- Another text of one variable. -/
theorem Environment.Changes.around (h : (around before after f text₀).Canonical) (text : String) :
    Changes (around before after f text₀) (around before after f text) f text :=
  ⟨h, h.around text, get?_around_self (h.around text), fun _ hg => get?_around_of_ne hg text text₀⟩

/-- The first variable. -/
theorem Environment.Changes.singleton (f : Field) (text : String) :
    Changes [] [(f.variableName, text)] f text := by
  refine ⟨.nil, .singleton f text, ?_, fun g hg => ?_⟩
  · rw [get?_singleton, if_pos rfl]
  · rw [get?_singleton, if_neg (Ne.symm hg)]
    rfl

/-- The settings with another text for a field are those of a table that has its value for the
field and what was read before for the others. -/
theorem exists_table_of_load (h : env.Changes env' f text)
    (hload : load files env file = .ok s) :
    ∃ t : Table, load files env' file = (Settings.ofTable? t).mapError .refused ∧
      t.field f = f.read (.ofEnvironment text) ∧ ∀ g, g ≠ f → t.field g = .ok (s.get g) := by
  obtain ⟨base, hbase⟩ := exists_baseLayer hload
  rw [load_of_baseLayer hbase, ofLayers] at hload
  rw [load_of_baseLayer hbase, ofLayers]
  cases hmerge : merge [base, .ofEnvironment env] with
  | none =>
    rw [hmerge] at hload
    cases hload
  | some t =>
    rw [hmerge] at hload
    have hfields := Settings.ofTable?_eq_ok_iff.1 (mapError_eq_ok_iff.1 hload)
    obtain ⟨t', hmerge', hsame, hown⟩ := exists_merge hmerge (.ofEnvironment h.before)
      (.ofEnvironment h.after)
    refine ⟨t', by rw [hmerge'], ?_, fun g hg => ?_⟩
    · have hlast : (Layer.ofEnvironment env').last? f.name = some (.ofEnvironment text) := by
        rw [Layer.last?_ofEnvironment h.after.direct, h.self]
        rfl
      rw [Table.field, hown f _ hlast]
      rfl
    · have hlast : (Layer.ofEnvironment env').last? g.name =
          (Layer.ofEnvironment env).last? g.name := by
        rw [Layer.last?_ofEnvironment h.after.direct, Layer.last?_ofEnvironment h.before.direct,
          h.others g hg]
      rw [Table.field, hsame g hlast]
      exact hfields g

/-- **A value that can be read changes its field** and leaves the others. -/
theorem load_changed (h : env.Changes env' f text) (hload : load files env file = .ok s)
    {x : f.Content} (hread : f.read (.ofEnvironment text) = .ok x) :
    ∃ s', load files env' file = .ok s' ∧ s'.get f = x ∧ ∀ g, g ≠ f → s'.get g = s.get g := by
  obtain ⟨t, ht, hf, hothers⟩ := exists_table_of_load h hload
  rw [hread] at hf
  obtain ⟨s', hs'⟩ : ∃ s', Settings.ofTable? t = .ok s' := by
    refine Settings.exists_ofTable?_iff.2 fun g => ?_
    by_cases hg : g = f
    · exact hg ▸ ⟨x, hf⟩
    · exact ⟨_, hothers g hg⟩
  have hfields := Settings.ofTable?_eq_ok_iff.1 hs'
  refine ⟨s', ?_, ?_, fun g hg => ?_⟩
  · rw [ht, hs']
    rfl
  · exact Except.ok.inj ((hfields f).symm.trans hf)
  · exact Except.ok.inj ((hfields g).symm.trans (hothers g hg))

/-- **A value that cannot be read is refused**, and no settings are loaded. -/
theorem load_changed_error (h : env.Changes env' f text) (hload : load files env file = .ok s)
    {refusal : Refusal} (hread : f.read (.ofEnvironment text) = .error refusal) :
    load files env' file = .error (.refused refusal) := by
  obtain ⟨t, ht, hf, hothers⟩ := exists_table_of_load h hload
  rw [hread] at hf
  rw [ht, ofTable?_eq_error hf fun g hg => ⟨_, hothers g hg⟩]
  rfl

theorem load_variable (hcanonical : (around before after f text₀).Canonical)
    (hload : load files (around before after f text₀) file = .ok s) {x : f.Content}
    (hread : f.read (.ofEnvironment text) = .ok x) :
    ∃ s', load files (around before after f text) file = .ok s' ∧ s'.get f = x ∧
      ∀ g, g ≠ f → s'.get g = s.get g :=
  load_changed (.around hcanonical text) hload hread

theorem load_variable_error (hcanonical : (around before after f text₀).Canonical)
    (hload : load files (around before after f text₀) file = .ok s) {refusal : Refusal}
    (hread : f.read (.ofEnvironment text) = .error refusal) :
    load files (around before after f text) file = .error (.refused refusal) :=
  load_changed_error (.around hcanonical text) hload hread

end Config
end MailGateway
