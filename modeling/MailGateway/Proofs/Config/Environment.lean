/-
# The environment as a layer

Names of the environment count in any case and by what stands behind the prefix.  Where
every field is reached by its canonical spelling only, and at most once
(`Environment.Direct`), the layer of the environment is direct
(`Layer.Direct.ofEnvironment`), and what it has for a field is the text of the variable of that
field (`Layer.last?_ofEnvironment`).  The other names may be any; where they are plain too
(`Environment.Canonical`), so is the layer (`Layer.Plain.ofEnvironment`).
-/

import MailGateway.Proofs.Config.Layers

namespace MailGateway
namespace Config

/-- The name of the setting that a name of the environment stands for. -/
def settingName? (variableName : String) : Option String :=
  let name := (Text.lower variableName).toList
  let start := environmentPrefix.toList
  if start.isPrefixOf name then some (String.ofList (name.drop start.length)) else none

/-- The canonical name that the environment has for a field. -/
def Field.variableName (f : Field) : String := (environmentPrefix ++ f.name).toUpper

theorem Field.settingName?_variableName (f : Field) :
    settingName? f.variableName = some f.name := by
  cases f <;> decide +kernel

example : Field.gracePeriod.variableName = "EMAIL_BACKEND_SHUTDOWN_GRACE_PERIOD" := by
  decide +kernel

theorem Field.variableName_inj {f g : Field} : f.variableName = g.variableName ↔ f = g := by
  refine ⟨fun h => Field.name_inj.1 (Option.some.inj ?_), fun h => h ▸ rfl⟩
  rw [← f.settingName?_variableName, h, g.settingName?_variableName]

/-- The value that a text of the environment stands for. -/
def Value.ofEnvironment (s : String) : Value := .scalar (Scalar.ofText s) environmentOrigin

/-- An environment that gives each field in its canonical spelling only, and at most once.
Of the other names none leads to a field or into one. -/
structure Environment.Direct (e : Environment) : Prop where
  direct : ∀ x ∈ e, ∀ name, settingName? x.1 = some name →
    ∀ f : Field, (Path.ofName name).entry = f.name → x.1 = f.variableName
  once : ∀ f : Field, (e.map Prod.fst).count f.variableName ≤ 1

theorem Environment.Direct.of_cons {x : String × String} {e : Environment}
    (h : Environment.Direct (x :: e)) : e.Direct :=
  ⟨fun y hy => h.direct y (List.mem_cons_of_mem _ hy),
    fun f => (List.Sublist.count_le _ (List.sublist_cons_self ..)).trans (h.once f)⟩

theorem Environment.Direct.spelled {e : Environment} (h : e.Direct) {x : String × String}
    (hx : x ∈ e) {f : Field} (hname : settingName? x.1 = some f.name) : x.1 = f.variableName :=
  h.direct x hx f.name hname f f.isPlain_name.entry_ofName

/-- An environment that gives each field in its canonical spelling only, and at most once.
The other names with the prefix are plain. -/
structure Environment.Canonical (e : Environment) : Prop where
  plain : ∀ x ∈ e, ∀ name, settingName? x.1 = some name → IsPlain name
  spelled : ∀ x ∈ e, ∀ f : Field, settingName? x.1 = some f.name → x.1 = f.variableName
  once : ∀ f : Field, (e.map Prod.fst).count f.variableName ≤ 1

theorem Environment.Canonical.direct {e : Environment} (h : e.Canonical) : e.Direct := by
  refine ⟨fun x hx name hname f hentry => h.spelled x hx f ?_, h.once⟩
  rw [hname, ← hentry, (h.plain x hx name hname).entry_ofName]

/-- The variable of one field alone. -/
theorem Environment.Canonical.singleton (f : Field) (s : String) :
    Environment.Canonical [(f.variableName, s)] := by
  constructor
  · intro x hx name hname
    obtain rfl := List.mem_singleton.1 hx
    obtain rfl := Option.some.inj (f.settingName?_variableName.symm.trans hname)
    exact f.isPlain_name
  · intro x hx g hg
    obtain rfl := List.mem_singleton.1 hx
    have hname : f.name = g.name := Option.some.inj (f.settingName?_variableName.symm.trans hg)
    rw [Field.name_inj.1 hname]
  · exact fun g => List.count_le_length

theorem Environment.get?_singleton (f g : Field) (s : String) :
    Environment.get? [(f.variableName, s)] g.variableName = if f = g then some s else none := by
  by_cases h : f = g
  · subst h
    simp [get?]
  · have hdiffer : (g.variableName == f.variableName) = false :=
      beq_eq_false_iff_ne.2 fun heq => h (Field.variableName_inj.1 heq.symm)
    simp [get?, List.lookup, h, hdiffer]

theorem Environment.Canonical.nil : Environment.Canonical [] := ⟨nofun, nofun, fun _ => by simp⟩

namespace Layer

variable {l : Layer} {e : Environment} {name : String} {v : Value}

/-- The layer after one more name of the environment. -/
def putVariable (l : Layer) (x : String × String) : Layer :=
  match settingName? x.1 with
  | some name => Table.put l name (.ofEnvironment x.2)
  | none => l

theorem ofEnvironment_eq_foldl (e : Environment) : ofEnvironment e = e.foldl putVariable [] := by
  unfold ofEnvironment
  refine congrArg (List.foldl · [] e) ?_
  funext l ⟨variableName, s⟩
  unfold putVariable settingName?
  dsimp only
  split <;> rfl

theorem mem_put {m : String × Value} (h : m ∈ Table.put l name v) : m ∈ l ∨ m = (name, v) := by
  induction l with
  | nil => exact .inr (List.mem_singleton.1 h)
  | cons n rest ih =>
    obtain ⟨k, w⟩ := n
    rw [Table.put] at h
    split at h
    · next hk =>
      subst hk
      exact (List.mem_cons.1 h).elim .inr fun h => .inl (List.mem_cons_of_mem _ h)
    · rcases List.mem_cons.1 h with rfl | h
      · exact .inl List.mem_cons_self
      · exact (ih h).imp_left (List.mem_cons_of_mem _)

theorem mem_foldl_putVariable {m : String × Value} (h : m ∈ e.foldl putVariable l) :
    m ∈ l ∨ ∃ x ∈ e, settingName? x.1 = some m.1 ∧ m.2 = .ofEnvironment x.2 := by
  induction e generalizing l with
  | nil => exact .inl h
  | cons x rest ih =>
    rcases ih h with hput | ⟨y, hy, hname⟩
    · unfold putVariable at hput
      split at hput
      · next name hname =>
        exact (mem_put hput).imp_right fun hm =>
          ⟨x, List.mem_cons_self, by rw [hm, hname], by rw [hm]⟩
      · exact .inl hput
    · exact .inr ⟨y, List.mem_cons_of_mem _ hy, hname⟩

/-- **The members of the environment** are those of its names. -/
theorem mem_ofEnvironment {m : String × Value} (h : m ∈ ofEnvironment e) :
    ∃ x ∈ e, settingName? x.1 = some m.1 ∧ m.2 = .ofEnvironment x.2 := by
  rw [ofEnvironment_eq_foldl] at h
  exact (mem_foldl_putVariable h).resolve_left List.not_mem_nil

theorem Plain.ofEnvironment (h : e.Canonical) : (Layer.ofEnvironment e).Plain := by
  constructor
  · intro m hm
    obtain ⟨x, hx, hname, -⟩ := mem_ofEnvironment hm
    exact h.plain x hx m.1 hname
  · intro m hm _ _
    obtain ⟨x, -, -, hvalue⟩ := mem_ofEnvironment hm
    exact ⟨_, _, hvalue⟩

theorem Direct.ofEnvironment (h : e.Direct) : (Layer.ofEnvironment e).Direct := by
  constructor
  · intro m hm f hentry
    obtain ⟨x, hx, hname, -⟩ := mem_ofEnvironment hm
    have hvariable := h.direct x hx m.1 hname f hentry
    rw [hvariable, f.settingName?_variableName] at hname
    exact (Option.some.inj hname).symm
  · intro m hm _ _
    obtain ⟨x, -, -, hvalue⟩ := mem_ofEnvironment hm
    exact ⟨_, _, hvalue⟩

/-! ### What the environment has for a field -/

theorem last?_put_of_ne {other : String} (h : other ≠ name) :
    last? (Table.put l name v) other = l.last? other := by
  induction l with
  | nil => simp [Table.put, last?, h.symm]
  | cons m rest ih =>
    obtain ⟨k, w⟩ := m
    rw [Table.put]
    split
    · next hk =>
      subst hk
      simp [last?, h.symm]
    · rw [last?, ih, last?]

/-- A new member stands last. -/
theorem last?_put_self (h : l.last? name = none) : last? (Table.put l name v) name = some v := by
  induction l with
  | nil => simp [Table.put, last?]
  | cons m rest ih =>
    obtain ⟨k, w⟩ := m
    obtain ⟨hrest, hnone⟩ := Option.or_eq_none_iff.1 h
    have hk : k ≠ name := by
      rintro rfl
      simp at hnone
    rw [Table.put, if_neg hk, last?, ih hrest]
    rfl

theorem last?_putVariable_of_ne {x : String × String} {f : Field}
    (h : settingName? x.1 ≠ some f.name) : (l.putVariable x).last? f.name = l.last? f.name := by
  unfold putVariable
  split
  · next name hname =>
    refine last?_put_of_ne fun heq => h ?_
    rw [hname, heq]
  · rfl

theorem last?_foldl_putVariable_of_notMem {f : Field} (he : e.Direct)
    (h : f.variableName ∉ e.map Prod.fst) :
    (e.foldl putVariable l).last? f.name = l.last? f.name := by
  induction e generalizing l with
  | nil => rfl
  | cons x rest ih =>
    obtain ⟨hx, hrest⟩ := not_or.1 (mt List.mem_cons.2 h)
    have hname : settingName? x.1 ≠ some f.name := fun hname =>
      hx (he.spelled List.mem_cons_self hname).symm
    rw [List.foldl_cons, ih he.of_cons hrest, last?_putVariable_of_ne hname]

/-- **The environment has the text of its variable for a field.**  The induction is on the
environment; what stands behind the variable of a field leaves the field alone, since the
variable does not come twice. -/
theorem last?_foldl_putVariable {f : Field} (he : e.Direct) (h : l.last? f.name = none) :
    (e.foldl putVariable l).last? f.name = (e.get? f.variableName).map .ofEnvironment := by
  induction e generalizing l with
  | nil => exact h
  | cons x rest ih =>
    obtain ⟨variableName, s⟩ := x
    rw [List.foldl_cons]
    by_cases hx : f.variableName = variableName
    · subst hx
      have hrest : f.variableName ∉ rest.map Prod.fst := fun hmem => by
        have honce := he.once f
        rw [List.map_cons, List.count_cons_self] at honce
        have := List.count_pos_iff.2 hmem
        omega
      have hput : l.putVariable (f.variableName, s) = Table.put l f.name (.ofEnvironment s) := by
        rw [putVariable, f.settingName?_variableName]
      rw [last?_foldl_putVariable_of_notMem he.of_cons hrest, hput, last?_put_self h]
      simp [Environment.get?]
    · have hname : settingName? (variableName, s).1 ≠ some f.name := fun hname =>
        hx (he.spelled List.mem_cons_self hname).symm
      have hput : (l.putVariable (variableName, s)).last? f.name = none := by
        rw [last?_putVariable_of_ne hname, h]
      rw [ih he.of_cons hput]
      have hdiffer : (f.variableName == variableName) = false := by simpa using hx
      simp [Environment.get?, List.lookup, hdiffer]

theorem last?_ofEnvironment (h : e.Direct) (f : Field) :
    (Layer.ofEnvironment e).last? f.name = (e.get? f.variableName).map .ofEnvironment := by
  have hnil : last? [] f.name = none := rfl
  rw [ofEnvironment_eq_foldl, last?_foldl_putVariable h hnil]

end Layer
end Config
end MailGateway
