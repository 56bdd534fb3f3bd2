/-
# Layers over layers

A name of a layer is a path, its case does not count, and a value that is a table is merged into
another.  Where each field is reached by its own name only (`Layer.Direct`), and has no parts,
none of this shows in it: each value takes the place of the one before it, so a table of layers
holds in a field the last value that any of the layers has for it (`merge_of_direct`), whatever
other names there are.

There is such a table unless a name counts the items of a sequence and finds no place for one
(`exists_merge_of_noItems`).  Plain names do not (`Layer.Plain`).
-/

import MailGateway.Config.Layer
import MailGateway.Proofs.Config.Fields

namespace MailGateway

/-! ### Plain names -/

namespace Text

theorem lowerFrom_of_not_isUpper {before cs : List Char}
    (h : ∀ c ∈ cs, c.toNat < 0x80 ∧ c.isUpper = false) : lowerFrom before cs = cs := by
  induction cs generalizing before with
  | nil => rfl
  | cons c rest ih =>
    obtain ⟨hascii, hupper⟩ := h c List.mem_cons_self
    have hsigma : c ≠ 'Σ' := by
      rintro rfl
      exact absurd hascii (by decide)
    have htoLower : c.toLower = c := by
      rw [Char.toLower, dif_neg]
      simpa [Char.isUpper] using hupper
    have hchar : lowerChar c = [c] := by
      simp only [lowerChar, hascii, ↓reduceIte, htoLower]
    rw [lowerFrom, if_neg hsigma, hchar, ih fun c hc => h c (List.mem_cons_of_mem _ hc)]
    rfl

/-- A text of ASCII without capitals is its own lower case. -/
theorem lower_of_not_isUpper {s : String}
    (h : ∀ c ∈ s.toList, c.toNat < 0x80 ∧ c.isUpper = false) : lower s = s := by
  rw [lower, lowerFrom_of_not_isUpper h, String.ofList_toList]

end Text

namespace Config

namespace Path

theorem toNat_lt_of_isNameChar {c : Char} (h : isNameChar c = true) : c.toNat < 0x80 := by
  simp only [isNameChar, Char.isAlphanum, Char.isAlpha, Char.isUpper, Char.isLower, Char.isDigit,
    Bool.or_eq_true, Bool.and_eq_true, decide_eq_true_eq, UInt32.le_iff_toNat_le, ge_iff_le] at h
  have hletters : 'Z'.val.toNat = 90 ∧ 'z'.val.toNat = 122 ∧ '9'.val.toNat = 57 := by decide
  have hval : c.toNat = c.val.toNat := rfl
  rcases h with (((h | h) | rfl) | rfl) | rfl
  · omega
  · omega
  all_goals decide

/-- A name without steps leads to itself. -/
theorem ofName_of_isNameChar {name : String} (h : ∀ c ∈ name.toList, isNameChar c = true) :
    ofName name = ⟨name, []⟩ := by
  have htake : name.toList.takeWhile isNameChar = name.toList := List.takeWhile_eq_self_iff.2 h
  have hdrop : name.toList.dropWhile isNameChar = [] := List.dropWhile_eq_nil_iff.2 h
  cases hempty : name.toList.isEmpty with
  | true => simp [ofName, ofName?, readName, htake, hempty]
  | false => simp [ofName, ofName?, readName, htake, hdrop, hempty, readSteps]

/-- The member of the whole that a path leads to or into. -/
def entry (p : Path) : String := if p.steps = [] then Text.lower p.head else p.head

/-- No step of the path counts items. -/
def NoItems (p : Path) : Prop := ∀ step ∈ p.steps, ∃ name, step = .member name

/-- **A path leaves the other members alone.** -/
theorem get?_set_of_ne {p : Path} {new root root' : Value} {name : String}
    (h : p.set new root = some root') (hne : p.entry ≠ name) :
    root'.members.get? name = root.members.get? name := by
  unfold set at h
  split at h
  · next hlast =>
    obtain rfl := Option.some.inj h
    have hsteps : p.steps = [] := List.getLast?_eq_none_iff.1 hlast
    rw [entry, if_pos hsteps] at hne
    exact (Table.get?_put ..).trans (if_neg (Ne.symm hne))
  · next last hlast =>
    have hsteps : p.steps ≠ [] := fun hnil => by simp [hnil] at hlast
    rw [entry, if_neg hsteps] at hne
    obtain ⟨inner, -, hroot⟩ := Option.bind_eq_some_iff.1 h
    obtain rfl := Option.some.inj hroot
    exact (Table.get?_put ..).trans (if_neg (Ne.symm hne))

theorem exists_change {f : Value → Option Value} (hf : ∀ v, ∃ v', f v = some v') {steps : List Step}
    (h : ∀ step ∈ steps, ∃ name, step = .member name) (v : Value) :
    ∃ v', change f steps v = some v' := by
  induction steps generalizing v with
  | nil => exact hf v
  | cons step steps ih =>
    obtain ⟨name, rfl⟩ := h step List.mem_cons_self
    obtain ⟨new, hnew⟩ := ih (fun s hs => h s (List.mem_cons_of_mem _ hs))
      ((v.members.get? name).getD (.scalar .null none))
    exact ⟨_, Option.bind_eq_some_iff.2 ⟨new, hnew, rfl⟩⟩

/-- Where no items are counted there is a place for every value. -/
theorem NoItems.exists_set {p : Path} (h : p.NoItems) (new root : Value) :
    ∃ root', p.set new root = some root' := by
  unfold set
  split
  · exact ⟨_, rfl⟩
  · next last hlast =>
    obtain ⟨name, rfl⟩ := h last (List.mem_of_getLast? hlast)
    refine exists_change (fun v => ⟨_, rfl⟩) ?_ root
    refine List.forall_mem_cons.2 ⟨⟨_, rfl⟩, fun step hstep => ?_⟩
    exact h step (List.mem_of_mem_dropLast hstep)

end Path

/-- A plain name is a path of one step and has no capitals. -/
def IsPlain (name : String) : Prop :=
  ∀ c ∈ name.toList, Path.isNameChar c = true ∧ c.isUpper = false

instance (name : String) : Decidable (IsPlain name) := List.decidableBAll _ _

theorem IsPlain.lower {name : String} (h : IsPlain name) : Text.lower name = name :=
  Text.lower_of_not_isUpper fun c hc => ⟨Path.toNat_lt_of_isNameChar (h c hc).1, (h c hc).2⟩

theorem IsPlain.ofName {name : String} (h : IsPlain name) : Path.ofName name = ⟨name, []⟩ :=
  Path.ofName_of_isNameChar fun c hc => (h c hc).1

theorem IsPlain.entry_ofName {name : String} (h : IsPlain name) :
    (Path.ofName name).entry = name := by
  rw [h.ofName]
  exact h.lower

theorem IsPlain.noItems {name : String} (h : IsPlain name) : (Path.ofName name).NoItems := by
  rw [h.ofName]
  exact nofun

theorem Field.isPlain_name (f : Field) : IsPlain f.name := by cases f <;> decide

/-! ### Layers -/

/-- A value that has no parts. -/
def Value.IsScalar (v : Value) : Prop := ∃ x origin, v = .scalar x origin

theorem Value.IsScalar.onto {v : Value} (h : v.IsScalar) (old : Option Value) :
    v.onto old = v := by
  obtain ⟨x, origin, rfl⟩ := h
  rw [Value.onto]
  all_goals simp

/-- A layer whose names are plain, and whose values for fields have no parts. -/
structure Layer.Plain (l : Layer) : Prop where
  name : ∀ m ∈ l, IsPlain m.1
  scalar : ∀ m ∈ l, ∀ f : Field, m.1 = f.name → m.2.IsScalar

/-- A layer in which each field is reached by its own name only, and has no parts. -/
structure Layer.Direct (l : Layer) : Prop where
  named : ∀ m ∈ l, ∀ f : Field, (Path.ofName m.1).entry = f.name → m.1 = f.name
  scalar : ∀ m ∈ l, ∀ f : Field, m.1 = f.name → m.2.IsScalar

/-- A layer of which no name counts items. -/
def Layer.NoItems (l : Layer) : Prop := ∀ m ∈ l, (Path.ofName m.1).NoItems

theorem Layer.Plain.direct {l : Layer} (h : l.Plain) : l.Direct :=
  ⟨fun m hm _ hentry => (h.name m hm).entry_ofName.symm.trans hentry, h.scalar⟩

theorem Layer.Plain.noItems {l : Layer} (h : l.Plain) : l.NoItems := fun m hm =>
  (h.name m hm).noItems

/-- The last value that a layer has for a name. -/
def Layer.last? : Layer → String → Option Value
  | [], _ => none
  | (k, v) :: rest, name => (last? rest name).or (if k = name then some v else none)

namespace Layer

variable {l l' : Layer} {name : String} {v : Value}

theorem last?_append (l l' : Layer) (name : String) :
    last? (l ++ l') name = (last? l' name).or (last? l name) := by
  induction l with
  | nil => simp [last?]
  | cons m rest ih =>
    obtain ⟨k, v⟩ := m
    rw [List.cons_append, last?, ih, last?, Option.or_assoc]

theorem mem_of_last? (h : l.last? name = some v) : (name, v) ∈ l := by
  induction l with
  | nil => cases h
  | cons m rest ih =>
    obtain ⟨k, w⟩ := m
    rcases Option.or_eq_some_iff.1 h with hrest | ⟨-, hk⟩
    · exact List.mem_cons_of_mem _ (ih hrest)
    · obtain ⟨rfl, hw⟩ := Option.ite_none_right_eq_some.1 hk
      obtain rfl := Option.some.inj hw
      exact List.mem_cons_self

theorem Plain.nil : Plain [] := ⟨nofun, nofun⟩

theorem NoItems.of_cons {m : String × Value} (h : NoItems (m :: l)) : l.NoItems := fun m hm =>
  h m (List.mem_cons_of_mem _ hm)

theorem Direct.of_cons {m : String × Value} (h : Direct (m :: l)) : l.Direct :=
  ⟨fun m hm => h.named m (List.mem_cons_of_mem _ hm),
    fun m hm => h.scalar m (List.mem_cons_of_mem _ hm)⟩

theorem Direct.append (h : l.Direct) (h' : l'.Direct) : Direct (l ++ l') :=
  ⟨List.forall_mem_append.2 ⟨h.named, h'.named⟩, List.forall_mem_append.2 ⟨h.scalar, h'.scalar⟩⟩

theorem Direct.flatten {layers : List Layer} (h : ∀ l ∈ layers, l.Direct) :
    Direct layers.flatten := by
  induction layers with
  | nil => exact Plain.nil.direct
  | cons l rest ih =>
    exact (h l List.mem_cons_self).append (ih fun l hl => h l (List.mem_cons_of_mem _ hl))

theorem NoItems.flatten {layers : List Layer} (h : ∀ l ∈ layers, l.NoItems) :
    NoItems layers.flatten := by
  intro m hm
  obtain ⟨l, hl, hml⟩ := List.mem_flatten.1 hm
  exact h l hl m hml

/-- A field alone is a plain layer. -/
theorem Plain.singleton (f : Field) (h : v.IsScalar) : Plain [(f.name, v)] := by
  constructor
  · rintro m hm
    obtain rfl := List.mem_singleton.1 hm
    exact f.isPlain_name
  · rintro m hm - -
    obtain rfl := List.mem_singleton.1 hm
    exact h

theorem last?_singleton (f g : Field) (v : Value) :
    last? [(f.name, v)] g.name = if f = g then some v else none := by
  simp [last?, Field.name_inj]

/-- A field that is set holds the value. -/
theorem get?_set_name {f : Field} {root root' : Value} (hv : v.IsScalar)
    (h : (Path.ofName f.name).set v root = some root') : root'.members.get? f.name = some v := by
  rw [f.isPlain_name.ofName] at h
  obtain rfl : root.setMember f.name v = root' := Option.some.inj h
  rw [Value.setMember, f.isPlain_name.lower, Value.members, Table.get?_put, if_pos rfl, hv.onto]

/-- **What a layer has for a field** is what it puts over a table.  The induction is on the layer;
the later members are put over what the first one has made of the table. -/
theorem get?_onto_of_direct (h : l.Direct) {root root' : Value}
    (honto : l.onto root = some root') (f : Field) :
    root'.members.get? f.name = (l.last? f.name).or (root.members.get? f.name) := by
  induction l generalizing root with
  | nil =>
    obtain rfl := Option.some.inj honto
    rfl
  | cons m rest ih =>
    obtain ⟨k, v⟩ := m
    obtain ⟨next, hset, hrest⟩ := Option.bind_eq_some_iff.1 honto
    rw [ih h.of_cons hrest, last?, Option.or_assoc]
    congr 1
    by_cases hk : k = f.name
    · subst hk
      rw [get?_set_name (h.scalar (f.name, v) List.mem_cons_self f rfl) hset, if_pos rfl]
      rfl
    · have hentry : (Path.ofName k).entry ≠ f.name := fun heq =>
        hk (h.named (k, v) List.mem_cons_self f heq)
      rw [Path.get?_set_of_ne hset hentry, if_neg hk]
      rfl

/-- Names that count no items have a place in any table. -/
theorem NoItems.exists_onto (h : l.NoItems) (root : Value) :
    ∃ root', l.onto root = some root' := by
  induction l generalizing root with
  | nil => exact ⟨root, rfl⟩
  | cons m rest ih =>
    obtain ⟨next, hset⟩ := (h m List.mem_cons_self).exists_set m.2 root
    obtain ⟨root', hrest⟩ := ih h.of_cons next
    exact ⟨root', Option.bind_eq_some_iff.2 ⟨next, hset, hrest⟩⟩

/-- What a plain layer puts over a table. -/
theorem onto_of_plain (h : l.Plain) (root : Value) :
    ∃ root', l.onto root = some root' ∧
      ∀ f : Field, root'.members.get? f.name = (l.last? f.name).or (root.members.get? f.name) := by
  obtain ⟨root', honto⟩ := h.noItems.exists_onto root
  exact ⟨root', honto, get?_onto_of_direct h.direct honto⟩

end Layer

theorem merge_eq_onto_flatten (layers : List Layer) :
    merge layers = (Layer.onto layers.flatten (.table [])).map Value.members := by
  suffices h : ∀ root, layers.foldlM (fun root (layer : Layer) => layer.onto root) root =
      Layer.onto layers.flatten root by rw [merge, h]
  induction layers with
  | nil => exact fun root => rfl
  | cons l rest ih =>
    intro root
    rw [List.flatten_cons, Layer.onto, List.foldlM_append, List.foldlM_cons]
    exact congrArg _ (funext ih)

/-- **In a table of direct layers the last value of a field counts.** -/
theorem merge_of_direct {layers : List Layer} (h : ∀ l ∈ layers, l.Direct) {t : Table}
    (hmerge : merge layers = some t) (f : Field) :
    t.get? f.name = Layer.last? layers.flatten f.name := by
  rw [merge_eq_onto_flatten] at hmerge
  obtain ⟨root, honto, rfl⟩ := Option.map_eq_some_iff.1 hmerge
  rw [Layer.get?_onto_of_direct (Layer.Direct.flatten h) honto]
  exact Option.or_none

/-- Layers whose names count no items have a table. -/
theorem exists_merge_of_noItems {layers : List Layer} (h : ∀ l ∈ layers, l.NoItems) :
    ∃ t, merge layers = some t := by
  obtain ⟨root, honto⟩ := (Layer.NoItems.flatten h).exists_onto (.table [])
  exact ⟨root.members, by rw [merge_eq_onto_flatten, honto]; rfl⟩

end Config
end MailGateway
