/-
# Options, in any order

An option is written as its long name, with its value behind `=` (`write`).  A word that is
written so is taken in at once and leaves nothing pending (`word_write`), so a list of different
options is taken in as it stands (`words_write`), and what is asked of it afterwards does not
depend on the order (`lookup_of_perm`).
-/

import Mathlib.Data.List.Perm.Basic
import Mathlib.Data.List.TakeWhile
import MailGateway.CommandLine.Parse
import MailGateway.Proofs.Text.Separator

namespace MailGateway
namespace CommandLine

/-- An option, and its value if it has one. -/
abbrev Given := Choice × Option String

/-- An option as it is written: its long name, and its value behind `=`. -/
def write (g : Given) : String :=
  match g.2 with
  | none => "--" ++ g.1.spelling.long
  | some v => "--" ++ g.1.spelling.long ++ "=" ++ v

/-- An option that stands at its place with a value that it takes, and asks for no help. -/
structure Fits (place : Option Verb) (g : Given) : Prop where
  mem : g.1 ∈ choices place
  notHelp : g.1 ≠ .help ∧ g.1 ≠ .version
  valued : g.2.isSome = g.1.spelling.value.isSome
  check : ∀ v, g.2 = some v → checkValue g.1 v = .ok ()

variable {place : Option Verb} {g : Given} {gs given : List Given} {positionals : List String}

/-! ### One word -/

theorem long?_long {o : Choice} (h : o ∈ choices place) : long? place o.spelling.long = some o := by
  revert h
  cases place with
  | none => cases o <;> decide
  | some v => cases v <;> cases o <;> decide

/-- A long name is a word without an equals sign. -/
theorem long_ne (o : Choice) : o.spelling.long.toList ≠ [] ∧ '=' ∉ o.spelling.long.toList := by
  cases o <;> decide

theorem toList_write (g : Given) : (write g).toList =
    '-' :: '-' :: (g.1.spelling.long.toList ++ match g.2 with
      | none => []
      | some v => '=' :: v.toList) := by
  have hdashes : "--".toList = ['-', '-'] := by decide
  have hequals : "=".toList = ['='] := by decide
  obtain ⟨o, _ | v⟩ := g
  · simp [write, String.toList_append, hdashes]
  · simp [write, String.toList_append, hdashes, hequals]

/-- What is written begins with two dashes and a letter. -/
theorem exists_toList_write (g : Given) : ∃ c cs, (write g).toList = '-' :: '-' :: c :: cs := by
  obtain ⟨c, cs, hlong⟩ := List.exists_cons_of_ne_nil (long_ne g.1).1
  rw [toList_write, hlong]
  exact ⟨c, _, rfl⟩

theorem write_ne (g : Given) {w : String} (h : w.toList.head? ≠ some '-') : write g ≠ w := by
  rintro rfl
  obtain ⟨c, cs, hcons⟩ := exists_toList_write g
  exact h (by rw [hcons, List.head?_cons])

/-- A word with two dashes and more is a long option. -/
theorem word_of_toList {w : String} {c : Char} {cs : List Char}
    (h : w.toList = '-' :: '-' :: c :: cs) :
    Level.word ⟨place, given, positionals, .nothing, false⟩ w =
      Level.long ⟨place, given, positionals, .nothing, false⟩
        (String.ofList ((c :: cs).takeWhile (· ≠ '=')))
        (match (c :: cs).dropWhile (· ≠ '=') with
          | [] => none
          | _ :: value => some (String.ofList value)) := by
  rw [Level.word, if_neg Bool.false_ne_true, h]
  change (match (c :: cs).dropWhile (· ≠ '=') with
    | [] => _
    | _ :: value => _) = _
  split <;> rfl

/-- What is written is read as a name and a value. -/
theorem word_write_eq (g : Given) :
    Level.word ⟨place, given, positionals, .nothing, false⟩ (write g) =
      Level.long ⟨place, given, positionals, .nothing, false⟩ g.1.spelling.long g.2 := by
  obtain ⟨c, cs, hcons⟩ := exists_toList_write g
  have hequals := (long_ne g.1).2
  have hname := toList_write g
  rw [hcons, List.cons.injEq, List.cons.injEq] at hname
  obtain ⟨-, -, hname⟩ := hname
  rw [word_of_toList hcons, hname]
  cases g.2 with
  | none =>
    have htake : g.1.spelling.long.toList.takeWhile (· ≠ '=') = g.1.spelling.long.toList :=
      List.takeWhile_eq_self_iff.2 fun x hx => decide_eq_true fun h => hequals (h ▸ hx)
    have hdrop : g.1.spelling.long.toList.dropWhile (· ≠ '=') = [] :=
      List.dropWhile_eq_nil_iff.2 fun x hx => decide_eq_true fun h => hequals (h ▸ hx)
    simp only [List.append_nil, htake, hdrop, String.ofList_toList]
  | some v =>
    simp only [takeWhile_front hequals, dropWhile_front hequals, String.ofList_toList]

/-- An option that is written is taken in at once. -/
theorem word_write (positionals : List String) (h : Fits place g)
    (hnew : g.1 ∉ given.map Prod.fst) :
    Level.word ⟨place, given, positionals, .nothing, false⟩ (write g) =
      .ok ⟨place, given ++ [g], positionals, .nothing, false⟩ := by
  have hhas : Level.has ⟨place, given, positionals, .nothing, false⟩ g.1 = false := by
    refine List.any_eq_false.2 fun x hx => ?_
    have hne : x.1 ≠ g.1 := fun h => hnew (h ▸ List.mem_map_of_mem hx)
    simpa using hne
  have haccept : Level.accept ⟨place, given, positionals, .nothing, false⟩ g.1 g.2 =
      .ok ⟨place, given ++ [g], positionals, .nothing, false⟩ := by
    obtain ⟨o, _ | v⟩ := g
    · simp [Level.accept, hhas, pure, Except.pure]
    · simp [Level.accept, hhas, h.check v rfl, bind, Except.bind, pure, Except.pure]
  rw [word_write_eq, Level.long, long?_long h.mem]
  dsimp only
  have hvalued := h.valued
  cases hvalue : g.2 with
  | none =>
    rw [hvalue] at hvalued haccept
    have hnone : g.1.spelling.value = none := by simpa using hvalued.symm
    rw [hnone]
    dsimp only
    obtain ⟨hhelp, hversion⟩ := h.notHelp
    rw [← haccept, Level.switch]
    simp only [Level.settle, bind, Except.bind]
    split
    · exact absurd ‹g.1 = .help› hhelp
    · exact absurd ‹g.1 = .help› hhelp
    · exact absurd ‹g.1 = .version› hversion
    · rfl
  | some v =>
    rw [hvalue] at hvalued haccept
    obtain ⟨form, hform⟩ := Option.isSome_iff_exists.1 hvalued.symm
    rw [hform]
    exact haccept

/-! ### Several words -/

theorem notMem_of_nodup (h : ((given ++ g :: gs).map Prod.fst).Nodup) :
    g.1 ∉ given.map Prod.fst := by
  rw [List.map_append, List.map_cons] at h
  exact fun hmem => (List.nodup_append.1 h).2.2 _ hmem _ List.mem_cons_self rfl

/-- **Options that are written are taken in as they stand.** -/
theorem words_write (given : List Given) (positionals : List String)
    (hfits : ∀ g ∈ gs, Fits place g) (hnodup : ((given ++ gs).map Prod.fst).Nodup) :
    Level.words ⟨place, given, positionals, .nothing, false⟩ (gs.map write) =
      .ok ⟨place, given ++ gs, positionals, .nothing, false⟩ := by
  induction gs generalizing given with
  | nil => rw [List.append_nil]; rfl
  | cons g gs ih =>
    have hstep := word_write positionals (hfits g List.mem_cons_self)
      (notMem_of_nodup hnodup)
    have hrest := ih (given ++ [g]) (fun x hx => hfits x (List.mem_cons_of_mem _ hx))
      (by rwa [List.append_assoc, List.singleton_append])
    rw [List.append_assoc, List.singleton_append] at hrest
    rw [List.map_cons, Level.words, List.foldlM_cons, hstep]
    exact hrest

/-- In front of the subcommand options are taken in before it is read. -/
theorem parseFrom_write (given : List Given) {v : Verb} {ws : List String}
    (hfits : ∀ g ∈ gs, Fits none g) (hnodup : ((given ++ gs).map Prod.fst).Nodup) :
    parseFrom ⟨none, given, [], .nothing, false⟩ (gs.map write ++ v.word :: ws) =
      parseVerb ⟨none, given ++ gs, [], .nothing, false⟩ v ws := by
  induction gs generalizing given with
  | nil =>
    have hverb : Verb.ofWord? v.word = some v := by cases v <;> decide
    simp [parseFrom, Level.isWaiting, hverb]
  | cons g gs ih =>
    have hverb : Verb.ofWord? (write g) = none := by
      have hwords : ∀ v ∈ Verb.all, v.word.toList.head? ≠ some '-' := by decide
      refine List.find?_eq_none.2 fun v hv => ?_
      simpa using (write_ne g (hwords v hv)).symm
    have hstep := word_write [] (hfits g List.mem_cons_self)
      (notMem_of_nodup hnodup)
    have hrest := ih (given ++ [g]) (fun x hx => hfits x (List.mem_cons_of_mem _ hx))
      (by rwa [List.append_assoc, List.singleton_append])
    rw [List.append_assoc, List.singleton_append] at hrest
    rw [List.map_cons, List.cons_append, parseFrom]
    simp only [Level.isWaiting, Bool.or_self, Bool.false_eq_true, ↓reduceIte, hverb,
      write_ne g (show "help".toList.head? ≠ some '-' by decide), Bool.not_false,
      Bool.and_true, decide_false, hstep, bind, Except.bind]
    exact hrest

/-! ### What was given -/

/-- Whether an option was given is whether it is found. -/
theorem any_eq_isSome_lookup (gs : List Given) (o : Choice) :
    gs.any (·.1 = o) = (gs.lookup o).isSome := by
  induction gs with
  | nil => rfl
  | cons g gs ih =>
    obtain ⟨k, value⟩ := g
    rw [List.any_cons, ih, List.lookup_cons]
    by_cases hk : k = o
    · simp [hk]
    · have hbeq : (o == k) = false := by simpa using Ne.symm hk
      simp [hk, hbeq]

theorem lookup_eq_some_iff (h : (gs.map Prod.fst).Nodup) {o : Choice} {value : Option String} :
    gs.lookup o = some value ↔ (o, value) ∈ gs := by
  induction gs with
  | nil => simp
  | cons g gs ih =>
    obtain ⟨k, v⟩ := g
    rw [List.map_cons, List.nodup_cons] at h
    rw [List.lookup_cons, List.mem_cons]
    by_cases hk : o = k
    · subst hk
      have hnone : (o, value) ∉ gs := fun hmem => h.1 (List.mem_map.2 ⟨_, hmem, rfl⟩)
      simp [hnone, eq_comm]
    · have hbeq : (o == k) = false := by simpa using hk
      simp [hk, hbeq, ih h.2]

theorem lookup_eq_none_iff {o : Choice} : gs.lookup o = none ↔ o ∉ gs.map Prod.fst := by
  rw [← Option.not_isSome_iff_eq_none, ← any_eq_isSome_lookup]
  simp

/-- **The order of options is of no account.** -/
theorem lookup_of_perm {gs' : List Given} (h : gs.Perm gs') (hnodup : (gs.map Prod.fst).Nodup)
    (o : Choice) : gs.lookup o = gs'.lookup o := by
  have hnodup' : (gs'.map Prod.fst).Nodup := (h.map Prod.fst).nodup_iff.1 hnodup
  refine Option.ext fun value => ?_
  rw [lookup_eq_some_iff hnodup, lookup_eq_some_iff hnodup', h.mem_iff]

/-- What two levels have of an option between them: the inner one's, or else the outer one's. -/
theorem join_lookup_append {before after : List Given}
    (h : ((before ++ after).map Prod.fst).Nodup) (o : Choice) :
    ((after.lookup o).join <|> (before.lookup o).join) = ((before ++ after).lookup o).join := by
  rw [List.lookup_append]
  cases hbefore : before.lookup o with
  | none => simp
  | some value =>
    have hafter : after.lookup o = none := by
      rw [List.map_append] at h
      have hmem : o ∈ before.map Prod.fst :=
        Decidable.not_not.1 fun hnot => by simp [lookup_eq_none_iff.2 hnot] at hbefore
      exact lookup_eq_none_iff.2 fun hin => (List.nodup_append.1 h).2.2 _ hmem _ hin rfl
    simp [hafter]

/-- **A command line of options is read as its options.**  Behind the subcommand there may stand
words that are taken in as positional ones. -/
theorem parse_write {before after : List Given} {v : Verb} {tail words : List String}
    {escaped : Bool} (hbefore : ∀ g ∈ before, Fits none g) (hafter : ∀ g ∈ after, Fits (some v) g)
    (hnodup : ((before ++ after).map Prod.fst).Nodup)
    (htail : Level.words ⟨some v, after, [], .nothing, false⟩ tail =
      .ok ⟨some v, after, words, .nothing, escaped⟩) :
    parse (before.map write ++ v.word :: (after.map write ++ tail)) =
      (Level.command ⟨some v, after, words, .nothing, escaped⟩ v).map fun command =>
        { config := ((before ++ after).lookup .config).join
          debug := ((before ++ after).lookup .debug).isSome
          command } := by
  rw [List.map_append] at hnodup
  obtain ⟨hb, ha, -⟩ := List.nodup_append.1 hnodup
  have hwords : Level.words { place := some v } (after.map write ++ tail) =
      .ok ⟨some v, after, words, .nothing, escaped⟩ := by
    have hoptions := words_write [] [] hafter ha
    rw [Level.words] at hoptions htail ⊢
    rw [List.foldlM_append, hoptions]
    exact htail
  rw [← List.map_append] at hnodup
  have hdebug : (after.any (·.1 = .debug) || before.any (·.1 = .debug)) =
      ((before ++ after).lookup .debug).isSome := by
    rw [any_eq_isSome_lookup, any_eq_isSome_lookup, List.lookup_append, Option.isSome_or,
      Bool.or_comm]
  rw [parse, parseFrom_write [] hbefore hb, parseVerb, hwords,
    ← join_lookup_append hnodup, ← hdebug]
  simp only [bind, Except.bind, Level.settle]
  cases Level.command ⟨some v, after, words, .nothing, escaped⟩ v with
  | error e => rfl
  | ok command => rfl

end CommandLine
end MailGateway
