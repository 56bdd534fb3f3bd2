/-
# Patterns of values

A directive may ask for a value that a pattern fits.  Here it is only checked that a
pattern is well formed; what it fits is asked inside spans alone.

| pattern | fits |
| --- | --- |
| `.` | any character |
| `[a-z]`, `[^a]`, `[[:alpha:]]` | one of a class, which may nest |
| `p*`, `p+`, `p?` | repeated, with `?` behind it as seldom as possible |
| `p\|q` | either |
| `(p)`, `(?<name>p)` | a group |
| `(?i:p)`, `(?i)` | with modes switched on, behind `-` off |
| `^`, `$`, `\b`, `\A`, `\z` | no character, but a place |

There are no tables of the scripts of the world: what needs one, as `\w` and the mode
`i` do, is at fault unless the mode `u` is off.  With `u` off no pattern may fit half a
character.  A pattern stands in braces itself, so it has no closing brace, and an opening
one is at fault.
-/

import MailGateway.Text.Alphanumeric
import MailGateway.Text.Numeral
import MailGateway.Text.Space

namespace MailGateway
namespace Log
namespace Pattern

/-- The modes that decide whether a pattern is well formed. -/
structure Mode where
  /-- Letters of either case are the same. -/
  caseless : Bool := false
  /-- Characters are those of all scripts. -/
  worldwide : Bool := true
  /-- Blanks and comments are skipped. -/
  spaced : Bool := false
  deriving DecidableEq, Repr, Inhabited

namespace Mode

/-- Switches the mode of a letter on or off. -/
def switch? (m : Mode) (c : Char) (on : Bool) : Option Mode :=
  match c with
  | 'i' => some { m with caseless := on }
  | 'u' => some { m with worldwide := on }
  | 'x' => some { m with spaced := on }
  | 'm' | 's' | 'U' | 'R' => some m
  | _ => none

/-- Whether letters have to be looked up in a table. -/
def needsTable (m : Mode) : Bool := m.caseless && m.worldwide

/-- Skips characters, and what the mode skips. -/
def skipAlso (m : Mode) (also : Char → Bool) (inComment : Bool) : List Char → List Char
  | [] => []
  | c :: cs =>
    if inComment then m.skipAlso also (c ≠ '\n') cs
    else if also c || (m.spaced && Text.isSpace c) then m.skipAlso also false cs
    else if m.spaced && c = '#' then m.skipAlso also true cs
    else c :: cs

/-- Skips what the mode skips. -/
def skip (m : Mode) (cs : List Char) : List Char := m.skipAlso (fun _ => false) false cs

end Mode

/-- What a letter behind a backslash, or a character of its own, stands for. -/
inductive Item where
  | char (c : Char)
  | oneOf
  | place
  deriving DecidableEq, Repr, Inhabited

/-- The control characters that have a letter. -/
def controls : List (Char × Char) :=
  [('a', '\x07'), ('f', '\x0c'), ('t', '\t'), ('n', '\n'), ('r', '\r'), ('v', '\x0b')]

/-- Reads a given count of hexadecimal digits behind a value. -/
def hexDigits? (m : Mode) : Nat → Nat → List Char → Option (Nat × List Char)
  | 0, value, cs => some (value, cs)
  | count + 1, value, cs =>
    match m.skip cs with
    | [] => none
    | c :: rest => do
      let d ← Numeral.hexadecimal? c
      hexDigits? m count (value * 16 + d) rest

/-- Reads the digits of a character's number; a single byte has to be a character. -/
def numbered? (m : Mode) (count : Nat) (cs : List Char) : Option (Item × List Char) := do
  let (n, rest) ← hexDigits? m count 0 cs
  if !n.isValidChar || (count = 2 && 0x80 ≤ n && !m.worldwide) then none
  else some (.char (Char.ofNat n), rest)

/-- Reads what stands behind a backslash. -/
def escape? (m : Mode) : List Char → Option (Item × List Char)
  | [] => none
  | 'x' :: cs => numbered? m 2 cs
  | 'u' :: cs => numbered? m 4 cs
  | 'U' :: cs => numbered? m 8 cs
  | c :: cs =>
    if "dsw".toList.contains c then if m.worldwide then none else some (.oneOf, cs)
    else if "Az".toList.contains c then some (.place, cs)
    else if "bB<>".toList.contains c then if m.worldwide then none else some (.place, cs)
    else
      match controls.lookup c with
      | some control => some (.char control, cs)
      | none => if c.isAlphanum || 0x80 ≤ c.toNat then none else some (.char c, cs)

/-- The names of classes. -/
def classNames : List String :=
  ["alnum", "alpha", "ascii", "blank", "cntrl", "digit", "graph", "lower", "print", "punct",
    "space", "upper", "word", "xdigit"]

/-- Reads a class by name behind its bracket: whether it is turned around, and the rest. -/
def namedClass? : List Char → Option (Bool × List Char)
  | ':' :: cs =>
    let negated := cs.head? = some '^'
    let cs := if negated then cs.drop 1 else cs
    let name := cs.takeWhile (· ≠ ':')
    match cs.dropWhile (· ≠ ':') with
    | ':' :: ']' :: rest =>
      if classNames.contains (String.ofList name) then some (negated, rest) else none
    | _ => none
  | _ => none

/-- Skips what begins a class: `^`, then dashes, or a bracket that stands for itself. -/
def openClass? (m : Mode) (cs : List Char) : Option (List Char) :=
  let cs := m.skip cs
  let negated := cs.head? = some '^'
  let cs := if negated then m.skip (cs.drop 1) else cs
  if m.needsTable || (negated && !m.worldwide) then none
  else
    match cs with
    | '-' :: _ => some (m.skipAlso (· = '-') false cs)
    | ']' :: rest => some (m.skip rest)
    | _ => some cs

/-- Reads a character of a class, or what stands for some. -/
def member? (m : Mode) (cs : List Char) : Option (Item × List Char) := do
  let (item, rest) ←
    match cs with
    | [] => none
    | '\\' :: cs => escape? m cs
    | c :: cs => some (.char c, cs)
  match item with
  | .char c => if 0x80 ≤ c.toNat && !m.worldwide then none else some (item, rest)
  | .oneOf => some (item, rest)
  | .place => none

/-- Reads a member of a class, or a range. -/
def range? (m : Mode) (cs : List Char) : Option (List Char) := do
  let (low, rest) ← member? m cs
  let rest := m.skip rest
  match rest with
  | '-' :: behind =>
    let behind := m.skip behind
    if behind.head? = some ']' || behind.head? = some '-' then some rest
    else
      let (high, rest) ← member? m behind
      match low, high with
      | .char a, .char b => if a ≤ b then some rest else none
      | _, _ => none
  | _ => some rest

/-- Reads up to the end of `depth` classes.  Each step takes a character at least. -/
def brackets? (m : Mode) : Nat → Nat → List Char → Option (List Char)
  | 0, _, _ => none
  | steps + 1, depth, cs =>
    match m.skip cs with
    | [] => none
    | '[' :: rest =>
      match namedClass? rest with
      | some (negated, rest) =>
        if negated && !m.worldwide then none else brackets? m steps depth rest
      | none => (openClass? m rest).bind (brackets? m steps (depth + 1))
    | ']' :: rest => if depth ≤ 1 then some rest else brackets? m steps (depth - 1) rest
    | '&' :: '&' :: rest | '-' :: '-' :: rest | '~' :: '~' :: rest => brackets? m steps depth rest
    | cs => (range? m cs).bind (brackets? m steps depth)

/-- Reads a class behind its bracket. -/
def bracket? (m : Mode) (cs : List Char) : Option (List Char) := do
  brackets? m (cs.length + 1) 1 (← openClass? m cs)

/-- Reads modes up to `:`, which begins a group with them, or `)`.  Each is named once. -/
def modes? (m : Mode) (named : List Char) (on : Bool) :
    List Char → Option (Mode × Bool × List Char)
  | ':' :: rest => if named.head? = some '-' then none else some (m, true, rest)
  | ')' :: rest => if named.isEmpty || named.head? = some '-' then none else some (m, false, rest)
  | c :: rest =>
    if named.contains c then none
    else if c = '-' then modes? m (c :: named) false rest
    else (m.switch? c on).bind fun m => modes? m (c :: named) on rest
  | [] => none

/-- Whether a text may name a group. -/
def isName : List Char → Bool
  | [] => false
  | c :: cs =>
    (c = '_' || (Text.isAlphanumeric c && !c.isDigit))
      && cs.all fun c => "_.[]".toList.contains c || Text.isAlphanumeric c

/-- What was seen of a pattern. -/
structure State where
  mode : Mode := {}
  /-- The modes around the groups that are open. -/
  around : List Mode := []
  names : List String := []
  /-- Something stands here that can be repeated. -/
  repeatable : Bool := false
  deriving DecidableEq, Repr, Inhabited

namespace State

/-- Opens a group with a mode of its own. -/
def enter (s : State) (m : Mode) : State :=
  { s with mode := m, around := s.mode :: s.around, repeatable := false }

/-- Takes in what stands behind the bracket of a group. -/
def openGroup? (s : State) (cs : List Char) : Option (State × List Char) :=
  let named? (cs : List Char) : Option (State × List Char) :=
    let name := cs.takeWhile (· ≠ '>')
    match cs.dropWhile (· ≠ '>') with
    | _ :: rest =>
      if isName name && !s.names.contains (String.ofList name) then
        some ({ s.enter s.mode with names := String.ofList name :: s.names }, rest)
      else none
    | [] => none
  match s.mode.skip cs with
  | '?' :: '=' :: _ | '?' :: '!' :: _ | '?' :: '<' :: '=' :: _ | '?' :: '<' :: '!' :: _ => none
  | '?' :: 'P' :: '<' :: rest | '?' :: '<' :: rest => named? rest
  | '?' :: rest =>
    (modes? s.mode [] true rest).map fun (mode, isGroup, rest) =>
      (if isGroup then s.enter mode else { s with mode, repeatable := false }, rest)
  | rest => some (s.enter s.mode, rest)

/-- Takes in what a backslash or a character stands for. -/
def take? (s : State) (item : Item) : Option State :=
  match item with
  | .char _ => if s.mode.needsTable then none else some { s with repeatable := true }
  | _ => some { s with repeatable := true }

/-- Takes in a part of a pattern. -/
def step? (s : State) (c : Char) (cs : List Char) : Option (State × List Char) :=
  let seen := { s with repeatable := true }
  match c with
  | '(' => s.openGroup? cs
  | ')' =>
    match s.around with
    | [] => none
    | mode :: around => some ({ seen with mode, around }, cs)
  | '|' => some ({ s with repeatable := false }, cs)
  | '[' => (bracket? s.mode cs).map fun rest => (seen, rest)
  | '?' | '*' | '+' =>
    if s.repeatable then some (s, if cs.head? = some '?' then cs.drop 1 else cs) else none
  | '\x7b' => none
  | '.' => if s.mode.worldwide then some (seen, cs) else none
  | '^' | '$' => some (seen, cs)
  | '\\' => (escape? s.mode cs).bind fun (item, rest) => (s.take? item).map fun s => (s, rest)
  | _ => (s.take? (.char c)).map fun s => (s, cs)

/-- Whether the rest of a pattern is well formed.  Each step takes a character at least. -/
def accepts : Nat → State → List Char → Bool
  | 0, _, _ => false
  | steps + 1, s, cs =>
    match s.mode.skip cs with
    | [] => s.around.isEmpty
    | c :: rest =>
      match s.step? c rest with
      | some (s, rest) => accepts steps s rest
      | none => false

end State

/-- Whether a pattern is well formed. -/
def isWellFormed (cs : List Char) : Bool := State.accepts (cs.length + 1) {} cs

example : isWellFormed "a|(?-u)[b-d\\d]+?".toList = true := by decide +kernel
example : isWellFormed "[]".toList = false := by decide +kernel
example : isWellFormed "*".toList = false := by decide +kernel

end Pattern
end Log
end MailGateway
