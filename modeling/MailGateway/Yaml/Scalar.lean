/-
# Scalars

Three ways to write a text.

* *Quoted*: inside one line as it stands; a line break is a blank, and further breaks
  in a row are line feeds.  Between double quotes a backslash starts an escape.
* *Plain*: without quotes, ended by `: `, ` #` or, inside brackets, by a bracket or
  comma; folded like a quoted scalar.
* *Block*: behind `|` or `>`, every line that is set in; `>` folds lines that are not
  set in further.  The indicators `+` and `-` keep or drop the breaks at the end.

Each reader takes the cursor and the indentation of the surroundings, and gives the
text and the cursor behind it.
-/

import MailGateway.Text.Numeral
import MailGateway.Yaml.Cursor

namespace MailGateway
namespace Yaml

/-- Text in progress; characters stand last first. -/
abbrev Draft := List Char

/-- Text in progress with another piece behind it. -/
def Draft.add (d : Draft) (piece : List Char) : Draft := piece.reverse ++ d

/-- Folds blank space between two pieces of a scalar: blanks of one line stay, a first
line break is a blank, and further ones (`more`) stand for themselves. -/
def fold (d : Draft) (broken firstBreak : Bool) (blanks more : List Char) : Draft :=
  if broken then
    if !firstBreak then d.add more else if more.isEmpty then ' ' :: d else d.add more
  else d.add blanks

/-! ### Quoted scalars -/

/-- The character of a one-letter escape. -/
def escape? (c : Char) : Option Char :=
  match c with
  | '0' => some '\x00'
  | 'a' => some '\x07'
  | 'b' => some '\x08'
  | 't' | '\t' => some '\t'
  | 'n' => some '\n'
  | 'v' => some '\x0b'
  | 'f' => some '\x0c'
  | 'r' => some '\r'
  | 'e' => some '\x1b'
  | ' ' => some ' '
  | '"' => some '"'
  | '/' => some '/'
  | '\\' => some '\\'
  | 'N' => some '\u0085'
  | '_' => some '\u00a0'
  | 'L' => some '\u2028'
  | 'P' => some '\u2029'
  | _ => none

/-- How many hexadecimal digits follow an escape letter. -/
def escapeWidth? (c : Char) : Option Nat :=
  if c = 'x' then some 2 else if c = 'u' then some 4 else if c = 'U' then some 8 else none

/-- Reads an escape at its backslash; faults lie at the start of the scalar. -/
def readEscape (start : Mark) (c : Cursor) : Except Fault (Char × Cursor) :=
  let letter := c.ahead 1
  match escape? letter, escapeWidth? letter with
  | some x, _ => .ok (x, c.solid 2)
  | none, none => .error ⟨start, "while parsing a quoted scalar, found unknown escape character"⟩
  | none, some width =>
    let c := c.solid 2
    let digits := (List.range width).map c.ahead
    match Numeral.digits? Numeral.hexadecimal? 16 digits with
    | none =>
      .error ⟨start, "while parsing a quoted scalar, did not find expected hexadecimal number"⟩
    | some n =>
      if n.isValidChar then .ok (Char.ofNat n, c.solid width)
      else
        .error
          ⟨start, "while parsing a quoted scalar, found invalid Unicode character escape code"⟩

/-- Reads the characters of a quoted scalar up to a blank, a break, the end, or the
closing quote; tells whether an escaped line break stopped it. -/
def readSolid (fuel : Nat) (single : Bool) (start : Mark) (d : Draft) (c : Cursor) :
    Except Fault (Bool × Draft × Cursor) :=
  match fuel with
  | 0 => .ok (false, d, c)
  | fuel + 1 =>
    let x := c.char
    if isSpace x then .ok (false, d, c)
    else if single && x = '\'' then
      if c.ahead 1 = '\'' then readSolid fuel single start ('\'' :: d) (c.solid 2)
      else .ok (false, d, c)
    else if !single && x = '"' then .ok (false, d, c)
    else if !single && x = '\\' then
      if isBreak (c.ahead 1) then .ok (true, d, (c.solid 1).lineBreak)
      else
        match readEscape start c with
        | .error f => .error f
        | .ok (y, c) => readSolid fuel single start (y :: d) c
    else readSolid fuel single start (x :: d) (c.solid 1)

/-- Blank space inside a quoted scalar: whether it holds a break (`broken`, true from
the start behind an escaped break), a first break to fold, the blanks before it, and
the breaks after it. -/
def passQuotedBlanks (fuel : Nat) (indent : Int) (broken firstBreak : Bool) (blanks more : Draft)
    (c : Cursor) : Except Fault (Bool × Bool × List Char × List Char × Cursor) :=
  match fuel with
  | 0 => .ok (broken, firstBreak, blanks.reverse, more.reverse, c)
  | fuel + 1 =>
    let x := c.char
    if isBlank x then
      if broken then
        if x = '\t' ∧ c.column < indent then .error (c.fault "tab cannot be used as indentation")
        else passQuotedBlanks fuel indent broken firstBreak blanks more c.blank
      else passQuotedBlanks fuel indent broken firstBreak (x :: blanks) more c.blank
    else if isBreak x then
      if broken then passQuotedBlanks fuel indent true firstBreak blanks ('\n' :: more) c.lineBreak
      else passQuotedBlanks fuel indent true true [] more c.lineBreak
    else .ok (broken, firstBreak, blanks.reverse, more.reverse, c)

/-- Reads a quoted scalar behind its opening quote, up to the closing one. -/
def readQuotedFrom (fuel : Nat) (single : Bool) (indent : Int) (start : Mark) (d : Draft)
    (c : Cursor) : Except Fault (Draft × Cursor) :=
  match fuel with
  | 0 => .ok (d, c)
  | fuel + 1 => do
    if c.isDocumentIndicator then
      throw ⟨start, "while scanning a quoted scalar, found unexpected document indicator"⟩
    if isEnd c.char then
      throw ⟨start, "while scanning a quoted scalar, found unexpected end of stream"⟩
    if c.column < indent then throw ⟨start, "invalid indentation in quoted scalar"⟩
    let (escaped, d, c) ← readSolid (c.rest.length + 1) single start d c
    if c.char = (if single then '\'' else '"') then pure (d, c)
    else
      let (broken, firstBreak, blanks, more, c) ←
        passQuotedBlanks (c.rest.length + 1) indent escaped false [] [] c
      readQuotedFrom fuel single indent start (fold d broken firstBreak blanks more) c

/-- Reads a quoted scalar at its opening quote.  What may follow on its line depends on
whether it stands inside brackets. -/
def readQuoted (single : Bool) (indent : Int) (flow : Bool) (c : Cursor) :
    Except Fault (Token × Cursor) := do
  let start := c.mark
  let c := c.solid 1
  let (d, c) ← readQuotedFrom (c.rest.length + 1) single indent start [] c
  let gap ← (c.solid 1).gap true
  let c := gap.cursor
  let x := c.char
  let fits :=
    isBreakOrEnd x || (flow && (x = ',' || x = '}' || x = ']' || x = ':'))
      || (!flow && x = ':' && start.line = c.mark.line)
  if !fits then throw (c.fault "invalid trailing content after double-quoted scalar")
  pure (⟨start, .scalar (if single then .singleQuoted else .doubleQuoted)
    (String.ofList d.reverse)⟩, c)

/-! ### Plain scalars -/

/-- Whether the next character may belong to a plain scalar. -/
def continuesPlain (flow : Bool) (c : Cursor) : Bool :=
  if c.char = ':' then !(isSpace (c.ahead 1) || (flow && isFlow (c.ahead 1)))
  else !(flow && isFlow c.char)

/-- Reads characters of a plain scalar up to blank space or its end. -/
def readPlainWord (fuel : Nat) (flow : Bool) (d : Draft) (c : Cursor) : Draft × Cursor :=
  match fuel with
  | 0 => (d, c)
  | fuel + 1 =>
    if isSpace c.char || !continuesPlain flow c then (d, c)
    else readPlainWord fuel flow (c.char :: d) (c.solid 1)

/-- Blank space behind a word of a plain scalar: a first break to fold, the blanks before
it and the breaks after it. -/
structure PlainGap where
  firstBreak : Bool := false
  blanks : Draft := []
  more : Draft := []

/-- Passes blank space inside a plain scalar.  A tab in the indentation is allowed on an
empty line only. -/
def passPlainBlanks (fuel : Nat) (indent : Int) (start : Mark) (g : PlainGap) (c : Cursor) :
    Except Fault (PlainGap × Cursor) :=
  match fuel with
  | 0 => .ok (g, c)
  | fuel + 1 =>
    let x := c.char
    if isBlank x then
      if !c.fresh then passPlainBlanks fuel indent start { g with blanks := x :: g.blanks } c.blank
      else if c.column < indent && x = '\t' then
        match c.gap true with
        | .error f => .error f
        | .ok gap =>
          if isBreakOrEnd gap.cursor.char then passPlainBlanks fuel indent start g gap.cursor
          else .error ⟨start, "while scanning a plain scalar, found a tab"⟩
      else passPlainBlanks fuel indent start g c.blank
    else if isBreak x then
      if c.fresh then
        passPlainBlanks fuel indent start { g with more := '\n' :: g.more } c.lineBreak
      else
        passPlainBlanks fuel indent start { g with firstBreak := true, blanks := [] } c.lineBreak
    else .ok (g, c)

/-- Reads the words of a plain scalar.  `indent` is the least column of its further
lines. -/
def readPlainFrom (fuel : Nat) (flow : Bool) (indent : Int) (start : Mark) (g : PlainGap)
    (d : Draft) (c : Cursor) : Except Fault (Draft × Cursor) :=
  match fuel with
  | 0 => .ok (d, c)
  | fuel + 1 => do
    if (c.fresh && c.isDocumentIndicator) || c.char = '#' then pure (d, c)
    else
      if flow && c.char = '-' && isFlow (c.ahead 1) then
        throw (c.fault "plain scalar cannot start with '-' followed by ,[]\x7b\x7d")
      let (g, d, c) :=
        if !isSpace c.char && continuesPlain flow c then
          let d := fold d c.fresh g.firstBreak g.blanks.reverse g.more.reverse
          let (d, c) := readPlainWord (c.rest.length + 1) flow d c
          ({}, d, c)
        else (g, d, c)
      if !(isBlank c.char || isBreak c.char) then pure (d, c)
      else
        let (g, c) ← passPlainBlanks (c.rest.length + 1) indent start g c
        if !flow && c.column < indent then pure (d, c)
        else readPlainFrom fuel flow indent start g d c

/-- Reads a plain scalar. -/
def readPlain (flow : Bool) (indent : Int) (c : Cursor) : Except Fault (Token × Cursor) := do
  let start := c.mark
  if flow && c.column < indent then throw ⟨start, "invalid indentation in flow construct"⟩
  let (d, c) ← readPlainFrom (c.rest.length + 1) flow indent start {} [] c
  pure (⟨start, .scalar .plain (String.ofList d.reverse)⟩, c)

/-! ### Block scalars -/

/-- What becomes of the breaks at the end of a block scalar. -/
inductive Chomping where
  | strip
  | clip
  | keep
  deriving DecidableEq, Repr

/-- How many characters are looked at at once where a line of a block scalar begins. -/
def lookahead : Nat := 16

/-- Passes some blanks, looking ahead anew where all that was looked at is passed, except
behind the indentation. -/
def passIndent (blanks indent : Nat) (c : Cursor) : Cursor :=
  let c := c.skip blanks
  let left := lookahead - blanks % lookahead
  let seen := if left = lookahead && 0 < blanks && c.mark.column = indent then 0 else left
  { c with seen := max seen 2 }

/-- Passes the indentation of a line, and lines that are empty; gives their breaks. -/
def passBlockIndent (fuel indent : Nat) (more : Draft) (c : Cursor) : Draft × Cursor :=
  match fuel with
  | 0 => (more, c)
  | fuel + 1 =>
    let spaces := (c.rest.takeWhile (· = ' ')).length
    let c := passIndent (min spaces (indent - c.mark.column)) indent c
    if isBreak c.char then passBlockIndent fuel indent ('\n' :: more) c.lineBreak else (more, c)

/-- Passes the indentation of the first line and the empty lines before it; gives their
breaks and the widest indentation. -/
def passFirstIndent (fuel widest : Nat) (more : Draft) (c : Cursor) : Nat × Draft × Cursor :=
  match fuel with
  | 0 => (widest, more, c)
  | fuel + 1 =>
    let c := c.spaces.see 1
    let widest := max widest c.mark.column
    if isBreak c.char then passFirstIndent fuel widest ('\n' :: more) (c.see 2).lineBreak
    else (widest, more, c)

/-- The lines of a block scalar: the text so far, the break before the next line and
the breaks after it, and whether the last line began with a blank. -/
structure BlockLines where
  text : Draft := []
  lineBreak : Draft := []
  more : Draft := []
  blankBefore : Bool := false

/-- Passes a line of a block scalar: each character that was looked at before counts one,
and each of the others counts its bytes. -/
def passBlockLine (length : Nat) (c : Cursor) : Cursor :=
  if c.seen ≤ length then
    { (c.skip c.seen).pass Char.utf8Size (length - c.seen) with seen := 1 }
  else c.skip length

/-- Reads the lines of a block scalar that are set in to column `indent`. -/
def readBlockLines (fuel : Nat) (isLiteral : Bool) (indent : Nat) (s : BlockLines) (c : Cursor) :
    BlockLines × Cursor :=
  match fuel with
  | 0 => (s, c)
  | fuel + 1 =>
    let c := if indent = 0 then c.see 4 else c
    if c.mark.column ≠ indent || isEnd c.char then (s, c)
    else if indent = 0 && c.mark.column = 0 && c.isIndicator '.' then (s, c)
    else
      let blankNow := isBlank c.char
      let text :=
        if !isLiteral && !s.lineBreak.isEmpty && !s.blankBefore && !blankNow then
          if s.more.isEmpty then ' ' :: s.text else s.more ++ s.text
        else s.more ++ (s.lineBreak ++ s.text)
      let line := c.rest.takeWhile fun x => !isBreakOrEnd x
      let c := passBlockLine line.length c
      let s := { s with text := line.reverse ++ text, lineBreak := [], more := [],
                        blankBefore := blankNow }
      if isEnd c.char then (s, c)
      else
        let (more, c) := passBlockIndent (c.rest.length + 1) indent [] (c.see 2).lineBreak
        readBlockLines fuel isLiteral indent { s with lineBreak := ['\n'], more } c

/-- The indicators behind `|` or `>`: chomping and a width of indentation, in either
order. -/
def readBlockHeader (start : Mark) (c : Cursor) : Except Fault (Chomping × Nat × Cursor) := do
  let chomping? := fun (c : Cursor) =>
    if c.char = '+' then (Chomping.keep, c.solid 1)
    else if c.char = '-' then (Chomping.strip, c.solid 1)
    else (Chomping.clip, c)
  let width? := fun (c : Cursor) =>
    if c.char = '0' then
      throw ⟨start, "while scanning a block scalar, found an indentation indicator equal to 0"⟩
    else if c.char.isDigit then pure (c.char.toNat - '0'.toNat, c.solid 1)
    else pure (0, c)
  let (chomping, next) := chomping? c
  if next.mark.index ≠ c.mark.index then
    let (width, c) ← width? next
    pure (chomping, width, c)
  else
    let (width, next) ← width? c
    if width = 0 then pure (chomping, 0, c)
    else
      let (chomping, c) := chomping? next
      pure (chomping, width, c)

/-- The text of a block scalar without content. -/
def emptyBlock (chomping : Chomping) (sameLine : Bool) (first more : Draft) : Draft :=
  match chomping with
  | .strip => []
  | .clip => if sameLine then [] else first
  | .keep => if sameLine then [] else if more.isEmpty then first else more

/-- Reads a block scalar behind its `|` or `>`; `indent` is that of the block around it. -/
def readBlock (isLiteral : Bool) (indent : Int) (start : Mark) (c : Cursor) :
    Except Fault (Token × Cursor) := do
  let (chomping, width, c) ← readBlockHeader start c
  let gap ← c.gap true
  let c := gap.cursor.see 2
  let style := if isLiteral then ScalarStyle.literal else .folded
  if !isBreakOrEnd c.char then
    throw ⟨start, "while scanning a block scalar, did not find expected comment or line break"⟩
  let first : Draft := if isBreak c.char then ['\n'] else []
  let c := c.lineBreak.see 1
  if c.char = '\t' then throw ⟨start, "a block scalar content cannot start with a tab"⟩
  let given : Nat := if width = 0 then 0 else if 0 ≤ indent then (indent + width).toNat else width
  let (column, more, c) :=
    if given = 0 then
      let (widest, more, c) := passFirstIndent (c.rest.length + 1) 0 [] c
      let least := max widest (indent + 1).toNat
      (if 0 < indent then max least 1 else least, more, c)
    else
      let (more, c) := passBlockIndent (c.rest.length + 1) given [] c
      (given, more, c)
  if isEnd c.char then
    let text := emptyBlock chomping (c.mark.line = start.line) first more
    pure (⟨start, .scalar style (String.ofList text.reverse)⟩, c)
  else
    if c.mark.column < column ∧ indent < c.column then
      throw (c.fault "wrongly indented line in block scalar")
    let mark := c.mark
    let (s, c) := readBlockLines (c.rest.length + 1) isLiteral column { more } c
    let text := if chomping = .strip then s.text else s.lineBreak ++ s.text
    let text :=
      if chomping ≠ .strip ∧ isEnd c.char ∧ max column 1 ≤ c.mark.column then '\n' :: text
      else text
    let text := if chomping = .keep then s.more ++ text else text
    pure (⟨mark, .scalar style (String.ofList text.reverse)⟩, c)

end Yaml
end MailGateway
