/-
# Reading a YAML stream character by character

A cursor is the text that is left, the mark of its front, whether only blanks stand
before it on its line, and how much of the text has been looked at.  The stream ends with
the text, or at a NUL character.  Lines end in a line feed, a carriage return, or both.
-/

import MailGateway.Numbers
import MailGateway.Yaml.Token

namespace MailGateway
namespace Yaml

/-- The end of the stream. -/
def isEnd (c : Char) : Bool := c = '\x00'

/-- A line break. -/
def isBreak (c : Char) : Bool := c = '\n' || c = '\r'

/-- A line break or the end. -/
def isBreakOrEnd (c : Char) : Bool := isBreak c || isEnd c

/-- A blank or a tab. -/
def isBlank (c : Char) : Bool := c = ' ' || c = '\t'

/-- Anything that separates. -/
def isSpace (c : Char) : Bool := isBlank c || isBreakOrEnd c

/-- The characters that structure a flow collection. -/
def isFlow (c : Char) : Bool := c = ',' || c = '[' || c = ']' || c = '{' || c = '}'

/-- A letter, a digit, an underscore or a hyphen. -/
def isName (c : Char) : Bool := c.isAlphanum || c = '_' || c = '-'

/-- A character of an anchor's name. -/
def isAnchor (c : Char) : Bool := !isSpace c && !isFlow c && c ≠ '\uFEFF'

/-- A character of an address. -/
def isUri (c : Char) : Bool :=
  (isName c && c ≠ '_') || "#;/?:@&=+$,_.!~*'()[]%".toList.contains c

/-- A character of a tag. -/
def isTag (c : Char) : Bool := isUri c && !isFlow c && c ≠ '!'

/-- The unread text, its place, whether its line holds only blanks so far, and how many of
the next characters have been looked at. -/
structure Cursor where
  rest : List Char
  mark : Mark
  fresh : Bool
  seen : Nat
  deriving Repr, Inhabited

namespace Cursor

/-- The cursor before a text. -/
def start (text : String) : Cursor := ⟨text.toList, .start, true, 0⟩

/-- The character `n` places on. -/
def ahead (c : Cursor) (n : Nat) : Char := c.rest.getD n '\x00'

/-- The next character. -/
def char (c : Cursor) : Char := c.ahead 0

/-- The column of the next character, as indentations are counted. -/
def column (c : Cursor) : Int := c.mark.column

/-- Looks at the next `n` characters. -/
def see (c : Cursor) (n : Nat) : Cursor := { c with seen := max c.seen n }

/-- Steps over `n` characters of a line, each counted with its size. -/
def pass (size : Char → Nat) (c : Cursor) (n : Nat) : Cursor :=
  let total := ((c.rest.take n).map size).sum
  { c with rest := c.rest.drop n, seen := c.seen - n,
           mark := { c.mark with index := c.mark.index + total,
                                 column := c.mark.column + total } }

/-- Steps over `n` characters of a line. -/
def skip (c : Cursor) (n : Nat) : Cursor :=
  { c with rest := c.rest.drop n, seen := c.seen - n,
           mark := { c.mark with index := c.mark.index + n, column := c.mark.column + n } }

/-- Steps over a blank: the line stays fresh. -/
def blank (c : Cursor) : Cursor := c.skip 1

/-- Steps over `n` characters that are no blanks. -/
def solid (c : Cursor) (n : Nat) : Cursor := { c.skip n with fresh := false }

/-- Steps over one character that ends a line. -/
def newline (c : Cursor) : Cursor :=
  ⟨c.rest.drop 1, ⟨c.mark.index + 1, c.mark.line + 1, 0⟩, true, c.seen - 1⟩

/-- Steps over a line break, if there is one. -/
def lineBreak (c : Cursor) : Cursor :=
  if c.char = '\r' ∧ c.ahead 1 = '\n' then (c.skip 1).newline
  else if isBreak c.char then c.newline
  else c

/-- Steps over all characters of a class that are no blanks; gives them too. -/
def takeWhile (c : Cursor) (p : Char → Bool) : List Char × Cursor :=
  let taken := c.rest.takeWhile fun x => p x && !isEnd x
  if taken.isEmpty then ([], c) else (taken, c.solid taken.length)

/-- Steps over blanks (and tabs). -/
def blanks (c : Cursor) : Cursor := c.skip (c.rest.takeWhile isBlank).length

/-- Steps over blanks only. -/
def spaces (c : Cursor) : Cursor := c.skip (c.rest.takeWhile (· = ' ')).length

/-- Steps over a comment, up to the end of its line. -/
def comment (c : Cursor) : Cursor := (c.takeWhile fun x => !isBreakOrEnd x).2

/-- Whether three characters and a separator stand at the front. -/
def isIndicator (c : Cursor) (x : Char) : Bool :=
  c.char = x && c.ahead 1 = x && c.ahead 2 = x && isSpace (c.ahead 3)

/-- Whether a document starts or ends here. -/
def isDocumentIndicator (c : Cursor) : Bool :=
  c.mark.column = 0 && (c.isIndicator '-' || c.isIndicator '.')

/-- A fault at the cursor. -/
def fault (c : Cursor) (text : String) : Fault := ⟨c.mark, text⟩

/-- What was passed between a token and the end of its line. -/
structure Gap where
  cursor : Cursor
  tab : Bool
  space : Bool
  deriving Repr, Inhabited

/-- Passes blanks, tabs if `tabs` allows them, and a comment, up to the end of the line.
A comment needs a blank in front.  Each step reads a character, so `fuel` may be the
length of the text. -/
def gapFrom (fuel : Nat) (tabs : Bool) (g : Gap) : Except Fault Gap :=
  match fuel with
  | 0 => .ok g
  | fuel + 1 =>
    let c := g.cursor
    if c.char = ' ' then gapFrom fuel tabs { g with cursor := c.blank, space := true }
    else if c.char = '\t' && tabs then gapFrom fuel tabs { g with cursor := c.blank, tab := true }
    else if c.char = '#' then
      if !g.tab && !g.space then
        .error (c.fault "comments must be separated from other tokens by whitespace")
      else gapFrom fuel tabs { g with cursor := c.comment }
    else .ok g

/-- Passes the rest of a line behind a token. -/
def gap (c : Cursor) (tabs : Bool) : Except Fault Gap :=
  gapFrom (c.rest.length + 1) tabs ⟨c, false, false⟩

/-- Passes blanks, breaks and comments; tells whether a break was passed.  There must be
at least one blank or break. -/
def separationFrom (fuel : Nat) (needed broken : Bool) (c : Cursor) :
    Except Fault (Bool × Cursor) :=
  match fuel with
  | 0 => .ok (broken, c)
  | fuel + 1 =>
    if c.char = ' ' then separationFrom fuel false broken c.blank
    else if isBreak c.char then separationFrom fuel false true c.lineBreak
    else if c.char = '#' then separationFrom fuel needed broken c.comment
    else if needed then .error (c.fault "expected whitespace")
    else .ok (broken, c)

end Cursor
end Yaml
end MailGateway
