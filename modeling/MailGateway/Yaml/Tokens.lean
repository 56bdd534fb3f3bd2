/-
# From text to tokens

The tokens of a stream, in order.  Two things are found out late.

* A line that begins with a scalar may turn out to begin a mapping, when `:` comes
  behind it.  The place is remembered (`PossibleKey`), and the tokens that the mapping
  needs are inserted there.
* Indentation opens and closes blocks.  Besides the columns of blocks the stack holds
  columns that only text further in must pass; these close without a token.

`Scan.tokens` gives the tokens that are certain, and the fault that comes behind
them, if there is one.  A token is certain when no key can be inserted before it.
-/

import MailGateway.Yaml.Scalar

namespace MailGateway
namespace Yaml

/-- A place where a key may turn out to begin: the number of tokens before it. -/
structure PossibleKey where
  possible : Bool
  required : Bool
  number : Nat
  mark : Mark
  deriving Repr, Inhabited

/-- No key. -/
def PossibleKey.none : PossibleKey := ⟨false, false, 0, .start⟩

/-- The indentation around a block, and whether the block's end is a token. -/
structure Indent where
  column : Int
  isBlock : Bool
  deriving Repr, Inhabited

/-- The state between two tokens. -/
structure Scanner where
  cursor : Cursor
  tokens : Array Token := #[]
  keyAllowed : Bool := true
  /-- Possible keys of the open brackets, innermost first. -/
  keys : List PossibleKey := [.none]
  indent : Int := -1
  indents : List Indent := []
  /-- How many brackets are open. -/
  flow : Nat := 0
  /-- The place where a value may follow a colon at once. -/
  adjacentAt : Nat := 0
  /-- A mapping in braces, or one with a key indicator, is open. -/
  inMapping : Bool := false
  /-- A mapping without braces is open in a list. -/
  implicitMapping : Bool := false

/-- A computation on the state that may fault. -/
abbrev Scan := StateT Scanner (Except Fault)

namespace Scan

/-- Runs a reader on the cursor and moves the cursor behind what it read. -/
def read {α : Type} (f : Cursor → Except Fault (α × Cursor)) : Scan α := do
  let s ← get
  let (x, c) ← f s.cursor
  set { s with cursor := c }
  pure x

/-- Moves the cursor. -/
def move (f : Cursor → Cursor) : Scan Unit := modify fun s => { s with cursor := f s.cursor }

/-- Passes the rest of the line behind a token. -/
def passGap (tabs : Bool) : Scan Cursor.Gap :=
  read fun c => do
    let gap ← c.gap tabs
    pure (gap, gap.cursor)

/-- Puts a token behind the others. -/
def push (kind : TokenKind) (mark : Mark) : Scan Unit :=
  modify fun s => { s with tokens := s.tokens.push ⟨mark, kind⟩ }

/-- Puts a token before the one with a number. -/
def insert (number : Nat) (kind : TokenKind) (mark : Mark) : Scan Unit :=
  modify fun s => { s with tokens := s.tokens.insertIdxIfInBounds number ⟨mark, kind⟩ }

/-- Says whether a key may begin with the next token. -/
def allowKey (allowed : Bool) : Scan Unit := modify fun s => { s with keyAllowed := allowed }

/-- Gives up keys that a colon can no longer follow: outside of brackets a key ends on
its line and within 1024 characters. -/
def dropStaleKeys : Scan Unit := do
  let s ← get
  let mark := s.cursor.mark
  let stale := fun (k : PossibleKey) =>
    k.possible && s.flow = 0 && (k.mark.line < mark.line || k.mark.index + 1024 < mark.index)
  if s.keys.reverse.any fun k => stale k && k.required then
    throw ⟨mark, "simple key expect ':'"⟩
  set { s with keys := s.keys.map fun k => if stale k then { k with possible := false } else k }

/-- Gives up the key of the innermost brackets. -/
def dropKey : Scan Unit := do
  let s ← get
  match s.keys with
  | [] => pure ()
  | k :: ks =>
    if k.possible && k.required then throw ⟨s.cursor.mark, "simple key expected"⟩
    set { s with keys := { k with possible := false } :: ks }

/-- Remembers that a key may begin with the next token. -/
def saveKey : Scan Unit :=
  modify fun s =>
    if s.keyAllowed then
      let inBlock := match s.indents with | i :: _ => i.isBlock | [] => false
      let required := s.flow = 0 && s.indent = s.cursor.column && inBlock
      { s with keys := ⟨true, required, s.tokens.size, s.cursor.mark⟩ :: s.keys.drop 1 }
    else s

/-- Opens a block at a column, if it is set in; its token goes to the end, or before the
token with a number. -/
def openBlock (column : Nat) (number : Option Nat) (kind : TokenKind) (mark : Mark) :
    Scan Unit := do
  let s ← get
  if s.flow = 0 then
    let s :=
      match s.indents with
      | ⟨outer, false⟩ :: rest =>
        if s.indent ≤ (column : Int) then { s with indent := outer, indents := rest } else s
      | _ => s
    set s
    if s.indent < (column : Int) then
      set { s with indent := (column : Int), indents := ⟨s.indent, true⟩ :: s.indents }
      match number with
      | some n => insert n kind mark
      | none => push kind mark

/-- Closes blocks that are further in than a column. -/
def closeBlocksFrom (column : Int) (indents : List Indent) : Scan Unit :=
  match indents with
  | [] => pure ()
  | ⟨outer, isBlock⟩ :: rest => do
    let s ← get
    if column < s.indent then
      set { s with indent := outer, indents := rest }
      if isBlock then push .blockEnd s.cursor.mark
      closeBlocksFrom column rest

/-- Closes blocks that are further in than a column; brackets keep blocks open. -/
def closeBlocks (column : Int) : Scan Unit := do
  let s ← get
  if s.flow = 0 then closeBlocksFrom column s.indents

/-- Asks text of a block to be one column further in. -/
def setIn : Scan Unit :=
  modify fun s =>
    match s.indents with
    | ⟨_, true⟩ :: _ =>
      if s.flow = 0 then
        { s with indent := s.indent + 1, indents := ⟨s.indent, false⟩ :: s.indents }
      else s
    | _ => s

/-- Takes such demands back. -/
def unsetIn : Scan Unit :=
  modify fun s =>
    let inner := s.indents.takeWhile fun i => !i.isBlock
    match inner.getLast? with
    | some i => { s with indent := i.column, indents := s.indents.drop inner.length }
    | none => s

/-- Ends a mapping without braces inside a list. -/
def endImplicitMapping : Scan Unit := do
  let s ← get
  if s.implicitMapping then
    set { s with implicitMapping := false, inMapping := false }
    push .flowMappingEnd s.cursor.mark

/-- Passes blanks, breaks and comments before the next token. -/
def passSpaceFrom (fuel : Nat) : Scan Unit :=
  match fuel with
  | 0 => pure ()
  | fuel + 1 => do
    let s ← get
    let c := s.cursor
    if c.char = '\t' && !s.indents.isEmpty && c.fresh && c.column < s.indent then
      let gap ← passGap true
      if !isBreakOrEnd gap.cursor.char then
        throw (gap.cursor.fault "tabs disallowed within this context (block indentation)")
      passSpaceFrom fuel
    else if isBlank c.char then
      move Cursor.blank
      passSpaceFrom fuel
    else if isBreak c.char then
      move Cursor.lineBreak
      if s.flow = 0 then allowKey true
      passSpaceFrom fuel
    else if c.char = '#' then
      move Cursor.comment
      passSpaceFrom fuel

/-- Passes everything before the next token. -/
def passSpace : Scan Unit := do
  passSpaceFrom ((← get).cursor.rest.length + 1)

/-! ### Directives and tags -/

/-- The bytes of an encoded character, read into one number. -/
def readEncodedFrom (fuel : Nat) (start : Mark) (left : Option Nat) (code : Nat) (c : Cursor) :
    Except Fault (Char × Cursor) :=
  match fuel with
  | 0 => .error ⟨start, "while parsing a tag, did not find URI escaped octet"⟩
  | fuel + 1 =>
    match c.char, Numeral.hexadecimal? (c.ahead 1), Numeral.hexadecimal? (c.ahead 2) with
    | '%', some a, some b =>
      let byte := a * 16 + b
      let width : Except Fault Nat :=
        match left with
        | none =>
          if byte < 0x80 then .ok 1
          else if byte < 0xC0 then
            .error ⟨start, "while parsing a tag, found an incorrect leading UTF-8 octet"⟩
          else if byte < 0xE0 then .ok 2
          else if byte < 0xF0 then .ok 3
          else if byte < 0xF8 then .ok 4
          else .error ⟨start, "while parsing a tag, found an incorrect leading UTF-8 octet"⟩
        | some n =>
          if byte / 64 = 2 then .ok n
          else .error ⟨start, "while parsing a tag, found an incorrect trailing UTF-8 octet"⟩
      match width with
      | .error f => .error f
      | .ok width =>
        let code := if left.isNone then byte else code * 256 + byte
        let c := c.solid 3
        if width = 1 then
          if code.isValidChar then .ok (Char.ofNat code, c)
          else .error ⟨start, "while parsing a tag, found an invalid UTF-8 codepoint"⟩
        else readEncodedFrom fuel start (some (width - 1)) code c
    | _, _, _ => .error ⟨start, "while parsing a tag, did not find URI escaped octet"⟩

/-- Reads characters of a class in which percent signs start encoded bytes. -/
def readAddressFrom (fuel : Nat) (start : Mark) (p : Char → Bool) (d : Draft) (c : Cursor) :
    Except Fault (Draft × Cursor) :=
  match fuel with
  | 0 => .ok (d, c)
  | fuel + 1 =>
    if !p c.char then .ok (d, c)
    else if c.char = '%' then
      match readEncodedFrom 4 start none 0 c with
      | .error f => .error f
      | .ok (x, c) => readAddressFrom fuel start p (x :: d) c
    else readAddressFrom fuel start p (c.char :: d) (c.solid 1)

/-- Reads a tag handle: `!`, a name, and perhaps another `!`. -/
def readHandle (directive : Bool) (start : Mark) (c : Cursor) : Except Fault (List Char × Cursor) :=
  if c.char ≠ '!' then .error ⟨start, "while scanning a tag, did not find expected '!'"⟩
  else
    let (name, c) := (c.solid 1).takeWhile isName
    if c.char = '!' then .ok ('!' :: (name ++ ['!']), c.solid 1)
    else if directive && !name.isEmpty then
      .error ⟨start, "while parsing a tag directive, did not find expected '!'"⟩
    else .ok ('!' :: name, c)

/-- Reads what a handle stands for. -/
def readPrefix (start : Mark) (c : Cursor) : Except Fault (List Char × Cursor) := do
  if c.char ≠ '!' && !isTag c.char then throw ⟨start, "invalid global tag character"⟩
  let (d, c) ←
    if c.char = '!' then readAddressFrom (c.rest.length + 1) start isUri ['!'] (c.solid 1)
    else readAddressFrom (c.rest.length + 1) start isUri [] c
  pure (d.reverse, c)

/-- Reads a number of a version. -/
def readVersionNumber (start : Mark) (c : Cursor) : Except Fault Cursor :=
  let n := (c.rest.takeWhile Char.isDigit).length
  if n = 0 then
    .error ⟨start, "while scanning a YAML directive, did not find expected version number"⟩
  else if 9 < n then
    .error ⟨start, "while scanning a YAML directive, found extremely long version number"⟩
  else .ok (c.solid n)

/-- Reads a directive at its percent sign. -/
def readDirective (c : Cursor) : Except Fault (TokenKind × Cursor) := do
  let start := c.mark
  let c := c.solid 1
  let nameMark := c.mark
  let (name, c) := c.takeWhile isName
  if name.isEmpty then
    throw ⟨nameMark, "while scanning a directive, could not find expected directive name"⟩
  if !isSpace c.char then
    throw ⟨nameMark, "while scanning a directive, found unexpected non-alphabetical character"⟩
  let (kind, c) ←
    if name = "YAML".toList then do
      let c ← readVersionNumber start c.blanks
      if c.char ≠ '.' then
        throw ⟨start,
          "while scanning a YAML directive, did not find expected digit or '.' character"⟩
      let c ← readVersionNumber start (c.solid 1)
      pure (TokenKind.versionDirective, c)
    else if name = "TAG".toList then do
      let (handle, c) ← readHandle true start c.blanks
      let (full, c) ← readPrefix start c.blanks
      if !isSpace c.char then
        throw ⟨start, "while scanning TAG, did not find expected whitespace or line break"⟩
      pure (.tagDirective (String.ofList handle) (String.ofList full), c)
    else pure (.tagDirective "" "", c.comment)
  let gap ← c.gap true
  if !isBreakOrEnd gap.cursor.char then
    throw ⟨start, "while scanning a directive, did not find expected comment or line break"⟩
  pure (kind, gap.cursor.lineBreak)

/-- Reads a tag at its exclamation mark. -/
def readTag (flow : Bool) (c : Cursor) : Except Fault (TokenKind × Cursor) := do
  let start := c.mark
  let (handle, suffix, c) ←
    if c.ahead 1 = '<' then do
      let (d, c) ← readAddressFrom (c.rest.length + 1) start isUri [] (c.solid 2)
      if c.char ≠ '>' then
        throw ⟨start, "while scanning a verbatim tag, did not find the expected '>'"⟩
      pure ([], d.reverse, c.solid 1)
    else do
      let (handle, c) ← readHandle false start c
      if 2 ≤ handle.length && handle.getLast? = some '!' then do
        let (d, c) ← readAddressFrom (c.rest.length + 1) start isTag [] c
        if d.isEmpty then throw ⟨start, "while parsing a tag, did not find expected tag URI"⟩
        pure (handle, d.reverse, c)
      else do
        let (d, c) ← readAddressFrom (c.rest.length + 1) start isTag (handle.drop 1).reverse c
        if d.isEmpty then pure ([], ['!'], c) else pure (['!'], d.reverse, c)
  if isSpace c.char || (flow && isFlow c.char) then
    pure (.tag (String.ofList handle) (String.ofList suffix), c)
  else throw ⟨start, "while scanning a tag, did not find expected whitespace or line break"⟩

/-- Reads an anchor or an alias at its sign. -/
def readAnchor (isAlias : Bool) (c : Cursor) : Except Fault (TokenKind × Cursor) := do
  let start := c.mark
  let (name, c) := (c.solid 1).takeWhile isAnchor
  if name.isEmpty then
    throw ⟨start, "while scanning an anchor or alias, did not find expected alphabetic or "
      ++ "numeric character"⟩
  let name := String.ofList name
  pure (if isAlias then .alias name else .anchor name, c)

/-! ### Tokens -/

/-- A directive. -/
def fetchDirective : Scan Unit := do
  closeBlocks (-1)
  dropKey
  allowKey false
  let mark := (← get).cursor.mark
  let kind ← read readDirective
  push kind mark

/-- The start or end of a document. -/
def fetchDocumentIndicator (kind : TokenKind) : Scan Unit := do
  closeBlocks (-1)
  dropKey
  allowKey false
  let mark := (← get).cursor.mark
  move (·.solid 3)
  push kind mark

/-- The end of the stream. -/
def fetchStreamEnd : Scan Unit := do
  modify fun s =>
    let m := s.cursor.mark
    if m.column = 0 then s
    else { s with cursor := { s.cursor with mark := ⟨m.index, m.line + 1, 0⟩ } }
  let s ← get
  if s.keys.any fun k => k.required && k.possible then
    throw (s.cursor.fault "simple key expected")
  set { s with keys := s.keys.map fun (k : PossibleKey) => { k with possible := false } }
  closeBlocks (-1)
  dropKey
  allowKey false
  push .streamEnd (← get).cursor.mark

/-- An opening bracket. -/
def fetchFlowStart (kind : TokenKind) : Scan Unit := do
  saveKey
  setIn
  let s ← get
  if 255 ≤ s.flow then throw (s.cursor.fault "recursion limit exceeded")
  let mark := s.cursor.mark
  set { s with keys := .none :: s.keys, flow := s.flow + 1, keyAllowed := true,
               cursor := s.cursor.solid 1,
               inMapping := s.inMapping || kind = TokenKind.flowMappingStart }
  let _ ← passGap true
  push kind mark

/-- A closing bracket. -/
def fetchFlowEnd (kind : TokenKind) : Scan Unit := do
  dropKey
  modify fun s => if 0 < s.flow then { s with flow := s.flow - 1, keys := s.keys.drop 1 } else s
  allowKey false
  endImplicitMapping
  let mark := (← get).cursor.mark
  move (·.solid 1)
  let _ ← passGap true
  modify fun s => if 0 < s.flow then { s with adjacentAt := s.cursor.mark.index } else s
  push kind mark

/-- A comma inside brackets. -/
def fetchFlowEntry : Scan Unit := do
  dropKey
  allowKey true
  endImplicitMapping
  let mark := (← get).cursor.mark
  move (·.solid 1)
  let _ ← passGap true
  push .flowEntry mark

/-- A hyphen that begins an entry of a list. -/
def fetchBlockEntry : Scan Unit := do
  let s ← get
  let mark := s.cursor.mark
  if 0 < s.flow then throw ⟨mark, "\"-\" is only valid inside a block"⟩
  if !s.keyAllowed then
    throw ⟨mark, "block sequence entries are not allowed in this context"⟩
  match s.tokens.back? with
  | some t =>
    if t.isProperty && mark.column = 0 && t.mark.column = 0 && -1 < s.indent then
      throw ⟨t.mark, "invalid indentation for anchor"⟩
  | none => pure ()
  move (·.solid 1)
  openBlock mark.column none .blockSequenceStart mark
  let gap ← passGap true
  let c := gap.cursor
  if gap.tab && c.char = '-' && isSpace (c.ahead 1) then
    throw (c.fault "'-' must be followed by a valid YAML whitespace")
  let gap ← passGap false
  if isBreak gap.cursor.char || isFlow gap.cursor.char then setIn
  dropKey
  allowKey true
  push .blockEntry (← get).cursor.mark

/-- A question mark that begins a key. -/
def fetchKey : Scan Unit := do
  let s ← get
  let mark := s.cursor.mark
  if s.flow = 0 then
    if !s.keyAllowed then throw ⟨mark, "mapping keys are not allowed in this context"⟩
    openBlock mark.column none .blockMappingStart mark
  else modify fun s => { s with inMapping := true }
  dropKey
  allowKey (s.flow = 0)
  move (·.solid 1)
  let broken ← read fun c => c.separationFrom (c.rest.length + 1) true false
  if broken && s.flow = 0 then allowKey true
  let c := (← get).cursor
  if c.char = '\t' then throw (c.fault "tabs disallowed in this context")
  push .key mark

/-- A colon that begins a value. -/
def fetchValue : Scan Unit := do
  let s ← get
  let key := s.keys.headD .none
  let mark := s.cursor.mark
  let implicitMapping := 0 < s.flow && !s.inMapping
  modify fun s => { s with implicitMapping := implicitMapping }
  move (·.solid 1)
  if (← get).cursor.char = '\t' then
    let gap ← passGap true
    if !gap.space && isName gap.cursor.char then
      throw (gap.cursor.fault "':' must be followed by a valid YAML whitespace")
  let here := (← get).cursor.mark
  if key.possible then
    insert key.number .key key.mark
    if implicitMapping then
      if key.mark.line < mark.line then throw ⟨mark, "illegal placement of ':' indicator"⟩
      insert key.number .flowMappingStart here
    openBlock key.mark.column (some key.number) .blockMappingStart mark
    setIn
    modify fun s => { s with keys := { key with possible := false } :: s.keys.drop 1 }
    allowKey false
  else
    if implicitMapping then push .flowMappingStart here
    if s.flow = 0 then
      if !s.keyAllowed then
        throw ⟨mark, "mapping values are not allowed in this context"⟩
      openBlock mark.column none .blockMappingStart mark
    setIn
    allowKey (s.flow = 0)
  push .value mark

/-- An anchor, an alias, or a tag. -/
def fetchProperty (f : Cursor → Except Fault (TokenKind × Cursor)) : Scan Unit := do
  saveKey
  allowKey false
  let mark := (← get).cursor.mark
  let kind ← read f
  push kind mark

/-- A block scalar. -/
def fetchBlockScalar (isLiteral : Bool) : Scan Unit := do
  saveKey
  allowKey true
  let mark := (← get).cursor.mark
  move (·.solid 1)
  unsetIn
  let indent := (← get).indent
  let token ← read (readBlock isLiteral indent mark)
  push token.kind token.mark

/-- A quoted scalar. -/
def fetchQuoted (single : Bool) : Scan Unit := do
  saveKey
  allowKey false
  let s ← get
  let token ← read (readQuoted single s.indent (0 < s.flow))
  passSpace
  modify fun s => { s with adjacentAt := s.cursor.mark.index }
  push token.kind token.mark

/-- A plain scalar. -/
def fetchPlain : Scan Unit := do
  saveKey
  allowKey false
  unsetIn
  let s ← get
  let token ← read (readPlain (0 < s.flow) (s.indent + 1))
  if (← get).cursor.fresh then allowKey true
  push token.kind token.mark

/-- The token that the next characters begin. -/
def fetchByChar : Scan Unit := do
  let s ← get
  let c := s.cursor
  let x := c.char
  let next := c.ahead 1
  let flow := 0 < s.flow
  if x = '[' then fetchFlowStart .flowSequenceStart
  else if x = '{' then fetchFlowStart .flowMappingStart
  else if x = ']' then fetchFlowEnd .flowSequenceEnd
  else if x = '}' then fetchFlowEnd .flowMappingEnd
  else if x = ',' then fetchFlowEntry
  else if x = '-' && isSpace next then fetchBlockEntry
  else if x = '?' && isSpace next then fetchKey
  else if x = ':' && (isSpace next || (flow && (isFlow next || c.mark.index = s.adjacentAt))) then
    fetchValue
  else if x = '*' then fetchProperty (readAnchor true)
  else if x = '&' then fetchProperty (readAnchor false)
  else if x = '!' then fetchProperty (readTag flow)
  else if x = '|' && !flow then fetchBlockScalar true
  else if x = '>' && !flow then fetchBlockScalar false
  else if x = '\'' then fetchQuoted true
  else if x = '"' then fetchQuoted false
  else if x = '%' || x = '@' || x = Char.ofNat 0x60 then
    throw (c.fault (String.ofList ("unexpected character: ".toList ++ [Char.ofNat 0x60, x, '\''])))
  else fetchPlain

/-- The next token, and those that it brings with it. -/
def fetch : Scan Unit := do
  passSpace
  dropStaleKeys
  let s ← get
  let c := s.cursor
  closeBlocks c.column
  move (·.see 4)
  let s ← get
  if isEnd c.char then fetchStreamEnd
  else if c.mark.column = 0 && c.char = '%' then fetchDirective
  else if c.mark.column = 0 && c.isIndicator '-' then fetchDocumentIndicator .documentStart
  else if c.mark.column = 0 && c.isIndicator '.' then
    fetchDocumentIndicator .documentEnd
    let gap ← passGap true
    if !isBreakOrEnd gap.cursor.char then
      throw (gap.cursor.fault "invalid content after document end marker")
  else if c.column < s.indent then throw (c.fault "invalid indentation")
  else fetchByChar

/-- How many tokens no key can come before. -/
def certain (s : Scanner) : Nat :=
  s.keys.foldl (fun n k => if k.possible then min n k.number else n) s.tokens.size

/-- Fetches one token and gives up the keys that it makes impossible. -/
def step : Scan Unit := do
  fetch
  dropStaleKeys

/-- Fetches tokens up to the end of the stream or the first fault.  Every token but the
last takes a character, so `fuel` may be two more than their number. -/
def run (fuel : Nat) (s : Scanner) : List Token × Option Fault :=
  match fuel with
  | 0 => (s.tokens.toList, none)
  | fuel + 1 =>
    match step s with
    | .error f => (s.tokens.toList.take (certain s), some f)
    | .ok (_, next) =>
      match next.tokens.back? with
      | some ⟨_, .streamEnd⟩ => (next.tokens.toList, none)
      | _ => run fuel next

/-- The tokens of a text, and the fault behind them. -/
def tokens (text : String) : List Token × Option Fault :=
  let s : Scanner := { cursor := .start text, tokens := #[⟨.start, .streamStart⟩] }
  run (text.length + 2) s

end Scan
end Yaml
end MailGateway
