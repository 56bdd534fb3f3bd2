/-
# From tokens to events

An event is a scalar, an alias, or the start or end of a collection or a document.
What is left out in the text appears as an empty scalar.  Which tokens may come next
depends on a `Place`; the places of the collections around it wait on a stack.

Anchors are numbered from one.  A name stands for the last anchor of that name in its
document.
-/

import MailGateway.Yaml.Tokens

namespace MailGateway
namespace Yaml

/-- The tag of a scalar: what its handle stands for, and the rest. -/
structure Tag where
  space : String
  suffix : String
  deriving DecidableEq, Repr, Inhabited

/-- What an event says.  A scalar or collection may have an anchor. -/
inductive EventKind where
  | documentStart
  | documentEnd
  | alias (anchor : Nat)
  | scalar (style : ScalarStyle) (text : String) (anchor : Option Nat) (tag : Option Tag)
  | sequenceStart (anchor : Option Nat)
  | sequenceEnd
  | mappingStart (anchor : Option Nat)
  | mappingEnd
  deriving DecidableEq, Repr, Inhabited

/-- An event at its place. -/
structure Event where
  mark : Mark
  kind : EventKind
  deriving DecidableEq, Repr, Inhabited

/-- A scalar that the text leaves out. -/
def EventKind.absent : EventKind := .scalar .plain "~" none none

/-- What comes next. -/
inductive Place where
  | openDocument
  | document
  | documentContent
  | documentEnd
  | blockNode
  | blockSequenceStart
  | blockSequenceEntry
  | looseSequenceEntry
  | blockMappingStart
  | blockMappingKey
  | blockMappingValue
  | flowSequenceStart
  | flowSequenceEntry
  | pairKey
  | pairValue
  | pairEnd
  | flowMappingStart
  | flowMappingKey
  | flowMappingValue
  | flowMappingNoValue
  | nothing
  deriving DecidableEq, Repr, Inhabited

/-- The tokens that are left, with the fault behind them, and what they are read as. -/
structure EventReader where
  tokens : List Token
  fault : Option Fault
  place : Place := .openDocument
  outer : List Place := []
  handles : List (String × String) := []
  anchors : List (String × Nat) := []
  nextAnchor : Nat := 1

/-- A computation on the reader that may fault. -/
abbrev Events := StateT EventReader (Except Fault)

namespace Events

/-- The next token. -/
def peek : Events Token := do
  let s ← get
  match s.tokens, s.fault with
  | t :: _, _ => pure t
  | [], some f => throw f
  | [], none => pure ⟨.start, .streamEnd⟩

/-- Steps over a token. -/
def skip : Events Unit := modify fun s => { s with tokens := s.tokens.drop 1 }

/-- Says what comes next. -/
def goto (place : Place) : Events Unit := modify fun s => { s with place := place }

/-- Has a place wait. -/
def wait (place : Place) : Events Unit := modify fun s => { s with outer := place :: s.outer }

/-- Goes back to the place that waits. -/
def back : Events Unit :=
  modify fun s =>
    match s.outer with
    | p :: ps => { s with place := p, outer := ps }
    | [] => { s with place := .nothing }

/-- A scalar that is left out, with what comes next. -/
def absent (mark : Mark) (next : Place) : Events Event := do
  goto next
  pure ⟨mark, .absent⟩

/-- What a handle stands for. -/
def resolve (mark : Mark) (handle suffix : String) : Events Tag := do
  let handles := (← get).handles
  let isNamed := 2 ≤ handle.length && handle.startsWith "!" && handle.endsWith "!"
  if handle = "!!" then
    pure ⟨(handles.lookup handle).getD "tag:yaml.org,2002:", suffix⟩
  else if handle = "" && suffix = "!" then
    pure ⟨(handles.lookup "").getD "", suffix⟩
  else
    match handles.lookup handle with
    | some space => pure ⟨space, suffix⟩
    | none => if isNamed then throw ⟨mark, "the handle wasn't declared"⟩ else pure ⟨handle, suffix⟩

/-- Gives an anchor its number. -/
def register (name : String) : Events Nat := do
  let s ← get
  set { s with nextAnchor := s.nextAnchor + 1, anchors := (name, s.nextAnchor) :: s.anchors }
  pure s.nextAnchor

/-- Reads the anchor and tag of a node, in either order. -/
def properties : Events (Option Nat × Option Tag) := do
  let t ← peek
  match t.kind with
  | .anchor name =>
    skip
    let anchor ← register name
    match (← peek).kind with
    | .tag handle suffix =>
      skip
      let tag ← resolve t.mark handle suffix
      pure (some anchor, some tag)
    | _ => pure (some anchor, none)
  | .tag handle suffix =>
    skip
    let tag ← resolve t.mark handle suffix
    match (← peek).kind with
    | .anchor name =>
      skip
      let anchor ← register name
      pure (some anchor, some tag)
    | _ => pure (none, some tag)
  | _ => pure (none, none)

/-- Begins a node.  Block collections need `block`; a list that is not set in needs
`loose`. -/
def node (block loose : Bool) : Events Event := do
  let t ← peek
  match t.kind with
  | .alias name =>
    back
    skip
    match (← get).anchors.lookup name with
    | some anchor => pure ⟨t.mark, .alias anchor⟩
    | none => throw ⟨t.mark, "while parsing node, found unknown anchor"⟩
  | _ =>
    let (anchor, tag) ← properties
    let t ← peek
    let open? : Option (Place × EventKind) :=
      match t.kind with
      | .blockEntry => if loose then some (.looseSequenceEntry, .sequenceStart anchor) else none
      | .flowSequenceStart => some (.flowSequenceStart, .sequenceStart anchor)
      | .flowMappingStart => some (.flowMappingStart, .mappingStart anchor)
      | .blockSequenceStart =>
        if block then some (.blockSequenceStart, .sequenceStart anchor) else none
      | .blockMappingStart =>
        if block then some (.blockMappingStart, .mappingStart anchor) else none
      | _ => none
    match open?, t.kind with
    | some (place, kind), _ =>
      goto place
      pure ⟨t.mark, kind⟩
    | none, .scalar style text =>
      back
      skip
      pure ⟨t.mark, .scalar style text anchor tag⟩
    | none, _ =>
      if anchor.isNone && tag.isNone then
        throw ⟨t.mark, "while parsing a node, did not find expected node content"⟩
      back
      pure ⟨t.mark, .scalar .plain "" anchor tag⟩

/-- A node inside a collection, with what comes behind it. -/
def nodeThen (next : Place) (block loose : Bool) : Events Event := do
  wait next
  node block loose

/-- The end of a collection; the text may leave its token out. -/
def close (mark : Mark) (kind : EventKind) (hasToken : Bool) : Events Event := do
  back
  if hasToken then skip
  pure ⟨mark, kind⟩

/-! ### Documents -/

/-- Reads directives.  Each takes the place of the ones before it. -/
def directivesFrom (fuel : Nat) (versioned : Bool) : Events Unit :=
  match fuel with
  | 0 => pure ()
  | fuel + 1 => do
    let t ← peek
    match t.kind with
    | .versionDirective =>
      if versioned then throw ⟨t.mark, "duplicate version directive"⟩
      modify fun s => { s with handles := [] }
      skip
      directivesFrom fuel true
    | .tagDirective handle start =>
      modify fun s => { s with handles := [(handle, start)] }
      skip
      directivesFrom fuel versioned
    | _ => pure ()

/-- Reads all directives. -/
def directives : Events Unit := do directivesFrom ((← get).tokens.length + 1) false

/-- A document behind `---`. -/
def explicitDocument : Events (Option Event) := do
  directives
  let t ← peek
  if t.kind ≠ .documentStart then throw ⟨t.mark, "did not find expected <document start>"⟩
  wait .documentEnd
  goto .documentContent
  skip
  pure (some ⟨t.mark, .documentStart⟩)

/-- Steps over document ends. -/
def skipDocumentEnds (fuel : Nat) : Events Unit :=
  match fuel with
  | 0 => pure ()
  | fuel + 1 => do
    if (← peek).kind = .documentEnd then
      skip
      skipDocumentEnds fuel

/-- The start of a document; nothing at the end of the stream.  Only an `isOpen` place lets
a document begin without `---`. -/
def document (isOpen : Bool) : Events (Option Event) := do
  skipDocumentEnds ((← get).tokens.length + 1)
  modify fun s => { s with anchors := [] }
  let t ← peek
  match t.kind, isOpen with
  | .streamEnd, _ =>
    goto .nothing
    pure none
  | .versionDirective, _ | .tagDirective _ _, _ | .documentStart, _ | _, false => explicitDocument
  | _, true =>
    wait .documentEnd
    goto .blockNode
    pure (some ⟨t.mark, .documentStart⟩)

/-- The content behind `---`. -/
def documentContent : Events Event := do
  let t ← peek
  match t.kind with
  | .versionDirective | .tagDirective _ _ | .documentStart | .documentEnd | .streamEnd =>
    back
    pure ⟨t.mark, .absent⟩
  | _ => node true false

/-- The end of a document. -/
def documentEnd : Events Event := do
  let t ← peek
  modify fun s => { s with handles := [] }
  match t.kind with
  | .documentEnd =>
    skip
    goto .openDocument
  | .versionDirective | .tagDirective _ _ =>
    throw ⟨t.mark, "missing explicit document end marker before directive"⟩
  | _ => goto .document
  pure ⟨t.mark, .documentEnd⟩

/-! ### Block collections -/

/-- An entry of a list in a block. -/
def blockSequenceEntry : Events Event := do
  let t ← peek
  match t.kind with
  | .blockEnd => close t.mark .sequenceEnd true
  | .blockEntry =>
    skip
    match (← peek).kind with
    | .blockEntry | .blockEnd => absent (← peek).mark .blockSequenceEntry
    | _ => nodeThen .blockSequenceEntry true false
  | _ =>
    throw ⟨t.mark, "while parsing a block collection, did not find expected '-' indicator"⟩

/-- An entry of a list that is not set in. -/
def looseSequenceEntry : Events Event := do
  let t ← peek
  match t.kind with
  | .blockEntry =>
    skip
    match (← peek).kind with
    | .blockEntry | .key | .value | .blockEnd => absent (← peek).mark .looseSequenceEntry
    | _ => nodeThen .looseSequenceEntry true false
  | _ => close t.mark .sequenceEnd false

/-- A key of a mapping in a block. -/
def blockMappingKey : Events Event := do
  let t ← peek
  match t.kind with
  | .key =>
    skip
    match (← peek).kind with
    | .key | .value | .blockEnd => absent (← peek).mark .blockMappingValue
    | _ => nodeThen .blockMappingValue true true
  | .value => absent t.mark .blockMappingValue
  | .blockEnd => close t.mark .mappingEnd true
  | _ => throw ⟨t.mark, "while parsing a block mapping, did not find expected key"⟩

/-- A value of a mapping in a block. -/
def blockMappingValue : Events Event := do
  let t ← peek
  match t.kind with
  | .value =>
    skip
    match (← peek).kind with
    | .key | .value | .blockEnd => absent (← peek).mark .blockMappingKey
    | _ => nodeThen .blockMappingKey true true
  | _ => absent t.mark .blockMappingKey

/-! ### Collections in brackets -/

/-- Steps over the comma that must stand before all entries but the first. -/
def comma (isFirst : Bool) (closing : TokenKind) (complaint : String) : Events Unit := do
  let t ← peek
  if t.kind ≠ closing && !isFirst then
    if t.kind = .flowEntry then skip else throw ⟨t.mark, complaint⟩

/-- A key of a mapping in braces. -/
def flowMappingKey (isFirst : Bool) : Events Event := do
  if (← peek).kind = .flowMappingEnd then close (← peek).mark .mappingEnd true
  else
    comma isFirst .flowMappingEnd
      "while parsing a flow mapping, did not find expected ',' or '\x7d'"
    let t ← peek
    match t.kind with
    | .key =>
      skip
      match (← peek).kind with
      | .value | .flowEntry | .flowMappingEnd => absent (← peek).mark .flowMappingValue
      | _ => nodeThen .flowMappingValue false false
    | .value => absent t.mark .flowMappingValue
    | .flowMappingEnd => close t.mark .mappingEnd true
    | _ => nodeThen .flowMappingNoValue false false

/-- A value of a mapping in braces. -/
def flowMappingValue : Events Event := do
  let t ← peek
  match t.kind with
  | .value =>
    skip
    match (← peek).kind with
    | .flowEntry | .flowMappingEnd => absent t.mark .flowMappingKey
    | _ => nodeThen .flowMappingKey false false
  | _ => absent t.mark .flowMappingKey

/-- An entry of a list in brackets. -/
def flowSequenceEntry (isFirst : Bool) : Events Event := do
  comma isFirst .flowSequenceEnd "while parsing a flow sequence, expected ',' or ']'"
  let t ← peek
  match t.kind with
  | .flowSequenceEnd => close t.mark .sequenceEnd true
  | .key =>
    goto .pairKey
    skip
    pure ⟨t.mark, .mappingStart none⟩
  | _ => nodeThen .flowSequenceEntry false false

/-- The key of a pair in a list in brackets. -/
def pairKey : Events Event := do
  let t ← peek
  match t.kind with
  | .value | .flowEntry | .flowSequenceEnd =>
    skip
    absent t.mark .pairValue
  | _ => nodeThen .pairValue false false

/-- The value of a pair in a list in brackets. -/
def pairValue : Events Event := do
  let t ← peek
  match t.kind with
  | .value =>
    skip
    goto .pairValue
    match (← peek).kind with
    | .flowEntry | .flowSequenceEnd => absent (← peek).mark .pairEnd
    | _ => nodeThen .pairEnd false false
  | _ => absent t.mark .pairEnd

/-! ### The stream -/

/-- Steps over the token that begins a collection. -/
def first (f : Events Event) : Events Event := do
  skip
  f

/-- The next event; nothing at the end of the stream. -/
def next? : Events (Option Event) := do
  match (← get).place with
  | .openDocument => document true
  | .document => document false
  | .documentContent => some <$> documentContent
  | .documentEnd => some <$> documentEnd
  | .blockNode => some <$> node true false
  | .blockSequenceStart => some <$> first blockSequenceEntry
  | .blockSequenceEntry => some <$> blockSequenceEntry
  | .looseSequenceEntry => some <$> looseSequenceEntry
  | .blockMappingStart => some <$> first blockMappingKey
  | .blockMappingKey => some <$> blockMappingKey
  | .blockMappingValue => some <$> blockMappingValue
  | .flowSequenceStart => some <$> first (flowSequenceEntry true)
  | .flowSequenceEntry => some <$> flowSequenceEntry false
  | .pairKey => some <$> pairKey
  | .pairValue => some <$> pairValue
  | .pairEnd => do
    goto .flowSequenceEntry
    pure (some ⟨(← peek).mark, .mappingEnd⟩)
  | .flowMappingStart => some <$> first (flowMappingKey true)
  | .flowMappingKey => some <$> flowMappingKey false
  | .flowMappingValue => some <$> flowMappingValue
  | .flowMappingNoValue => some <$> absent (← peek).mark .flowMappingKey
  | .nothing => pure none

/-- Reads events up to the end of the stream. -/
def readFrom (fuel : Nat) (s : EventReader) (read : List Event) : Except Fault (List Event) :=
  match fuel with
  | 0 => .ok read.reverse
  | fuel + 1 =>
    match StateT.run next? s with
    | .error f => .error f
    | .ok (none, _) => .ok read.reverse
    | .ok (some e, s) => readFrom fuel s (e :: read)

end Events

/-- The events of a text.  No token gives more than six events. -/
def events (text : String) : Except Fault (List Event) :=
  match Scan.tokens text with
  | (tokens, fault) =>
    Events.readFrom (6 * tokens.length + 10) { tokens := tokens.drop 1, fault } []

end Yaml
end MailGateway
