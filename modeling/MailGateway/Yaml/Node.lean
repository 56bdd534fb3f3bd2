/-
# From events to nodes

A document is one node.  An unquoted scalar is what its text looks like: a 64-bit
integer, a floating-point number (kept as its text), a truth value, null, or else a
string.  Any other scalar is a string, unless its tag names one of the core kinds.

A mapping keeps its members in order and refuses to hold a key twice.  An alias of a
collection that is still open has no value: it is `bad`.
-/

import MailGateway.Text.Quoted
import MailGateway.Binary64.Numeral
import MailGateway.Yaml.Event

namespace MailGateway
namespace Yaml

/-- A value of a document. -/
inductive Node where
  | string (text : String)
  | real (text : String)
  | integer (value : Int)
  | boolean (value : Bool)
  | null
  | bad
  | sequence (items : List Node)
  | mapping (members : List (Node × Node))
  deriving BEq, Repr, Inhabited

namespace Node

mutual
/-- The node as a message shows it. -/
def text : Node → String
  | .string s => "String(" ++ Quoted.text s ++ ")"
  | .real s => "Real(" ++ Quoted.text s ++ ")"
  | .integer n => "Integer(" ++ toString n ++ ")"
  | .boolean b => "Boolean(" ++ toString b ++ ")"
  | .null => "Null"
  | .bad => "BadValue"
  | .sequence items => "Array([" ++ ", ".intercalate (texts items) ++ "])"
  | .mapping members => "Hash(\x7b" ++ ", ".intercalate (memberTexts members) ++ "\x7d)"

/-- Items as a message shows them. -/
def texts : List Node → List String
  | [] => []
  | n :: ns => n.text :: texts ns

/-- Members as a message shows them. -/
def memberTexts : List (Node × Node) → List String
  | [] => []
  | (k, v) :: ms => (k.text ++ ": " ++ v.text) :: memberTexts ms
end

/-! ### Scalars -/

/-- A whole number of 64 bits. -/
def int64? (n : Option Int) : Option Int := n.filter fun n => -(2 ^ 63 : Int) ≤ n ∧ n < 2 ^ 63

/-- A whole number in a base, perhaps with a sign. -/
def inBase? (base : Nat) (cs : List Char) : Option Int :=
  let digit? := fun c => (Numeral.hexadecimal? c).filter (· < base)
  int64? <|
    match cs with
    | '-' :: cs => (Numeral.digits? digit? base cs).map fun n => -(n : Int)
    | '+' :: cs => (Numeral.digits? digit? base cs).map Int.ofNat
    | cs => (Numeral.digits? digit? base cs).map Int.ofNat

/-- A whole number as documents spell it. -/
def ofInteger? (s : String) : Option Int :=
  let spelled :=
    match s.toList with
    | '0' :: 'x' :: cs => inBase? 16 cs
    | '0' :: 'o' :: cs => inBase? 8 cs
    | '+' :: cs => inBase? 10 cs
    | _ => none
  spelled <|> inBase? 10 s.toList

/-- The spellings of numbers that are not finite. -/
def wordFor : List (String × Binary64) :=
  [(".inf", .infinite false), (".Inf", .infinite false), (".INF", .infinite false),
   ("+.inf", .infinite false), ("+.Inf", .infinite false), ("+.INF", .infinite false),
   ("-.inf", .infinite true), ("-.Inf", .infinite true), ("-.INF", .infinite true),
   (".nan", .nan), ("NaN", .nan), (".NAN", .nan)]

/-- Whether a text is a floating-point number as documents spell it. -/
def isReal (s : String) : Bool :=
  (wordFor.lookup s).isSome || (Binary64.ofNumeral? s).isSome

/-- What an unquoted scalar is. -/
def ofPlain (s : String) : Node :=
  match ofInteger? s with
  | some n => .integer n
  | none =>
    if s = "" || s = "~" || s = "null" then .null
    else if s = "true" then .boolean true
    else if s = "false" then .boolean false
    else if isReal s then .real s
    else .string s

/-- What an unquoted scalar with a tag is. -/
def ofTagged (tag : Tag) (s : String) : Node :=
  if tag.space ≠ "tag:yaml.org,2002:" then .string s
  else if tag.suffix = "bool" then
    if s = "true" then .boolean true else if s = "false" then .boolean false else .bad
  else if tag.suffix = "int" then
    match inBase? 10 s.toList with
    | some n => .integer n
    | none => .bad
  else if tag.suffix = "float" then if isReal s then .real s else .bad
  else if tag.suffix = "null" then if s = "~" || s = "null" then .null else .bad
  else .string s

/-- What a scalar is. -/
def ofScalar (style : ScalarStyle) (s : String) (tag : Option Tag) : Node :=
  if style ≠ .plain then .string s
  else
    match tag with
    | some tag => ofTagged tag s
    | none => ofPlain s

/-! ### Collections -/

/-- A collection in progress, members last first.  The key of the next member is `bad`
until it has been read. -/
inductive Draft where
  | sequence (items : List Node)
  | mapping (members : List (Node × Node)) (key : Node)
  deriving Inhabited

/-- A collection in progress and its anchor. -/
structure Open where
  anchor : Option Nat
  draft : Draft
  deriving Inhabited

/-- Documents in progress: the open collections, innermost first, the node of the
document, the documents before it, and the nodes of the anchors. -/
structure Builder where
  opened : List Open := []
  root : Option Node := none
  documents : List Node := []
  anchors : List (Nat × Node) := []

namespace Builder

/-- Puts a node with an anchor into the collection that is open. -/
def add (b : Builder) (mark : Mark) (anchor : Option Nat) (node : Node) : Except Fault Builder :=
  let anchors :=
    match anchor with
    | some a => (a, node) :: b.anchors
    | none => b.anchors
  let b := { b with anchors := anchors }
  match b.opened with
  | [] => .ok { b with root := some node }
  | ⟨a, .sequence items⟩ :: rest => .ok { b with opened := ⟨a, .sequence (node :: items)⟩ :: rest }
  | ⟨a, .mapping members .bad⟩ :: rest =>
    .ok { b with opened := ⟨a, .mapping members node⟩ :: rest }
  | ⟨a, .mapping members key⟩ :: rest =>
    if members.any fun m => m.1 == key then
      .error ⟨mark, key.text ++ ": duplicated key in mapping"⟩
    else .ok { b with opened := ⟨a, .mapping ((key, node) :: members) .bad⟩ :: rest }

/-- Closes the innermost collection. -/
def close (b : Builder) (mark : Mark) : Except Fault Builder :=
  match b.opened with
  | [] => .ok b
  | ⟨anchor, draft⟩ :: rest =>
    let node :=
      match draft with
      | .sequence items => Node.sequence items.reverse
      | .mapping members _ => Node.mapping members.reverse
    { b with opened := rest }.add mark anchor node

/-- Takes in an event. -/
def step (b : Builder) (e : Event) : Except Fault Builder :=
  match e.kind with
  | .documentStart => .ok { b with root := none }
  | .documentEnd => .ok { b with documents := b.root.getD .bad :: b.documents, root := none }
  | .alias anchor => b.add e.mark none ((b.anchors.lookup anchor).getD .bad)
  | .scalar style text anchor tag => b.add e.mark anchor (ofScalar style text tag)
  | .sequenceStart anchor => .ok { b with opened := ⟨anchor, .sequence []⟩ :: b.opened }
  | .mappingStart anchor => .ok { b with opened := ⟨anchor, .mapping [] .bad⟩ :: b.opened }
  | .sequenceEnd | .mappingEnd => b.close e.mark

end Builder

/-- The documents that events tell. -/
def ofEvents (events : List Event) : Except Fault (List Node) :=
  (events.foldlM Builder.step {}).map fun b => b.documents.reverse

/-- The documents of a text. -/
def parse (text : String) : Except Fault (List Node) := do ofEvents (← events text)

end Node
end Yaml
end MailGateway
