/-
# Media types

`type "/" subtype *(";" parameter)`, the subtype perhaps with a suffix behind its
last plus sign.  Parameters are checked for their form and then ignored: a name, an
equals sign, and a value that is a token or stands in quotes; blanks may stand
before a name and behind a quoted value, and the list may end in a semicolon.
-/

namespace MailGateway
namespace Http

/-- A type, a subtype and the subtype's suffix, in lower case. -/
structure MediaType where
  type : String
  subtype : String
  suffix : Option String
  deriving DecidableEq, Repr

namespace MediaType

/-- A character of a token. -/
def isToken (c : Char) : Bool := c.isAlphanum || "!#$%&'*+-.^_`|~".toList.contains c

/-- Where in the parameters the reading stands; `filled` says that a name or value has
characters already. -/
inductive Place where
  | gap
  | name (filled : Bool)
  | value (filled : Bool)
  | quoted (filled : Bool)
  | behindQuote
  deriving DecidableEq, Repr

/-- The place behind one more character. -/
def Place.step (p : Place) (c : Char) : Option Place :=
  match p with
  | .gap => if c = ' ' then some .gap else if isToken c then some (.name true) else none
  | .name filled =>
    if isToken c then some (.name true)
    else if c = '=' ∧ filled then some (.value false)
    else none
  | .value filled =>
    if c = '"' ∧ !filled then some (.quoted false)
    else if isToken c then some (.value true)
    else if c = ';' ∧ filled then some .gap
    else none
  | .quoted filled =>
    if c = '"' ∧ filled then some .behindQuote
    else if 0x1F < c.toNat ∧ c.toNat ≠ 0x7F then some (.quoted true)
    else none
  | .behindQuote => if c = ';' then some .gap else if c = ' ' then some .behindQuote else none

/-- Whether the parameters may end here. -/
def Place.final : Place → Bool
  | .gap | .value _ | .behindQuote => true
  | .name _ | .quoted _ => false

/-- Whether the text behind the first semicolon is a list of parameters. -/
def isParameters (cs : List Char) : Bool :=
  match cs.foldlM Place.step .gap with
  | some p => p.final
  | none => false

/-- The subtype before its last plus sign, and the suffix behind it.  A plus sign at
the front belongs to the subtype. -/
def splitSuffix (cs : List Char) : List Char × Option (List Char) :=
  let back := cs.reverse
  match back.dropWhile (· ≠ '+') with
  | _ :: c :: before => ((c :: before).reverse, some (back.takeWhile (· ≠ '+')).reverse)
  | _ => (cs, none)

/-- Reads a media type. -/
def parse? (text : String) : Option MediaType :=
  let cs := text.toList
  let type := cs.takeWhile isToken
  match type, cs.dropWhile isToken with
  | _ :: _, '/' :: r =>
    let (subtype, suffix) := splitSuffix (r.takeWhile isToken)
    let lower := fun (cs : List Char) => (String.ofList cs).toLower
    let found : MediaType := ⟨lower type, lower subtype, suffix.map lower⟩
    match r.dropWhile isToken with
    | [] => some found
    | ';' :: ps => if subtype ≠ [] ∧ isParameters ps then some found else none
    | _ => none
  | _, _ => none

/-- Whether a body of this type is JSON. -/
def isJson (m : MediaType) : Bool :=
  m.type = "application" && (m.subtype = "json" || m.suffix = some "json")

end MediaType
end Http
end MailGateway
