/-
# Layers of settings

Values come in layers: a file, and over it the environment.  A layer is a list of
names and values; each name is a path (`Path`), and the values are put where their
paths lead, one after another.

In the environment every name that begins with the prefix in any case counts.  A value
there is a truth value, a number or a text, whichever it reads as first.
-/

import MailGateway.Binary64.Numeral
import MailGateway.Yaml.Node
import MailGateway.Config.Path

namespace MailGateway
namespace Config

/-- Names and values, in order. -/
abbrev Layer := List (String × Value)

/-- Names and texts of the environment. -/
abbrev Environment := List (String × String)

namespace Environment

/-- Sets a name; the old text is lost. -/
def set : Environment → String → String → Environment
  | [], name, s => [(name, s)]
  | (k, t) :: rest, name, s => if k = name then (k, s) :: rest else (k, t) :: set rest name s

/-- The environment after setting names one after another. -/
def ofList (vars : List (String × String)) : Environment :=
  vars.foldl (fun e v => e.set v.1 v.2) []

/-- The text of a name. -/
def get? (e : Environment) (name : String) : Option String := e.lookup name

end Environment

/-- What the names of settings begin with, in lower case. -/
def environmentPrefix : String := "email_backend_"

/-- How messages call the environment. -/
def environmentOrigin : String := "the environment"

/-- What a text of the environment stands for. -/
def Scalar.ofText (s : String) : Scalar :=
  let word := Text.lower s
  if word = "true" then .boolean true
  else if word = "false" then .boolean false
  else
    match Yaml.Node.inBase? 10 s.toList with
    | some n => .integer n
    | none =>
      match Binary64.ofNumeral? s with
      | some x => .real x
      | none => .text s

/-- The layer of the environment.  Of names that differ in case only the last counts. -/
def Layer.ofEnvironment (e : Environment) : Layer :=
  e.foldl (fun layer (name, s) =>
    let name := (Text.lower name).toList
    let start := environmentPrefix.toList
    if start.isPrefixOf name then
      Table.put layer (String.ofList (name.drop start.length))
        (.scalar (Scalar.ofText s) environmentOrigin)
    else layer) []

/-- Why a file makes no layer. -/
inductive LayerFault where
  | yaml (fault : Yaml.Fault)
  | documents (count : Nat)
  | real (text : String)
  | noTable (found : Value)
  /-- A mapping has a key that is no name: this ends the program. -/
  | noName
  deriving Repr, Inhabited

mutual
/-- The value of a node. -/
def Value.ofNode (origin : String) : Yaml.Node → Except LayerFault Value
  | .string s => .ok (.scalar (.text s) origin)
  | .real s =>
    match Binary64.ofNumeral? s with
    | some x => .ok (.scalar (.real x) origin)
    | none => .error (.real s)
  | .integer n => .ok (.scalar (.integer n) origin)
  | .boolean b => .ok (.scalar (.boolean b) origin)
  | .null => .ok (.scalar .null origin)
  | .bad => .ok (.scalar .null origin)
  | .sequence items => do pure (.sequence (← ofItems origin items) origin)
  | .mapping ms => do pure (.table (← ofMembers origin ms))

/-- The values of items. -/
def Value.ofItems (origin : String) : List Yaml.Node → Except LayerFault (List Value)
  | [] => .ok []
  | n :: ns => do
    let v ← ofNode origin n
    pure (v :: (← ofItems origin ns))

/-- The values of members.  Their keys are texts or whole numbers. -/
def Value.ofMembers (origin : String) :
    List (Yaml.Node × Yaml.Node) → Except LayerFault (List (String × Value))
  | [] => .ok []
  | (.string k, n) :: ms => do
    let v ← ofNode origin n
    pure ((k, v) :: (← ofMembers origin ms))
  | (.integer k, n) :: ms => do
    let v ← ofNode origin n
    pure ((toString k, v) :: (← ofMembers origin ms))
  | _ :: _ => .error .noName
end

/-- The layer of a file's text.  A text without documents is empty. -/
def Layer.ofYaml (origin text : String) : Except LayerFault Layer := do
  let nodes ← (Yaml.Node.parse text).mapError .yaml
  match nodes with
  | [] => pure []
  | [node] =>
    match ← Value.ofNode origin node with
    | .table ms => pure ms
    | v => throw (.noTable v)
  | _ => throw (.documents nodes.length)

/-- Puts a layer over a table; `none` where a path has no meaning. -/
def Layer.onto (layer : Layer) (root : Value) : Option Value :=
  layer.foldlM (fun root (name, v) => (Path.ofName name).set v root) root

/-- The table of layers, the lowest first. -/
def merge (layers : List Layer) : Option Table :=
  (layers.foldlM (fun root (layer : Layer) => layer.onto root) (.table [])).map Value.members

end Config
end MailGateway
