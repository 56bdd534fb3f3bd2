/-
# Values of settings

A value remembers where it came from, its origin; a table is put together from several
places and has none.  Names of members are compared as they stand; whoever puts a
member in lowers its name first.
-/

import MailGateway.Binary64.Shortest
import MailGateway.Text.Lower
import MailGateway.Text.Quoted

namespace MailGateway
namespace Config

/-- A value that has no parts. -/
inductive Scalar where
  | null
  | boolean (value : Bool)
  | integer (value : Int)
  | real (value : Binary64)
  | text (value : String)
  deriving DecidableEq, Repr, Inhabited

/-- A value. -/
inductive Value where
  | scalar (value : Scalar) (origin : Option String)
  | sequence (items : List Value) (origin : Option String)
  | table (members : List (String × Value))
  deriving Repr, Inhabited

/-- Members by name. -/
abbrev Table := List (String × Value)

namespace Table

/-- The member of a name. -/
def get? (t : Table) (name : String) : Option Value := t.lookup name

/-- Puts a member in, in the place of one of the same name. -/
def put : Table → String → Value → Table
  | [], name, v => [(name, v)]
  | (k, w) :: rest, name, v => if k = name then (k, v) :: rest else (k, w) :: put rest name v

theorem get?_put (t : Table) (name other : String) (v : Value) :
    (t.put name v).get? other = if other = name then some v else t.get? other := by
  have differ {a b : String} (h : ¬a = b) : (a == b) = false := by simpa using h
  induction t with
  | nil =>
    by_cases h : other = name
    · simp [put, get?, h]
    · simp [put, get?, List.lookup_cons, h, differ h]
  | cons m rest ih =>
    obtain ⟨k, w⟩ := m
    unfold get? at ih ⊢
    by_cases hk : k = name
    · subst hk
      by_cases h : other = k
      · simp [put, h]
      · simp [put, List.lookup_cons, h, differ h]
    · by_cases h : other = k
      · subst h
        simp [put, hk]
      · simp [put, hk, List.lookup_cons, differ h, ih]

end Table

namespace Value

/-- The members of a table; other values have none. -/
def members : Value → Table
  | .table ms => ms
  | _ => []

/-- The items of a sequence; other values have none. -/
def items : Value → List Value
  | .sequence vs _ => vs
  | _ => []

/-- Where the value came from. -/
def origin : Value → Option String
  | .scalar _ o => o
  | .sequence _ o => o
  | .table _ => none

mutual
/-- A value that is put in the place of another.  A table is merged into what was there,
member by member. -/
def onto (new : Value) (old : Option Value) : Value :=
  match new with
  | .table [] => old.getD (.table [])
  | .table ms => .table (ontoMembers ms ((old.map members).getD []))
  | v => v

/-- Members put into a table, one after another. -/
def ontoMembers : List (String × Value) → Table → Table
  | [], t => t
  | (name, v) :: rest, t =>
    ontoMembers rest (t.put (Text.lower name) (onto v (t.get? (Text.lower name))))
end

/-- Puts a member into a table; what is no table becomes one. -/
def setMember (v : Value) (name : String) (new : Value) : Value :=
  let name := Text.lower name
  .table (v.members.put name (new.onto (v.members.get? name)))

end Value
end Config
end MailGateway
