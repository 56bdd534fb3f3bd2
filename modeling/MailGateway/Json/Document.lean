/-
# JSON documents

A document that the program writes as a whole, and its layout over several lines:
each member and element on its own line, set in by two blanks more than its
surroundings; an empty object or list stays on one line.
-/

import MailGateway.Json.Quote

namespace MailGateway
namespace Json

/-- A document. -/
inductive Document where
  | text (value : String)
  | flag (value : Bool)
  | list (elements : List Document)
  | object (members : List (String × Document))
  deriving Repr, Inhabited

namespace Document

/-- A new line, set in by `n` steps. -/
def newline (n : Nat) : Bytes := 0x0A :: List.replicate (2 * n) 0x20

/-- Lines between brackets, separated by commas. -/
def block (open_ close : UInt8) (depth : Nat) (lines : List Bytes) : Bytes :=
  match lines with
  | [] => [open_, close]
  | _ =>
    let inner := lines.map (newline (depth + 1) ++ ·)
    open_ :: (List.intercalate [0x2C] inner ++ newline depth ++ [close])

mutual
/-- The layout of a document that starts `depth` steps in. -/
def layout (depth : Nat) : Document → Bytes
  | .text s => writeString s
  | .flag b => Utf8.ascii (if b then "true" else "false")
  | .list es => block 0x5B 0x5D depth (layoutAll (depth + 1) es)
  | .object ms => block 0x7B 0x7D depth (layoutMembers (depth + 1) ms)

/-- The layouts of elements. -/
def layoutAll (depth : Nat) : List Document → List Bytes
  | [] => []
  | e :: es => layout depth e :: layoutAll depth es

/-- The layouts of members, names in front. -/
def layoutMembers (depth : Nat) : List (String × Document) → List Bytes
  | [] => []
  | (name, d) :: ms =>
    (writeString name ++ [0x3A, 0x20] ++ layout depth d) :: layoutMembers depth ms
end

end Document
end Json
end MailGateway
