/-
# The files that the program can see

A tree holds files and directories by their paths from the working directory.  A path
leads there step by step: `.` and empty steps stay, `..` goes up, and a step into
something that is no directory fails, as does a path that is too long as a whole.  Of what
lies outside of the working directory only what has been looked up is known, by the text
of its path; the rest counts as missing.
-/

namespace MailGateway
namespace Files

/-- What a path names. -/
inductive Entry where
  | file (content : String)
  | directory
  /-- What can be read like an empty file, but is none. -/
  | device
  deriving DecidableEq, Repr, Inhabited

/-- Files and directories by path; each path is a list of names. -/
structure Tree where
  entries : List (List String × Entry) := []
  /-- What has been looked up, by the text of the path. -/
  lookedUp : List (String × Entry) := []
  deriving Repr, Inhabited

/-- Why a file could not be read. -/
inductive Failure where
  | missing
  | notDirectory
  | isDirectory
  | nameTooLong
  | hasNul
  deriving DecidableEq, Repr, Inhabited

/-- The text of a failure. -/
def Failure.message : Failure → String
  | .missing => "No such file or directory (os error 2)"
  | .notDirectory => "Not a directory (os error 20)"
  | .isDirectory => "Is a directory (os error 21)"
  | .nameTooLong => "File name too long (os error 36)"
  | .hasNul => "file name contained an unexpected NUL byte"

/-- The least length in bytes of a path that is too long. -/
def lengthLimit : Nat := 4096

/-- The steps of a path. -/
def steps (path : String) : List String := path.splitOn "/"

namespace Tree

/-- The tree of files whose paths are written with slashes. -/
def ofList (files : List (String × Entry)) : Tree :=
  { entries := files.map fun (path, e) =>
      ((steps path).filter fun s => s ≠ "" && s ≠ ".", e) }

/-- What the names lead to. -/
def at? (t : Tree) (names : List String) : Option Entry :=
  match t.entries.lookup names with
  | some e => some e
  | none =>
    if names.isEmpty || t.entries.any fun e => names.isPrefixOf e.1 then some .directory else none

/-- Goes on from a place by one step; `none` as a place is one above the tree. -/
def walk (t : Tree) (place : Option (List String)) (step : String) :
    Except Failure (Option (List String)) :=
  match place with
  | none => if step = "" || step = "." || step = ".." then .ok none else .error .missing
  | some names =>
    match t.at? names with
    | some .directory =>
      if step = "" || step = "." then .ok names
      else if step = ".." then .ok (if names.isEmpty then none else names.dropLast)
      else if 255 < step.utf8ByteSize then .error .nameTooLong
      else if (t.at? (names ++ [step])).isSome then .ok (names ++ [step])
      else .error .missing
    | some _ => .error .notDirectory
    | none => .error .missing

/-- Where the steps of a path lead. -/
def follow (t : Tree) (path : String) : Except Failure Entry := do
  if path.toList.contains '\x00' then throw .hasNul
  if path = "" then throw .missing
  if lengthLimit ≤ path.utf8ByteSize then throw .nameTooLong
  if path.startsWith "/" && (steps path).any (fun s => s ≠ "" && s ≠ "." && s ≠ "..") then
    throw .missing
  let place ← (steps path).foldlM t.walk (if path.startsWith "/" then none else some [])
  match place.map t.at? with
  | some (some e) => pure e
  | _ => pure .directory

/-- What a path names. -/
def find (t : Tree) (path : String) : Except Failure Entry :=
  match t.lookedUp.lookup path with
  | some e => .ok e
  | none => t.follow path

/-- The content of a file. -/
def read (t : Tree) (path : String) : Except Failure String := do
  match ← t.find path with
  | .file content => pure content
  | .directory => throw .isDirectory
  | .device => pure ""

/-- Whether a path names anything. -/
def exists? (t : Tree) (path : String) : Bool := (t.find path).isOk

/-- Whether a path names a file. -/
def isFile (t : Tree) (path : String) : Bool :=
  match t.find path with
  | .ok (.file _) => true
  | _ => false

end Tree
end Files
end MailGateway
