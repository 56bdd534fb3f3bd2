/-
# Loading the settings

Which file holds settings, and the settings that it and the environment give.

A file that was asked for must be there.  Else the one that the environment names,
`config.yaml` and `config.example.yaml` are tried in turn, and none is needed.
-/

import MailGateway.Files.Tree
import MailGateway.Config.Layer
import MailGateway.Config.Settings

namespace MailGateway
namespace Config

/-- The name of the environment that names the file. -/
def fileVariable : String := "EMAIL_BACKEND_CONFIG"

/-- The file that is looked for first. -/
def defaultFile : String := "config.yaml"

/-- The file that comes with the program. -/
def exampleFile : String := "config.example.yaml"

/-- Why there are no settings. -/
inductive LoadError where
  /-- The file that was asked for is not there. -/
  | notFound (path : String)
  /-- The file is there, but is none that can be read. -/
  | noFile (path : String)
  | layer (origin : String) (fault : LayerFault)
  /-- A name leads to a place that is not there: this ends the program. -/
  | noPlace
  | refused (refusal : Refusal)
  deriving Repr, Inhabited

/-- The text of a fault. -/
def LayerFault.message (origin : String) : LayerFault → String
  | .yaml fault => s!"{fault.message} in {origin}"
  | .documents count => s!"Got {count} YAML documents, expected 1 in {origin}"
  | .real s => s!"Parsing {s} as floating point number failed in {origin}"
  | .noTable found =>
    let found :=
      match found with
      | .scalar (.integer n) _ => s!"64-bit integer `{n}`"
      | .scalar (.real x) _ => s!"floating point `{x.text Binary64.Style.plain}`"
      | v => v.message
    s!"invalid type: {found}, expected a map in {origin} in {origin}"
  | .noName => ""

/-- The text of an error. -/
def LoadError.message : LoadError → String
  | .notFound path => s!"Config file '{path}' not found"
  | .noFile path =>
    s!"Failed to load configuration: configuration file \"{path}\" not found"
  | .layer origin fault => s!"Failed to load configuration: {fault.message origin}"
  | .noPlace => ""
  | .refused refusal => s!"Failed to load configuration: {refusal.message}"

/-- Whether an error ends the program. -/
def LoadError.isFatal : LoadError → Bool
  | .noPlace | .layer _ .noName | .refused .overflow => true
  | _ => false

/-- Picks the file. -/
def chooseFile (files : Files.Tree) (env : Environment) (explicit : Option String) :
    Except LoadError (Option String) :=
  match explicit with
  | some path => if files.exists? path then .ok path else .error (.notFound path)
  | none =>
    .ok (((env.get? fileVariable).toList ++ [defaultFile, exampleFile]).find? files.exists?)

/-- A path without the steps that do not lead anywhere. -/
def originOf (path : String) : String :=
  "/".intercalate ((Files.steps path).filter fun s => s ≠ "" && s ≠ ".")

/-- A path with an ending put behind its last name, if it has one. -/
def withEnding (path ending : String) : String :=
  match ((Files.steps path).filter fun s => s ≠ "" && s ≠ ".").getLast? with
  | none | some ".." => path
  | some _ =>
    let kept := (Files.steps path).reverse.dropWhile fun s => s = "" || s = "."
    "/".intercalate kept.reverse ++ ending

/-- The files that a path may stand for: itself, or with an ending. -/
def candidates (path : String) : List String :=
  [path, withEnding path ".yaml", withEnding path ".yml"]

/-- The file that a path stands for. -/
def readable? (files : Files.Tree) (path : String) : Option String :=
  (candidates path).find? files.isFile

/-- The layer of a file. -/
def Layer.ofFile (files : Files.Tree) (path : String) : Except LoadError Layer :=
  match readable? files path with
  | none => .error (.noFile path)
  | some found =>
    match files.read found with
    | .ok text => (Layer.ofYaml (originOf found) text).mapError (.layer (originOf found))
    | .error _ => .error (.noFile path)

/-- The settings of a file, if there is one, with the environment over them. -/
def load (files : Files.Tree) (env : Environment) (file : Option String) :
    Except LoadError Settings := do
  let base ← match file with
    | some path => Layer.ofFile files path
    | none => pure []
  match merge [base, Layer.ofEnvironment env] with
  | none => throw .noPlace
  | some table => (Settings.ofTable? table).mapError .refused

end Config
end MailGateway
