/-
# The program

A command line is carried out in surroundings: files, an environment, a system with other
listeners, and a network.  What comes of it is a `Run`: the lines on the standard output, the text
of a complaint, and how the program ended.

Settings come first and the log filter depends on them, so a fault of the settings is
reported under the filter that the command line alone asks for.
-/

import MailGateway.Client
import MailGateway.CommandLine.Completion
import MailGateway.CommandLine.Parse
import MailGateway.Config.Load
import MailGateway.Log.Filter
import MailGateway.Log.Line
import MailGateway.Telemetry

namespace MailGateway
namespace Program

/-- What the program finds around it. -/
structure Surroundings where
  files : Files.Tree := {}
  environment : Config.Environment := []
  listeners : Server.Listeners := []
  system : Server.System := .offline listeners
  network : Client.Network := .empty
  /-- Whether a signal comes once the server listens. -/
  signalled : Bool := false

/-- What the program writes to the standard output. -/
inductive Output where
  | event (e : Log.Event)
  | text (s : String)
  | script (shell : CommandLine.Shell)
  deriving Repr, Inhabited

/-- How the program ends. -/
inductive Ending where
  | exit (code : Nat)
  /-- A fault that the program does not report. -/
  | crash
  /-- The program has not ended. -/
  | running
  deriving DecidableEq, Repr, Inhabited

/-- What comes of a command line. -/
structure Run where
  filter : Log.Filter := []
  output : List Output := []
  complaint : String := ""
  ending : Ending
  deriving Repr, Inhabited

/-- The text of an output, if it is shown; that of a script is not known. -/
def Output.text? (filter : Log.Filter) : Output → Option String
  | .event e => if filter.shows e.entry then some e.entry.text else none
  | .text s => some s
  | .script _ => none

/-- The lines on the standard output. -/
def Run.lines (r : Run) : List String :=
  (r.output.filterMap (Output.text? r.filter)).flatMap (·.splitOn "\n")

/-- Says which file the settings are from. -/
def announceFile (file : Option String) : Log.Event :=
  match file with
  | none => .noFile
  | some path =>
    let names := (Files.steps path).filter fun s => s ≠ "" && s ≠ "."
    if names.getLast? = some Config.exampleFile then .exampleFile path else .loadedFile path

/-- The settings, and the file that they are from. -/
def settings (w : Surroundings) (explicit : Option String) :
    Except Config.LoadError (Option String × Config.Settings) := do
  let file ← Config.chooseFile w.files w.environment explicit
  pure (file, ← Config.load w.files w.environment file)

/-- Runs the server. -/
def serve (w : Surroundings) (s : Config.Settings) : List Output × Ending :=
  let (events, outcome) := Server.run w.system w.files s w.signalled
  (events.map .event,
    match outcome with
    | .stopped => .exit 0
    | .failed => .exit 1
    | .running => .running)

/-- A reply as the program prints it. -/
def replyText (r : Mail.Reply) : String :=
  (Utf8.decode? (Json.writeRecordLines Mail.Reply.shape r.error)).getD ""

/-- Sends messages and prints the replies. -/
def sendMail (w : Surroundings) (o : CommandLine.SendOptions) : List Output × Ending :=
  let caFile := if o.insecure then none else some o.caFile
  match Client.connect w.network w.files ⟨o.address, caFile, o.serverName⟩ with
  | .error f => ([.event (.failed f.message)], .exit 1)
  | .ok connection =>
    let (replies, failure) := connection.send w.network o.messages
    let output := .event (.connected o.address) :: replies.map fun r => .text (replyText r)
    match failure with
    | none => (output, .exit 0)
    | some f => (output ++ [.event (.failed f.message)], .exit 1)

/-- Does what needs settings: the options of the command line and what is to be done under
the settings are given. -/
def runWithSettings (w : Surroundings) (i : CommandLine.Invocation)
    (act : Config.Settings → List Output × Ending) : Run :=
  match settings w i.config with
  | .error e =>
    if e.isFatal then { ending := .crash }
    else
      { filter := .choose w.environment i.debug
        output := [.event (.failed e.message)]
        ending := .exit 1 }
  | .ok (file, s) =>
    match Telemetry.setUp w.environment s.otlpEndpoint with
    | none => { ending := .crash }
    | some (_, exported) =>
      let (output, ending) := act s
      { filter := .choose w.environment (i.debug || s.debug)
        output := (exported ++ [announceFile file]).map .event ++ output
        ending }

/-- What comes of a usage error: help that was asked for is no complaint. -/
def runError (program : Option String) (e : CommandLine.UsageError) : Run :=
  let text := e.message program
  if e.exitCode = 0 then
    { output := [.text (String.ofList (text.toList.reverse.dropWhile (· = '\n')).reverse)]
      ending := .exit 0 }
  else { complaint := text, ending := .exit e.exitCode }

/-- Runs the program, called by a name, with arguments.  A completion script needs no
settings. -/
def run (w : Surroundings) (program : Option String) (args : List String) : Run :=
  match CommandLine.parse args with
  | .error e => runError program e
  | .ok i =>
    match i.command with
    | .completion shell => { output := [.script shell], ending := .exit 0 }
    | .serve o => runWithSettings w i fun s => serve w (o.apply s)
    | .sendMail o => runWithSettings w i fun _ => sendMail w o

/-! ### What the program looks at -/

/-- The names of the environment that matter. -/
def environmentNames : List String :=
  [Config.fileVariable, Log.Filter.variableName] ++ Telemetry.variableNames
    ++ Config.Settings.names.map fun name => (Config.environmentPrefix ++ name).toUpper

/-- The files of settings that may be read. -/
def settingsPaths (env : Config.Environment) (explicit : Option String) : List String :=
  (explicit.toList ++ (env.get? Config.fileVariable).toList
      ++ [Config.defaultFile, Config.exampleFile]).flatMap Config.candidates

/-- The files that may be read, as far as what is known of them tells. -/
def paths (w : Surroundings) (args : List String) : List String :=
  match CommandLine.parse args with
  | .error _ => []
  | .ok i =>
    settingsPaths w.environment i.config
      ++ match i.command, settings w i.config with
        | .serve o, .ok (_, s) => [(o.apply s).certFile, (o.apply s).keyFile]
        | .sendMail o, _ => [o.caFile]
        | _, _ => []

end Program
end MailGateway
