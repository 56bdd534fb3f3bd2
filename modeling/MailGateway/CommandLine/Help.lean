/-
# Help texts

The help of the program comes in a short form, one line for each option, and a long
form, one paragraph for each.  That of a subcommand has the short form only.
-/

import MailGateway.CommandLine.Spec

namespace MailGateway
namespace CommandLine

/-- What the program is. -/
def about : String := "The Email microservice"

/-- How to begin with the program. -/
def longAbout : String :=
  "To get started run the serve subcommand which will start a server\n\n"
    ++ "    email-backend serve\n\n"
    ++ "After that you can test it with the send-mail subcommand:\n\n"
    ++ "    email-backend send-mail a b c\n\n"
    ++ "Or over HTTP 1.1 with curl:\n\n"
    ++ "    curl -k https://localhost:9091/v1alpha1/email \\\n"
    ++ "        -H 'Content-Type: application/json' -d '\x7b\"message\":\"abc\"\x7d'"

/-- The subcommand that prints help. -/
def helpAbout : String := "Print this message or the help of the given subcommand(s)"

/-- What options are sorted by among those of one order. -/
def Choice.sortKey (o : Choice) : String :=
  match o.spelling.short with
  | some c => c.toLower.toString
  | none => o.spelling.long

/-- The options of a command in the order of its help. -/
def listed (place : Option Verb) : List Choice :=
  (choices place).mergeSort fun a b =>
    a.spelling.order < b.spelling.order
      || (a.spelling.order = b.spelling.order && !(b.sortKey < a.sortKey))

/-- An option's letter and long form. -/
def Choice.heading (o : Choice) : String :=
  (match o.spelling.short with
  | some c => "-" ++ c.toString ++ ", "
  | none => "    ") ++ o.label

/-- What an option does.  The program's own help tells of its other form. -/
def Choice.note (place : Option Verb) (long : Bool) (o : Choice) : String :=
  let more :=
    if o = .help ∧ place = none then
      if long then " (see a summary with '-h')" else " (see more with '--help')"
    else ""
  let default :=
    match o.spelling.default with
    | some s => " [default: " ++ s ++ "]"
    | none => ""
  o.spelling.help ++ more ++ default

/-- Rows of two columns. -/
def rows (entries : List (String × String)) : String :=
  let width := entries.foldl (fun w e => max w e.1.length) 0
  String.join (entries.map fun (left, right) =>
    "  " ++ left ++ "".pushn ' ' (width - left.length) ++ "  " ++ right ++ "\n")

/-- The options, one line for each. -/
def shortOptions (place : Option Verb) : String :=
  rows ((listed place).map fun o => (o.heading, o.note place false))

/-- The options, one paragraph for each. -/
def longOptions (place : Option Verb) : String :=
  "\n".intercalate ((listed place).map fun o =>
    "  " ++ o.heading ++ "\n          " ++ o.note place true ++ "\n")

/-- The subcommands. -/
def commandRows : String :=
  rows (Verb.all.map (fun v => (v.word, v.about)) ++ [("help", helpAbout)])

/-- The values that the shell may have. -/
def possibleShells : String :=
  "[possible values: " ++ ", ".intercalate (Shell.all.map Shell.name) ++ "]"

/-- What stands behind the options of a subcommand, with a word on it. -/
def argumentRows (v : Verb) : String :=
  match v with
  | .serve => ""
  | .sendMail =>
    "Arguments:\n" ++ rows [("<MESSAGES>...", "Messages to send, one request each")] ++ "\n"
  | .completion => "Arguments:\n" ++ rows [("<SHELL>", possibleShells)] ++ "\n"

/-- The help of the program, called by a name. -/
def programHelp (program : Option String) (long : Bool) : String :=
  (if long then longAbout else about) ++ "\n\n"
    ++ "Usage: " ++ program.getD programName ++ " [OPTIONS] <COMMAND>\n\n"
    ++ "Commands:\n" ++ commandRows ++ "\n"
    ++ "Options:\n" ++ if long then longOptions none else shortOptions none

/-- A subcommand's word behind the name of the program. -/
def calledBy (program : Option String) (word : String) : String :=
  match program with
  | some name => name ++ " " ++ word
  | none => word

/-- The help of a subcommand. -/
def verbHelp (program : Option String) (v : Verb) : String :=
  v.about ++ "\n\n"
    ++ "Usage: " ++ calledBy program v.word ++ " [OPTIONS]"
    ++ (match v.positional with
      | some name => " " ++ name
      | none => "")
    ++ "\n\n" ++ argumentRows v
    ++ "Options:\n" ++ shortOptions (some v)

/-- The help of the subcommand that prints help. -/
def helpHelp (program : Option String) : String :=
  helpAbout ++ "\n\nUsage: " ++ calledBy program "help" ++ " [COMMAND]...\n\n"
    ++ "Arguments:\n" ++ rows [("[COMMAND]...", "Print help for the subcommand(s)")]

/-- The version of the program. -/
def versionText : String := programName ++ " " ++ Log.version ++ "\n"

end CommandLine
end MailGateway
