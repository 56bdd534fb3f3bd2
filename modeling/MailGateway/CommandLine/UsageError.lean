/-
# Command lines that are not carried out

A command line is refused, or asks for help or the version.  `UsageError.message` is
the whole text for help and version; for a refusal it is the complaint without the
advice behind it.
-/

import MailGateway.CommandLine.Help

namespace MailGateway
namespace CommandLine

/-- Why a text is no number of a port. -/
inductive PortFault where
  | empty
  | invalidDigit
  | tooLarge
  | tooSmall
  | outside (value : Int)
  deriving DecidableEq, Repr, Inhabited

/-- The text of a fault. -/
def PortFault.message : PortFault → String
  | .empty => "cannot parse integer from empty string"
  | .invalidDigit => "invalid digit found in string"
  | .tooLarge => "number too large to fit in target type"
  | .tooSmall => "number too small to fit in target type"
  | .outside n => s!"{n} is not in 0..=65535"

/-- Why a command line is not carried out. -/
inductive UsageError where
  | programHelp (long : Bool)
  | verbHelp (verb : Verb)
  | helpHelp
  | version
  /-- There are no arguments at all. -/
  | nothing
  /-- There are options, but no subcommand. -/
  | noCommand
  | unknownCommand (word : String)
  | unknownArgument (word : String)
  | noValue (option : Choice)
  | noShell
  | unknownShell (name : String)
  | badPort (text : String) (fault : PortFault)
  | repeated (option : Choice)
  | conflict (option other : Choice)
  | unneededValue (text : String) (option : Choice)
  | missing (verb : Verb)
  deriving DecidableEq, Repr, Inhabited

namespace UsageError

/-- The exit code: asking for help or the version is no failure. -/
def exitCode : UsageError → Nat
  | .programHelp _ | .verbHelp _ | .helpHelp | .version => 0
  | _ => 2

/-- The text for a program that was called by a name. -/
def message (program : Option String) : UsageError → String
  | .programHelp long => CommandLine.programHelp program long
  | .verbHelp v => CommandLine.verbHelp program v
  | .helpHelp => CommandLine.helpHelp program
  | .version => versionText
  | .nothing => CommandLine.programHelp program false
  | .noCommand =>
    s!"error: '{program.getD programName}' requires a subcommand but one was not provided\n"
      ++ "  [subcommands: " ++ ", ".intercalate (Verb.all.map Verb.word ++ ["help"]) ++ "]"
  | .unknownCommand word => s!"error: unrecognized subcommand '{word}'"
  | .unknownArgument word => s!"error: unexpected argument '{word}' found"
  | .noValue o => s!"error: a value is required for '{o.label}' but none was supplied"
  | .noShell =>
    s!"error: a value is required for '<SHELL>' but none was supplied\n  {possibleShells}"
  | .unknownShell name => s!"error: invalid value '{name}' for '<SHELL>'\n  {possibleShells}"
  | .badPort text fault =>
    s!"error: invalid value '{text}' for '{Choice.port.label}': {fault.message}"
  | .repeated o => s!"error: the argument '{o.label}' cannot be used multiple times"
  | .conflict o other => s!"error: the argument '{o.label}' cannot be used with '{other.label}'"
  | .unneededValue text o =>
    s!"error: unexpected value '{text}' for '{o.label}' found; no more were expected"
  | .missing v =>
    "error: the following required arguments were not provided:\n  " ++ v.positional.getD ""

end UsageError
end CommandLine
end MailGateway
