/-
# Completion scripts

What a completion script mentions: the program, its subcommands, and, as the shell
has it, options, what they do, and the names of shells.  The wording between these is
not part of the rule, so a script is known by what it mentions (`contains`).
-/

import MailGateway.CommandLine.Help

namespace MailGateway
namespace CommandLine

/-- The places where options stand. -/
def places : List (Option Verb) := none :: Verb.all.map some

/-- The program and its subcommands. -/
def wordMentions : List String := programName :: Verb.all.map Verb.word ++ ["help"]

/-- Options, with what stands before the long and the short form. -/
def optionMentions (long short : String) : List String :=
  places.flatMap fun place =>
    (listed place).flatMap fun o =>
      (long ++ o.spelling.long) :: (o.spelling.short.map fun c => short ++ c.toString).toList

/-- What subcommands and options do. -/
def noteMentions : List String :=
  Verb.all.map Verb.about ++ [helpAbout]
    ++ places.flatMap fun place =>
      (listed place).map fun o =>
        o.spelling.help
          ++ if o = .help ∧ place = none then " (see more with '--help')" else ""

/-- What the script of a shell mentions. -/
def mentions (shell : Shell) : List String :=
  wordMentions
    ++ match shell with
      | .bash => optionMentions "--" "-" ++ Shell.all.map Shell.name
      | .zsh => optionMentions "--" "-" ++ noteMentions ++ Shell.all.map Shell.name
      | .fish => optionMentions "-l " "-s " ++ noteMentions ++ ["fish"]
      | .powershell | .elvish => optionMentions "--" "-" ++ noteMentions

/-- Whether a text stands in another. -/
def isWithin (needle text : List Char) : Bool :=
  match text with
  | [] => needle.isEmpty
  | c :: cs => needle.isPrefixOf (c :: cs) || isWithin needle cs

/-- Whether the script of a shell contains a text. -/
def contains (shell : Shell) (needle : String) : Bool :=
  (mentions shell).any fun m => isWithin needle.toList m.toList

/-- The shell that a script is asked for. -/
def shellFor (name : String) : Except String Shell :=
  match Shell.ofName? name with
  | some shell => .ok shell
  | none => .error s!"invalid variant: {name}"

end CommandLine
end MailGateway
