/-
# The command line

The subcommands, and the options of each.  Two options are *global*: they may stand
before the subcommand and behind it.
-/

import MailGateway.Log.Event

namespace MailGateway
namespace CommandLine

/-- The subcommands. -/
inductive Verb where
  | serve
  | sendMail
  | completion
  deriving DecidableEq, Repr, Inhabited

namespace Verb

/-- The word for a subcommand. -/
def word : Verb → String
  | .serve => "serve"
  | .sendMail => "send-mail"
  | .completion => "completion"

/-- What a subcommand does. -/
def about : Verb → String
  | .serve => "Launches the Email backend service"
  | .sendMail => "Sends every message through the gRPC API and prints the responses"
  | .completion => "Writes the shell completion script to stdout"

/-- All subcommands. -/
def all : List Verb := [.serve, .sendMail, .completion]

/-- The subcommand of a word. -/
def ofWord? (s : String) : Option Verb := all.find? fun v => v.word = s

/-- What stands behind the options of a subcommand. -/
def positional : Verb → Option String
  | .serve => none
  | .sendMail => some "<MESSAGES>..."
  | .completion => some "<SHELL>"

end Verb

/-- The shells that completion scripts are made for. -/
inductive Shell where
  | bash
  | elvish
  | fish
  | powershell
  | zsh
  deriving DecidableEq, Repr, Inhabited

namespace Shell

/-- The name of a shell. -/
def name : Shell → String
  | .bash => "bash"
  | .elvish => "elvish"
  | .fish => "fish"
  | .powershell => "powershell"
  | .zsh => "zsh"

/-- All shells. -/
def all : List Shell := [.bash, .elvish, .fish, .powershell, .zsh]

/-- The shell of a name. -/
def ofName? (s : String) : Option Shell := all.find? fun shell => shell.name = s

end Shell

/-- The options. -/
inductive Choice where
  | config
  | debug
  | help
  | version
  | host
  | port
  | certFile
  | keyFile
  | listenPlain
  | address
  | caFile
  | serverName
  | connectPlain
  deriving DecidableEq, Repr, Inhabited

/-- How the value of an option is read: any text, a path (which is not empty), or the
number of a port. -/
inductive Reading where
  | text
  | path
  | port
  deriving DecidableEq, Repr, Inhabited

/-- What is written of an option. -/
structure Spelling where
  short : Option Char
  long : String
  value : Option (String × Reading)
  help : String
  default : Option String := none
  /-- Its place among the options of its command. -/
  order : Nat
  deriving DecidableEq, Repr, Inhabited

namespace Choice

/-- What is written of an option. -/
def spelling : Choice → Spelling
  | .config =>
    ⟨some 'c', "config", some ("CONFIG", .path),
      "Config file (defaults to $EMAIL_BACKEND_CONFIG, then config.yaml). EMAIL_BACKEND_* "
        ++ "environment variables override its values", none, 0⟩
  | .debug => ⟨some 'd', "debug", none, "Turn on debug logging", none, 1⟩
  | .help => ⟨some 'h', "help", none, "Print help", none, 8⟩
  | .version => ⟨some 'V', "version", none, "Print version", none, 9⟩
  | .host => ⟨none, "host", some ("HOST", .text), "Interface the server listens on", none, 0⟩
  | .port =>
    ⟨some 'p', "port", some ("PORT", .port),
      "The port on which the server will listen for incoming requests", none, 1⟩
  | .certFile =>
    ⟨none, "cert-file", some ("CERT_FILE", .path), "PEM certificate presented to clients", none, 2⟩
  | .keyFile =>
    ⟨none, "key-file", some ("KEY_FILE", .path), "PEM private key matching the certificate", none,
      3⟩
  | .listenPlain =>
    ⟨none, "insecure", none, "Serve plaintext HTTP/1.1 and h2c instead of TLS", none, 4⟩
  | .address =>
    ⟨some 'a', "address", some ("ADDRESS", .text), "Server URI", some "https://localhost:9091", 0⟩
  | .caFile =>
    ⟨none, "ca-file", some ("CA_FILE", .path), "Root certificate used to verify the server",
      some "certs/server.pem", 1⟩
  | .serverName =>
    ⟨none, "server-name", some ("SERVER_NAME", .text),
      "Override the name checked against the server certificate", none, 2⟩
  | .connectPlain => ⟨none, "insecure", none, "Connect without TLS (h2c)", none, 3⟩

/-- The long form, with its value. -/
def label (o : Choice) : String :=
  "--" ++ o.spelling.long
    ++ match o.spelling.value with
      | some (name, _) => " <" ++ name ++ ">"
      | none => ""

end Choice

/-- The options before the subcommand, or behind one. -/
def choices : Option Verb → List Choice
  | none => [.config, .debug, .help, .version]
  | some .serve =>
    [.host, .port, .certFile, .keyFile, .listenPlain, .config, .debug, .help]
  | some .sendMail =>
    [.address, .caFile, .serverName, .connectPlain, .config, .debug, .help]
  | some .completion => [.config, .debug, .help]

/-- The option of a long name. -/
def long? (place : Option Verb) (name : String) : Option Choice :=
  (choices place).find? fun o => o.spelling.long = name

/-- The option of a letter. -/
def short? (place : Option Verb) (letter : Char) : Option Choice :=
  (choices place).find? fun o => o.spelling.short = some letter

/-- The name of the program. -/
def programName : String := "email-backend"

end CommandLine
end MailGateway
