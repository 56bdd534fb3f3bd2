/-
# Reading a command line

Words are read from the left.  A word is a subcommand, `--`, a long option with its value
behind `=` or in the next word, letters of short options with the last one's value
behind them or in the next word, or else a positional argument.  Behind `--` every word
is positional.  A value in a word of its own must not look like an option.

An option whose value stands in a word of its own is taken in when the next option or
positional argument comes, or at the end; faults in between come first.
-/

import MailGateway.Config.Settings
import MailGateway.CommandLine.UsageError

namespace MailGateway
namespace CommandLine

/-! ### Values -/

/-- Reads digits behind a value up to the first fault: a character that is no digit, or a
value past 64 bits. -/
def digitsWithin (limit value : Nat) (tooFar : PortFault) : List Char → Except PortFault Nat
  | [] => .ok value
  | c :: cs =>
    match Numeral.decimal? c with
    | none => .error .invalidDigit
    | some d =>
      if value * 10 + d ≤ limit then digitsWithin limit (value * 10 + d) tooFar cs
      else .error tooFar

/-- Reads a signed number of 64 bits. -/
def signed (s : String) : Except PortFault Int :=
  match s.toList with
  | [] => .error .empty
  | ['+'] | ['-'] => .error .invalidDigit
  | '-' :: cs => (digitsWithin (2 ^ 63) 0 .tooSmall cs).map fun n => -(n : Int)
  | '+' :: cs => (digitsWithin (2 ^ 63 - 1) 0 .tooLarge cs).map Int.ofNat
  | cs => (digitsWithin (2 ^ 63 - 1) 0 .tooLarge cs).map Int.ofNat

/-- Reads the number of a port. -/
def port (s : String) : Except PortFault Port := do
  let n ← signed s
  if h : 0 ≤ n ∧ n.toNat < 65536 then pure ⟨n.toNat, h.2⟩ else throw (.outside n)

/-- Whether a value fits its option. -/
def checkValue (o : Choice) (value : String) : Except UsageError Unit :=
  match o.spelling.value with
  | some (_, .path) => if value = "" then .error (.noValue o) else .ok ()
  | some (_, .port) =>
    match port value with
    | .ok _ => .ok ()
    | .error fault => .error (.badPort value fault)
  | _ => .ok ()

/-! ### One level of the command line -/

/-- What has not been taken in yet. -/
inductive Pending where
  | nothing
  | option (choice : Choice) (value : Option String)
  | shell (name : String)
  deriving DecidableEq, Repr, Inhabited

/-- What was read before a subcommand, or behind it. -/
structure Level where
  place : Option Verb
  /-- Options and their values, in order; a switch has no value. -/
  given : List (Choice × Option String) := []
  positionals : List String := []
  pending : Pending := .nothing
  /-- Whether `--` was read. -/
  escaped : Bool := false
  deriving DecidableEq, Repr, Inhabited

namespace Level

/-- Whether an option was given. -/
def has (l : Level) (o : Choice) : Bool := l.given.any fun g => g.1 = o

/-- The value of an option. -/
def value? (l : Level) (o : Choice) : Option String := (l.given.lookup o).join

/-- Whether an option waits for its value. -/
def isWaiting (l : Level) : Bool :=
  match l.pending with
  | .option _ none => true
  | _ => false

/-- Takes an option in. -/
def accept (l : Level) (o : Choice) (value : Option String) : Except UsageError Level := do
  if l.has o then throw (.repeated o)
  if let some v := value then checkValue o v
  pure { l with given := l.given ++ [(o, value)], pending := .nothing }

/-- Takes in what is pending. -/
def settle (l : Level) : Except UsageError Level :=
  match l.pending with
  | .nothing => .ok l
  | .option o none => .error (.noValue o)
  | .option o (some v) => l.accept o v
  | .shell name =>
    if name = "" then .error .noShell
    else
      match Shell.ofName? name with
      | some _ => .ok { l with pending := .nothing }
      | none => .error (.unknownShell name)

/-- Takes in a switch; two of them end the reading. -/
def switch (l : Level) (o : Choice) (long : Bool) : Except UsageError Level := do
  let l ← l.settle
  match o, l.place with
  | .help, none => throw (.programHelp long)
  | .help, some v => throw (.verbHelp v)
  | .version, _ => throw .version
  | _, _ => l.accept o none

/-- Takes in an option that has a value, which may come in the next word. -/
def option (l : Level) (o : Choice) (value : Option String) : Except UsageError Level := do
  let l ← l.settle
  match value with
  | some v => l.accept o v
  | none => pure { l with pending := .option o none }

/-- Reads a long option: its name and what stands behind `=`. -/
def long (l : Level) (name : String) (value : Option String) : Except UsageError Level :=
  match long? l.place name with
  | none => .error (.unknownArgument ("--" ++ name))
  | some o =>
    match o.spelling.value, value with
    | some _, _ => l.option o value
    | none, some v => .error (.unneededValue v o)
    | none, none => l.switch o true

/-- Reads letters of short options. -/
def letters (l : Level) : List Char → Except UsageError Level
  | [] => .ok l
  | c :: cs =>
    match short? l.place c with
    | none => .error (.unknownArgument ("-" ++ c.toString))
    | some o =>
      match o.spelling.value, cs with
      | none, _ => do letters (← l.switch o false) cs
      | some _, [] => l.option o none
      | some _, '=' :: cs => l.option o (some (String.ofList cs))
      | some _, cs => l.option o (some (String.ofList cs))

/-- The complaint about a positional argument that has no place. -/
def misplaced (l : Level) (word : String) : UsageError :=
  let isCommand := (Verb.ofWord? word).isSome || word = "help"
  if l.place.isNone && !(l.escaped && isCommand) then .unknownCommand word
  else .unknownArgument word

/-- Reads a positional argument. -/
def positional (l : Level) (word : String) : Except UsageError Level :=
  match l.place with
  | some .sendMail => do
    let l ← l.settle
    pure { l with positionals := l.positionals ++ [word] }
  | some .completion =>
    if l.positionals.isEmpty then do
      let l ← l.settle
      pure { l with positionals := [word], pending := .shell word }
    else .error (l.misplaced word)
  | _ => .error (l.misplaced word)

/-- Reads a word that is no subcommand. -/
def word (l : Level) (w : String) : Except UsageError Level :=
  if l.escaped then l.positional w
  else
    match w.toList with
    | ['-', '-'] => .ok { l with escaped := true }
    | '-' :: '-' :: cs =>
      let name := String.ofList (cs.takeWhile (· ≠ '='))
      match cs.dropWhile (· ≠ '=') with
      | [] => l.long name none
      | _ :: value => l.long name (some (String.ofList value))
    | '-' :: c :: cs => l.letters (c :: cs)
    | _ =>
      match l.pending with
      | .option o none => .ok { l with pending := .option o (some w) }
      | _ => l.positional w

/-- Reads words. -/
def words (l : Level) (ws : List String) : Except UsageError Level := ws.foldlM word l

end Level

/-! ### What is asked for -/

/-- What `serve` was given. -/
structure ServeOptions where
  host : Option String := none
  port : Option Port := none
  certFile : Option String := none
  keyFile : Option String := none
  insecure : Bool := false
  deriving DecidableEq, Repr, Inhabited

/-- What `send-mail` was given. -/
structure SendOptions where
  address : String := "https://localhost:9091"
  caFile : String := "certs/server.pem"
  serverName : Option String := none
  insecure : Bool := false
  messages : List String := []
  deriving DecidableEq, Repr, Inhabited

/-- What is asked for. -/
inductive Command where
  | serve (options : ServeOptions)
  | sendMail (options : SendOptions)
  | completion (shell : Shell)
  deriving DecidableEq, Repr, Inhabited

/-- A command line that can be carried out. -/
structure Invocation where
  config : Option String := none
  debug : Bool := false
  command : Command
  deriving DecidableEq, Repr, Inhabited

/-- The settings with the options of `serve` over them. -/
def ServeOptions.apply (o : ServeOptions) (s : Config.Settings) : Config.Settings :=
  { s with
    host := o.host.getD s.host
    port := o.port.getD s.port
    certFile := o.certFile.getD s.certFile
    keyFile := o.keyFile.getD s.keyFile
    secure := s.secure && !o.insecure }

/-- The settings of the connection and of the server cannot both be given. -/
def Level.conflict? (l : Level) : Option UsageError :=
  if l.has .caFile && l.has .connectPlain then
    match l.given.find? fun g => g.1 = .caFile ∨ g.1 = .connectPlain with
    | some (.caFile, _) => some (.conflict .caFile .connectPlain)
    | _ => some (.conflict .connectPlain .caFile)
  else none

/-- What the words behind a subcommand ask for. -/
def Level.command (l : Level) (v : Verb) : Except UsageError Command := do
  if let some e := l.conflict? then throw e
  if v.positional.isSome && l.positionals.isEmpty then throw (.missing v)
  match v with
  | .serve =>
    pure (.serve
      { host := l.value? .host
        port := (l.value? .port).bind fun s => (port s).toOption
        certFile := l.value? .certFile
        keyFile := l.value? .keyFile
        insecure := l.has .listenPlain })
  | .sendMail =>
    let defaults : SendOptions := {}
    pure (.sendMail
      { address := (l.value? .address).getD defaults.address
        caFile := (l.value? .caFile).getD defaults.caFile
        serverName := l.value? .serverName
        insecure := l.has .connectPlain
        messages := l.positionals })
  | .completion =>
    match l.positionals.head?.bind Shell.ofName? with
    | some shell => pure (.completion shell)
    | none => throw .noShell

/-- Which help the words behind `help` ask for. -/
def helpFor : List String → UsageError
  | [] => .programHelp true
  | [w] =>
    match Verb.ofWord? w with
    | some v => .verbHelp v
    | none => if w = "help" then .helpHelp else .unknownCommand w
  | w :: next :: _ =>
    if (Verb.ofWord? w).isSome || w = "help" then .unknownCommand next else .unknownCommand w

/-- Reads the words behind a subcommand. -/
def parseVerb (outer : Level) (v : Verb) (ws : List String) : Except UsageError Invocation := do
  let inner ← (← Level.words { place := some v } ws).settle
  let command ← inner.command v
  let outer ← outer.settle
  pure
    { config := inner.value? .config <|> outer.value? .config
      debug := inner.has .debug || outer.has .debug
      command }

/-- Reads words up to the subcommand, and then the others. -/
def parseFrom (l : Level) : List String → Except UsageError Invocation
  | [] => do
    let l ← l.settle
    throw (if l.given.isEmpty then .nothing else .noCommand)
  | w :: ws =>
    let verb? := if l.escaped || l.isWaiting then none else Verb.ofWord? w
    match verb? with
    | some v => parseVerb l v ws
    | none =>
      if w = "help" && !(l.escaped || l.isWaiting) then .error (helpFor ws)
      else do parseFrom (← l.word w) ws

/-- What a command line, without the program's name, asks for. -/
def parse (ws : List String) : Except UsageError Invocation := parseFrom { place := none } ws

/-- The name that a program was called by: the last name of the path to it. -/
def calledName? (path : String) : Option String :=
  let names := (path.splitOn "/").filter fun s => s ≠ "" && s ≠ "."
  names.getLast?.filter (· ≠ "..")

example : parse ["-c", "serve"] = .error .noCommand := by rfl
example : parse ["-d", "completion", "zsh"] = .ok ⟨none, true, .completion .zsh⟩ := by rfl

end CommandLine
end MailGateway
