/-
# Log events

Everything that the program reports while it runs is one of these events.  How an
event shows (its level, the part of the program it comes from, its text and fields)
is a function of the event (`Event.entry`).
-/

import MailGateway.Duration.Text
import MailGateway.Grpc.Code

namespace MailGateway
namespace Log

/-- How important an entry is, from the least. -/
inductive Level where
  | trace
  | debug
  | info
  | warn
  | error
  deriving DecidableEq, Repr, Inhabited

/-- The name of a level. -/
def Level.name : Level → String
  | .trace => "TRACE"
  | .debug => "DEBUG"
  | .info => "INFO"
  | .warn => "WARN"
  | .error => "ERROR"

/-- The rank of a level; an error is the highest. -/
def Level.rank : Level → Nat
  | .trace => 0
  | .debug => 1
  | .info => 2
  | .warn => 3
  | .error => 4

/-- The spans that an entry may lie in. -/
inductive SpanName where
  | call
  | request
  deriving DecidableEq, Repr, Inhabited

/-- How a span is called in the log. -/
def SpanName.text : SpanName → String
  | .call => "grpc"
  | .request => "request"

/-- The value of a field: a text that is shown as it is, one that is shown in quotes, a
truth value, or a number. -/
inductive Value where
  | plain (text : String)
  | quoted (text : String)
  | flag (value : Bool)
  | number (value : Binary64)
  deriving DecidableEq, Repr, Inhabited

/-- What is shown of an event. -/
structure Entry where
  level : Level
  target : String
  message : String
  fields : List (String × Value) := []
  span : Option SpanName := none
  deriving DecidableEq, Repr, Inhabited

/-- What is reported. -/
inductive Event where
  | dispatching (path : String)
  | handling (bytes : Nat) (span : Option SpanName)
  | finished (code : Grpc.Code) (millis : Option Binary64)
  | recorderTaken
  | exportDisabled (reason : String)
  | exporting (endpoint : String)
  | plaintext
  | loadingKeyPair (certificate key : String)
  | initializing (host : String) (port : Nat)
  | starting (address : String) (secure : Bool)
  | draining (grace : Duration)
  | stopped
  | exampleFile (path : String)
  | loadedFile (path : String)
  | noFile
  | buildFailed (message : String)
  | failed (message : String)
  | connected (address : String)
  deriving DecidableEq, Repr, Inhabited

/-- The version of the program. -/
def version : String := "0.1.0"

/-- The commit that the program was built from. -/
def commit : String := "unknown"

/-- What is shown of an event. -/
def Event.entry : Event → Entry
  | .dispatching path =>
    ⟨.trace, "email_backend::server::multiplex", "Dispatching to gRPC", [("path", .plain path)],
      none⟩
  | .handling bytes span =>
    ⟨.debug, "email_backend::service", s!"Handling send mail request ({bytes} bytes)", [], span⟩
  | .finished code millis =>
    let time := (millis.map fun ms => ("grpc.time_ms", Value.number ms)).toList
    ⟨.info, "email_backend::observability::spans", "finished call",
      ("grpc.code", .plain code.name) :: time, some .call⟩
  | .recorderTaken =>
    ⟨.warn, "email_backend::observability::metrics",
      "Metrics recorder already installed, /metrics will be empty: attempted to set a recorder "
        ++ "after the metrics system was already initialized", [], none⟩
  | .exportDisabled reason =>
    ⟨.warn, "email_backend::observability::logging",
      s!"OTLP export disabled, unable to set up the exporter: {reason}", [], none⟩
  | .exporting endpoint =>
    ⟨.info, "email_backend::observability::logging", s!"Exporting spans to {endpoint}", [], none⟩
  | .plaintext =>
    ⟨.warn, "email_backend::server::transport", "TLS disabled, serving plaintext HTTP/1.1 and h2c",
      [], none⟩
  | .loadingKeyPair certificate key =>
    ⟨.info, "email_backend::server::transport",
      s!"Loading TLS certificates from {certificate} and {key}", [], none⟩
  | .initializing host port =>
    ⟨.info, "email_backend", s!"Initialize backend server on {host}:{port}", [], none⟩
  | .starting address secure =>
    ⟨.info, "email_backend::server", s!"gRPC and REST server starting, listening on {address}",
      [("version", .quoted version), ("commit", .quoted commit), ("secure", .flag secure)], none⟩
  | .draining grace =>
    ⟨.info, "email_backend::server",
      s!"Shutdown signal received, draining connections for up to {grace.short}", [], none⟩
  | .stopped => ⟨.info, "email_backend", "Server stopped", [], none⟩
  | .exampleFile path =>
    ⟨.warn, "email_backend",
      s!"Using '{path}'. This file should not be used and should be replaced with actual data",
      [], none⟩
  | .loadedFile path =>
    ⟨.info, "email_backend", s!"Loaded configuration from '{path}'", [], none⟩
  | .noFile =>
    ⟨.info, "email_backend",
      "No config file found, using defaults and environment variables", [], none⟩
  | .buildFailed message =>
    ⟨.error, "email_backend", s!"Failed to create server: {message}", [], none⟩
  | .failed message => ⟨.error, "email_backend", message, [], none⟩
  | .connected address =>
    ⟨.debug, "email_backend::client", s!"Connected to gRPC server at address {address}", [], none⟩

/-- The level of an event. -/
def Event.level (e : Event) : Level := e.entry.level

end Log
end MailGateway
