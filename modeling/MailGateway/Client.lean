/-
# Sending messages to a server

A client connects to the address of a server and then makes one call per message.

What it finds at an address is told by a `Network`.  The scheme of the address decides
how the client speaks: `https` asks for an encrypted connection, and so needs the trust
that a CA file gives; every other scheme stays in plain text, whatever trust there is.
A plain connection is there before the server has said a word, so it is the first call that
fails if the server expects an encrypted one.
-/

import MailGateway.App
import MailGateway.Http.Uri
import MailGateway.Server.Startup
import MailGateway.Tls.ServerName

namespace MailGateway
namespace Client

/-- How to connect.  With a CA file the client is ready to encrypt. -/
structure Options where
  address : String := "https://localhost:9091"
  caFile : Option String := some "certs/server.pem"
  /-- The name that the server has to prove, in place of its host. -/
  serverName : Option String := none
  deriving DecidableEq, Repr, Inhabited

/-- Why there is no connection, or no reply. -/
inductive Failure where
  | address (text : String)
  | caFile (path : String) (failure : Files.Failure)
  | connection
  | status (code : Grpc.Code) (message : String)
  deriving DecidableEq, Repr, Inhabited

/-- The text of a failure. -/
def Failure.message : Failure → String
  | .address text => s!"Invalid server address '{text}': invalid URI"
  | .caFile path failure => s!"Unable to read CA certificate '{path}': {failure.message}"
  | .connection => "Failed to connect to the server: transport error"
  | .status code message =>
    s!"SendMail failed: status: {code.name}, message: {Quoted.text message}"

/-- What a client needs to know a server by: the certificates that it trusts, and the name
that is to be proved. -/
structure Trust where
  roots : List Bytes
  name : String
  deriving DecidableEq, Repr, Inhabited

/-- A server as a client finds it: how it carries connections, and what it has counted. -/
structure Listener where
  transport : Server.Transport
  recorder : Metrics.Recorder := .empty
  deriving DecidableEq, Repr

/-- What can be reached, and what certificates prove. -/
structure Network where
  /-- The server at a host and a port, if there is one. -/
  listener : String → Nat → Option Listener
  /-- Whether certificates prove what is asked of them. -/
  proves : List Bytes → Trust → Bool
  /-- What a call fails with where the two sides do not understand each other. -/
  garbled : Grpc.Code × String

/-- The network where nothing can be reached. -/
def Network.empty : Network := ⟨fun _ _ => none, fun _ _ => false, (.unknown, "transport error")⟩

/-- The trust that a CA file gives.  Its certificates have to be readable, and the name has to
be one of a server. -/
def Trust.ofFile (files : Files.Tree) (path name : String) : Except Failure Trust := do
  let text ← (files.read path).mapError (.caFile path)
  match Tls.Pem.sections? text with
  | none => throw .connection
  | some sections =>
    let roots := (sections.filter (·.kind = .certificate)).map (·.content)
    if roots.all Tls.Certificate.isAnchor && Tls.ServerName.isValid name then pure ⟨roots, name⟩
    else throw .connection

/-- A connection to a server: plain, or encrypted where the server is known by a trust. -/
inductive Connection where
  | plain (server : Listener)
  | encrypted (server : Listener) (trust : Trust)
  deriving DecidableEq, Repr

namespace Connection

/-- Opens a connection to a server. -/
def open? (net : Network) (encrypt : Bool) (trust : Option Trust) (server : Listener) :
    Option Connection :=
  if encrypt then
    match server.transport, trust with
    | .tls pair, some trust =>
      if net.proves pair.certificates trust then some (.encrypted server trust) else none
    | _, _ => none
  else some (.plain server)

/-- The server at the other end. -/
def server : Connection → Listener
  | .plain server => server
  | .encrypted server _ => server

/-- Whether the server understands what comes over the connection. -/
def isUnderstood : Connection → Bool
  | .plain server => !server.transport.isSecure
  | .encrypted _ _ => true

end Connection

/-- Connects to a server. -/
def connect (net : Network) (files : Files.Tree) (o : Options) : Except Failure Connection := do
  let uri ← (Http.Uri.parse true o.address).mapError fun _ => .address o.address
  let trust ← o.caFile.mapM fun path =>
    Trust.ofFile files path (o.serverName.getD uri.writtenHost)
  match uri.schemeName? with
  | none => throw .connection
  | some scheme =>
    let encrypt := scheme = "https"
    match (net.listener uri.host uri.port).bind (Connection.open? net encrypt trust) with
    | some connection => pure connection
    | none => throw .connection

/-- The call that sends a message. -/
def call (message : String) : Http.Request where
  method := "POST"
  target := Grpc.sendPath
  version := .http2
  headers := [Http.field "te" "trailers", Grpc.typeField]
  pieces := [Grpc.Frame.write (Protobuf.writeRecord message)]

/-- The failure that headers or trailers tell of, if they do. -/
def refusal? (headers : Http.Headers) : Option Failure :=
  match Grpc.Code.ofHeaders headers with
  | .ok => none
  | code =>
    let text := (headers.first? "grpc-message").map Http.Percent.decode
    some (.status code ((text.bind Utf8.decode?).getD ""))

/-- The reply in a body. -/
def readBody (body : Bytes) : Except Failure Mail.Reply :=
  match Grpc.Frame.next? body with
  | .ok (some (record, _)) =>
    match Protobuf.parseRecord record with
    | .ok text => .ok ⟨text⟩
    | .error _ => .error (.status .internal "")
  | _ => .error (.status .internal "")

/-- The reply in an answer. -/
def readReply (r : Http.Response) : Except Failure Mail.Reply :=
  match refusal? r.headers <|> refusal? (r.trailers.getD []), r.content with
  | some f, _ => .error f
  | none, .bytes body => readBody body
  | none, _ => .error (.status .internal "")

/-- Sends messages one after another to a server with a recorder, up to the first that
fails: the recorder afterwards, the replies, and the failure. -/
def sendAll (recorder : Metrics.Recorder) :
    List String → Metrics.Recorder × List Mail.Reply × Option Failure
  | [] => (recorder, [], none)
  | message :: rest =>
    let (recorder, answer) := App.step recorder (call message)
    match readReply answer.response with
    | .error f => (recorder, [], some f)
    | .ok reply =>
      let (recorder, replies, failure) := sendAll recorder rest
      (recorder, reply :: replies, failure)

/-- One message is sent, and where it is answered, the others. -/
theorem sendAll_cons (recorder : Metrics.Recorder) (message : String) (rest : List String) :
    sendAll recorder (message :: rest) =
      match readReply (App.step recorder (call message)).2.response with
      | .error f => ((App.step recorder (call message)).1, [], some f)
      | .ok reply =>
        ((sendAll (App.step recorder (call message)).1 rest).1,
          reply :: (sendAll (App.step recorder (call message)).1 rest).2.1,
          (sendAll (App.step recorder (call message)).1 rest).2.2) := (rfl)

/-- Sends messages one after another over a connection, to the server at its other end. -/
def Connection.send (net : Network) (connection : Connection) (messages : List String) :
    List Mail.Reply × Option Failure :=
  if connection.isUnderstood then (sendAll connection.server.recorder messages).2
  else ([], messages.head?.map fun _ => .status net.garbled.1 net.garbled.2)

end Client
end MailGateway
