/-
# Starting the server

The server starts in stages: the address is resolved, the transport is prepared, and the
listener is bound.  The first stage that fails decides.  With `secure` set there is no
transport but one with a key pair; without it no file is read.

What names stand for and which addresses can be bound is up to the system (`System`).

A running server stops at a signal, after it has drained its connections.
-/

import MailGateway.Log.Event
import MailGateway.Net.Lookup
import MailGateway.Tls.KeyPair

namespace MailGateway
namespace Server

open Config (Settings)

/-- Why there is no address to listen on. -/
inductive AddressFault where
  | lookup (fault : Net.LookupFault)
  /-- The lookup finds no address at all. -/
  | unresolved
  deriving DecidableEq, Repr, Inhabited

/-- Why the server does not start, or does not run on. -/
inductive StartError where
  | address (host : String) (port : Port) (fault : AddressFault)
  | keyPair (certFile keyFile : String) (fault : Tls.PairFault)
  | bind (address : Net.SocketAddress) (reason : String)
  deriving DecidableEq, Repr, Inhabited

/-- What a host and a port are called before they are resolved. -/
def addressText (host : String) (port : Port) : String := s!"{host}:{port.val}"

/-- The text of an error. -/
def StartError.message : StartError → String
  | .address host port (.lookup fault) =>
    s!"Invalid listen address '{addressText host port}': {fault.message}"
  | .address host port .unresolved =>
    s!"Listen address '{addressText host port}' did not resolve"
  | .keyPair certFile keyFile fault =>
    s!"Unable to create x509 key pair from '{certFile}' and '{keyFile}': {fault.message}"
  | .bind listener reason => s!"Server on {listener.text} failed: {reason}"

/-- How connections are carried. -/
inductive Transport where
  | plaintext
  | tls (pair : Tls.KeyPair)
  deriving DecidableEq, Repr, Inhabited

namespace Transport

/-- Whether connections are encrypted. -/
def isSecure : Transport → Bool
  | .plaintext => false
  | .tls _ => true

/-- Prepares the transport. -/
def prepare (files : Files.Tree) (s : Settings) : List Log.Event × Except StartError Transport :=
  if s.secure then
    ([.loadingKeyPair s.certFile s.keyFile],
      match Tls.KeyPair.load files s.certFile s.keyFile with
      | .ok pair => .ok (.tls pair)
      | .error fault => .error (.keyPair s.certFile s.keyFile fault))
  else ([.plaintext], .ok .plaintext)

end Transport

/-- What the system has a say in. -/
structure System where
  resolver : Net.Resolver
  /-- Binds a listener, or tells why that cannot be. -/
  bind : Net.SocketAddress → Except String Unit

/-- The listeners that others have bound. -/
abbrev Listeners := List Net.SocketAddress

/-- Whether an address stands for all. -/
def isWildcard (ip : Net.Ip) : Bool :=
  match ip with
  | .v4 ip => ip = ⟨0, 0, 0, 0⟩
  | .v6 ip _ => ip.groups.all (· = 0)

/-- Whether two listeners are in each other's way. -/
def clashes (a b : Net.SocketAddress) : Bool :=
  a.port = b.port && (a.ip = b.ip || isWildcard a.ip || isWildcard b.ip)

/-- A system without a name service, on which others listen and ports below 1024 are reserved.
Port 0 stands for any free port. -/
def System.offline (others : Listeners) : System where
  resolver := .offline
  bind a :=
    if a.port = 0 then .ok ()
    else if a.port.val < 1024 then .error "Permission denied (os error 13)"
    else if others.any (clashes a) then .error "Address already in use (os error 98)"
    else .ok ()

instance : Coe Listeners System := ⟨System.offline⟩

/-- A server that is ready to listen. -/
structure Ready where
  address : Net.SocketAddress
  transport : Transport
  deriving DecidableEq, Repr, Inhabited

/-- Resolves the address of the listener: the first that is found. -/
def resolve (resolver : Net.Resolver) (s : Settings) : Except StartError Net.SocketAddress :=
  match Net.lookup resolver (addressText s.host s.port) with
  | .error fault => .error (.address s.host s.port (.lookup fault))
  | .ok [] => .error (.address s.host s.port .unresolved)
  | .ok (a :: _) => .ok a

/-- Builds the server. -/
def build (files : Files.Tree) (s : Settings) (resolver : Net.Resolver := .offline) :
    List Log.Event × Except StartError Ready :=
  match resolve resolver s with
  | .error e => ([], .error e)
  | .ok address =>
    let (events, transport) := Transport.prepare files s
    (events, transport.map fun t => ⟨address, t⟩)

/-- How a run of the server came out. -/
inductive Outcome where
  | stopped
  | failed
  /-- Nothing has stopped the server yet. -/
  | running
  deriving DecidableEq, Repr, Inhabited

/-- What a server reports when it begins to listen. -/
def Ready.announce (r : Ready) : Log.Event := .starting r.address.text r.transport.isSecure

/-- Runs a server, up to a signal if there is one. -/
def Ready.serve (system : System) (r : Ready) : List Log.Event × Except StartError Unit :=
  ([r.announce], (system.bind r.address).mapError (.bind r.address))

/-- What is reported of a signal. -/
def onSignal (s : Settings) : List Log.Event := [.draining s.gracePeriod]

/-- Builds and runs a server, up to a signal if one comes. -/
def run (system : System) (files : Files.Tree) (s : Settings) (signalled : Bool) :
    List Log.Event × Outcome :=
  let (events, built) := build files s system.resolver
  let events := .initializing s.host s.port.val :: events
  match built with
  | .error e => (events ++ [.buildFailed e.message], .failed)
  | .ok ready =>
    let (more, served) := ready.serve system
    let events := events ++ more
    match served with
    | .error e => (events ++ [.failed e.message], .failed)
    | .ok () =>
      if signalled then (events ++ onSignal s ++ [.stopped], .stopped) else (events, .running)

end Server
end MailGateway
