/-
# From a host and a port to addresses

A listener is looked up by one text, a host and a port with a colon between them.  The lookup
has two ways to take the text apart (`lookup`):

1. a numeric address of a socket is read from the front, its host up to the first colon or
   within brackets;
2. failing that, the text is cut at its last colon, and the front is a name.

Names are looked up by a `Resolver`, which belongs to the system.  It finds any number of
addresses, none included, or tells why it cannot say.
-/

import MailGateway.Net.Resolve

namespace MailGateway
namespace Net

/-- What a system finds for a name, or why it finds nothing. -/
abbrev Resolver := String → Except String (List Ip)

/-- Why a lookup fails. -/
inductive LookupFault where
  | noPort
  | badPort
  | hasNul
  | failed (reason : String)
  deriving DecidableEq, Repr, Inhabited

/-- The text of a fault. -/
def LookupFault.message : LookupFault → String
  | .noPort => "invalid socket address"
  | .badPort => "invalid port value"
  | .hasNul => "file name contained an unexpected NUL byte"
  | .failed reason => s!"failed to lookup address information: {reason}"

/-- Cuts text at the last place of a character. -/
def cutLast? (sep : Char) (cs : List Char) : Option (List Char × List Char) :=
  match cs.reverse.dropWhile (· ≠ sep) with
  | [] => none
  | _ :: front => some (front.reverse, (cs.reverse.takeWhile (· ≠ sep)).reverse)

/-- Reads the number of a port. -/
def portNumber? (cs : List Char) : Option Port :=
  match Numeral.natural? cs with
  | some n => if h : n < 65536 then some ⟨n, h⟩ else none
  | none => none

/-- Reads the number of a port, perhaps with a plus sign. -/
def signedPort? : List Char → Option Port
  | '+' :: cs => portNumber? cs
  | cs => portNumber? cs

namespace SocketAddress

/-- Reads four octets and a port, from the front. -/
def ofQuad? (cs : List Char) : Option SocketAddress :=
  match cs.dropWhile (· ≠ ':') with
  | _ :: port =>
    (V4.quad? (cs.takeWhile (· ≠ ':'))).bind fun ip => (portNumber? port).map (mk (.v4 ip))
  | [] => none

/-- Reads an address in brackets and a port, from the front.  Its scope is a number. -/
def ofBracketed? : List Char → Option SocketAddress
  | '[' :: rest =>
    match rest.dropWhile (· ≠ ']') with
    | _ :: ':' :: port =>
      (Ip.scoped? (fun _ => Scope.number?) (rest.takeWhile (· ≠ ']'))).bind fun ip =>
        (portNumber? port).map (mk ip)
    | _ => none
  | _ => none

/-- Reads the numeric address of a socket. -/
def parse? (cs : List Char) : Option SocketAddress := (ofQuad? cs).or (ofBracketed? cs)

end SocketAddress

/-- Looks a name up.  The system cannot be asked for a name with a NUL. -/
def lookupName (resolver : Resolver) (host : String) : Except LookupFault (List Ip) :=
  if host.toList.contains '\x00' then .error .hasNul else (resolver host).mapError .failed

/-- Looks a host and a port up. -/
def lookup (resolver : Resolver) (text : String) : Except LookupFault (List SocketAddress) :=
  match SocketAddress.parse? text.toList with
  | some a => .ok [a]
  | none =>
    match cutLast? ':' text.toList with
    | none => .error .noPort
    | some (host, port) =>
      match signedPort? port with
      | none => .error .badPort
      | some port => (lookupName resolver (String.ofList host)).map (·.map (⟨·, port⟩))

/-- A resolver that is the same for each numeric address, in the canonical text without brackets,
as the address itself. -/
structure Resolver.ReadsNumbers (resolver : Resolver) : Prop where
  old : ∀ ip : V4, resolver ip.text = .ok [.v4 ip]
  new : ∀ ip : V6, resolver ip.text = .ok [.v6 ip 0]

/-- The resolver of a system without a name service.  It knows `localhost`, and numeric
addresses in all their forms. -/
def Resolver.offline : Resolver := fun host =>
  if host = "localhost" then .ok [.v4 ⟨127, 0, 0, 1⟩]
  else
    match ((V4.parse? host.toList).map .v4).or (Ip.scoped? Scope.ofText? host.toList) with
    | some ip => .ok [ip]
    | none => .error "Name or service not known"

end Net
end MailGateway
