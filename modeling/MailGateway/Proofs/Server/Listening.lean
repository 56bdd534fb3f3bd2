/-
# Where the server listens

Host and port are told apart, and the server listens where both of them say.  On the way to
an address they are one text, with a colon between them like those of an address of the new
family, and the server listens at the first address that a lookup of that text finds
(`build_of_plaintext`, `listens_where_told`):

| host | address |
| --- | --- |
| `a.b.c.d` | these octets, whatever the resolver |
| an address of the new family in brackets | these groups, whatever the resolver |
| any other | the first that the resolver finds for the host alone |

To listen at an address of the new family that stands without brackets takes a resolver that
reads numbers.  The port is the configured one in each case: no host, whatever colons and
digits it ends in, and no resolver can put another one in its place.
-/

import MailGateway.Proofs.Net.Sockets
import MailGateway.Proofs.Server.Stages

namespace MailGateway
namespace Server

open Config (Settings)

theorem toList_addressText (host : String) (port : Port) :
    (addressText host port).toList = host.toList ++ ':' :: (toString port.val).toList := by
  have htext : addressText host port = host ++ ":" ++ toString port.val := rfl
  rw [htext, String.toList_append, String.toList_append, List.append_assoc]
  rfl

/-- The addresses of a host: a numeric one is its own, and others have those of the name. -/
def addressesOf (resolver : Net.Resolver) (host : String) : Except Net.LookupFault (List Net.Ip) :=
  match Net.Ip.numeric? host.toList with
  | some ip => .ok [ip]
  | none => Net.lookupName resolver host

theorem lookup_addressText (resolver : Net.Resolver) (host : String) (port : Port) :
    Net.lookup resolver (addressText host port) =
      (addressesOf resolver host).map (·.map (⟨·, port⟩)) := by
  rw [Net.lookup_hostAndPort (toList_addressText host port), addressesOf]
  cases Net.Ip.numeric? host.toList <;> rfl

/-- Without `secure` an address is all that a server needs. -/
theorem build_of_plaintext (files : Files.Tree) (resolver : Net.Resolver) {s : Settings}
    (hplain : s.secure = false) :
    (build files s resolver).2 = match addressesOf resolver s.host with
      | .ok (ip :: _) => .ok ⟨⟨ip, s.port⟩, .plaintext⟩
      | .ok [] => .error (.address s.host s.port .unresolved)
      | .error fault => .error (.address s.host s.port (.lookup fault)) := by
  cases haddresses : addressesOf resolver s.host with
  | error fault => simp [build, resolve, lookup_addressText, haddresses, Except.map]
  | ok ips =>
    cases ips <;>
      simp [build, resolve, lookup_addressText, haddresses, Transport.prepare, hplain, Except.map]

/-- **The server listens where it was told.**  The port is the configured one, a numeric host is
itself, a name has the first address that the resolver finds for it, and the text that is
reported of the address is read back as it. -/
theorem listens_where_told (files : Files.Tree) (resolver : Net.Resolver) {s : Settings}
    (hplain : s.secure = false) :
    (∀ ready, (build files s resolver).2 = .ok ready →
      ready.address.port = s.port ∧ ready.transport = .plaintext ∧
        Net.SocketAddress.parse? ready.address.text.toList = some ready.address) ∧
    (∀ ip : Net.V4, s.host = ip.text →
      (build files s resolver).2 = .ok ⟨⟨.v4 ip, s.port⟩, .plaintext⟩) ∧
    (∀ ip : Net.V6, s.host = "[" ++ ip.text ++ "]" →
      (build files s resolver).2 = .ok ⟨⟨.v6 ip 0, s.port⟩, .plaintext⟩) ∧
    (resolver.ReadsNumbers → ∀ ip : Net.V6, s.host = ip.text →
      (build files s resolver).2 = .ok ⟨⟨.v6 ip 0, s.port⟩, .plaintext⟩) ∧
    (Net.Ip.numeric? s.host.toList = none → '\x00' ∉ s.host.toList →
      (build files s resolver).2 = match resolver s.host with
        | .ok (ip :: _) => .ok ⟨⟨ip, s.port⟩, .plaintext⟩
        | .ok [] => .error (.address s.host s.port .unresolved)
        | .error reason => .error (.address s.host s.port (.lookup (.failed reason)))) := by
  have hbuild := build_of_plaintext files resolver hplain
  have hfound : ∀ ip, addressesOf resolver s.host = .ok [ip] →
      (build files s resolver).2 = .ok ⟨⟨ip, s.port⟩, .plaintext⟩ := fun ip hip => by
    rw [hbuild, hip]
  refine ⟨fun ready hready => ⟨?port, ?plain, Net.SocketAddress.parse?_text ready.address⟩,
    fun ip hhost => hfound _ ?old, fun ip hhost => hfound _ ?brackets,
    fun hreads ip hhost => hfound _ ?bare, fun hnumeric hnul => ?name⟩
  case port =>
    rw [hbuild] at hready
    split at hready <;> cases hready
    rfl
  case plain =>
    rw [hbuild] at hready
    split at hready <;> cases hready
    rfl
  case old => rw [addressesOf, hhost, Net.Ip.numeric?_text]
  case brackets => rw [addressesOf, hhost, Net.Ip.numeric?_brackets]
  case bare => rw [addressesOf, hhost, Net.Ip.numeric?_text_v6, Net.lookupName_text hreads]
  case name =>
    rw [hbuild, addressesOf, hnumeric]
    simp only [Net.lookupName, List.contains_eq_mem, hnul, decide_false, Bool.false_eq_true,
      if_false]
    cases resolver s.host with
    | error reason => rfl
    | ok ips => cases ips <;> rfl

/-- A host that could be taken for the front of a longer address. -/
def onLoopback : Settings := { host := "::1", port := 9091, secure := false }

/-- The loopback address of the new family. -/
def loopback : Net.V6 := ⟨[0, 0, 0, 0, 0, 0, 0, 1], rfl⟩

theorem listens_where_told_loopback :
    onLoopback.secure = false ∧ addressText onLoopback.host onLoopback.port = "::1:9091" ∧
      Net.Resolver.offline.ReadsNumbers ∧
      (build {} onLoopback .offline).2 = .ok ⟨⟨.v6 loopback 0, 9091⟩, .plaintext⟩ ∧
      (Net.SocketAddress.mk (.v6 loopback 0) 9091).text = "[::1]:9091" := by
  have htext : onLoopback.host = loopback.text := by decide
  have hreads := Net.Resolver.readsNumbers_offline
  exact ⟨rfl, by decide, hreads,
    (listens_where_told {} .offline rfl).2.2.2.1 hreads loopback htext, by decide⟩

end Server
end MailGateway
