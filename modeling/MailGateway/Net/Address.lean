/-
# Internet addresses

Addresses of both families, and of sockets, in their canonical text: four decimal
octets; eight groups of hexadecimal digits, the longest run of zero groups (the first of
several) cut out, and the last two groups of a mapped address written as octets.  An
address of the new family may be meant within a scope, the number of a network.
-/

import MailGateway.Text.Numeral
import MailGateway.Config.Settings

namespace MailGateway
namespace Net

/-- An address of the old family. -/
structure V4 where
  a : Fin 256
  b : Fin 256
  c : Fin 256
  d : Fin 256
  deriving DecidableEq, Repr, Inhabited

/-- The address of a number of 32 bits. -/
def V4.ofNat (n : Nat) : V4 :=
  ⟨Fin.ofNat 256 (n / 2 ^ 24), Fin.ofNat 256 (n / 2 ^ 16), Fin.ofNat 256 (n / 2 ^ 8),
    Fin.ofNat 256 n⟩

/-- Four decimal octets. -/
def V4.text (ip : V4) : String :=
  ".".intercalate ([ip.a, ip.b, ip.c, ip.d].map fun n => toString n.val)

/-- An address of the new family: eight groups of 16 bits. -/
structure V6 where
  groups : List (Fin 65536)
  length_groups : groups.length = 8
  deriving DecidableEq, Repr

instance : Inhabited V6 := ⟨⟨List.replicate 8 0, rfl⟩⟩

/-- The digits of a group. -/
def groupText (n : Fin 65536) : String := Numeral.hex 1 n.val

/-- Groups with colons between them. -/
def groupsText (gs : List (Fin 65536)) : String := ":".intercalate (gs.map groupText)

/-- How many zero groups stand at the front. -/
def zerosAtFront (gs : List (Fin 65536)) : Nat := (gs.takeWhile (· = 0)).length

/-- Place and length of the longest run of zero groups, the first of several. -/
def longestZeros : List (Fin 65536) → Nat × Nat
  | [] => (0, 0)
  | g :: gs =>
    let (place, length) := longestZeros gs
    let here := zerosAtFront (g :: gs)
    if length ≤ here then (0, here) else (place + 1, length)

/-- The canonical text. -/
def V6.text (ip : V6) : String :=
  match ip.groups with
  | [0, 0, 0, 0, 0, 0xFFFF, g, h] => "::ffff:" ++ (V4.ofNat (g.val * 65536 + h.val)).text
  | gs =>
    let (place, length) := longestZeros gs
    if length ≤ 1 then groupsText gs
    else groupsText (gs.take place) ++ "::" ++ groupsText (gs.drop (place + length))

/-- The number of a network, or zero for any. -/
abbrev Scope := Fin 4294967296

/-- An address of either family. -/
inductive Ip where
  | v4 (ip : V4)
  | v6 (ip : V6) (scope : Scope)
  deriving DecidableEq, Repr, Inhabited

/-- The address of a socket. -/
structure SocketAddress where
  ip : Ip
  port : Port
  deriving DecidableEq, Repr, Inhabited

/-- The text of a socket's address. -/
def SocketAddress.text (a : SocketAddress) : String :=
  match a.ip with
  | .v4 ip => s!"{ip.text}:{a.port.val}"
  | .v6 ip scope =>
    let mark := if scope = 0 then "" else s!"%{scope.val}"
    s!"[{ip.text}{mark}]:{a.port.val}"

example : V6.text ⟨[1, 0, 0, 2, 0, 0, 0, 3], rfl⟩ = "1:0:0:2::3" := by decide +kernel

end Net
end MailGateway
