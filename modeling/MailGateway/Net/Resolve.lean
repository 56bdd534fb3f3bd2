/-
# Numeric addresses

Readers for the numeric addresses of both families.  The old family has short forms: up to
four numbers, each decimal, octal or hexadecimal, the last of which fills the octets that are
left.  The new family may name a scope behind `%`, an address of the local link by the name of
its network, too.
-/

import MailGateway.Net.Address

namespace MailGateway
namespace Net

/-- Cuts text at a character. -/
def cutAt (sep : Char) (cs : List Char) : List (List Char) :=
  match cs with
  | [] => [[]]
  | c :: rest =>
    if c = sep then [] :: cutAt sep rest
    else
      match cutAt sep rest with
      | first :: others => (c :: first) :: others
      | [] => [[c]]

namespace V4

/-- The value of an octal digit. -/
def octal? (c : Char) : Option Nat := (Numeral.decimal? c).filter (· < 8)

/-- A number of the short forms. -/
def number? (cs : List Char) : Option Nat :=
  match cs with
  | '0' :: 'x' :: ds | '0' :: 'X' :: ds => Numeral.digits? Numeral.hexadecimal? 16 ds
  | '0' :: d :: ds => Numeral.digits? octal? 8 (d :: ds)
  | _ => Numeral.natural? cs

/-- The value of numbers: octets, and a last one that fills the rest. -/
def combine? (octets : Nat) (value : Nat) : List Nat → Option Nat
  | [] => none
  | [n] => if n < 256 ^ octets then some (value * 256 ^ octets + n) else none
  | n :: ns =>
    match octets with
    | 0 => none
    | octets + 1 => if n < 256 then combine? octets (value * 256 + n) ns else none

/-- Reads an address, also in a short form. -/
def parse? (cs : List Char) : Option V4 := do
  let numbers ← (cutAt '.' cs).mapM number?
  (combine? 4 0 numbers).map ofNat

/-- A decimal octet without leading zeros. -/
def octet? (cs : List Char) : Option (Fin 256) :=
  match cs with
  | '0' :: _ :: _ => none
  | _ =>
    match Numeral.natural? cs with
    | some n => if h : n < 256 then some ⟨n, h⟩ else none
    | none => none

/-- Reads four decimal octets. -/
def quad? (cs : List Char) : Option V4 :=
  match (cutAt '.' cs).mapM octet? with
  | some [a, b, c, d] => some ⟨a, b, c, d⟩
  | _ => none

end V4

namespace V6

/-- A group: one to four hexadecimal digits. -/
def group? (cs : List Char) : Option (Fin 65536) :=
  if 4 < cs.length then none
  else
    match Numeral.digits? Numeral.hexadecimal? 16 cs with
    | some n => if h : n < 65536 then some ⟨n, h⟩ else none
    | none => none

/-- Groups, the last of which may be written as octets if `quad` allows it. -/
def groups? (quad : Bool) : List (List Char) → Option (List (Fin 65536))
  | [] => some []
  | [cs] =>
    match group? cs with
    | some g => some [g]
    | none =>
      if quad then
        (V4.quad? cs).map fun ip =>
          [Fin.ofNat 65536 (ip.a.val * 256 + ip.b.val), Fin.ofNat 65536 (ip.c.val * 256 + ip.d.val)]
      else none
  | cs :: rest => do
    let g ← group? cs
    pure (g :: (← groups? quad rest))

/-- Cuts text at the first pair of colons. -/
def cutPair : List Char → Option (List Char × List Char)
  | ':' :: ':' :: rest => some ([], rest)
  | c :: rest => (cutPair rest).map fun (before, behind) => (c :: before, behind)
  | [] => none

/-- Groups of a part, which may be empty. -/
def part? (quad : Bool) (cs : List Char) : Option (List (Fin 65536)) :=
  if cs.isEmpty then some [] else groups? quad (cutAt ':' cs)

/-- The address of groups. -/
def ofGroups? (gs : List (Fin 65536)) : Option V6 :=
  if h : gs.length = 8 then some ⟨gs, h⟩ else none

/-- Reads an address. -/
def parse? (cs : List Char) : Option V6 := do
  match cutPair cs with
  | none => ofGroups? (← part? true cs)
  | some (before, behind) =>
    let head ← part? false before
    let tail ← part? true behind
    if 7 < head.length + tail.length then none
    else ofGroups? (head ++ List.replicate (8 - (head.length + tail.length)) 0 ++ tail)

/-- Whether an address is one of the local link, where networks have names. -/
def isLocal (ip : V6) : Bool :=
  match ip.groups with
  | g :: _ => g.val / 64 = 0x3FA || (g.val / 256 = 0xFF && g.val % 16 = 2)
  | [] => false

end V6

namespace Scope

/-- Reads a number. -/
def number? (cs : List Char) : Option Scope :=
  match Numeral.natural? cs with
  | some n => if h : n < 4294967296 then some ⟨n, h⟩ else none
  | none => none

/-- Reads the scope of an address.  The name of the loopback network is known. -/
def ofText? (ip : V6) (cs : List Char) : Option Scope :=
  if ip.isLocal && cs = ['l', 'o'] then some 1 else number? cs

end Scope

namespace Ip

/-- Reads an address of the new family and its scope. -/
def scoped? (scope? : V6 → List Char → Option Scope) (cs : List Char) : Option Ip := do
  let ip ← V6.parse? (cs.takeWhile (· ≠ '%'))
  match cs.dropWhile (· ≠ '%') with
  | [] => some (.v6 ip 0)
  | _ :: rest => (scope? ip rest).map (.v6 ip)

end Ip

example : (V4.parse? "0x7f.1".toList) = some ⟨127, 0, 0, 1⟩ := by decide +kernel

end Net
end MailGateway
