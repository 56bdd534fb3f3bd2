/-
# Host and port in one text

A listener is looked up by one text, a host and a port with a colon between them, and the
lookup takes it apart from the front or at its last colon (`lookup`).  Neither way can be led
astray by colons in the host, as the port has none: what stands behind the first colon is not
a number if the host has a colon, too (`SocketAddress.parse?_append`).  So a lookup of the
joined text is a lookup of the host alone, whatever the resolver (`lookup_hostAndPort`), and the
text of a socket's address is read back as that address (`SocketAddress.parse?_text`).
-/

import MailGateway.Net.Lookup
import MailGateway.Proofs.Net.Groups

namespace MailGateway
namespace Net

variable {sep c : Char} {cs front back : List Char} {ip : Ip} {port : Port} {resolver : Resolver}

/-! ### Ports -/

theorem cutLast?_append (h : sep ∉ back) :
    cutLast? sep (front ++ sep :: back) = some (front, back) := by
  have hreverse : (front ++ sep :: back).reverse = back.reverse ++ sep :: front.reverse := by simp
  have hback : sep ∉ back.reverse := fun hc => h (List.mem_reverse.1 hc)
  rw [cutLast?, hreverse, dropWhile_front hback, takeWhile_front hback]
  simp

theorem portNumber?_toString (port : Port) :
    portNumber? (toString port.val).toList = some port := by
  rw [portNumber?, Numeral.natural?_toString]
  exact dif_pos port.isLt

theorem notMem_of_portNumber? (hc : Numeral.decimal? c = none) (h : portNumber? cs = some port) :
    c ∉ cs := by
  unfold portNumber? at h
  split at h
  · next hread => exact notMem_of_digits? hc hread
  · cases h

theorem notMem_port (hc : Numeral.decimal? c = none) (port : Port) :
    c ∉ (toString port.val).toList :=
  notMem_of_portNumber? hc (portNumber?_toString port)

theorem signedPort?_toString (port : Port) :
    signedPort? (toString port.val).toList = some port := by
  unfold signedPort?
  split
  · next cs h =>
    refine absurd List.mem_cons_self (h ▸ notMem_port ?_ port)
    decide
  · exact portNumber?_toString port

/-- A colon leaves no number of a port. -/
theorem portNumber?_eq_none (h : ':' ∈ cs) : portNumber? cs = none :=
  Option.eq_none_iff_forall_ne_some.2 fun _ hread => notMem_of_portNumber? (by decide) hread h

/-! ### Addresses of the new family -/

namespace Ip

variable {scope? : V6 → List Char → Option Scope}

theorem scoped?_of_notMem (h : '%' ∉ cs) :
    scoped? scope? cs = (V6.parse? cs).map (.v6 · 0) := by
  rw [scoped?, takeWhile_of_notMem h, dropWhile_of_notMem h]
  cases V6.parse? cs <;> rfl

theorem scoped?_append (h : '%' ∉ front) :
    scoped? scope? (front ++ '%' :: back) =
      (V6.parse? front).bind fun ip => (scope? ip back).map (.v6 ip) := by
  rw [scoped?, takeWhile_front h, dropWhile_front h]
  rfl

/-- What neither an address nor a number has stands in neither. -/
theorem notMem_of_scoped? (hc : IsOutside [':', '.', '%'] c)
    (h : scoped? (fun _ => Scope.number?) cs = some ip) : c ∉ cs := by
  have haddress : IsOutside [':', '.'] c := hc.mono (by simp)
  by_cases hmem : '%' ∈ cs
  · obtain ⟨front, back, rfl, hfront⟩ := List.eq_append_cons_of_mem hmem
    rw [scoped?_append hfront] at h
    obtain ⟨ip₆, hread, h⟩ := Option.bind_eq_some_iff.1 h
    obtain ⟨scope, hscope, -⟩ := Option.map_eq_some_iff.1 h
    have hback : c ∉ back := by
      unfold Scope.number? at hscope
      split at hscope
      · next hnumber => exact notMem_of_digits? hc.decimal? hnumber
      · cases hscope
    rw [List.mem_append]
    exact not_or.2 ⟨V6.notMem_of_parse? haddress hread,
      List.not_mem_cons_of_ne_of_not_mem (hc.ne (by decide)) hback⟩
  · rw [scoped?_of_notMem hmem] at h
    obtain ⟨ip₆, hread, -⟩ := Option.map_eq_some_iff.1 h
    exact V6.notMem_of_parse? haddress hread

/-- Reads an address of the new family in brackets. -/
def bracketed? : List Char → Option Ip
  | '[' :: rest =>
    if rest.getLast? = some ']' then scoped? (fun _ => Scope.number?) rest.dropLast else none
  | _ => none

/-- What an address in brackets is made of. -/
theorem bracketed?_eq_some_iff : bracketed? cs = some ip ↔
    ∃ inside, cs = '[' :: (inside ++ [']']) ∧
      scoped? (fun _ => Scope.number?) inside = some ip := by
  constructor
  · intro h
    unfold bracketed? at h
    split at h
    · next rest =>
      split at h
      · next hlast =>
        obtain ⟨inside, rfl⟩ := List.getLast?_eq_some_iff.1 hlast
        rw [List.dropLast_concat] at h
        exact ⟨inside, rfl, h⟩
      · cases h
    · cases h
  · rintro ⟨inside, rfl, h⟩
    rw [bracketed?, if_pos List.getLast?_concat, List.dropLast_concat, h]

/-- Nothing may stand behind the first closing bracket. -/
theorem bracketed?_cons_append (inside behind : List Char) :
    bracketed? ('[' :: (inside ++ ']' :: behind)) =
      if behind = [] then scoped? (fun _ => Scope.number?) inside else none := by
  split
  · next hempty =>
    subst hempty
    rw [bracketed?, if_pos List.getLast?_concat, List.dropLast_concat]
  · next hne =>
    refine Option.eq_none_iff_forall_ne_some.2 fun ip h => ?_
    obtain ⟨longer, heq, hread⟩ := bracketed?_eq_some_iff.1 h
    have hlonger : inside ++ ']' :: behind.dropLast = longer := by
      have hlast := congrArg List.dropLast (List.cons.inj heq).2
      rwa [List.dropLast_concat, List.dropLast_append_of_ne_nil (List.cons_ne_nil _ _),
        List.dropLast_cons_of_ne_nil hne] at hlast
    have hmem : ']' ∈ longer := by
      rw [← hlonger]
      exact List.mem_append_right _ List.mem_cons_self
    exact notMem_of_scoped? (by decide) hread hmem

/-- A numeric address as it stands in front of the port of a socket. -/
def numeric? (cs : List Char) : Option Ip := ((V4.quad? cs).map .v4).or (bracketed? cs)

end Ip

/-! ### Numeric addresses of sockets -/

namespace SocketAddress

/-- Behind the first colon of a host that has one there is no number. -/
theorem ofQuad?_append (host : List Char) (port : Port) :
    ofQuad? (host ++ ':' :: (toString port.val).toList) =
      (V4.quad? host).map fun ip => ⟨.v4 ip, port⟩ := by
  by_cases hcolon : ':' ∈ host
  · have hquad : V4.quad? host = none := V4.quad?_eq_none_of_mem (by decide) hcolon
    obtain ⟨front, back, rfl, hfront⟩ := List.eq_append_cons_of_mem hcolon
    have hport : portNumber? (back ++ ':' :: (toString port.val).toList) = none :=
      portNumber?_eq_none (List.mem_append_right _ List.mem_cons_self)
    rw [hquad, List.append_assoc, List.cons_append, ofQuad?, dropWhile_front hfront,
      takeWhile_front hfront]
    dsimp only
    rw [hport]
    cases V4.quad? front <;> rfl
  · rw [ofQuad?, dropWhile_front hcolon, takeWhile_front hcolon]
    dsimp only
    rw [portNumber?_toString]
    cases V4.quad? host <;> rfl

theorem ofBracketed?_of_head? (h : cs.head? ≠ some '[') : ofBracketed? cs = none := by
  unfold ofBracketed?
  split
  · exact absurd rfl h
  · rfl

theorem ofBracketed?_of_notMem (h : ']' ∉ cs) : ofBracketed? ('[' :: cs) = none := by
  rw [ofBracketed?, dropWhile_of_notMem h]

/-- Behind the first closing bracket there is the colon of the port, if there is one at all. -/
theorem ofBracketed?_cons_append {inside : List Char} (hinside : ']' ∉ inside)
    (behind : List Char) (port : Port) :
    ofBracketed? ('[' :: (inside ++ ']' :: (behind ++ ':' :: (toString port.val).toList))) =
      if behind = [] then (Ip.scoped? (fun _ => Scope.number?) inside).map (⟨·, port⟩)
      else none := by
  rw [ofBracketed?, dropWhile_front hinside, takeWhile_front hinside]
  cases behind with
  | nil =>
    rw [List.nil_append, if_pos rfl]
    change ((Ip.scoped? (fun _ => Scope.number?) inside).bind fun ip =>
      (portNumber? (toString port.val).toList).map (mk ip)) = _
    rw [portNumber?_toString]
    cases Ip.scoped? (fun _ => Scope.number?) inside <;> rfl
  | cons e behind =>
    rw [if_neg (List.cons_ne_nil e behind), List.cons_append]
    split
    · next heq =>
      obtain ⟨-, heq⟩ := List.cons.inj heq
      obtain ⟨-, rfl⟩ := List.cons.inj heq
      rw [portNumber?_eq_none (List.mem_append_right _ List.mem_cons_self)]
      cases Ip.scoped? (fun _ => Scope.number?) inside <;> rfl
    · rfl

/-- The first closing bracket in front of a port has to be the end of the host. -/
theorem ofBracketed?_append (host : List Char) (port : Port) :
    ofBracketed? (host ++ ':' :: (toString port.val).toList) =
      (Ip.bracketed? host).map (⟨·, port⟩) := by
  by_cases hhead : host.head? = some '['
  · obtain ⟨rest, rfl⟩ := List.head?_eq_some_iff.1 hhead
    by_cases hclose : ']' ∈ rest
    · obtain ⟨inside, behind, rfl, hinside⟩ := List.eq_append_cons_of_mem hclose
      rw [List.cons_append, List.append_assoc, List.cons_append, ofBracketed?_cons_append hinside,
        Ip.bracketed?_cons_append]
      split <;> rfl
    · have hnone : Ip.bracketed? ('[' :: rest) = none :=
        if_neg fun hlast => hclose (List.mem_of_getLast? hlast)
      rw [hnone, List.cons_append]
      refine ofBracketed?_of_notMem fun hmem => ?_
      rcases List.mem_append.1 hmem with hmem | hmem
      · exact hclose hmem
      · exact List.not_mem_cons_of_ne_of_not_mem (by decide) (notMem_port (by decide) port) hmem
  · have hnone : Ip.bracketed? host = none := by
      unfold Ip.bracketed?
      split
      · exact absurd rfl hhead
      · rfl
    rw [hnone]
    refine ofBracketed?_of_head? ?_
    cases host with
    | nil => simp
    | cons d host => exact hhead

/-- **The host in front of a port is read alone,** whatever it is. -/
theorem parse?_append (host : List Char) (port : Port) :
    parse? (host ++ ':' :: (toString port.val).toList) = (Ip.numeric? host).map (⟨·, port⟩) := by
  rw [parse?, ofQuad?_append, ofBracketed?_append, Ip.numeric?, Option.map_or, Option.map_map]
  rfl

end SocketAddress

/-- **A lookup of a host and a port is one of the host alone.** -/
theorem lookup_hostAndPort {text host : String}
    (h : text.toList = host.toList ++ ':' :: (toString port.val).toList) :
    lookup resolver text = match Ip.numeric? host.toList with
      | some ip => .ok [⟨ip, port⟩]
      | none => (lookupName resolver host).map (·.map (⟨·, port⟩)) := by
  have hcut : cutLast? ':' text.toList = some (host.toList, (toString port.val).toList) := by
    rw [h]
    exact cutLast?_append (notMem_port (by decide) port)
  have hread : SocketAddress.parse? text.toList = (Ip.numeric? host.toList).map (⟨·, port⟩) := by
    rw [h]
    exact SocketAddress.parse?_append host.toList port
  rw [lookup, hread]
  cases Ip.numeric? host.toList with
  | some ip => rfl
  | none => simp only [Option.map_none, hcut, signedPort?_toString, String.ofList_toList]

/-! ### The text of an address -/

theorem Scope.number?_toString (scope : Scope) :
    Scope.number? (toString scope.val).toList = some scope := by
  rw [Scope.number?, Numeral.natural?_toString]
  exact dif_pos scope.isLt

/-- The characters of an address of the new family and of its scope. -/
def Ip.scopedText (ip : V6) (scope : Scope) : List Char :=
  if scope = 0 then ip.text.toList else ip.text.toList ++ '%' :: (toString scope.val).toList

theorem Ip.scoped?_scopedText (ip : V6) (scope : Scope) :
    Ip.scoped? (fun _ => Scope.number?) (Ip.scopedText ip scope) = some (.v6 ip scope) := by
  have hpercent : '%' ∉ ip.text.toList :=
    V6.notMem_of_parse? (by decide) (V6.parse?_text ip)
  unfold Ip.scopedText
  split
  · next hzero =>
    rw [Ip.scoped?_of_notMem hpercent, V6.parse?_text, hzero]
    rfl
  · rw [Ip.scoped?_append hpercent, V6.parse?_text]
    simp only [Option.bind_some, Scope.number?_toString, Option.map_some]

theorem Ip.numeric?_text (ip : V4) : Ip.numeric? ip.text.toList = some (.v4 ip) := by
  rw [Ip.numeric?, V4.quad?_text]
  rfl

theorem Ip.numeric?_scopedText (ip : V6) (scope : Scope) :
    Ip.numeric? ('[' :: (Ip.scopedText ip scope ++ [']'])) = some (.v6 ip scope) := by
  have hbracketed := Ip.bracketed?_eq_some_iff.2 ⟨_, rfl, Ip.scoped?_scopedText ip scope⟩
  have hquad : V4.quad? ('[' :: (Ip.scopedText ip scope ++ [']'])) = none :=
    V4.quad?_eq_none_of_mem (by decide) List.mem_cons_self
  rw [Ip.numeric?, hquad, hbracketed]
  rfl

namespace SocketAddress

theorem toList_text_v4 (ip : V4) (port : Port) : (mk (.v4 ip) port).text.toList =
    ip.text.toList ++ ':' :: (toString port.val).toList := by
  have htext : (mk (.v4 ip) port).text = ip.text ++ ":" ++ toString port.val := rfl
  rw [htext, String.toList_append, String.toList_append, List.append_assoc]
  rfl

theorem toList_text_v6 (ip : V6) (scope : Scope) (port : Port) :
    (mk (.v6 ip scope) port).text.toList =
      '[' :: (Ip.scopedText ip scope ++ [']']) ++ ':' :: (toString port.val).toList := by
  let mark := if scope = 0 then "" else "%" ++ toString scope.val
  have htext : (mk (.v6 ip scope) port).text =
      "[" ++ ip.text ++ mark ++ "]:" ++ toString port.val := rfl
  have hmark : Ip.scopedText ip scope = ip.text.toList ++ mark.toList := by
    unfold Ip.scopedText mark
    split
    · simp
    · rw [String.toList_append]
      rfl
  rw [htext, hmark]
  simp only [String.toList_append, List.append_assoc, List.cons_append]
  rfl

/-- **The address of a socket is read back from its text,** the scope included. -/
theorem parse?_text (a : SocketAddress) : parse? a.text.toList = some a := by
  obtain ⟨ip, port⟩ := a
  cases ip with
  | v4 ip =>
    rw [toList_text_v4, parse?_append, Ip.numeric?_text]
    rfl
  | v6 ip scope =>
    rw [toList_text_v6, parse?_append, Ip.numeric?_scopedText]
    rfl

end SocketAddress

/-! ### Hosts that are numeric addresses -/

theorem Ip.numeric?_brackets (ip : V6) :
    Ip.numeric? ("[" ++ ip.text ++ "]").toList = some (.v6 ip 0) := by
  have htext : ("[" ++ ip.text ++ "]").toList = '[' :: (Ip.scopedText ip 0 ++ [']']) := by
    rw [String.toList_append, String.toList_append, Ip.scopedText, if_pos rfl]
    rfl
  rw [htext, Ip.numeric?_scopedText]

/-- Without brackets an address of the new family is left to the resolver. -/
theorem Ip.numeric?_text_v6 (ip : V6) : Ip.numeric? ip.text.toList = none := by
  have hread := V6.parse?_text ip
  have hquad : V4.quad? ip.text.toList = none :=
    V4.quad?_eq_none_of_mem (by decide) (V6.colon_mem_of_parse? hread)
  have hopen : '[' ∉ ip.text.toList := V6.notMem_of_parse? (by decide) hread
  have hbracketed : Ip.bracketed? ip.text.toList = none :=
    Option.eq_none_iff_forall_ne_some.2 fun _ h => by
      obtain ⟨inside, htext, -⟩ := Ip.bracketed?_eq_some_iff.1 h
      exact hopen (htext ▸ List.mem_cons_self)
  rw [Ip.numeric?, hquad, hbracketed]
  rfl

theorem lookupName_text (h : resolver.ReadsNumbers) (ip : V6) :
    lookupName resolver ip.text = .ok [.v6 ip 0] := by
  have hnul : '\x00' ∉ ip.text.toList := V6.notMem_of_parse? (by decide) (V6.parse?_text ip)
  rw [lookupName, if_neg (by simpa using hnul), h.new]
  rfl

/-- Text without an `l` is looked at for an address. -/
theorem Resolver.offline_of_notMem {host : String} (hl : 'l' ∉ host.toList)
    (h : ((V4.parse? host.toList).map .v4).or (Ip.scoped? Scope.ofText? host.toList) = some ip) :
    Resolver.offline host = .ok [ip] := by
  have hname : host ≠ "localhost" := by
    rintro rfl
    exact hl (by decide)
  rw [Resolver.offline, if_neg hname, h]

/-- The colons tell the new family from the old one. -/
theorem Resolver.readsNumbers_offline : Resolver.offline.ReadsNumbers where
  old ip := by
    have hread := V4.quad?_text ip
    refine offline_of_notMem (V4.notMem_of_quad? (by decide) hread) ?_
    rw [V4.parse?_of_quad? hread]
    rfl
  new ip := by
    have hread := V6.parse?_text ip
    have hpercent : '%' ∉ ip.text.toList := V6.notMem_of_parse? (by decide) hread
    have hquad : V4.parse? ip.text.toList = none :=
      V4.parse?_eq_none_of_mem (by decide) (V6.colon_mem_of_parse? hread)
    refine offline_of_notMem (V6.notMem_of_parse? (by decide) hread) ?_
    rw [hquad, Ip.scoped?_of_notMem hpercent, hread]
    rfl

end Net
end MailGateway
