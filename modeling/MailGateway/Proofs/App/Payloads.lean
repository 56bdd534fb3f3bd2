/-
# Payloads behind one another

A call carries a payload, a record, in one frame.  Two payloads that calls are served with may be
put one behind the other: the call is served, and replies with the message of the second one if
that has one, and else with that of the first.  An empty message is one, too.

So a newer caller may put fields of its own in front of the message and behind it, groups and all,
and the reply stays the same (`payloads_compose`).
-/

import Mathlib
import MailGateway.Proofs.App.Verdict
import MailGateway.Proofs.Protobuf.Grammar

namespace MailGateway
namespace App

variable {ρ : Metrics.Recorder} {r : Http.Request} {p q payload : Bytes} {text : String}

/-- The request is a call of the mail service with a payload, in one uncompressed frame, and names
no encoding but `identity`. -/
structure Carries (r : Http.Request) (payload : Bytes) : Prop where
  called : isCall r = true
  method : r.method = "POST"
  path : r.path = Grpc.sendPath
  encoding : r.headers.first? "grpc-encoding" = none ∨
    r.headers.first? "grpc-encoding" = some (Utf8.ascii "identity")
  body : Grpc.Frame.Holds r.content payload

/-- The same call with another payload, in pieces. -/
theorem Carries.withPieces (h : Carries r p) {pieces : List Bytes}
    (hbody : Grpc.Frame.Holds pieces.flatten payload) : Carries { r with pieces } payload :=
  ⟨h.called, h.method, h.path, h.encoding, hbody⟩

theorem Carries.accept_eq_receive (h : Carries r payload) :
    Grpc.accept r = Grpc.receive r.content := by
  have hcheck : Grpc.checkEncoding r.headers = .ok () := by
    rcases h.encoding with he | he <;> simp [Grpc.checkEncoding, he]
  simp only [Grpc.accept, h.path, ne_eq, not_true_eq_false, ↓reduceIte, hcheck]

/-- A payload that is a record within the limit is served with its text. -/
theorem Carries.served (h : Carries r payload) (hle : payload.length ≤ Grpc.Frame.maxMessage)
    (hread : Protobuf.parseRecord payload = .ok text) : Served r (step ρ r).2 text := by
  have haccept : Grpc.accept r = .ok ⟨text⟩ := by
    rw [h.accept_eq_receive]
    exact Grpc.receive_frame h.body hle hread
  exact served_of_accept h.called haccept

/-- **A payload that a call is served with is a record**, and the reply has its text. -/
theorem Carries.parseRecord (h : Carries r payload) (hs : Served r (step ρ r).2 text) :
    Protobuf.parseRecord payload = .ok text := by
  have hreceive := receive_of_accept (accept_of_served h.called hs)
  obtain ⟨frame, message, rest, hcontent, hframe, hle, hread⟩ := Grpc.receive_first hreceive
  have hfirst : Grpc.Frame.next? r.content = .ok (some (message, rest)) := by
    rw [hcontent]
    exact hframe.next? hle rest
  rcases Nat.lt_or_ge Grpc.Frame.maxMessage payload.length with hlt | hge
  · have hlong := h.body.next?_tooLong hlt []
    rw [List.append_nil, hfirst] at hlong
    cases hlong
  · have hwhole := h.body.next? hge []
    rw [List.append_nil, hfirst] at hwhole
    obtain ⟨rfl, -⟩ := Prod.mk.inj (Option.some.inj (Except.ok.inj hwhole))
    exact hread

/-- **Payloads compose.**  Where one call is served with `p` and another with `q`, a call with `p`
and `q` behind it is served, with the message of `q` if that has the text field and else with that
of `p`.  Fields that are not the text field change no reply, wherever they stand. -/
theorem payloads_compose {ρ₁ ρ₂ : Metrics.Recorder} {r₁ r₂ : Http.Request} {x y : String}
    (hp : Carries r₁ p) (hx : Served r₁ (step ρ₁ r₁).2 x)
    (hq : Carries r₂ q) (hy : Served r₂ (step ρ₂ r₂).2 y) (hle : (p ++ q).length ≤ 4194304) :
    Carries { r₁ with pieces := [Grpc.Frame.write (p ++ q)] } (p ++ q) ∧
    (∀ ρ r, Carries r (p ++ q) →
      (Protobuf.HasText q → Served r (step ρ r).2 y) ∧
      (¬Protobuf.HasText q → Served r (step ρ r).2 x)) ∧
    ∀ u, Protobuf.IsForeign u → (p ++ u).length ≤ 4194304 → ∀ ρ r,
      Carries r (u ++ p) ∨ Carries r (p ++ u) → Served r (step ρ r).2 x := by
  have hreadp := hp.parseRecord hx
  have hreadq := hq.parseRecord hy
  refine ⟨?frame, fun ρ r h => ⟨fun htext => ?second, fun htext => ?first⟩,
    fun u hu hlength ρ r h => ?foreign⟩
  case frame =>
    have hlt : (p ++ q).length < 2 ^ 32 := Nat.lt_of_le_of_lt hle (by decide)
    refine hp.withPieces ?_
    rw [List.flatten_singleton]
    exact Grpc.Frame.holds_write hlt
  case second =>
    exact h.served hle (Protobuf.parseRecord_append_of_hasText hreadp hreadq htext)
  case first =>
    exact h.served hle (Protobuf.parseRecord_append_of_not_hasText hreadp hreadq htext)
  case foreign =>
    obtain ⟨hbefore, hbehind⟩ := hu.parseRecord_append hreadp
    rcases h with h | h
    · refine h.served ?_ hbefore
      rw [List.length_append, Nat.add_comm, ← List.length_append]
      exact hlength
    · exact h.served hlength hbehind

/-- A call with a payload. -/
def callWith (payload : Bytes) : Http.Request :=
  { method := "POST", target := Grpc.sendPath, version := .http2
    headers := [("content-type", Utf8.ascii "application/grpc")]
    pieces := [Grpc.Frame.write payload] }

theorem carries_callWith (h : payload.length < 2 ^ 32) : Carries (callWith payload) payload := by
  have hbody : Grpc.Frame.Holds (callWith payload).content payload := by
    rw [Http.Request.content, callWith, List.flatten_singleton]
    exact Grpc.Frame.holds_write h
  refine ⟨?_, rfl, ?_, .inl ?_, hbody⟩
  · change isCall (callWith []) = true
    decide +kernel
  · change (callWith []).path = _
    decide
  · change (callWith []).headers.first? "grpc-encoding" = none
    decide +kernel

/-- A message behind a foreign field, then an empty message; and a group in front. -/
theorem payloads_compose_group :
    let p : Bytes := [16, 5, 10, 1, 97]
    let q : Bytes := [10, 0]
    let u : Bytes := [27, 8, 1, 28]
    Served (callWith p) (step .empty (callWith p)).2 "a" ∧
      Served (callWith q) (step .empty (callWith q)).2 "" ∧
      Protobuf.HasText q ∧ Protobuf.IsForeign u ∧
      Served (callWith (p ++ q)) (step .empty (callWith (p ++ q))).2 "" ∧
      Served (callWith (u ++ p)) (step .empty (callWith (u ++ p))).2 "a" := by
  intro p q u
  have hp : Carries (callWith p) p := carries_callWith (by decide)
  have hq : Carries (callWith q) q := carries_callWith (by decide)
  have hx : Served (callWith p) (step .empty (callWith p)).2 "a" :=
    hp.served (by decide) (by cbv)
  have hy : Served (callWith q) (step .empty (callWith q)).2 "" :=
    hq.served (by decide) (by cbv)
  have htext : Protobuf.HasText q := by
    obtain ⟨b, hb, hfield⟩ :=
      Protobuf.readField_eq_ok_iff.1 (by cbv : Protobuf.readField q = .ok (some "", []))
    rw [hb]
    exact ⟨_, .cons hfield .nil, "", List.mem_singleton.2 rfl⟩
  have hforeign : Protobuf.IsForeign u := by
    obtain ⟨b, hb, hfield⟩ :=
      Protobuf.readField_eq_ok_iff.1 (by cbv : Protobuf.readField u = .ok (none, []))
    rw [hb]
    exact ⟨_, .cons hfield .nil, fun f hf => List.mem_singleton.1 hf⟩
  obtain ⟨-, hsecond, hfront⟩ := payloads_compose hp hx hq hy (by decide)
  refine ⟨hx, hy, htext, hforeign, (hsecond _ _ (carries_callWith (by decide))).1 htext, ?_⟩
  exact hfront u hforeign (by decide) _ _ (.inl (carries_callWith (by decide)))

end App
end MailGateway
