/-
# A call is served or refused

Whatever bytes a call has for its body, its answer is of one of two kinds and never
between them: `Served`, one frame with the reply and the status `ok` behind it, or
`Refused`, a code among the headers and nothing else (`call_served_xor_refused`).

The reply is a normal form.  It is the shortest written form of the message in the
first frame, so it fits the limit that this frame has kept, and sent back as a request
it is answered with itself, in whatever pieces and whatever was counted before.
-/

import MailGateway.Proofs.App.Step
import MailGateway.Proofs.Grpc.Frames
import MailGateway.Proofs.Protobuf.Canonical

namespace MailGateway
namespace App

variable {ρ σ : Metrics.Recorder} {r : Http.Request} {text : String}

/-- The call was served: `text` is the message in the first frame of its body, and the
answer is one frame with the shortest record of it. -/
structure Served (r : Http.Request) (a : Answer) (text : String) : Prop where
  status : ∃ trailers, a.response.trailers = some trailers ∧
    trailers.first? Grpc.Code.headerName = some Grpc.Code.ok.numeral
  content : ∃ body, a.response.content = .bytes body ∧
    Grpc.Frame.Holds body (Protobuf.writeRecord text)
  request : ∃ frame message rest, r.content = frame ++ rest ∧ Grpc.Frame.Holds frame message ∧
    Protobuf.parseRecord message = .ok text
  asked : a.asked = 1

/-- The call was refused: another code than `ok` stands among the headers, and there is
nothing behind them. -/
structure Refused (a : Answer) : Prop where
  status : ∃ code : Grpc.Code, code ≠ .ok ∧
    a.response.headers.first? Grpc.Code.headerName = some code.numeral
  content : a.response.content = .bytes []
  trailers : a.response.trailers = none
  asked : a.asked = 0

theorem Served.not_refused {a : Answer} (h : Served r a text) : ¬Refused a := fun hr => by
  have := h.asked
  rw [hr.asked] at this
  simp at this

/-- Path and encoding are checked before the body, so an accepted call stays one with
every other body that is received. -/
theorem accept_withPieces {q : Mail.Request} (h : Grpc.accept r = .ok q) (pieces : List Bytes) :
    Grpc.accept { r with pieces } = Grpc.receive pieces.flatten := by
  unfold Grpc.accept at h
  split at h
  · simp at h
  · next hpath =>
    split at h
    · simp at h
    · next henc =>
      rw [Grpc.accept, if_neg (by exact hpath)]
      simp only [henc]
      rfl

theorem receive_of_accept {q : Mail.Request} (h : Grpc.accept r = .ok q) :
    Grpc.receive r.content = .ok q :=
  (accept_withPieces h r.pieces).symm.trans h

/-- The reply to an accepted call fits the limit. -/
theorem length_writeRecord_of_accept {q : Mail.Request} (h : Grpc.accept r = .ok q) :
    (Protobuf.writeRecord q.message).length ≤ Grpc.Frame.maxMessage := by
  obtain ⟨frame, message, rest, -, -, hle, hread⟩ := Grpc.receive_first (receive_of_accept h)
  calc (Protobuf.writeRecord q.message).length
      ≤ message.length := Protobuf.length_writeRecord_le hread
    _ ≤ Grpc.Frame.maxMessage := hle

theorem served_of_accept {q : Mail.Request} (hr : isCall r = true) (h : Grpc.accept r = .ok q) :
    Served r (step ρ r).2 q.message := by
  have hlen := length_writeRecord_of_accept h
  obtain ⟨frame, message, rest, hbody, hframe, -, hread⟩ := Grpc.receive_first (receive_of_accept h)
  rw [step_served hr h]
  refine ⟨⟨_, rfl, Grpc.first?_statusField .ok []⟩, ⟨_, rfl, ?_⟩,
    ⟨frame, message, rest, hbody, hframe, hread⟩, rfl⟩
  exact Grpc.Frame.holds_write (Nat.lt_of_le_of_lt hlen (by decide))

theorem refused_of_accept {f : Grpc.Failure} (hr : isCall r = true)
    (h : Grpc.accept r = .error f) : Refused (step ρ r).2 := by
  rw [step_refused hr h]
  exact ⟨⟨f.code, f.code_ne_ok, first?_tellLength f.first?_response⟩, content_tellLength r _,
    trailers_tellLength r _, rfl⟩

/-- A served call was accepted, with the message that it is answered with. -/
theorem accept_of_served (hr : isCall r = true) (h : Served r (step ρ r).2 text) :
    Grpc.accept r = .ok ⟨text⟩ := by
  cases ha : Grpc.accept r with
  | error f => exact absurd (refused_of_accept hr ha) h.not_refused
  | ok q =>
    obtain ⟨body, hbody, hframe⟩ := h.content
    obtain ⟨body', hbody', hframe'⟩ := (served_of_accept (ρ := ρ) hr ha).content
    obtain rfl := Http.Content.bytes.inj (hbody.symm.trans hbody')
    have hsame : Protobuf.writeRecord text = Protobuf.writeRecord q.message :=
      hframe.message_eq hframe'
    have hlen : (Protobuf.writeRecord q.message).length < 2 ^ 64 :=
      Nat.lt_of_le_of_lt (length_writeRecord_of_accept ha) (by decide)
    have hread := Protobuf.parseRecord_writeRecord_of_length hlen
    rw [← hsame, Protobuf.parseRecord_writeRecord_of_length (hsame ▸ hlen)] at hread
    rw [Except.ok.inj hread]

/-- **The reply is a normal form**: sent back, it is answered with itself. -/
theorem served_reply {body : Bytes} (hr : isCall r = true) (h : Served r (step ρ r).2 text)
    (hbody : (step ρ r).2.response.content = .bytes body) {pieces : List Bytes}
    (hp : pieces.flatten = body) :
    Served { r with pieces } (step σ { r with pieces }).2 text ∧
      (step σ { r with pieces }).2.response.content = .bytes body := by
  have ha := accept_of_served hr h
  have hlen := length_writeRecord_of_accept ha
  obtain ⟨body', hbody', hframe⟩ := h.content
  obtain rfl := Http.Content.bytes.inj (hbody'.symm.trans hbody)
  have hagain : Grpc.accept { r with pieces } = .ok ⟨text⟩ := by
    rw [accept_withPieces ha, hp]
    exact Grpc.receive_frame hframe hlen
      (Protobuf.parseRecord_writeRecord_of_length (Nat.lt_of_le_of_lt hlen (by decide)))
  have hcall : isCall { r with pieces } = true := hr
  refine ⟨served_of_accept hcall hagain, ?_⟩
  rw [step_served hcall hagain]
  exact congrArg Http.Content.bytes hframe.eq_write.symm

/-- **A call is served or refused, never both and never half**, and the body of a reply is
the reply to itself. -/
theorem call_served_xor_refused (ρ : Metrics.Recorder) (r : Http.Request)
    (hr : isCall r = true) :
    ((∃ text, Served r (step ρ r).2 text) ∧ ¬Refused (step ρ r).2 ∨
      Refused (step ρ r).2 ∧ ¬∃ text, Served r (step ρ r).2 text) ∧
    ∀ text body, Served r (step ρ r).2 text → (step ρ r).2.response.content = .bytes body →
      ∀ (σ : Metrics.Recorder) (pieces : List Bytes), pieces.flatten = body →
        Served { r with pieces } (step σ { r with pieces }).2 text ∧
          (step σ { r with pieces }).2.response.content = .bytes body := by
  refine ⟨?_, fun text body h hbody σ pieces hp => served_reply hr h hbody hp⟩
  cases ha : Grpc.accept r with
  | ok q =>
    have hserved := served_of_accept (ρ := ρ) hr ha
    exact .inl ⟨⟨_, hserved⟩, hserved.not_refused⟩
  | error f =>
    have hrefused := refused_of_accept (ρ := ρ) hr ha
    exact .inr ⟨hrefused, fun ⟨_, h⟩ => h.not_refused hrefused⟩

/-- A call with a padded length, an unknown field and a second, empty frame is served. -/
theorem call_served_xor_refused_padded :
    let r : Http.Request :=
      { method := "POST", target := "/email.v1alpha1.EmailService/SendMail", version := .http2
        headers := [("content-type", Utf8.ascii "application/grpc+proto")]
        pieces := [[0, 0, 0], [0, 6, 10, 129, 0, 97, 16, 1, 0, 0, 0], [0, 0]] }
    isCall r = true ∧ ∃ text, Served r (step .empty r).2 text := by
  intro r
  have hcall : isCall r = true := by decide +kernel
  refine ⟨hcall, ?_⟩
  rcases (call_served_xor_refused .empty r hcall).1 with h | h
  · exact h.1
  · exact absurd h.1.asked (by decide +kernel)

end App
end MailGateway
