/-
# The echo of both protocols

A message posted to the gateway as JSON, and one sent in a call, come back unchanged,
up to a limit of the protocol, and past it the mail service is not asked:

| request | limit in bytes | past the limit |
| --- | ---: | --- |
| JSON text of the request | 2097152 | status 413 |
| binary record of the request | 4194304 | code `outOfRange`, no body |

Both limits are on the written form and not on the message.  The pieces in which a
body arrives play no part: `PostsMail` and `CallsMail` speak of the whole body.

`echo_exact_limits` is assembled from one statement for each cell: `step_post`,
`step_post_tooLong`, `step_call` and `step_call_tooLong`.
-/

import MailGateway.Proofs.App.Step
import MailGateway.Proofs.Grpc.Frames
import MailGateway.Proofs.Json.RoundTrip
import MailGateway.Proofs.Protobuf.Canonical

namespace MailGateway
namespace App

variable {ρ : Metrics.Recorder} {r : Http.Request} {m : String}

/-- The request posts a message to the gateway, as compact JSON. -/
structure PostsMail (r : Http.Request) (m : String) : Prop where
  method : r.method = "POST"
  path : r.path = Rest.Route.mailPath
  type : r.headers.first? "content-type" = some (Utf8.ascii "application/json")
  body : r.content = (Mail.Request.mk m).toJson

/-- The request calls the mail service with a message, in one uncompressed frame, and
names no encoding but `identity`. -/
structure CallsMail (r : Http.Request) (m : String) : Prop where
  version : r.version = .http2
  method : r.method = "POST"
  path : r.path = Grpc.sendPath
  type : r.headers.first? "content-type" = some (Utf8.ascii "application/grpc")
  encoding : r.headers.first? "grpc-encoding" = none ∨
    r.headers.first? "grpc-encoding" = some (Utf8.ascii "identity")
  body : Grpc.Frame.Holds r.content (Protobuf.writeRecord m)

/-- The gateway accepted a message, and its answer is a reply with this text. -/
def Answer.RepliesJson (a : Answer) (text : String) : Prop :=
  a.response.status = 200 ∧
    ∃ body, a.response.content = .bytes body ∧ Mail.Reply.ofJson body = .ok ⟨text⟩

/-- The call was served, and its answer is one frame with a reply of this text. -/
def Answer.RepliesFrame (a : Answer) (text : String) : Prop :=
  Grpc.Sends a.response .ok ∧
    ∃ body message, a.response.content = .bytes body ∧ Grpc.Frame.Holds body message ∧
      Protobuf.parseRecord message = .ok text

theorem text?_contentType {value : Bytes} {text : String}
    (h : r.headers.first? "content-type" = some value)
    (hv : Http.Headers.valueText? value = some text) :
    r.headers.text? "content-type" = some text := by
  rw [Http.Headers.text?, h]
  exact hv

theorem PostsMail.text? (h : PostsMail r m) :
    r.headers.text? "content-type" = some "application/json" :=
  text?_contentType h.type (by decide)

theorem PostsMail.not_isCall (h : PostsMail r m) : isCall r = false := by
  have hc : contains "application/grpc".toList "application/json".toList = false := by
    decide
  simp only [isCall, h.text?, hc, Bool.and_false]

theorem PostsMail.announcesJson (h : PostsMail r m) : Rest.announcesJson r.headers = true := by
  rw [Rest.announcesJson, h.text?]
  decide +kernel

theorem CallsMail.isCall (h : CallsMail r m) : isCall r = true := by
  have ht : r.headers.text? "content-type" = some "application/grpc" :=
    text?_contentType h.type (by decide)
  have hc : contains "application/grpc".toList "application/grpc".toList = true := by
    decide
  simp only [App.isCall, h.version, decide_true, ht, hc, Bool.and_true]

/-- A posted mail is answered by the mail route. -/
theorem answer_posted (hmethod : r.method = "POST") (hpath : r.path = Rest.Route.mailPath) :
    Rest.answer ρ r = Rest.post r := by
  have hroute : Rest.Route.ofPath? r.path = some .mail := by
    rw [hpath]
    rfl
  have htakes : Rest.Route.takes .mail r.method = true := by
    rw [hmethod]
    rfl
  have hhead : r.method ≠ "HEAD" := by
    rw [hmethod]
    decide
  simp only [Rest.answer, Rest.whole, Rest.leave, hroute, htakes, ↓reduceIte, hhead, Rest.serve]

theorem PostsMail.accept (h : PostsMail r m)
    (hle : (Mail.Request.mk m).toJson.length ≤ Rest.maxBody) : Rest.accept r = .ok ⟨m⟩ := by
  rw [← h.body] at hle
  simp only [Rest.accept, h.announcesJson, Bool.not_true, Bool.false_eq_true, ↓reduceIte,
    Nat.not_lt.2 hle]
  rw [h.body, Mail.Request.ofJson_toJson]

theorem PostsMail.accept_tooLong (h : PostsMail r m)
    (hlt : Rest.maxBody < (Mail.Request.mk m).toJson.length) :
    Rest.accept r = .error .tooLong := by
  rw [← h.body] at hlt
  simp only [Rest.accept, h.announcesJson, Bool.not_true, Bool.false_eq_true, ↓reduceIte, hlt]

/-- **Within the limit the gateway replies with the message.** -/
theorem step_post (h : PostsMail r m)
    (hle : (Mail.Request.mk m).toJson.length ≤ Rest.maxBody) :
    (step ρ r).2.RepliesJson m ∧ (step ρ r).2.asked = 1 := by
  rw [step_gateway h.not_isCall, answer_posted h.method h.path, Rest.post, h.accept hle]
  exact ⟨⟨rfl, _, rfl, Mail.Reply.ofJson_toJson ⟨m⟩⟩, rfl⟩

/-- **Past the limit the gateway refuses the body** and asks nobody. -/
theorem step_post_tooLong (h : PostsMail r m)
    (hlt : Rest.maxBody < (Mail.Request.mk m).toJson.length) :
    (step ρ r).2.response.status = 413 ∧ (step ρ r).2.asked = 0 := by
  rw [step_gateway h.not_isCall, answer_posted h.method h.path, Rest.post, h.accept_tooLong hlt]
  exact ⟨rfl, rfl⟩

theorem CallsMail.accept_eq_receive (h : CallsMail r m) :
    Grpc.accept r = Grpc.receive r.content := by
  have hcheck : Grpc.checkEncoding r.headers = .ok () := by
    rcases h.encoding with he | he <;> simp [Grpc.checkEncoding, he]
  simp only [Grpc.accept, h.path, ne_eq, not_true_eq_false, ↓reduceIte, hcheck]

theorem CallsMail.accept (h : CallsMail r m)
    (hle : (Protobuf.writeRecord m).length ≤ Grpc.Frame.maxMessage) :
    Grpc.accept r = .ok ⟨m⟩ := by
  rw [h.accept_eq_receive]
  exact Grpc.receive_frame h.body hle
    (Protobuf.parseRecord_writeRecord_of_length (Nat.lt_of_le_of_lt hle (by decide)))

/-- **Within the limit a call gets its own body back.** -/
theorem step_call (h : CallsMail r m)
    (hle : (Protobuf.writeRecord m).length ≤ Grpc.Frame.maxMessage) :
    Grpc.Sends (step ρ r).2.response .ok ∧
      (step ρ r).2.response.content = .bytes r.content ∧ (step ρ r).2.asked = 1 := by
  rw [step_served h.isCall (h.accept hle)]
  refine ⟨Grpc.sends_success _, ?_, rfl⟩
  exact congrArg Http.Content.bytes h.body.eq_write.symm

/-- **Past the limit a call is refused** without a body, and nobody is asked. -/
theorem step_call_tooLong (h : CallsMail r m)
    (hlt : Grpc.Frame.maxMessage < (Protobuf.writeRecord m).length) :
    Grpc.Sends (step ρ r).2.response .outOfRange ∧
      (step ρ r).2.response.content = .bytes [] ∧ (step ρ r).2.asked = 0 := by
  have haccept : Grpc.accept r = .error (.badFrame (.tooLong (Protobuf.writeRecord m).length)) := by
    rw [h.accept_eq_receive]
    exact Grpc.receive_frame_tooLong h.body hlt
  rw [step_refused h.isCall haccept]
  exact ⟨sends_tellLength (Grpc.Failure.sends_response _), content_tellLength r _, rfl⟩

theorem Answer.RepliesJson.text_eq {a : Answer} {x y : String} (hx : a.RepliesJson x)
    (hy : a.RepliesJson y) : x = y := by
  obtain ⟨-, bs, hbs, hread⟩ := hx
  obtain ⟨-, cs, hcs, hread'⟩ := hy
  obtain rfl := Http.Content.bytes.inj (hbs.symm.trans hcs)
  exact congrArg Mail.Reply.error (Except.ok.inj (hread.symm.trans hread'))

theorem Answer.RepliesFrame.text_eq {a : Answer} {x y : String} (hx : a.RepliesFrame x)
    (hy : a.RepliesFrame y) : x = y := by
  obtain ⟨-, bs, message, hbs, hframe, hread⟩ := hx
  obtain ⟨-, cs, message', hcs, hframe', hread'⟩ := hy
  obtain rfl := Http.Content.bytes.inj (hbs.symm.trans hcs)
  obtain rfl := hframe.message_eq hframe'
  exact Except.ok.inj (hread.symm.trans hread')

/-- A reply of the gateway to a posted message is that message. -/
theorem PostsMail.eq_of_repliesJson (h : PostsMail r m) {text : String}
    (hr : (step ρ r).2.RepliesJson text) : text = m := by
  rcases Nat.lt_or_ge Rest.maxBody (Mail.Request.mk m).toJson.length with hlt | hle
  · have hstatus := (step_post_tooLong (ρ := ρ) h hlt).1
    rw [hr.1] at hstatus
    simp at hstatus
  · exact hr.text_eq (step_post h hle).1

/-- A reply to a call with a message is that message. -/
theorem CallsMail.eq_of_repliesFrame (h : CallsMail r m) {text : String}
    (hr : (step ρ r).2.RepliesFrame text) : text = m := by
  rcases Nat.lt_or_ge Grpc.Frame.maxMessage (Protobuf.writeRecord m).length with hlt | hle
  · have hcode := (step_call_tooLong (ρ := ρ) h hlt).1.code_eq
    rw [hr.1.code_eq] at hcode
    simp at hcode
  · obtain ⟨hok, hcontent, -⟩ := step_call (ρ := ρ) h hle
    exact hr.text_eq ⟨hok, _, _, hcontent, h.body,
      Protobuf.parseRecord_writeRecord_of_length (Nat.lt_of_le_of_lt hle (by decide))⟩

/-- **Both protocols echo every message, up to exact limits.**  The first part is on the
gateway, the second on calls; by the third, whenever both reply, they reply the same. -/
theorem echo_exact_limits (m : String) :
    (∀ ρ r, PostsMail r m →
      ((Mail.Request.mk m).toJson.length ≤ 2097152 →
        (step ρ r).2.RepliesJson m ∧ (step ρ r).2.asked = 1) ∧
      (2097152 < (Mail.Request.mk m).toJson.length →
        (step ρ r).2.response.status = 413 ∧ (step ρ r).2.asked = 0)) ∧
    (∀ ρ r, CallsMail r m →
      ((Protobuf.writeRecord m).length ≤ 4194304 →
        Grpc.Sends (step ρ r).2.response .ok ∧
          (step ρ r).2.response.content = .bytes r.content ∧ (step ρ r).2.asked = 1) ∧
      (4194304 < (Protobuf.writeRecord m).length →
        Grpc.Sends (step ρ r).2.response .outOfRange ∧
          (step ρ r).2.response.content = .bytes [] ∧ (step ρ r).2.asked = 0)) ∧
    (∀ ρ σ p c, PostsMail p m → CallsMail c m → ∀ x y, (step ρ p).2.RepliesJson x →
      (step σ c).2.RepliesFrame y → x = m ∧ y = m) := by
  refine ⟨fun ρ r h => ⟨step_post h, step_post_tooLong h⟩,
    fun ρ r h => ⟨step_call h, step_call_tooLong h⟩, fun ρ σ p c hp hc x y hx hy => ⟨?_, ?_⟩⟩
  · exact hp.eq_of_repliesJson hx
  · exact hc.eq_of_repliesFrame hy

/-- A message with a quote, a line feed and a character of two bytes, posted in two pieces
and called with in one: both reply with it. -/
theorem echo_exact_limits_quoted :
    (step .empty
      { method := "POST", target := "/v1alpha1/email", version := .http11
        headers := [("Content-Type", Utf8.ascii "application/json")]
        pieces := [Utf8.ascii "\x7b\"message\":\"a\\\"", Utf8.encode "\\né\"\x7d"] }).2.RepliesJson
          "a\"\né" ∧
    (step .empty
      { method := "POST", target := "/email.v1alpha1.EmailService/SendMail", version := .http2
        headers := [("content-type", Utf8.ascii "application/grpc")]
        pieces := [[0, 0, 0, 0, 7, 10, 5, 97, 34, 10, 195, 169]] }).2.response.content
          = .bytes [0, 0, 0, 0, 7, 10, 5, 97, 34, 10, 195, 169] := by
  obtain ⟨hpost, hcall, -⟩ := echo_exact_limits "a\"\né"
  refine ⟨((hpost _ _ ⟨rfl, ?_, ?_, ?_⟩).1 ?_).1, ((hcall _ _ ⟨rfl, rfl, ?_, ?_, ?_, ?_⟩).1 ?_).2.1⟩
  · decide
  · decide +kernel
  · decide
  · decide
  · decide
  · decide +kernel
  · exact .inl (by decide +kernel)
  · exact ⟨0, 0, 0, 7, by decide +kernel⟩
  · decide +kernel

end App
end MailGateway
