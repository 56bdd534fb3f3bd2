/-
# Which headers count

Four headers of a request are looked at, and of each only the first value:

| header | decides |
| --- | --- |
| `content-type` | the backend, and whether a posted mail is taken for JSON |
| `grpc-encoding` | whether the body of a call is read |
| `traceparent`, `tracestate` | the parent of the exported span |

`Alike` is agreement on all that decides an answer but its spans, and `SameTrace` on the
rest.  Alike requests are counted the same, and their answers differ at most in the parents
of their spans (`step_alike`).  So the recorder goes the same way through two runs of pairwise
alike requests (`recorder_run_alike`), and other headers, later values of these four and the
order of headers are of no account (`run_reads_four_headers`).
-/

import Mathlib.Data.List.Forall2
import MailGateway.Proofs.App.Step

namespace MailGateway

namespace Http.Headers

/-- The text of a field depends on its first value. -/
theorem text?_congr {hs ts : Headers} {name : String} (h : hs.first? name = ts.first? name) :
    hs.text? name = ts.text? name := by
  rw [text?, text?, h]

end Http.Headers

namespace App

/-- Two requests of one method, target, version and body that agree on the first type and
on the first encoding, or on having none. -/
structure Alike (r q : Http.Request) : Prop where
  method : r.method = q.method
  target : r.target = q.target
  version : r.version = q.version
  content : r.content = q.content
  type : r.headers.first? "content-type" = q.headers.first? "content-type"
  encoding : r.headers.first? "grpc-encoding" = q.headers.first? "grpc-encoding"

/-- Two requests that agree on what their callers say of the trace. -/
structure SameTrace (r q : Http.Request) : Prop where
  parent : r.headers.first? "traceparent" = q.headers.first? "traceparent"
  state : r.headers.first? "tracestate" = q.headers.first? "tracestate"

/-- Two answers that may differ in their spans only. -/
structure AgreeButSpans (a b : Answer) : Prop where
  backend : a.backend = b.backend
  response : a.response = b.response
  events : a.events = b.events

theorem AgreeButSpans.refl (a : Answer) : AgreeButSpans a a := ⟨rfl, rfl, rfl⟩

variable {ρ : Metrics.Recorder} {r q : Http.Request} {rs qs : List Http.Request}

namespace Alike

theorem path (h : Alike r q) : r.path = q.path := congrArg Http.targetPath h.target

theorem typeText (h : Alike r q) :
    r.headers.text? "content-type" = q.headers.text? "content-type" :=
  Http.Headers.text?_congr h.type

theorem isCall (h : Alike r q) : App.isCall r = App.isCall q := by
  rw [App.isCall, App.isCall, h.version, h.typeText]

/-! ### Calls -/

theorem checkEncoding (h : Alike r q) :
    Grpc.checkEncoding r.headers = Grpc.checkEncoding q.headers := by
  rw [Grpc.checkEncoding, Grpc.checkEncoding, h.encoding]

theorem acceptCall (h : Alike r q) : Grpc.accept r = Grpc.accept q := by
  rw [Grpc.accept, Grpc.accept, h.path, h.checkEncoding, h.content]

theorem callCounts (h : Alike r q) (c : Grpc.Code) : callCounts r c = callCounts q c := by
  rw [App.callCounts, App.callCounts, h.path]

theorem tellLength (h : Alike r q) (response : Http.Response) :
    tellLength r response = tellLength q response := by
  rw [App.tellLength, App.tellLength, h.path, h.method]

/-! ### The gateway -/

theorem acceptMail (h : Alike r q) : Rest.accept r = Rest.accept q := by
  rw [Rest.accept, Rest.accept, Rest.announcesJson, Rest.announcesJson, h.typeText, h.content]

/-- Of the routes only that of mails looks at headers and body. -/
theorem serve (h : Alike r q) (ρ : Metrics.Recorder) (route : Rest.Route) :
    Rest.serve ρ route r = Rest.serve ρ route q := by
  cases route with
  | mail => rw [Rest.serve, Rest.serve, Rest.post, Rest.post, h.acceptMail]
  | _ => rfl

theorem answer (h : Alike r q) (ρ : Metrics.Recorder) : Rest.answer ρ r = Rest.answer ρ q := by
  simp only [Rest.answer, Rest.whole, h.path, h.method, h.serve]

theorem series (h : Alike r q) (status : Nat) : Rest.series r status = Rest.series q status := by
  rw [Rest.series, Rest.series, h.path, h.method]

end Alike

/-- The exported spans of a call depend on its path and on what the caller says of the
trace. -/
theorem SameTrace.callSpans (ht : SameTrace r q) (h : Alike r q) (c : Grpc.Code) :
    callSpans r c = callSpans q c := by
  have hparent : r.headers.text? "traceparent" = q.headers.text? "traceparent" :=
    Http.Headers.text?_congr ht.parent
  have hstate : r.headers.text? "tracestate" = q.headers.text? "tracestate" :=
    Http.Headers.text?_congr ht.state
  have hcontext : Trace.Context.ofHeaders? r.headers = Trace.Context.ofHeaders? q.headers := by
    rw [Trace.Context.ofHeaders?, Trace.Context.ofHeaders?, hparent, hstate]
  rw [App.callSpans, App.callSpans, Trace.Span.begin, Trace.Span.begin, h.path, hcontext]

/-- **Alike requests are counted and answered alike**, but for the spans of calls, which
also depend on what the caller says of the trace. -/
theorem step_alike (h : Alike r q) (ρ : Metrics.Recorder) :
    (step ρ r).1 = (step ρ q).1 ∧ AgreeButSpans (step ρ r).2 (step ρ q).2 ∧
      (SameTrace r q → (step ρ r).2.spans = (step ρ q).2.spans) := by
  cases hr : isCall r with
  | false =>
    have hsame : step ρ r = step ρ q := by
      rw [step_gateway hr, step_gateway (h.isCall ▸ hr), h.answer, h.series]
    rw [hsame]
    exact ⟨rfl, .refl _, fun _ => rfl⟩
  | true =>
    have hq : isCall q = true := h.isCall ▸ hr
    cases ha : Grpc.accept r with
    | ok request =>
      rw [step_served hr ha, step_served hq (h.acceptCall ▸ ha), h.callCounts, h.path]
      exact ⟨rfl, ⟨rfl, rfl, rfl⟩, fun ht => ht.callSpans h _⟩
    | error f =>
      rw [step_refused hr ha, step_refused hq (h.acceptCall ▸ ha), h.callCounts, h.path,
        h.tellLength]
      exact ⟨rfl, ⟨rfl, rfl, rfl⟩, fun ht => ht.callSpans h _⟩

/-- The recorder goes the same way through runs of alike requests. -/
theorem recorder_run_alike (h : List.Forall₂ Alike rs qs) (ρ : Metrics.Recorder) :
    (run ρ rs).1 = (run ρ qs).1 := by
  induction h generalizing ρ with
  | nil => rfl
  | cons hstep _ ih =>
    rw [run_cons, run_cons, ← (step_alike hstep ρ).1]
    exact ih _

/-- **Only the first values of four headers count.**  In two runs of pairwise alike requests,
whatever other headers each of them carries and in whatever order:

* the same is counted;
* the answers at one place agree on all but their spans, and on these as well if the callers
  say the same of the trace. -/
theorem run_reads_four_headers (ρ : Metrics.Recorder) (h : List.Forall₂ Alike rs qs) :
    (run ρ rs).1 = (run ρ qs).1 ∧
      ∀ (i : Nat) (r q : Http.Request), rs[i]? = some r → qs[i]? = some q →
        ∃ a b, (run ρ rs).2[i]? = some a ∧ (run ρ qs).2[i]? = some b ∧
          AgreeButSpans a b ∧ (SameTrace r q → a.spans = b.spans) := by
  refine ⟨recorder_run_alike h ρ, ?_⟩
  -- behind two alike requests the recorder is the same, so the next two start from one
  induction h generalizing ρ with
  | nil => simp
  | cons hstep _ ih =>
    obtain ⟨hcounted, hagree, htrace⟩ := step_alike hstep ρ
    intro i r q hr hq
    rw [run_cons, run_cons, ← hcounted]
    cases i with
    | zero =>
      obtain rfl := Option.some.inj hr
      obtain rfl := Option.some.inj hq
      exact ⟨_, _, rfl, rfl, hagree, htrace⟩
    | succ i => exact ih _ i r q hr hq

/-- A call in two spellings: the second one has headers in front of and between those that
count, a second type and a second parent, and its body in two pieces. -/
theorem run_reads_four_headers_laden :
    let parent := Utf8.ascii "00-4bf92f3577b34da6a3ce929d0e0e4736-00f067aa0ba902b7-01"
    let bare : Http.Request :=
      { method := "POST", target := "/email.v1alpha1.EmailService/SendMail", version := .http2
        headers := [("content-type", Utf8.ascii "application/grpc"), ("traceparent", parent)]
        pieces := [[0, 0, 0, 0, 0]] }
    let laden : Http.Request :=
      { bare with
        headers := [("User-Agent", Utf8.ascii "x"), ("Traceparent", parent),
          ("grpc-timeout", Utf8.ascii "1S"), ("Content-Type", Utf8.ascii "application/grpc"),
          ("content-type", Utf8.ascii "application/json"), ("traceparent", Utf8.ascii "00-0-0-00")]
        pieces := [[0, 0], [0, 0, 0]] }
    List.Forall₂ Alike [bare, bare] [bare, laden] ∧ SameTrace bare laden ∧
      (run .empty [bare, bare]).1 = (run .empty [bare, laden]).1 ∧
      ∃ a b, (run .empty [bare, bare]).2[1]? = some a ∧
        (run .empty [bare, laden]).2[1]? = some b ∧ AgreeButSpans a b ∧ a.spans = b.spans := by
  intro parent bare laden
  have halike : Alike bare laden :=
    ⟨rfl, rfl, rfl, by decide +kernel, by decide +kernel, by decide +kernel⟩
  have htrace : SameTrace bare laden := ⟨by decide +kernel, by decide +kernel⟩
  have hruns : List.Forall₂ Alike [bare, bare] [bare, laden] :=
    .cons ⟨rfl, rfl, rfl, rfl, rfl, rfl⟩ (.cons halike .nil)
  obtain ⟨hcounted, hanswers⟩ := run_reads_four_headers .empty hruns
  obtain ⟨a, b, ha, hb, hagree, hspans⟩ := hanswers 1 bare laden rfl rfl
  exact ⟨hruns, htrace, hcounted, a, b, ha, hb, hagree, hspans htrace⟩

end App
end MailGateway
