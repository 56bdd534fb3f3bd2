/-
# What one request brings about

`App.step` takes one of three ways, and each of the statements below gives all of its
outcome, the recorder and the answer:

| request | statement |
| --- | --- |
| a call that is accepted | `step_served` |
| a call that is refused | `step_refused` |
| any other request | `step_gateway` |

A refused call is observed twice: the head of its answer tells its code, and the end of
its body, which has no trailers, counts as `ok`.  The span keeps the second code.

`Answer.asked` counts how often the mail service was asked, from its own reports.

A run is one step after another, so a request in the middle of it is answered by the
recorder that the requests before it have left (`answer_run`).
-/

import MailGateway.App
import MailGateway.Proofs.Grpc.Status

namespace MailGateway
namespace App

variable {ρ : Metrics.Recorder} {r : Http.Request}

/-- The mail service reports each message that it is asked to send. -/
def isHandling : Log.Event → Bool
  | .handling _ _ => true
  | _ => false

/-- How often the mail service was asked. -/
def Answer.asked (a : Answer) : Nat := a.events.countP isHandling

/-- What a call with a code adds to the metrics. -/
def callCounts (r : Http.Request) (c : Grpc.Code) : List Metrics.Series :=
  let labels := Trace.callLabels r.path
  [.started labels, .handled labels c, .handlingSeconds labels]

/-- The span of a call that ended with a code, as it is exported. -/
def callSpans (r : Http.Request) (c : Grpc.Code) : List Trace.Exported :=
  ((Trace.Span.begin r.path r.headers).finish c none).1.exported

theorem tellLength_slash {response : Http.Response} (h : r.path.toList.head? = some '/') :
    tellLength r response = response := by
  rw [tellLength, if_pos (.inl h)]

theorem content_tellLength (r : Http.Request) (response : Http.Response) :
    (tellLength r response).content = response.content := by
  unfold tellLength
  split <;> rfl

theorem trailers_tellLength (r : Http.Request) (response : Http.Response) :
    (tellLength r response).trailers = response.trailers := by
  unfold tellLength
  split <;> rfl

/-- The length told behind the other headers hides none of them. -/
theorem first?_tellLength {response : Http.Response} {name : String} {value : Bytes}
    (h : response.headers.first? name = some value) :
    (tellLength r response).headers.first? name = some value := by
  unfold tellLength
  split
  · exact h
  · rw [Http.Headers.first?_append, h]
    rfl

theorem sends_tellLength {response : Http.Response} {c : Grpc.Code}
    (h : Grpc.Sends response c) : Grpc.Sends (tellLength r response) c := by
  unfold Grpc.Sends Grpc.statusFields at h ⊢
  rw [trailers_tellLength]
  cases ht : response.trailers with
  | none => rw [ht] at h; exact first?_tellLength h
  | some ts => rw [ht] at h; exact h

theorem backend_of_isCall (h : isCall r = true) : backend r = .calls := if_pos h

theorem backend_of_not_isCall (h : isCall r = false) : backend r = .gateway := by
  simp [backend, h]

theorem path_of_accept {q : Mail.Request} (h : Grpc.accept r = .ok q) : r.path = Grpc.sendPath := by
  unfold Grpc.accept at h
  split at h
  · simp at h
  · next hpath => exact Decidable.not_not.1 hpath

/-- **An accepted call** is answered with the message itself. -/
theorem step_served {q : Mail.Request} (hr : isCall r = true) (h : Grpc.accept r = .ok q) :
    step ρ r = (ρ.countAll (callCounts r .ok),
      { backend := .calls
        response := Grpc.success (Mail.answer q)
        events := [.dispatching r.path, .handling (Utf8.size q.message) (some .call),
          .finished .ok none]
        spans := callSpans r .ok }) := by
  have hslash : r.path.toList.head? = some '/' := by
    rw [path_of_accept h]
    decide
  have hhas : (Grpc.success (Mail.answer q)).headers.has Grpc.Code.headerName = false := by
    simp [Http.Headers.has, Grpc.first?_success]
  have hcode := Grpc.Code.ofHeaders_of_first?_eq_none (Grpc.first?_success (Mail.answer q))
  have hend : Grpc.Code.ofHeaders [Grpc.statusField .ok] = .ok :=
    (Grpc.sends_success (Mail.answer q)).code_eq
  have htrailers : (Grpc.success (Mail.answer q)).trailers = some [Grpc.statusField .ok] := rfl
  simp only [step, serve, backend_of_isCall hr, serveCall, call, h, Trace.Span.onHead, hhas,
    Bool.false_eq_true, ↓reduceIte, Trace.Span.onEnd, htrailers, Option.map_some,
    Option.getD_some, hend, tellLength_slash hslash, callSeries, hcode]
  rfl

/-- **A refused call** is reported twice, and its span keeps the second code. -/
theorem step_refused {f : Grpc.Failure} (hr : isCall r = true) (h : Grpc.accept r = .error f) :
    step ρ r = (ρ.countAll (callCounts r f.code),
      { backend := .calls
        response := tellLength r f.response
        events := [.dispatching r.path, .finished f.code none, .finished .ok none]
        spans := callSpans r .ok }) := by
  have hhas : f.response.headers.has Grpc.Code.headerName = true := by
    simp [Http.Headers.has, f.first?_response]
  have hcode := Grpc.Code.ofHeaders_of_first? f.first?_response
  simp only [step, serve, backend_of_isCall hr, serveCall, call, h, Trace.Span.onHead, hhas,
    ↓reduceIte, hcode, Trace.Span.onEnd, f.trailers_response, callSeries]
  rfl

theorem sends_step_served {q : Mail.Request} (hr : isCall r = true)
    (h : Grpc.accept r = .ok q) : Grpc.Sends (step ρ r).2.response .ok := by
  rw [step_served hr h]
  exact Grpc.sends_success _

theorem sends_step_refused {f : Grpc.Failure} (hr : isCall r = true)
    (h : Grpc.accept r = .error f) : Grpc.Sends (step ρ r).2.response f.code := by
  rw [step_refused hr h]
  exact sends_tellLength f.sends_response

/-- **Every other request** is answered by the gateway. -/
theorem step_gateway (hr : isCall r = false) :
    step ρ r = (ρ.countAll (Rest.series r (Rest.answer ρ r).1.status),
      { backend := .gateway
        response := (Rest.answer ρ r).1
        events := (Rest.answer ρ r).2
        spans := [] }) := by
  simp only [step, serve, backend_of_not_isCall hr, serveGateway]

theorem backend_step (ρ : Metrics.Recorder) (r : Http.Request) :
    (step ρ r).2.backend = backend r := by
  unfold step serve
  cases backend r <;> rfl

theorem run_cons (ρ : Metrics.Recorder) (r : Http.Request) (rs : List Http.Request) :
    run ρ (r :: rs) =
      ((run (step ρ r).1 rs).1, (step ρ r).2 :: (run (step ρ r).1 rs).2) := rfl

theorem run_append (ρ : Metrics.Recorder) (rs ts : List Http.Request) :
    run ρ (rs ++ ts) =
      ((run (run ρ rs).1 ts).1, (run ρ rs).2 ++ (run (run ρ rs).1 ts).2) := by
  induction rs generalizing ρ with
  | nil => rfl
  | cons r rs ih =>
    simp only [List.cons_append, run, ih]

theorem length_run (ρ : Metrics.Recorder) (rs : List Http.Request) :
    (run ρ rs).2.length = rs.length := by
  induction rs generalizing ρ with
  | nil => rfl
  | cons r rs ih => exact congrArg (· + 1) (ih (step ρ r).1)

theorem backends_run (ρ : Metrics.Recorder) (rs : List Http.Request) :
    (run ρ rs).2.map (·.backend) = rs.map backend := by
  induction rs generalizing ρ with
  | nil => rfl
  | cons r rs ih =>
    rw [run, List.map_cons, List.map_cons, ih, backend_step]

/-- A request in the middle of a run is answered by the recorder of those before it. -/
theorem answer_run (ρ : Metrics.Recorder) (before after : List Http.Request)
    (r : Http.Request) : (run ρ (before ++ r :: after)).2[before.length]? =
      some (step (run ρ before).1 r).2 := by
  rw [run_append, List.getElem?_append_right (Nat.le_of_eq (length_run ρ before)), length_run,
    Nat.sub_self]
  rfl

end App
end MailGateway
