/-
# What the observers of a call report

Three observers watch a call: the recorder, the log and the exported span.  `Reported`
says that all of them name one code, and that the log names it once.

The recorder always names the code that was sent (`value_handled`).  The log and the span
do so for served calls only: the end of a body without trailers is reported as `ok`, and
a refused call, whose code is among the headers, has such an end.  Its log names two codes
and its span keeps the wrong one (`call_reported_iff`).
-/

import MailGateway.Proofs.App.Step

namespace MailGateway
namespace App

variable {ρ : Metrics.Recorder} {r : Http.Request} {c : Grpc.Code}

/-- The code that an event reports as the end of a call. -/
def finishedCode? : Log.Event → Option Grpc.Code
  | .finished c _ => some c
  | _ => none

/-- The codes that the log reports as ends of calls, in order. -/
def Answer.finishedCodes (a : Answer) : List Grpc.Code := a.events.filterMap finishedCode?

/-- All exported spans name this code. -/
def Answer.SpansName (a : Answer) (c : Grpc.Code) : Prop :=
  ∀ span ∈ a.spans, span.attributes.lookup "grpc.code" = some c.name

/-- Of the calls that have ended, this one was added under this code, and nothing else. -/
def CountedAs (ρ : Metrics.Recorder) (r : Http.Request) (c : Grpc.Code) : Prop :=
  ∀ labels d, (step ρ r).1.value (.handled labels d) =
    ρ.value (.handled labels d) + if labels = Trace.callLabels r.path ∧ d = c then 1 else 0

/-- The observers of a call name this code, the log in exactly one event. -/
structure Reported (ρ : Metrics.Recorder) (r : Http.Request) (c : Grpc.Code) : Prop where
  logged : (step ρ r).2.finishedCodes = [c]
  exported : (step ρ r).2.SpansName c
  counted : CountedAs ρ r c

/-- An exported span names the last code that it was given. -/
theorem lookup_callSpans {span : Trace.Exported} (h : span ∈ callSpans r c) :
    span.attributes.lookup "grpc.code" = some c.name := by
  unfold callSpans Trace.Span.exported at h
  split at h
  · exact absurd h List.not_mem_nil
  · obtain rfl := List.mem_singleton.1 h
    rfl

theorem value_handled (ρ : Metrics.Recorder) (r : Http.Request) (c : Grpc.Code)
    (labels : Metrics.CallLabels) (d : Grpc.Code) :
    (ρ.countAll (callCounts r c)).value (.handled labels d) = ρ.value (.handled labels d) +
      if labels = Trace.callLabels r.path ∧ d = c then 1 else 0 := by
  have hsame : (Metrics.Series.handled (Trace.callLabels r.path) c = .handled labels d) ↔
      labels = Trace.callLabels r.path ∧ d = c := by
    rw [Metrics.Series.handled.injEq, eq_comm, @eq_comm _ c]
  simp only [callCounts, Metrics.Recorder.countAll, List.foldl_cons, List.foldl_nil,
    Metrics.Recorder.value_count, hsame, reduceCtorEq, ↓reduceIte, Nat.add_zero]

/-- **A served call** is reported as `ok` by all of its observers. -/
theorem reported_served {q : Mail.Request} (hr : isCall r = true) (h : Grpc.accept r = .ok q) :
    Reported ρ r .ok := by
  refine ⟨?_, ?_, fun labels d => ?_⟩
  · rw [step_served hr h]
    rfl
  · rw [step_served hr h]
    exact fun _ hspan => lookup_callSpans hspan
  · rw [step_served hr h]
    exact value_handled ρ r .ok labels d

/-- **A refused call** is counted under the code that was sent, and reported as `ok` at its
end. -/
theorem observed_refused {f : Grpc.Failure} (hr : isCall r = true)
    (h : Grpc.accept r = .error f) :
    (step ρ r).2.finishedCodes = [f.code, .ok] ∧ (step ρ r).2.SpansName .ok ∧
      CountedAs ρ r f.code := by
  refine ⟨?_, ?_, fun labels d => ?_⟩
  · rw [step_refused hr h]
    rfl
  · rw [step_refused hr h]
    exact fun _ hspan => lookup_callSpans hspan
  · rw [step_refused hr h]
    exact value_handled ρ r f.code labels d

/-- **The observers agree on the code that was sent exactly where it is `ok`.**  On any
other code the recorder is right, the log has one event too many, and the span says `ok`. -/
theorem call_reported_iff (ρ : Metrics.Recorder) (r : Http.Request) (hr : isCall r = true) :
    ∃ code, Grpc.Sends (step ρ r).2.response code ∧ CountedAs ρ r code ∧
      (Reported ρ r code ↔ code = .ok) ∧
      (code ≠ .ok → (step ρ r).2.finishedCodes = [code, .ok] ∧ (step ρ r).2.SpansName .ok) := by
  cases ha : Grpc.accept r with
  | ok q =>
    have hreported : Reported ρ r .ok := reported_served hr ha
    exact ⟨.ok, sends_step_served hr ha, hreported.counted, iff_of_true hreported rfl,
      fun hne => absurd rfl hne⟩
  | error f =>
    obtain ⟨hlog, hspans, hcounted⟩ := observed_refused (ρ := ρ) hr ha
    have hnot : ¬Reported ρ r f.code := fun h => by
      have htwice := h.logged
      rw [hlog] at htwice
      simp at htwice
    exact ⟨f.code, sends_step_refused hr ha, hcounted, iff_of_false hnot f.code_ne_ok,
      fun _ => ⟨hlog, hspans⟩⟩

/-- A call with an empty message is served, and reported as such. -/
theorem call_reported_iff_empty :
    let r : Http.Request :=
      { method := "POST", target := "/email.v1alpha1.EmailService/SendMail", version := .http2
        headers := [("content-type", Utf8.ascii "application/grpc")], pieces := [[0, 0, 0, 0, 0]] }
    isCall r = true ∧ Reported .empty r .ok := by
  intro r
  have hcall : isCall r = true := by decide +kernel
  have hsent : Grpc.sentCode (step .empty r).2.response = .ok := by decide +kernel
  obtain ⟨code, hsends, -, hiff, -⟩ := call_reported_iff .empty r hcall
  obtain rfl : code = .ok := hsends.code_eq.symm.trans hsent
  exact ⟨hcall, hiff.2 rfl⟩

/-- A call of a method that does not exist is answered `unimplemented`, which its log takes
back and its span does not name. -/
theorem missing_not_reported :
    let r : Http.Request :=
      { method := "POST", target := "/email.v1alpha1.EmailService/Missing", version := .http2
        headers := [("content-type", Utf8.ascii "application/grpc")], pieces := [] }
    r.method = "POST" ∧ isCall r = true ∧
      (step .empty r).2.finishedCodes = [.unimplemented, .ok] ∧
      (step .empty r).2.spans.map (·.attributes.lookup "grpc.code") = [some "Ok"] ∧
      Grpc.Sends (step .empty r).2.response .unimplemented ∧
      ¬∃ code, Grpc.Sends (step .empty r).2.response code ∧ Reported .empty r code := by
  intro r
  -- The answer is evaluated once, so what is seen of it is decided together.
  have hanswer : isCall r = true ∧
      (step .empty r).2.finishedCodes = [.unimplemented, .ok] ∧
      (step .empty r).2.spans.map (·.attributes.lookup "grpc.code") = [some "Ok"] ∧
      Grpc.Sends (step .empty r).2.response .unimplemented := by
    unfold Grpc.Sends
    decide +kernel
  obtain ⟨hcall, hlog, hspans, hsends⟩ := hanswer
  refine ⟨rfl, hcall, hlog, hspans, hsends, ?_⟩
  rintro ⟨code, -, h⟩
  have htwice := h.logged
  rw [hlog] at htwice
  simp at htwice

end App
end MailGateway
