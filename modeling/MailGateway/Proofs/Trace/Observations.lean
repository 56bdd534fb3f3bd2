/-
# What a span keeps of its observations

Two observers write to the span of a call, at the head of the answer and at the end of the
body.  Either may come any number of times, in any order (`Span.observeAll`).

| observation | its code |
| --- | --- |
| a head with a status | that of the first status |
| a head without a status | none |
| an end, trailers with a status | that of the first status |
| any other end | `ok` |

Each observation with a code is reported once, with that code, and the others are not reported
(`Span.observe_eq`).  The span ends with the last of these codes, and nothing else of it has
changed (`Span.observeAll_eq`).  So whatever an observer saw before is on the log only.
-/

import Mathlib.Data.List.Basic
import MailGateway.Proofs.Grpc.Status
import MailGateway.Trace.Span

namespace MailGateway
namespace Trace

/-- What an observer sees of an answer, and how long after the call began. -/
inductive Observation where
  | head (headers : Http.Headers) (after : Duration)
  | ending (trailers : Option Http.Headers) (after : Duration)

namespace Observation

/-- How long after the call began. -/
def latency : Observation → Duration
  | .head _ after | .ending _ after => after

/-- The code of an observation, if it has one. -/
def code? : Observation → Option Grpc.Code
  | .head headers _ => (headers.first? Grpc.Code.headerName).map Grpc.Code.ofValue
  | .ending trailers _ =>
    some (((trailers.bind (·.first? Grpc.Code.headerName)).map Grpc.Code.ofValue).getD .ok)

/-- The report of an observation, if it has a code. -/
def report? (o : Observation) : Option Log.Event :=
  o.code?.map fun code => .finished code (some o.latency.toMillis)

end Observation

namespace Span

/-- The span after an observation, and what is reported of it. -/
def observe (s : Span) : Observation → Span × List Log.Event
  | .head headers after => s.onHead headers (some after.toMillis)
  | .ending trailers after => s.onEnd trailers (some after.toMillis)

/-- The span after observations, and what is reported of each. -/
def observeAll (s : Span) : List Observation → Span × List (List Log.Event)
  | [] => (s, [])
  | o :: os =>
    let (s, events) := s.observe o
    let (s, reports) := s.observeAll os
    (s, events :: reports)

variable {s : Span} {o : Observation} {os : List Observation}

/-- **One observation**: its code, if it has one, goes onto the span and into one report. -/
theorem observe_eq (s : Span) (o : Observation) :
    s.observe o = ({ s with code := o.code?.or s.code }, o.report?.toList) := by
  cases o with
  | head headers after =>
    rw [observe, onHead, Grpc.Code.ofHeaders_eq, Http.Headers.has]
    cases hfirst : headers.first? Grpc.Code.headerName with
    | none => simp [Observation.report?, Observation.code?, hfirst]
    | some value =>
      simp [Observation.report?, Observation.code?, hfirst, Observation.latency, finish]
  | ending trailers after =>
    have hcode : (trailers.map Grpc.Code.ofHeaders).getD .ok =
        ((trailers.bind (·.first? Grpc.Code.headerName)).map Grpc.Code.ofValue).getD .ok := by
      cases trailers with
      | none => rfl
      | some headers => exact Grpc.Code.ofHeaders_eq headers
    rw [observe, onEnd, hcode]
    rfl

/-- **All observations**: the last code goes onto the span.  The induction is on the
observations; what a later one has goes before what the span had. -/
theorem observeAll_eq (s : Span) (os : List Observation) :
    s.observeAll os =
      ({ s with code := (os.filterMap Observation.code?).getLast?.or s.code },
        os.map fun o => o.report?.toList) := by
  induction os generalizing s with
  | nil => rfl
  | cons o os ih =>
    rw [observeAll, observe_eq]
    simp only [ih, List.map_cons, List.filterMap_cons]
    cases o.code? with
    | none => rfl
    | some code =>
      rw [List.getLast?_cons, ← Option.or_assoc]
      cases (os.filterMap Observation.code?).getLast? <;> rfl

/-- What is exported of a span with a parent that the headers name, or with none. -/
theorem exported_of_parent (labels : Metrics.CallLabels) (parent : Option Context)
    (code : Option Grpc.Code) : exported ⟨labels, parent, code⟩ =
      if (parent.map (·.sampled)).getD true then
        [⟨parent, [("rpc.system", "grpc"), ("grpc.service", labels.service),
          ("grpc.method", labels.method)] ++ (code.map fun c => ("grpc.code", c.name)).toList⟩]
      else [] := by
  cases parent with
  | none => rfl
  | some context =>
    obtain ⟨trace, span, sampled, state⟩ := context
    cases sampled <;> rfl

end Span

/-- Whether the trace of a call is recorded: as its caller says, or else it is. -/
def isRecorded (headers : Http.Headers) : Bool :=
  ((Context.ofHeaders? headers).map (·.sampled)).getD true

/-- **The log has each code of a span, in order, and the span the last.**  Each observation of a
call has its own report or none, and the export, if there is one, has the code that was reported
last and all else as it began. -/
theorem observations_recorded (r : Http.Request) (os : List Observation) :
    let observed := (Span.begin r.path r.headers).observeAll os
    observed.2 = os.map (fun o => o.report?.toList) ∧
      observed.2.flatten = os.filterMap Observation.report? ∧
      observed.1.exported =
        if isRecorded r.headers then
          [⟨Context.ofHeaders? r.headers,
            [("rpc.system", "grpc"), ("grpc.service", (callLabels r.path).service),
              ("grpc.method", (callLabels r.path).method)] ++
            ((os.filterMap Observation.code?).getLast?.map fun c => ("grpc.code", c.name)).toList⟩]
        else [] := by
  intro observed
  have hall : observed = _ := Span.observeAll_eq (Span.begin r.path r.headers) os
  have hreports : observed.2 = os.map fun o => o.report?.toList := congrArg Prod.snd hall
  refine ⟨hreports, ?log, ?exported⟩
  case log =>
    rw [hreports, ← List.flatMap_def]
    exact (List.filterMap_eq_flatMap_toList _ os).symm
  case exported =>
    rw [hall, Span.begin, Option.or_none]
    exact Span.exported_of_parent _ _ _

example : ((Span.begin "/s/m" []).observeAll
    [.head [("grpc-status", Utf8.ascii "12")] ⟨0, 0⟩, .ending none ⟨0, 0⟩]).1.code = some .ok := by
  decide

end Trace
end MailGateway
