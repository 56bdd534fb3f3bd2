/-
# Spans of calls

Each call has a span that names its service and method.  The span learns the code of
the call from two observers:

* at the head of the answer, only if the header map has a status;
* at the end of the body, from the trailers; without trailers the code is `ok`.

Each observation is reported as one event, and the last code stays on the span.  A
span is exported unless the caller's trace is not recorded.
-/

import MailGateway.Log.Event
import MailGateway.Metrics.Series
import MailGateway.Trace.Context

namespace MailGateway
namespace Trace

/-- The span of one call. -/
structure Span where
  labels : Metrics.CallLabels
  parent : Option Context
  code : Option Grpc.Code
  deriving DecidableEq, Repr

/-- Service and method named by a path: the parts around the first slash, slashes at
the front left out.  Without a slash the service is not known. -/
def callLabels (path : String) : Metrics.CallLabels :=
  let cs := path.toList.dropWhile (· = '/')
  match cs.dropWhile (· ≠ '/') with
  | [] => ⟨"unknown", String.ofList cs⟩
  | _ :: method => ⟨String.ofList (cs.takeWhile (· ≠ '/')), String.ofList method⟩

/-- The span of a call as it begins. -/
def Span.begin (path : String) (headers : Http.Headers) : Span :=
  ⟨callLabels path, Context.ofHeaders? headers, none⟩

/-- The span with a code, and the report of it. -/
def Span.finish (s : Span) (code : Grpc.Code) (millis : Option Binary64) : Span × List Log.Event :=
  ({ s with code := some code }, [.finished code millis])

/-- Observes the head of the answer. -/
def Span.onHead (s : Span) (headers : Http.Headers) (millis : Option Binary64) :
    Span × List Log.Event :=
  if headers.has Grpc.Code.headerName then s.finish (Grpc.Code.ofHeaders headers) millis
  else (s, [])

/-- Observes the end of the body. -/
def Span.onEnd (s : Span) (trailers : Option Http.Headers) (millis : Option Binary64) :
    Span × List Log.Event :=
  s.finish ((trailers.map Grpc.Code.ofHeaders).getD .ok) millis

/-- A span as it is exported. -/
structure Exported where
  parent : Option Context
  attributes : List (String × String)
  deriving DecidableEq, Repr

/-- The export of a span that has ended; nothing for a trace that is not recorded. -/
def Span.exported (s : Span) : List Exported :=
  match s.parent with
  | some ⟨_, _, false, _⟩ => []
  | parent =>
    let code := (s.code.map fun c => ("grpc.code", c.name)).toList
    [⟨parent, [("rpc.system", "grpc"), ("grpc.service", s.labels.service),
      ("grpc.method", s.labels.method)] ++ code⟩]

end Trace
end MailGateway
