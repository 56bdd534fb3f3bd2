/-
# Two protocols on one port

A request goes to the call backend when it is HTTP/2 and its first content type is
readable and contains `application/grpc`; every other request goes to the gateway.
`App.step` answers one request.  All that lasts from one request to the next is the
recorder, and all that shows of it is the metrics page.

Around a call stand three observers: the recorder, which counts the call's start,
its code from the headers, and its end; and the span, which looks at the headers and
at the end of the body.
-/

import MailGateway.Grpc.Call
import MailGateway.Rest.Gateway
import MailGateway.Trace.Span

namespace MailGateway
namespace App

/-- The two backends. -/
inductive Backend where
  | calls
  | gateway
  deriving DecidableEq, Repr

/-- Whether `part` stands somewhere in `text`. -/
def contains (part : List Char) : List Char → Bool
  | [] => part.isEmpty
  | c :: cs => part.isPrefixOf (c :: cs) || contains part cs

/-- Whether a request is a call. -/
def isCall (r : Http.Request) : Bool :=
  r.version = .http2 &&
    match r.headers.text? "content-type" with
    | some type => contains "application/grpc".toList type.toList
    | none => false

/-- The backend of a request. -/
def backend (r : Http.Request) : Backend := if isCall r then .calls else .gateway

/-- All that a request brings about, the recorder apart. -/
structure Answer where
  backend : Backend
  response : Http.Response
  events : List Log.Event
  spans : List Trace.Exported

/-- The answer to a call and the report of the mail service, if it was asked. -/
def call (r : Http.Request) : Http.Response × List Log.Event :=
  match Grpc.accept r with
  | .error f => (f.response, [])
  | .ok request =>
    (Grpc.success (Mail.answer request), [.handling (Utf8.size request.message) (some .call)])

/-- An answer whose path has no slash in front tells the length of an empty body,
unless it answers the opening of a tunnel. -/
def tellLength (r : Http.Request) (response : Http.Response) : Http.Response :=
  if r.path.toList.head? = some '/' ∨ r.method = "CONNECT" then response
  else { response with headers := response.headers ++ [Http.field "content-length" "0"] }

/-- What a call adds to the metrics. -/
def callSeries (labels : Metrics.CallLabels) (response : Http.Response) : List Metrics.Series :=
  [.started labels, .handled labels (Grpc.Code.ofHeaders response.headers), .handlingSeconds labels]

/-- Answers a call under its observers. -/
def serveCall (r : Http.Request) : Answer × List Metrics.Series :=
  let span := Trace.Span.begin r.path r.headers
  let (response, handled) := call r
  let (span, atHead) := span.onHead response.headers none
  let (span, atEnd) := span.onEnd response.trailers none
  ({ backend := .calls
     response := tellLength r response
     events := .dispatching r.path :: (handled ++ atHead ++ atEnd)
     spans := span.exported },
   callSeries span.labels response)

/-- Answers a request of the gateway. -/
def serveGateway (recorder : Metrics.Recorder) (r : Http.Request) : Answer × List Metrics.Series :=
  let (response, events) := Rest.answer recorder r
  ({ backend := .gateway, response, events, spans := [] }, Rest.series r response.status)

/-- Answers a request. -/
def serve (recorder : Metrics.Recorder) (r : Http.Request) : Answer × List Metrics.Series :=
  match backend r with
  | .calls => serveCall r
  | .gateway => serveGateway recorder r

/-- Answers a request and counts it. -/
def step (recorder : Metrics.Recorder) (r : Http.Request) : Metrics.Recorder × Answer :=
  let (answer, series) := serve recorder r
  (recorder.countAll series, answer)

/-- Answers requests one after another. -/
def run (recorder : Metrics.Recorder) : List Http.Request → Metrics.Recorder × List Answer
  | [] => (recorder, [])
  | r :: rs =>
    let (recorder, answer) := step recorder r
    let (recorder, answers) := run recorder rs
    (recorder, answer :: answers)

end App
end MailGateway
