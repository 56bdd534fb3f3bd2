/-
# The JSON gateway

A request is routed by its path, then checked against the route's methods.  A posted
mail is refused in this order:

| status | if |
| --- | --- |
| 415 | the body is not announced as JSON |
| 413 | it is longer than `maxBody` bytes |
| 400 | it is no JSON text |
| 422 | it is JSON of another shape |

and answered otherwise; only then is the mail service asked, which reports the
length of the message.  A request for the headers is answered like one for the whole,
without the body.
-/

import MailGateway.Log.Event
import MailGateway.Http.MediaType
import MailGateway.Mail.Message
import MailGateway.Rest.Assets
import MailGateway.Rest.OpenApi
import MailGateway.Rest.Routes

namespace MailGateway
namespace Rest

/-- The longest body that is read. -/
def maxBody : Nat := 2097152

/-- Why a posted mail was refused. -/
inductive Refusal where
  | notJson
  | tooLong
  | fault (body : Bytes) (fault : Json.Fault)

namespace Refusal

/-- The status of a refusal. -/
def status : Refusal → Nat
  | .notJson => 415
  | .tooLong => 413
  | .fault _ f => if f.cause.category = .mismatched then 422 else 400

/-- The text of a refusal. -/
def message : Refusal → String
  | .notJson => "Expected request with `Content-Type: application/json`"
  | .tooLong => "Failed to buffer the request body: length limit exceeded"
  | .fault body f =>
    (if f.cause.category = .mismatched then
      "Failed to deserialize the JSON body into the target type: "
     else "Failed to parse the request body as JSON: ")
      ++ f.place.opening ++ f.message body

/-- The answer to a mail that was refused. -/
def response (r : Refusal) : Http.Response :=
  .ofBytes r.status "text/plain; charset=utf-8" (Utf8.encode r.message)

end Refusal

/-- Whether the headers announce a JSON body. -/
def announcesJson (headers : Http.Headers) : Bool :=
  match (headers.text? "content-type").bind Http.MediaType.parse? with
  | some type => type.isJson
  | none => false

/-- The mail that a request posts. -/
def accept (r : Http.Request) : Except Refusal Mail.Request :=
  if !announcesJson r.headers then .error .notJson
  else
    let body := r.content
    if maxBody < body.length then .error .tooLong
    else
      match Mail.Request.ofJson body with
      | .ok request => .ok request
      | .error f => .error (.fault body f)

/-- Answers a posted mail, and reports it to the log when the service is asked. -/
def post (r : Http.Request) : Http.Response × List Log.Event :=
  match accept r with
  | .error refusal => (refusal.response, [])
  | .ok request =>
    (.ofBytes 200 "application/json" (Mail.answer request).toJson,
     [.handling (Utf8.size request.message) (some .request)])

/-- The answer to a request that no route takes.  Its length is told only where the
path does not start with a slash. -/
def notFound (path : String) : Http.Response :=
  if path.toList.head? = some '/' then { status := 404, headers := [], content := .bytes [] }
  else .empty 404 []

/-- The answer of a route to one of its methods, before the body is left out. -/
def serve (recorder : Metrics.Recorder) (route : Route) (r : Http.Request) :
    Http.Response × List Log.Event :=
  match route with
  | .mail => post r
  | .document => (.ofBytes 200 "application/json" OpenApi.page, [])
  | .metrics =>
    ({ status := 200
       headers := [Http.field "content-type" "text/plain; version=0.0.4; charset=utf-8"]
       content := .exposition recorder.exposition }, [])
  | .browser => (.empty 303 [Http.field "location" Route.browserPath], [])
  | .browserRoot => (Assets.answer "", [])
  | .browserFile rest => (Assets.answerEncoded rest, [])

/-- The whole answer to a request, before a body that was not asked for is left out. -/
def whole (recorder : Metrics.Recorder) (r : Http.Request) : Http.Response × List Log.Event :=
  match Route.ofPath? r.path with
  | none => (notFound r.path, [])
  | some route =>
    if route.takes r.method then serve recorder route r
    else (.empty 405 [Http.field "allow" route.allowed], [])

/-- What a method leaves of an answer. -/
def leave (method : String) (response : Http.Response) : Http.Response :=
  if method = "HEAD" then response.withoutBody else response

/-- Answers a request; `recorder` is what the metrics page shows. -/
def answer (recorder : Metrics.Recorder) (r : Http.Request) : Http.Response × List Log.Event :=
  let (response, events) := whole recorder r
  (leave r.method response, events)

/-- The answer as it is sent: the lengths of pages and files are told before a body is left
out. -/
def sent (z : Http.Sizes) (recorder : Metrics.Recorder) (r : Http.Request) : Http.Response :=
  leave r.method ((whole recorder r).1.measured z)

/-- What a request of the gateway adds to the metrics. -/
def series (r : Http.Request) (status : Nat) : List Metrics.Series :=
  let labels : Metrics.RouteLabels := ⟨r.method, pathLabel r.path, status⟩
  [.requests labels, .requestSeconds labels]

end Rest
end MailGateway
