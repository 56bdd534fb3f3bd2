/-
# The routes of the gateway

Five paths are compared byte for byte; besides, everything below `/swagger-ui/`
belongs to the files of the API browser.  The mail route is posted to, the others
are read.
-/

import MailGateway.Http.Message

namespace MailGateway
namespace Rest

/-- What a path leads to. -/
inductive Route where
  | mail
  | document
  | metrics
  | browser
  | browserRoot
  | browserFile (rest : String)
  deriving DecidableEq, Repr

namespace Route

/-- The path of the mail route. -/
def mailPath : String := "/v1alpha1/email"

/-- The path of the API browser. -/
def browserPath : String := "/swagger-ui/"

/-- The route of a path. -/
def ofPath? (path : String) : Option Route :=
  if path = mailPath then some .mail
  else if path = "/swagger.json" then some .document
  else if path = "/metrics" then some .metrics
  else if path = "/swagger-ui" then some .browser
  else if path = browserPath then some .browserRoot
  else if browserPath.toList.isPrefixOf path.toList then
    some (.browserFile (String.ofList (path.toList.drop browserPath.length)))
  else none

/-- The name that requests of a route are counted under. -/
def template : Route → String
  | .mail => mailPath
  | .document => "/swagger.json"
  | .metrics => "/metrics"
  | .browser => "/swagger-ui"
  | .browserRoot => browserPath
  | .browserFile _ => "/swagger-ui/\x7b*rest\x7d"

/-- The methods of a route, as the header `allow` lists them. -/
def allowed : Route → String
  | .mail => "POST"
  | _ => "GET,HEAD"

/-- Whether a route takes a method. -/
def takes (route : Route) (method : String) : Bool :=
  match route with
  | .mail => method = "POST"
  | _ => method = "GET" || method = "HEAD"

end Route

/-- The label of requests that no route takes. -/
def unmatched : String := "unmatched"

/-- The label of a path. -/
def pathLabel (path : String) : String := ((Route.ofPath? path).map Route.template).getD unmatched

end Rest
end MailGateway
