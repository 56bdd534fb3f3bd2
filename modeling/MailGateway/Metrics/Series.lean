/-
# Metric series

Five families are kept.  A series is one member of a family: its labels are fixed by
the family, their values by the request that is counted.

| family | kind | labels |
| --- | --- | --- |
| `http_requests_total` | counter | method, path, status |
| `http_request_duration_seconds` | summary | method, path, status |
| `grpc_server_started_total` | counter | grpc_type, grpc_service, grpc_method |
| `grpc_server_handled_total` | counter | the same and grpc_code |
| `grpc_server_handling_seconds` | summary | grpc_type, grpc_service, grpc_method |

To the exporter a series is no more than a `Key`, a name and labels, and so may be any
other metric of the process.
-/

import MailGateway.Grpc.Code

namespace MailGateway
namespace Metrics

/-- What a metric is known by: its name, and its labels in order. -/
structure Key where
  name : String
  labels : List (String × String)
  deriving DecidableEq, Repr, Inhabited

/-- What a gateway request is counted under. -/
structure RouteLabels where
  method : String
  path : String
  status : Nat
  deriving DecidableEq, Repr

/-- What a call is counted under. -/
structure CallLabels where
  service : String
  method : String
  deriving DecidableEq, Repr

/-- The five families. -/
inductive Family where
  | requests
  | requestSeconds
  | started
  | handled
  | handlingSeconds
  deriving DecidableEq, Repr

/-- All families. -/
def Family.all : List Family := [.requests, .requestSeconds, .started, .handled, .handlingSeconds]

theorem Family.mem_all (f : Family) : f ∈ all := by
  cases f <;> decide

/-- A family's name. -/
def Family.name : Family → String
  | .requests => "http_requests_total"
  | .requestSeconds => "http_request_duration_seconds"
  | .started => "grpc_server_started_total"
  | .handled => "grpc_server_handled_total"
  | .handlingSeconds => "grpc_server_handling_seconds"

/-- What a family counts, in words. -/
def Family.help : Family → String
  | .requests => "Total number of HTTP requests served by the REST gateway and static routes."
  | .requestSeconds => "Latency of HTTP requests served by the REST gateway and static routes."
  | .started => "Total number of RPCs started on the server."
  | .handled => "Total number of RPCs completed on the server, regardless of success or failure."
  | .handlingSeconds => "Latency of RPCs handled by the server."

/-- Whether a family holds observations, not a number that is counted up. -/
def Family.isSummary : Family → Bool
  | .requestSeconds | .handlingSeconds => true
  | .requests | .started | .handled => false

/-- One series. -/
inductive Series where
  | requests (labels : RouteLabels)
  | requestSeconds (labels : RouteLabels)
  | started (labels : CallLabels)
  | handled (labels : CallLabels) (code : Grpc.Code)
  | handlingSeconds (labels : CallLabels)
  deriving DecidableEq, Repr

/-- The family of a series. -/
def Series.family : Series → Family
  | .requests _ => .requests
  | .requestSeconds _ => .requestSeconds
  | .started _ => .started
  | .handled _ _ => .handled
  | .handlingSeconds _ => .handlingSeconds

/-- The labels of a gateway request, in order. -/
def RouteLabels.pairs (l : RouteLabels) : List (String × String) :=
  [("method", l.method), ("path", l.path), ("status", toString l.status)]

/-- The labels of a call, in order. -/
def CallLabels.pairs (l : CallLabels) : List (String × String) :=
  [("grpc_type", "unary"), ("grpc_service", l.service), ("grpc_method", l.method)]

/-- The labels of a series, in order. -/
def Series.labels : Series → List (String × String)
  | .requests l | .requestSeconds l => l.pairs
  | .started l | .handlingSeconds l => l.pairs
  | .handled l code => l.pairs ++ [("grpc_code", code.name)]

/-- What the exporter knows a series by. -/
def Series.key (s : Series) : Key := ⟨s.family.name, s.labels⟩

end Metrics
end MailGateway
