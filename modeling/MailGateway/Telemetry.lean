/-
# Export of spans

Spans are exported if there is an endpoint that is a URI.  The endpoint of the settings
gets the path of spans; one that the environment names is taken as it stands.  Spans are
sent as they are: an environment that asks for a compression stops the export.

Spans wait in a queue until they are sent.  A queue of a length that cannot be, and a
sampler of a known name that does not exist, end the program.
-/

import MailGateway.Config.Layer
import MailGateway.Http.Uri
import MailGateway.Log.Event

namespace MailGateway
namespace Telemetry

/-- Names of the environment that give an endpoint, the first first. -/
def endpointVariables : List String :=
  ["OTEL_EXPORTER_OTLP_TRACES_ENDPOINT", "OTEL_EXPORTER_OTLP_ENDPOINT"]

/-- Names of the environment that ask for a compression, the first first. -/
def compressionVariables : List String :=
  ["OTEL_EXPORTER_OTLP_TRACES_COMPRESSION", "OTEL_EXPORTER_OTLP_COMPRESSION"]

/-- The path of spans. -/
def tracesPath : String := "/v1/traces"

/-- The address that spans are sent to. -/
def target (env : Config.Environment) (endpoint : String) : String :=
  (endpointVariables.findSome? env.get?).getD (endpoint ++ tracesPath)

/-- The error of an export to an address in an environment, if there is one. -/
def fault? (env : Config.Environment) (endpoint : String) : Option String :=
  match compressionVariables.findSome? env.get? with
  | some algorithm => some s!"unsupported compression algorithm '{algorithm}'"
  | none =>
    match Http.Uri.parse false (target env endpoint) with
    | .ok _ => none
    | .error fault => some s!"invalid URI {fault.message}"

/-- The name of the environment that gives a sampler. -/
def samplerVariable : String := "OTEL_TRACES_SAMPLER"

/-- Samplers that have a name but do not exist. -/
def missingSamplers : List String := ["jaeger_remote", "parentbased_jaeger_remote", "xray"]

/-- Whether the environment asks for a sampler that does not exist. -/
def lacksSampler (env : Config.Environment) : Bool :=
  (env.get? samplerVariable).any missingSamplers.contains

/-- The name of the environment that gives the length of the queue. -/
def queueVariable : String := "OTEL_BSP_MAX_QUEUE_SIZE"

/-- A number of 64 bits, perhaps with a plus sign. -/
def length? (s : String) : Option Nat :=
  (match s.toList with
    | '+' :: cs => Numeral.natural? cs
    | cs => Numeral.natural? cs).filter (· < 2 ^ 64)

/-- Whether there can be a queue of a length. -/
def isQueueLength (n : Nat) : Bool := 0 < n && n < 2 ^ 61

/-- Whether the environment asks for a queue that cannot be. -/
def lacksQueue (env : Config.Environment) : Bool :=
  ((env.get? queueVariable).bind length?).any fun n => !isQueueLength n

/-- Sets the export up: whether spans are exported, and what is reported; `none` where this
ends the program. -/
def setUp (env : Config.Environment) (endpoint : Option String) :
    Option (Bool × List Log.Event) :=
  match endpoint with
  | none => some (false, [])
  | some endpoint =>
    if lacksSampler env then none
    else
      match fault? env endpoint with
      | some fault =>
        some (false,
          [.exportDisabled s!"Exporter otlp encountered the following error(s): {fault}"])
      | none => if lacksQueue env then none else some (true, [.exporting endpoint])

/-- The names of the environment that matter to the export. -/
def variableNames : List String :=
  endpointVariables ++ compressionVariables ++ [samplerVariable, queueVariable]

end Telemetry
end MailGateway
