/-
# Settings

The settings of the program, their defaults, and how each is read from a table of
values (`Settings.ofTable?`).  A setting takes one kind of value and no other; only
`debug` also takes numbers, and words for yes and no.
-/

import MailGateway.Duration.Units
import MailGateway.Config.Value
import MailGateway.Numbers

namespace MailGateway

/-- The number of a port. -/
abbrev Port := Fin 65536

namespace Config

/-- All settings. -/
structure Settings where
  host : String := "0.0.0.0"
  port : Port := 9091
  secure : Bool := true
  certFile : String := "certs/server.pem"
  keyFile : String := "certs/server.key"
  gracePeriod : Duration := ⟨10, 0⟩
  otlpEndpoint : Option String := none
  serviceName : String := "email-backend"
  debug : Bool := false
  deriving DecidableEq, Repr, Inhabited

/-- What a setting takes. -/
inductive Expected where
  | port
  | text
  | boolean
  | path
  | duration
  deriving DecidableEq, Repr, Inhabited

/-- How messages call it. -/
def Expected.message : Expected → String
  | .port => "u16"
  | .text => "a string"
  | .boolean => "a boolean"
  | .path => "path string"
  | .duration => "a duration"

/-- How messages call a value. -/
def Value.message : Value → String
  | .scalar .null _ => "unit value"
  | .scalar (.boolean b) _ => s!"boolean `{b}`"
  | .scalar (.integer n) _ => s!"integer `{n}`"
  | .scalar (.real x) _ => s!"floating point `{x.text Binary64.Style.pointed}`"
  | .scalar (.text s) _ => s!"string {Quoted.text s}"
  | .sequence _ _ => "sequence"
  | .table _ => "map"

/-- Why a value was refused. -/
inductive Refusal where
  /-- The value is of another kind. -/
  | kind (found : Value) (expected : Expected)
  /-- The kind is right, but the value has no meaning. -/
  | value (found : Value) (expected : Expected)
  /-- The value of `debug` is neither yes nor no. -/
  | debug (found : Value)
  /-- The value is a duration that overflows: this ends the program. -/
  | overflow
  deriving Repr, Inhabited

/-- Where a value came from, as messages tell it. -/
def inOrigin : Option String → String
  | some origin => " in " ++ origin
  | none => ""

/-- The text of a refusal. -/
def Refusal.message : Refusal → String
  | .kind found expected => s!"invalid type: {found.message}, expected {expected.message}"
  | .value found expected => s!"invalid value: {found.message}, expected {expected.message}"
  | .debug found =>
    s!"invalid type: {found.message}, expected a boolean for key `debug`" ++ inOrigin found.origin
  | .overflow => ""

namespace Value

/-- The value as a text. -/
def toText (v : Value) (expected : Expected) : Except Refusal String :=
  match v with
  | .scalar (.text s) _ => .ok s
  | _ => .error (.kind v expected)

/-- The value as a text, or none for null. -/
def toOptionalText (v : Value) : Except Refusal (Option String) :=
  match v with
  | .scalar .null _ => .ok none
  | _ => (v.toText .text).map some

/-- The value as a truth value. -/
def toBoolean (v : Value) : Except Refusal Bool :=
  match v with
  | .scalar (.boolean b) _ => .ok b
  | _ => .error (.kind v .boolean)

/-- The value as the number of a port. -/
def toPort (v : Value) : Except Refusal Port :=
  match v with
  | .scalar (.integer n) _ =>
    if h : n.toNat < 65536 then
      if 0 ≤ n then .ok ⟨n.toNat, h⟩ else .error (.value v .port)
    else .error (.value v .port)
  | _ => .error (.kind v .port)

/-- The value as a duration. -/
def toDuration (v : Value) : Except Refusal Duration :=
  match v with
  | .scalar (.text s) _ =>
    match Duration.ofText s with
    | .ok d => .ok d
    | .error .meaningless => .error (.value v .duration)
    | .error .overflow => .error .overflow
  | _ => .error (.kind v .duration)

/-- The value as a switch: a number is on unless it is zero, and a text is a word for
yes or no. -/
def toSwitch (v : Value) : Except Refusal Bool :=
  match v with
  | .scalar (.boolean b) _ => .ok b
  | .scalar (.integer n) _ => .ok (n ≠ 0)
  | .scalar (.real x) _ => .ok !x.isZero
  | .scalar (.text s) origin =>
    let s := Text.lower s
    if ["1", "true", "on", "yes"].contains s then .ok true
    else if ["0", "false", "off", "no"].contains s then .ok false
    else .error (.debug (.scalar (.text s) origin))
  | _ => .error (.debug v)

end Value

/-- The setting of a name, or its default. -/
def Table.setting {α : Type} (t : Table) (name : String) (read : Value → Except Refusal α)
    (default : α) : Except Refusal α :=
  match t.get? name with
  | some v => read v
  | none => .ok default

/-- The names of all settings. -/
def Settings.names : List String :=
  ["host", "port", "secure", "cert_file", "key_file", "shutdown_grace_period", "otlp_endpoint",
   "service_name", "debug"]

/-- The settings that a table holds; names that are no settings do not matter. -/
def Settings.ofTable? (t : Table) : Except Refusal Settings := do
  let defaults : Settings := {}
  let host ← t.setting "host" (·.toText .text) defaults.host
  let port ← t.setting "port" (·.toPort) defaults.port
  let secure ← t.setting "secure" (·.toBoolean) defaults.secure
  let certFile ← t.setting "cert_file" (·.toText .path) defaults.certFile
  let keyFile ← t.setting "key_file" (·.toText .path) defaults.keyFile
  let gracePeriod ← t.setting "shutdown_grace_period" (·.toDuration) defaults.gracePeriod
  let otlpEndpoint ← t.setting "otlp_endpoint" (·.toOptionalText) defaults.otlpEndpoint
  let serviceName ← t.setting "service_name" (·.toText .text) defaults.serviceName
  let debug ← t.setting "debug" (·.toSwitch) defaults.debug
  pure { host, port, secure, certFile, keyFile, gracePeriod, otlpEndpoint, serviceName, debug }

end Config
end MailGateway
