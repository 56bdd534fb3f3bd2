/-
# The fields of the settings

Settings are nine fields, each read from the member of its name, or its default.  The
fields are read one after another, but none of them looks at another: settings are read
exactly where every field is (`Settings.ofTable?_eq_ok_iff`), so what a table holds under
other names does not matter (`Settings.ofTable?_congr`).
-/

import MailGateway.Config.Settings
import MailGateway.Proofs.Outcome

namespace MailGateway
namespace Config

/-- A field of the settings. -/
inductive Field where
  | host
  | port
  | secure
  | certFile
  | keyFile
  | gracePeriod
  | otlpEndpoint
  | serviceName
  | debug
  deriving DecidableEq, Repr

namespace Field

/-- The name of the member that a field is read from. -/
def name : Field → String
  | .host => "host"
  | .port => "port"
  | .secure => "secure"
  | .certFile => "cert_file"
  | .keyFile => "key_file"
  | .gracePeriod => "shutdown_grace_period"
  | .otlpEndpoint => "otlp_endpoint"
  | .serviceName => "service_name"
  | .debug => "debug"

/-- What a field holds. -/
abbrev Content : Field → Type
  | .host | .certFile | .keyFile | .serviceName => String
  | .port => Port
  | .secure | .debug => Bool
  | .gracePeriod => Duration
  | .otlpEndpoint => Option String

/-- Reads a field from a value. -/
def read : (f : Field) → Value → Except Refusal f.Content
  | .host, v | .serviceName, v => v.toText .text
  | .certFile, v | .keyFile, v => v.toText .path
  | .port, v => v.toPort
  | .secure, v => v.toBoolean
  | .gracePeriod, v => v.toDuration
  | .otlpEndpoint, v => v.toOptionalText
  | .debug, v => v.toSwitch

theorem name_inj {f g : Field} : f.name = g.name ↔ f = g := by
  cases f <;> cases g <;> decide

end Field

/-- What settings hold in a field. -/
def Settings.get (s : Settings) : (f : Field) → f.Content
  | .host => s.host
  | .port => s.port
  | .secure => s.secure
  | .certFile => s.certFile
  | .keyFile => s.keyFile
  | .gracePeriod => s.gracePeriod
  | .otlpEndpoint => s.otlpEndpoint
  | .serviceName => s.serviceName
  | .debug => s.debug

/-- The settings of given fields. -/
def Settings.ofFields (content : (f : Field) → f.Content) : Settings where
  host := content .host
  port := content .port
  secure := content .secure
  certFile := content .certFile
  keyFile := content .keyFile
  gracePeriod := content .gracePeriod
  otlpEndpoint := content .otlpEndpoint
  serviceName := content .serviceName
  debug := content .debug

theorem Settings.get_ofFields (content : (f : Field) → f.Content) (f : Field) :
    (Settings.ofFields content).get f = content f := by
  cases f <;> rfl

/-- Reads a field from a member, if there is one; else the field has its default. -/
def Field.readMember (f : Field) : Option Value → Except Refusal f.Content
  | some v => f.read v
  | none => .ok (Settings.get {} f)

/-- A field of a table. -/
def Table.field (t : Table) (f : Field) : Except Refusal f.Content :=
  f.readMember (t.get? f.name)

/-- Settings are read one field after another. -/
theorem Settings.ofTable?_eq (t : Table) : Settings.ofTable? t = (do
    let host ← t.field .host
    let port ← t.field .port
    let secure ← t.field .secure
    let certFile ← t.field .certFile
    let keyFile ← t.field .keyFile
    let gracePeriod ← t.field .gracePeriod
    let otlpEndpoint ← t.field .otlpEndpoint
    let serviceName ← t.field .serviceName
    let debug ← t.field .debug
    pure { host, port, secure, certFile, keyFile, gracePeriod, otlpEndpoint, serviceName,
           debug }) := rfl

/-- **A field does not look at the others.** -/
theorem Settings.ofTable?_eq_ok_iff {t : Table} {s : Settings} :
    Settings.ofTable? t = .ok s ↔ ∀ f, t.field f = .ok (s.get f) := by
  simp only [ofTable?_eq, bind_eq_ok_iff]
  constructor
  · rintro ⟨host, hhost, port, hport, secure, hsecure, certFile, hcert, keyFile, hkey,
      gracePeriod, hgrace, otlpEndpoint, hotlp, serviceName, hservice, debug, hdebug, hs⟩ f
    obtain rfl := Except.ok.inj hs
    cases f <;> assumption
  · intro h
    exact ⟨s.host, h .host, s.port, h .port, s.secure, h .secure, s.certFile, h .certFile,
      s.keyFile, h .keyFile, s.gracePeriod, h .gracePeriod, s.otlpEndpoint, h .otlpEndpoint,
      s.serviceName, h .serviceName, s.debug, h .debug, rfl⟩

/-- There are settings where there is every field. -/
theorem Settings.exists_ofTable?_iff {t : Table} :
    (∃ s, Settings.ofTable? t = .ok s) ↔ ∀ f, ∃ x, t.field f = .ok x := by
  constructor
  · rintro ⟨s, hs⟩ f
    exact ⟨s.get f, Settings.ofTable?_eq_ok_iff.1 hs f⟩
  · intro h
    choose content hcontent using h
    refine ⟨Settings.ofFields content, Settings.ofTable?_eq_ok_iff.2 fun f => ?_⟩
    rw [Settings.get_ofFields, hcontent]

/-- Settings depend on the members of the fields and on nothing else, and so does the error
where there are none. -/
theorem Settings.ofTable?_congr {t t' : Table} (h : ∀ f : Field, t.get? f.name = t'.get? f.name) :
    Settings.ofTable? t = Settings.ofTable? t' := by
  have hfield : ∀ f, t.field f = t'.field f := fun f => by rw [Table.field, h, Table.field]
  simp only [ofTable?_eq, hfield]

end Config
end MailGateway
