/-
# Mail requests and replies

A request carries a message and a reply an error text.  Both protocols carry the same
two records: as JSON they are records of one text field, in the binary format the
text has field number one.  The service answers with the message itself.

A reply leaves its field out of the JSON text when the error is empty; a request
never does.
-/

import MailGateway.Json.Record

namespace MailGateway
namespace Mail

/-- What a caller asks to be sent. -/
structure Request where
  message : String
  deriving DecidableEq, Repr, Inhabited

/-- What became of it; the error is empty when the message was accepted. -/
structure Reply where
  error : String
  deriving DecidableEq, Repr, Inhabited

/-- The request as a JSON record. -/
def Request.shape : Json.RecordShape := ⟨"EmailRequest", "message"⟩

/-- The reply as a JSON record. -/
def Reply.shape : Json.RecordShape := ⟨"EmailResponse", "error"⟩

/-- Reads a request that is the whole text. -/
def Request.ofJson (text : Bytes) : Except Json.Fault Request :=
  (Json.parseRecord Request.shape text).map Request.mk

/-- Reads a reply that is the whole text. -/
def Reply.ofJson (text : Bytes) : Except Json.Fault Reply :=
  (Json.parseRecord Reply.shape text).map Reply.mk

/-- The compact JSON text of a request. -/
def Request.toJson (r : Request) : Bytes := Json.writeRecord Request.shape r.message

/-- The compact JSON text of a reply. -/
def Reply.toJson (r : Reply) : Bytes :=
  if r.error.isEmpty then [0x7B, 0x7D] else Json.writeRecord Reply.shape r.error

/-- The reply to a request. -/
def answer (r : Request) : Reply := ⟨r.message⟩

end Mail
end MailGateway
