/-
# Calls

One method is served, at one exact path.  A call succeeds only if its whole body is
read: every frame must hold a record, and the first one is the request.

* Success: the reply in one frame, and the status in the trailers.
* Failure: no body and no trailers; code and message stand among the headers, and
  the mail service has not been asked.

What can go wrong is a `Failure`; code and message of each are given by
`Failure.code` and `Failure.message`.
-/

import MailGateway.Grpc.Code
import MailGateway.Grpc.Frame
import MailGateway.Http.Message
import MailGateway.Http.Percent
import MailGateway.Mail.Message
import MailGateway.Protobuf.Record

namespace MailGateway
namespace Grpc

/-- The only path that is served. -/
def sendPath : String := "/email.v1alpha1.EmailService/SendMail"

/-- Why a call failed. -/
inductive Failure where
  | unknownMethod
  | encodingRefused (encoding : Bytes)
  | badFrame (fault : Frame.Fault)
  | badRecord (fault : Protobuf.Fault)
  | noMessage
  deriving DecidableEq, Repr

namespace Failure

/-- The code that is sent. -/
def code : Failure → Code
  | .unknownMethod | .encodingRefused _ => .unimplemented
  | .badFrame (.tooLong _) => .outOfRange
  | .badFrame _ | .badRecord _ | .noMessage => .internal

/-- The name of an encoding, or its bytes where it is no text. -/
def encodingText (encoding : Bytes) : String :=
  (Utf8.decode? encoding).getD (Quoted.bytes encoding)

/-- The message that is sent; an unknown method has none. -/
def message : Failure → String
  | .unknownMethod => ""
  | .encodingRefused encoding =>
    s!"Content is compressed with `{encodingText encoding}` which isn't supported"
  | .badFrame .compressed =>
    "protocol error: received message with compressed-flag but no grpc-encoding was specified"
  | .badFrame (.invalidFlag flag) =>
    s!"protocol error: received message with invalid compression flag: {flag} "
      ++ "(valid flags are 0 and 1), while sending request"
  | .badFrame (.tooLong n) =>
    s!"Error, decoded message length too large: found {n} bytes, "
      ++ s!"the limit is: {Frame.maxMessage} bytes"
  | .badFrame .ended => "Unexpected EOF decoding stream."
  | .badRecord fault =>
    "failed to decode Protobuf message: "
      ++ (if fault.inText then "EmailRequest.message: " else "") ++ fault.cause.message
  | .noMessage => "Missing request message."

end Failure

/-- The request of a record. -/
def readRequest (message : Bytes) : Except Failure Mail.Request :=
  match Protobuf.parseRecord message with
  | .ok text => .ok ⟨text⟩
  | .error f => .error (.badRecord f)

/-- Reads all frames, each of which must hold a request; `first` is the first so far.
Each frame has at least five bytes, so `fuel` may be the number of bytes. -/
def readFrames (fuel : Nat) (first : Option Mail.Request) (body : Bytes) :
    Except Failure (Option Mail.Request) :=
  match fuel with
  | 0 => .ok first
  | fuel + 1 =>
    match Frame.next? body with
    | .error f => .error (.badFrame f)
    | .ok none => .ok first
    | .ok (some (message, rest)) =>
      match readRequest message with
      | .error f => .error f
      | .ok request => readFrames fuel (first <|> some request) rest

/-- The request of a body. -/
def receive (body : Bytes) : Except Failure Mail.Request :=
  match readFrames (body.length + 1) none body with
  | .error f => .error f
  | .ok none => .error .noMessage
  | .ok (some request) => .ok request

/-- Whether the header allows the body to be read: no encoding, or `identity`. -/
def checkEncoding (headers : Http.Headers) : Except Failure Unit :=
  match headers.first? "grpc-encoding" with
  | none => .ok ()
  | some encoding =>
    if encoding = Utf8.ascii "identity" then .ok () else .error (.encodingRefused encoding)

/-- The request of a call, checked in the order path, encoding, body. -/
def accept (r : Http.Request) : Except Failure Mail.Request :=
  if r.path ≠ sendPath then .error .unknownMethod
  else
    match checkEncoding r.headers with
    | .error f => .error f
    | .ok () => receive r.content

/-- Bytes that a message carries encoded: controls, the blank, some punctuation, and
everything outside ASCII.  The percent sign itself stands as it is. -/
def isSpecial (b : UInt8) : Bool :=
  b ≤ 0x20 || 0x7F ≤ b || (Utf8.ascii "\"#<>`?\x7b\x7d").contains b

/-- The header of every answer to a call. -/
def typeField : String × Bytes := Http.field "content-type" "application/grpc"

/-- The status as a header or trailer. -/
def statusField (code : Code) : String × Bytes := Http.field Code.headerName (toString code.number)

/-- The answer to a failed call. -/
def Failure.response (f : Failure) : Http.Response :=
  let message :=
    if f.message.isEmpty then []
    else [("grpc-message", Http.Percent.encode isSpecial (Utf8.encode f.message))]
  let accepted :=
    match f with
    | .encodingRefused _ => [Http.field "grpc-accept-encoding" "identity"]
    | _ => []
  { status := 200
    headers := [typeField, statusField f.code] ++ message ++ accepted
    content := .bytes [] }

/-- The answer to a call that was served. -/
def success (reply : Mail.Reply) : Http.Response :=
  { status := 200
    headers := [typeField]
    content := .bytes (Frame.write (Protobuf.writeRecord reply.error))
    trailers := some [statusField .ok] }

end Grpc
end MailGateway
