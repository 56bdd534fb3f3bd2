/-
# Status codes of calls

A call ends with one of seventeen codes, sent as a number.  Numbers outside the
table mean `unknown`.  A status header is read leniently (`Code.ofHeader`): where it
is missing or is no numeral of 32 bits, the call counts as `ok`.
-/

import MailGateway.Http.Header
import MailGateway.Numbers
import MailGateway.Text.Numeral

namespace MailGateway
namespace Grpc

/-- How a call ended. -/
inductive Code where
  | ok
  | cancelled
  | unknown
  | invalidArgument
  | deadlineExceeded
  | notFound
  | alreadyExists
  | permissionDenied
  | resourceExhausted
  | failedPrecondition
  | aborted
  | outOfRange
  | unimplemented
  | internal
  | unavailable
  | dataLoss
  | unauthenticated
  deriving DecidableEq, Repr, Inhabited

namespace Code

/-- All codes, in the order of their numbers. -/
def all : List Code :=
  [.ok, .cancelled, .unknown, .invalidArgument, .deadlineExceeded, .notFound, .alreadyExists,
   .permissionDenied, .resourceExhausted, .failedPrecondition, .aborted, .outOfRange,
   .unimplemented, .internal, .unavailable, .dataLoss, .unauthenticated]

/-- The number that is sent. -/
def number : Code → Nat
  | .ok => 0
  | .cancelled => 1
  | .unknown => 2
  | .invalidArgument => 3
  | .deadlineExceeded => 4
  | .notFound => 5
  | .alreadyExists => 6
  | .permissionDenied => 7
  | .resourceExhausted => 8
  | .failedPrecondition => 9
  | .aborted => 10
  | .outOfRange => 11
  | .unimplemented => 12
  | .internal => 13
  | .unavailable => 14
  | .dataLoss => 15
  | .unauthenticated => 16

/-- The name that logs, spans and metrics show. -/
def name : Code → String
  | .ok => "Ok"
  | .cancelled => "Cancelled"
  | .unknown => "Unknown"
  | .invalidArgument => "InvalidArgument"
  | .deadlineExceeded => "DeadlineExceeded"
  | .notFound => "NotFound"
  | .alreadyExists => "AlreadyExists"
  | .permissionDenied => "PermissionDenied"
  | .resourceExhausted => "ResourceExhausted"
  | .failedPrecondition => "FailedPrecondition"
  | .aborted => "Aborted"
  | .outOfRange => "OutOfRange"
  | .unimplemented => "Unimplemented"
  | .internal => "Internal"
  | .unavailable => "Unavailable"
  | .dataLoss => "DataLoss"
  | .unauthenticated => "Unauthenticated"

/-- The code with a number; `unknown` for every other number. -/
def ofNumber (n : Int) : Code := (all.find? fun c => (c.number : Int) = n).getD .unknown

theorem ofNumber_number (c : Code) : ofNumber c.number = c := by cases c <;> rfl

/-- The name of the header or trailer that carries the code. -/
def headerName : String := "grpc-status"

/-- The numeral of a status header, if it is one of 32 bits. -/
def numeral? (headers : Http.Headers) : Option Int := do
  let text ← headers.text? headerName
  let n ← Numeral.signed? text.toList
  if -2 ^ 31 ≤ n ∧ n < 2 ^ 31 then some n else none

/-- The code that a header map reports. -/
def ofHeaders (headers : Http.Headers) : Code := ((numeral? headers).map ofNumber).getD .ok

end Code
end Grpc
end MailGateway
