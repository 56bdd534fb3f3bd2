/-
# Durations

Whole seconds and nanoseconds below one second.
-/

import MailGateway.Binary64.Basic

namespace MailGateway

/-- A span of time. -/
structure Duration where
  seconds : Nat
  nanos : Nat
  deriving DecidableEq, Repr, Inhabited

namespace Duration

/-- The seconds as a floating-point number: both parts are rounded, then their sum. -/
def toSeconds (d : Duration) : Binary64 :=
  (Binary64.ofNat d.seconds).plus ((Binary64.ofNat d.nanos).quotient (Binary64.ofNat 1000000000))

/-- The milliseconds as a floating-point number, from the rounded seconds. -/
def toMillis (d : Duration) : Binary64 := d.toSeconds.times (Binary64.ofNat 1000)

/-- All nanoseconds. -/
def total (d : Duration) : Nat := d.seconds * 1000000000 + d.nanos

/-- The duration of a number of nanoseconds. -/
def ofNanos (n : Nat) : Duration := ⟨n / 1000000000, n % 1000000000⟩

end Duration
end MailGateway
