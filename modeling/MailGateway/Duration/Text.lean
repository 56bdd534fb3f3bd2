/-
# The short text of a duration

One number with a fraction and one unit, the largest of `s`, `ms`, `µs` and `ns` that
gives a whole part: `1.5s`, `999.999999ms`, `90s`, `0ns`.  Zeros at the end of the
fraction are left out.
-/

import MailGateway.Duration.Basic

namespace MailGateway
namespace Duration

/-- `whole` and the fraction `part / 10 ^ places`. -/
def fractionText (whole part places : Nat) : String :=
  let digits := (toString part).toList
  let padded := List.replicate (places - digits.length) '0' ++ digits
  let kept := (padded.reverse.dropWhile (· = '0')).reverse
  toString whole ++ if part = 0 then "" else "." ++ String.ofList kept

/-- The short text. -/
def short (d : Duration) : String :=
  if 0 < d.seconds then fractionText d.seconds d.nanos 9 ++ "s"
  else if 1000000 ≤ d.nanos then fractionText (d.nanos / 1000000) (d.nanos % 1000000) 6 ++ "ms"
  else if 1000 ≤ d.nanos then fractionText (d.nanos / 1000) (d.nanos % 1000) 3 ++ "µs"
  else fractionText d.nanos 0 0 ++ "ns"

end Duration
end MailGateway
