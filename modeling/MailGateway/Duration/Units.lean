/-
# Durations in words

A duration is written as numbers with units, the largest unit first: `1m 30s`,
`2years 3months 1day`.  A month has 30.44 days and a year 365.25.

Reading takes units in any order and adds them up.  White space may stand anywhere
but inside a unit's name.  A number may have a fraction, which must come out in whole
nanoseconds, or in whole seconds for units from the hour on.  Numbers, and the sum in
seconds, must fit 64 bits.  Where just the nanoseconds make a full second that the seconds
have no room for, the duration overflows.
-/

import MailGateway.Text.Numeral
import MailGateway.Text.Space
import MailGateway.Duration.Basic

namespace MailGateway

/-- A unit of time. -/
inductive TimeUnit where
  | nanosecond
  | microsecond
  | millisecond
  | second
  | minute
  | hour
  | day
  | week
  | month
  | year
  deriving DecidableEq, Repr, Inhabited

namespace TimeUnit

/-- All units and the names that they are read by. -/
def names : List (TimeUnit × List String) :=
  [(.nanosecond, ["nanos", "nsec", "ns"]),
   (.microsecond, ["usec", "us", "µs"]),
   (.millisecond, ["millis", "msec", "ms"]),
   (.second, ["seconds", "second", "secs", "sec", "s"]),
   (.minute, ["minutes", "minute", "min", "mins", "m"]),
   (.hour, ["hours", "hour", "hrs", "hr", "h"]),
   (.day, ["days", "day", "d"]),
   (.week, ["weeks", "week", "wks", "wk", "w"]),
   (.month, ["months", "month", "M"]),
   (.year, ["years", "year", "yrs", "yr", "y"])]

/-- The unit of a name. -/
def ofName? (name : String) : Option TimeUnit :=
  (names.find? fun entry => entry.2.contains name).map Prod.fst

/-- Whether the unit counts in whole seconds, and how many nanoseconds or else seconds it
has. -/
def size : TimeUnit → Bool × Nat
  | .nanosecond => (false, 1)
  | .microsecond => (false, 1000)
  | .millisecond => (false, 1000000)
  | .second => (true, 1)
  | .minute => (true, 60)
  | .hour => (true, 3600)
  | .day => (true, 86400)
  | .week => (true, 604800)
  | .month => (true, 2630016)
  | .year => (true, 31557600)

/-- The same for a fraction of the unit; a nanosecond has none. -/
def fractionSize : TimeUnit → Option (Bool × Nat)
  | .nanosecond => none
  | .second => some (false, 1000000000)
  | .minute => some (false, 60000000000)
  | u => some u.size

end TimeUnit

namespace Duration

/-- Why a text tells no duration. -/
inductive Fault where
  | meaningless
  | overflow
  deriving DecidableEq, Repr, Inhabited

/-- What has to be there, or the text has no meaning. -/
def need {α : Type} (value : Option α) : Except Fault α :=
  match value with
  | some a => .ok a
  | none => .error .meaningless

/-- A number that fits 64 bits. -/
def word (n : Nat) : Except Fault Nat := if n < 2 ^ 64 then .ok n else .error .meaningless

/-- The duration with seconds or nanoseconds added. -/
def add (d : Duration) (inSeconds : Bool) (n : Nat) : Except Fault Duration := do
  let n ← word n
  let nanos ← word (d.nanos + if inSeconds then 0 else n)
  let seconds := d.seconds + if inSeconds then n else 0
  if nanos = 1000000000 then
    let seconds ← word seconds
    if seconds + 1 < 2 ^ 64 then pure ⟨seconds + 1, 0⟩ else throw .overflow
  else
    let seconds ← word (seconds + nanos / 1000000000)
    pure ⟨seconds, nanos % 1000000000⟩

/-- A number in front of a unit: its whole part, and the numerator and the count of
digits of its fraction. -/
structure Amount where
  whole : Nat
  numerator : Nat
  places : Nat
  deriving DecidableEq, Repr

/-- The duration with an amount of a unit added. -/
def addAmount (d : Duration) (a : Amount) (unit : TimeUnit) : Except Fault Duration := do
  let d ← d.add unit.size.1 ((← word a.whole) * unit.size.2)
  if a.places = 0 then pure d
  else
    let (inSeconds, size) ← need unit.fractionSize
    let product ← word ((← word a.numerator) * size)
    let denominator ← word (10 ^ a.places)
    if product % denominator = 0 then d.add inSeconds (product / denominator)
    else throw .meaningless

/-- A decimal digit or white space. -/
def isDigitOrSpace (c : Char) : Bool := c.isDigit || Text.isSpace c

/-- A character of a unit's name. -/
def isUnitLetter (c : Char) : Bool := c.isAlpha || c = 'µ'

/-- The value of the digits among characters, and their count. -/
def digitsIn (cs : List Char) : Nat × Nat :=
  let ds := cs.filter Char.isDigit
  ((Numeral.natural? ds).getD 0, ds.length)

/-- Reads a number at its first digit. -/
def readAmount (cs : List Char) : Option (Amount × List Char) :=
  let whole := (digitsIn (cs.takeWhile isDigitOrSpace)).1
  match cs.dropWhile isDigitOrSpace with
  | '.' :: rest =>
    let (numerator, places) := digitsIn (rest.takeWhile isDigitOrSpace)
    if places = 0 then none else some (⟨whole, numerator, places⟩, rest.dropWhile isDigitOrSpace)
  | rest => some (⟨whole, 0, 0⟩, rest)

/-- Reads amounts and adds them to `d`.  Each takes a character, so `fuel` may be the
length of the text. -/
def readFrom (fuel : Nat) (d : Duration) (cs : List Char) : Except Fault Duration :=
  match fuel with
  | 0 => .error .meaningless
  | fuel + 1 => do
    if !(cs.head?.any Char.isDigit) then throw .meaningless
    else
      let (amount, rest) ← need (readAmount cs)
      let unit ← need (TimeUnit.ofName? (String.ofList (rest.takeWhile isUnitLetter)))
      let d ← d.addAmount amount unit
      let rest := rest.dropWhile isUnitLetter
      match rest with
      | [] => pure d
      | c :: _ =>
        if c.isDigit then readFrom fuel d rest
        else if Text.isSpace c then
          let rest := rest.dropWhile Text.isSpace
          if rest.isEmpty then pure d else readFrom fuel d rest
        else throw .meaningless

/-- The duration that a text tells. -/
def ofText (s : String) : Except Fault Duration :=
  if s = "0" then .ok ⟨0, 0⟩
  else
    let cs := s.toList.dropWhile Text.isSpace
    readFrom (cs.length + 1) ⟨0, 0⟩ cs

/-- A count of a unit, left out when it is none. -/
def part (n : Nat) (singular plural : String) : List String :=
  if n = 0 then [] else [toString n ++ if n = 1 then singular else plural]

/-- The parts of a duration, from years to nanoseconds. -/
def parts (d : Duration) : List String :=
  let inYear := d.seconds % 31557600
  let inMonth := inYear % 2630016
  let inDay := inMonth % 86400
  part (d.seconds / 31557600) "year" "years"
    ++ part (inYear / 2630016) "month" "months"
    ++ part (inMonth / 86400) "day" "days"
    ++ part (inDay / 3600) "h" "h"
    ++ part (inDay % 3600 / 60) "m" "m"
    ++ part (inDay % 60) "s" "s"
    ++ part (d.nanos / 1000000) "ms" "ms"
    ++ part (d.nanos / 1000 % 1000) "us" "us"
    ++ part (d.nanos % 1000) "ns" "ns"

/-- The duration in words. -/
def text (d : Duration) : String :=
  if d.parts.isEmpty then "0s" else " ".intercalate d.parts

example : (ofText "1.5month").toOption = some ⟨3945024, 0⟩ := by decide +kernel
example : (ofText "0.3333h").toOption = none := by decide +kernel
example : (ofText "18446744073709551615s 0.5s 0.5s").toOption = none := by decide +kernel
example : text ⟨2630015, 0⟩ = "30days 10h 33m 35s" := by decide +kernel

end Duration
end MailGateway
