/-
# Numbers of a JSON text

A number without fraction and exponent that fits 64 bits is read as it stands;
every other number, and `-0`, is read as a floating-point number.  Its digits are
collected as long as they fit 64 bits; digits of the whole part behind that count
as zeros, digits of the fraction are dropped.  The result is scaled by powers of
ten one rounding at a time, so it need not be the nearest number; it is the one
this format reports.
-/

import MailGateway.Json.Fault

namespace MailGateway
namespace Json

/-- A decimal digit. -/
def isDigit (b : UInt8) : Bool := 0x30 ≤ b && b ≤ 0x39

/-- The value of a decimal digit. -/
def digitValue (b : UInt8) : Nat := b.toNat - 0x30

/-- Collects digits behind `value` while they fit 64 bits; gives the value, how many
digits were taken, and the rest. -/
def collect (value taken : Nat) : Bytes → Nat × Nat × Bytes
  | [] => (value, taken, [])
  | b :: r =>
    if isDigit b && value * 10 + digitValue b < 2 ^ 64 then
      collect (value * 10 + digitValue b) (taken + 1) r
    else (value, taken, b :: r)

/-- The digits of an exponent behind `value`: the exponent and the rest, or the rest
behind the digit that passed 31 bits. -/
def collectExponent (value : Nat) : Bytes → Except Bytes (Nat × Bytes)
  | [] => .ok (value, [])
  | b :: r =>
    if isDigit b then
      if value * 10 + digitValue b < 2 ^ 31 then collectExponent (value * 10 + digitValue b) r
      else .error r
    else .ok (value, b :: r)

/-- `x · 10 ^ k`: a table step for `|k| ≤ 308`, and steps of `10 ^ 308` before it for
smaller `k`.  Three such steps reach zero from any 64-bit value, so `fuel = 4` is
never used up.  `none` where the result is past the largest number. -/
def scale (fuel : Nat) (x : Binary64) (k : Int) : Option Binary64 :=
  if k.natAbs ≤ 308 then
    let power := Binary64.ofNat (10 ^ k.natAbs)
    if 0 ≤ k then
      match x.times power with
      | .infinite _ => none
      | y => some y
    else some (x.quotient power)
  else if x.isZero then some x
  else if 0 ≤ k then none
  else
    match fuel with
    | 0 => some x
    | fuel + 1 => scale fuel (x.quotient (Binary64.ofNat (10 ^ 308))) (k + 308)

/-- The floating-point number `± value · 10 ^ k`, read up to `rest`. -/
def finishReal (negative : Bool) (value : Nat) (k : Int) (rest : Bytes) :
    Except Fault (Found × Bytes) :=
  match scale 4 (Binary64.ofNat value) k with
  | none => .error ⟨.numberOutOfRange, rest, .whole⟩
  | some x => .ok (.real (if negative then x.negate else x), rest)

/-- The part behind `e`: a sign, then at least one digit. -/
def readExponent (negative : Bool) (value : Nat) (k : Int) (bs : Bytes) :
    Except Fault (Found × Bytes) :=
  let (down, bs) :=
    match bs with
    | 0x2B :: r => (false, r)
    | 0x2D :: r => (true, r)
    | _ => (false, bs)
  match bs with
  | [] => .error ⟨.endInValue, [], .whole⟩
  | b :: r =>
    if !isDigit b then .error ⟨.invalidNumber, r, .whole⟩
    else
      match collectExponent (digitValue b) r with
      | .ok (e, rest) => finishReal negative value (if down then k - e else k + e) rest
      | .error rest =>
        if value ≠ 0 ∧ !down then .error ⟨.numberOutOfRange, rest, .whole⟩
        else .ok (.real (Binary64.zero negative), rest.dropWhile isDigit)

/-- The part behind the point: at least one digit, then perhaps an exponent. -/
def readFraction (negative : Bool) (value : Nat) (k : Int) (bs : Bytes) :
    Except Fault (Found × Bytes) :=
  match bs with
  | [] => .error ⟨.endInValue, [], .whole⟩
  | b :: _ =>
    if !isDigit b then .error (.ahead .invalidNumber bs)
    else
      let (value, taken, rest) := collect value 0 bs
      match rest.dropWhile isDigit with
      | 0x65 :: r | 0x45 :: r => readExponent negative value (k - taken) r
      | rest => finishReal negative value (k - taken) rest

/-- A whole number that fits 64 bits.  A negative one past the range of signed
numbers, and minus zero, are floating-point numbers. -/
def whole (negative : Bool) (value : Nat) : Found :=
  if !negative then .integer value
  else if 0 < value ∧ value ≤ 2 ^ 63 then .integer (-value)
  else .real (Binary64.ofNat value).negate

/-- Reads a number; its sign has been read. -/
def readNumber (negative : Bool) (bs : Bytes) : Except Fault (Found × Bytes) :=
  match bs with
  | [] => .error ⟨.endInValue, [], .whole⟩
  | b :: r =>
    if !isDigit b then .error ⟨.invalidNumber, r, .whole⟩
    else
      match b, r with
      | 0x30, d :: _ =>
        if isDigit d then .error (.ahead .invalidNumber r) else behindWhole negative 0 0 false r
      | 0x30, [] => behindWhole negative 0 0 false r
      | _, _ =>
        let (value, _, rest) := collect (digitValue b) 1 r
        let more := rest.takeWhile isDigit
        behindWhole negative value more.length (!more.isEmpty) (rest.dropWhile isDigit)
where
  /-- What follows the digits of the whole part; `long` when they passed 64 bits. -/
  behindWhole (negative : Bool) (value k : Nat) (long : Bool) (bs : Bytes) :
      Except Fault (Found × Bytes) :=
    match bs with
    | 0x2E :: r => readFraction negative value k r
    | 0x65 :: r | 0x45 :: r => readExponent negative value k r
    | _ => if long then finishReal negative value k bs else .ok (whole negative value, bs)

end Json
end MailGateway
