/-
# The fewest digits that read back

`Binary64.shortest` gives the decimal `digits · 10 ^ k` with the fewest digits
among all that round to a given positive number, and of those the nearest.

The decimals that round to `m · 2 ^ e` fill an interval around it, half a step
to either side (a quarter below a power of two), ends included when `m` is
even.  On the grid of decimals with `n` digits only the two neighbours of the
number can be nearest, so `n = 1, 2, …, 17` are tried in turn and the first grid
with a neighbour inside the interval wins.  Seventeen digits always suffice.

`Binary64.text` writes the digits in a `Style`: which magnitudes are written
positionally, and whether a whole number keeps a fraction `.0`.
-/

import MailGateway.Binary64.Basic

namespace MailGateway
namespace Binary64

/-- A decimal `digits · 10 ^ exponent`. -/
structure Decimal where
  digits : Nat
  exponent : Int
  deriving DecidableEq, Repr, Inhabited

/-- The order of `a · 2 ^ x` and `b · 10 ^ y`, in whole numbers. -/
def compareScaled (a : Nat) (x : Int) (b : Nat) (y : Int) : Ordering :=
  let left := a * 2 ^ x.toNat * 10 ^ (-y).toNat
  let right := b * 10 ^ y.toNat * 2 ^ (-x).toNat
  compare left right

/-- The `p` with `10 ^ p ≤ a · 2 ^ x < 10 ^ (p + 1)`, for `a ≠ 0`. -/
def decimalPlace (a : Nat) (x : Int) : Int :=
  let low : Int := ((a.log2 : Int) + x) * 30103 / 100000 - 1
  let raise := fun (p : Int) => if (compareScaled a x 1 (p + 1)).isGE then p + 1 else p
  raise (raise (raise low))

/-- The whole part of `a · 2 ^ x / 10 ^ y`. -/
def floorScaled (a : Nat) (x y : Int) : Nat :=
  (a * 2 ^ x.toNat * 10 ^ (-y).toNat) / (10 ^ y.toNat * 2 ^ (-x).toNat)

/-- The best decimal with `n` digits for `m · 2 ^ e`, if one rounds to it.  All
lengths are in quarters of `2 ^ e`, so the interval's ends are whole. -/
def onGrid? (m : Nat) (e : Int) (n : Nat) : Option Decimal :=
  let x := e - 2
  let low := if m = 2 ^ 52 ∧ -1074 < e then 4 * m - 1 else 4 * m - 2
  let high := 4 * m + 2
  let step := decimalPlace (4 * m) x - n + 1
  let below := floorScaled (4 * m) x step
  let inside := fun (d : Nat) =>
    if m % 2 = 0 then (compareScaled low x d step).isLE && (compareScaled high x d step).isGE
    else (compareScaled low x d step).isLT && (compareScaled high x d step).isGT
  match inside below, inside (below + 1) with
  | true, true =>
    match compareScaled (8 * m) x (2 * below + 1) step with
    | .lt => some ⟨below, step⟩
    | .gt => some ⟨below + 1, step⟩
    | .eq => some ⟨below + below % 2, step⟩
  | true, false => some ⟨below, step⟩
  | false, true => some ⟨below + 1, step⟩
  | false, false => none

/-- The decimal without zeros at its end; at most `fuel` of them are dropped. -/
def Decimal.trim (fuel : Nat) (d : Decimal) : Decimal :=
  match fuel with
  | 0 => d
  | fuel + 1 =>
    if d.digits ≠ 0 ∧ d.digits % 10 = 0 then Decimal.trim fuel ⟨d.digits / 10, d.exponent + 1⟩
    else d

/-- The shortest decimal that reads back as `m · 2 ^ e`, for `m ≠ 0`. -/
def shortest (m : Nat) (e : Int) : Decimal :=
  let found := ((List.range 17).map (· + 1)).findSome? (onGrid? m e)
  (found.getD ⟨floorScaled m e (decimalPlace m e - 16), decimalPlace m e - 16⟩).trim 20

/-- How a number is written. -/
structure Style where
  /-- Places of the leading digit that are written without an exponent. -/
  positional : Int → Bool
  /-- A whole number keeps `.0` in positional form. -/
  wholePoint : Bool
  /-- The sign of a positive exponent is written. -/
  exponentSign : Bool
  /-- The texts of an infinity and of a number that is none. -/
  infinity : String
  notNumber : String

/-- Digits without an exponent, at every size. -/
def Style.plain : Style := ⟨fun _ => true, false, false, "inf", "NaN"⟩

/-- Digits without an exponent, whole numbers marked by `.0`. -/
def Style.pointed : Style := { Style.plain with wholePoint := true }

/-- Positional from `1e-5` up to `1e16`, with an exponent elsewhere. -/
def Style.scientific : Style := ⟨fun p => -5 ≤ p && p < 16, true, true, "inf", "NaN"⟩

/-- Positional digits of a decimal whose leading digit has place `p`. -/
def positionalText (wholePoint : Bool) (digits : List Char) (p : Int) : List Char :=
  if p < 0 then '0' :: '.' :: (List.replicate (-p - 1).toNat '0' ++ digits)
  else
    let whole := digits.take (p.toNat + 1)
    let zeros := List.replicate (p.toNat + 1 - digits.length) '0'
    let fraction := digits.drop (p.toNat + 1)
    let tail :=
      if fraction.isEmpty then (if wholePoint then ['.', '0'] else []) else '.' :: fraction
    whole ++ zeros ++ tail

/-- One digit before the point, then the exponent. -/
def exponentText (style : Style) (digits : List Char) (p : Int) : List Char :=
  let fraction := digits.drop 1
  let sign := if p < 0 then ['-'] else if style.exponentSign then ['+'] else []
  digits.take 1 ++ (if fraction.isEmpty then [] else '.' :: fraction) ++ 'e' :: sign
    ++ (toString p.natAbs).toList

/-- The text of a number. -/
def text (style : Style) : Binary64 → String
  | .nan => style.notNumber
  | .infinite s => (if s then "-" else "") ++ style.infinity
  | .finite s m e =>
    let sign := if s then ['-'] else []
    let d := if m = 0 then ⟨0, 0⟩ else shortest m e
    let digits := (toString d.digits).toList
    let p : Int := d.exponent + (digits.length - 1 : Nat)
    let body :=
      if style.positional p then positionalText style.wholePoint digits p
      else exponentText style digits p
    String.ofList (sign ++ body)

end Binary64
end MailGateway
