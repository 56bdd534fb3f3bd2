/-
# Reading decimal numerals

A numeral has a sign at will, digits with a point at will (a digit on one side is
enough), and an exponent at will; `inf`, `infinity` and `nan` of any case stand for
themselves.  It is read as the nearest number.
-/

import MailGateway.Text.Numeral
import MailGateway.Binary64.Basic

namespace MailGateway
namespace Binary64

/-- The value of an exponent, behind its `e`. -/
def exponent? : List Char → Option Int
  | 'e' :: cs | 'E' :: cs => Numeral.signed? cs
  | [] => some 0
  | _ => none

/-- A numeral without a sign. -/
def ofDigits? (negative : Bool) (cs : List Char) : Option Binary64 :=
  let whole := cs.takeWhile Char.isDigit
  let rest := cs.dropWhile Char.isDigit
  let (part, rest) :=
    match rest with
    | '.' :: r => (r.takeWhile Char.isDigit, r.dropWhile Char.isDigit)
    | _ => ([], rest)
  match Numeral.natural? (whole ++ part), exponent? rest with
  | some digits, some e => some (ofDecimal negative digits (e - part.length))
  | _, _ => none

/-- A numeral without a sign, or the word for a number that has none. -/
def ofUnsigned? (negative : Bool) (cs : List Char) : Option Binary64 :=
  let word := String.ofList (cs.map Char.toLower)
  if word = "inf" || word = "infinity" then some (.infinite negative)
  else if word = "nan" then some .nan
  else ofDigits? negative cs

/-- The number nearest to a numeral. -/
def ofNumeral? (s : String) : Option Binary64 :=
  match s.toList with
  | '-' :: cs => ofUnsigned? true cs
  | '+' :: cs => ofUnsigned? false cs
  | cs => ofUnsigned? false cs

example : ofNumeral? "1.5" = some (.finite false (3 * 2 ^ 51) (-52)) := by decide +kernel
example : ofNumeral? "." = none := by decide +kernel

end Binary64
end MailGateway
