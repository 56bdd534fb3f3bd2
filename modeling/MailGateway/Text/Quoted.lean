/-
# Quoted text

A text inside double quotes, as messages show values: the quote and the backslash
get a backslash, tab, line feed, carriage return and NUL have a letter, other
characters that would not show are spelled `\u{hex}`, and the rest stands as it is.
-/

import MailGateway.Text.Hidden

namespace MailGateway
namespace Quoted

/-- The spelling of one character between the quotes. -/
def spell (c : Char) : List Char :=
  if c = '"' then ['\\', '"']
  else if c = '\\' then ['\\', '\\']
  else if c = '\t' then ['\\', 't']
  else if c = '\n' then ['\\', 'n']
  else if c = '\r' then ['\\', 'r']
  else if c = '\x00' then ['\\', '0']
  else if Text.isHidden c then
    '\\' :: 'u' :: '\x7b' :: (Nat.toDigits 16 c.toNat ++ ['\x7d'])
  else [c]

/-- The quoted form of a text. -/
def text (s : String) : String := String.ofList ('"' :: (s.toList.flatMap spell ++ ['"']))

/-- The quoted form of bytes that are no text: their values in brackets. -/
def bytes (bs : List UInt8) : String :=
  "[" ++ ", ".intercalate (bs.map fun b => toString b.toNat) ++ "]"

end Quoted
end MailGateway
