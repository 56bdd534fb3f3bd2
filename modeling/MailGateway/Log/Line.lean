/-
# Lines of the log

An entry is shown as `LEVEL target: message name=value …`.  Characters of the message
that would move the cursor or colour the screen are spelled out.  A line feed in the
message begins a new line.
-/

import MailGateway.Binary64.Shortest
import MailGateway.Log.Event
import MailGateway.Text.Quoted

namespace MailGateway
namespace Log

/-- How a message shows one character. -/
def spell (c : Char) : List Char :=
  if c = '\x1b' then "\\x1b".toList
  else if c = '\x07' then "\\x07".toList
  else if c = '\x08' then "\\x08".toList
  else if c = '\x0c' then "\\x0c".toList
  else if c = '\x7f' then "\\x7f".toList
  else if 0x80 ≤ c.toNat && c.toNat ≤ 0x9F then
    '\\' :: 'u' :: '\x7b' :: (Nat.toDigits 16 c.toNat ++ ['\x7d'])
  else [c]

/-- The text of a value. -/
def Value.text : Value → String
  | .plain s => s
  | .quoted s => Quoted.text s
  | .flag b => if b then "true" else "false"
  | .number x => x.text Binary64.Style.pointed

/-- The text of an entry. -/
def Entry.text (e : Entry) : String :=
  let message := String.ofList (e.message.toList.flatMap spell)
  let fields := e.fields.map fun (name, v) => s!" {name}={v.text}"
  s!"{e.level.name} {e.target}: {message}" ++ "".intercalate fields

end Log
end MailGateway
