/-
# Message frames

A body is a sequence of frames: a flag byte, the length in four bytes, highest first,
and the message.  Flag 0 says that the message is not compressed; nothing else is
accepted.  A message has at most `maxMessage` bytes.

`Frame.next?` splits the first frame off.  A body that ends right behind the five
bytes of a header ends there: the announced message never began.
-/

import MailGateway.Text.Utf8

namespace MailGateway
namespace Grpc
namespace Frame

/-- The length limit of a message. -/
def maxMessage : Nat := 4194304

/-- Why a frame was refused. -/
inductive Fault where
  | compressed
  | invalidFlag (flag : Nat)
  | tooLong (length : Nat)
  | ended
  deriving DecidableEq, Repr

/-- The number written in four bytes, highest first. -/
def length4 (a b c d : UInt8) : Nat :=
  ((a.toNat * 256 + b.toNat) * 256 + c.toNat) * 256 + d.toNat

/-- The first message and the rest; `none` at the end of the body. -/
def next? : Bytes → Except Fault (Option (Bytes × Bytes))
  | flag :: a :: b :: c :: d :: r =>
    if flag = 1 then .error .compressed
    else if flag ≠ 0 then .error (.invalidFlag flag.toNat)
    else
      let n := length4 a b c d
      if maxMessage < n then .error (.tooLong n)
      else if n ≤ r.length then .ok (some (r.take n, r.drop n))
      else if r = [] then .ok none
      else .error .ended
  | [] => .ok none
  | _ => .error .ended

/-- The frame of a message. -/
def write (message : Bytes) : Bytes :=
  let n := message.length
  0 :: (n / 16777216).toUInt8 :: (n / 65536 % 256).toUInt8 :: (n / 256 % 256).toUInt8
    :: (n % 256).toUInt8 :: message

end Frame
end Grpc
end MailGateway
