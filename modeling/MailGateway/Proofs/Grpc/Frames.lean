/-
# Bodies as frames

`Frame.Holds` says what one uncompressed frame is, without the reader and the writer:
flag 0, the length of the message in four bytes, and the message.  A message has at
most one frame, the written one (`Frame.Holds.eq_write`), and has one if its length
fits four bytes (`Frame.holds_write`).

The reader splits off exactly the frames in this sense (`Frame.next?_eq_some_iff`),
up to the length limit.  So a body that is one frame is read as its record
(`receive_frame`) or refused for its length (`receive_frame_tooLong`), and whatever
body is read, its request is the record in the first frame (`receive_first`).
-/

import MailGateway.Grpc.Call
import MailGateway.Text.Octets

namespace MailGateway
namespace Grpc

namespace Frame

/-- The bytes are one uncompressed frame that holds the message. -/
def Holds (bs message : Bytes) : Prop :=
  ∃ a b c d, bs = 0 :: a :: b :: c :: d :: message ∧ length4 a b c d = message.length

theorem length4_write {n : Nat} (h : n < 2 ^ 32) :
    length4 (n / 16777216).toUInt8 (n / 65536 % 256).toUInt8 (n / 256 % 256).toUInt8
      (n % 256).toUInt8 = n := by
  rw [length4, toNat_toUInt8 (by omega), toNat_toUInt8 (by omega), toNat_toUInt8 (by omega),
    toNat_toUInt8 (by omega)]
  omega

/-- A message whose length fits four bytes has a frame. -/
theorem holds_write {message : Bytes} (h : message.length < 2 ^ 32) :
    Holds (write message) message :=
  ⟨_, _, _, _, rfl, length4_write h⟩

/-- **A message has no other frame than the written one.** -/
theorem Holds.eq_write {bs message : Bytes} (h : Holds bs message) : bs = write message := by
  obtain ⟨a, b, c, d, rfl, hlen⟩ := h
  have ha := a.toNat_lt
  have hb := b.toNat_lt
  have hc := c.toNat_lt
  have hd := d.toNat_lt
  rw [length4] at hlen
  simp only [write, List.cons.injEq, and_true, true_and]
  exact ⟨eq_toUInt8 (by omega), eq_toUInt8 (by omega), eq_toUInt8 (by omega),
    eq_toUInt8 (by omega)⟩

/-- A frame holds one message. -/
theorem Holds.message_eq {bs x y : Bytes} (hx : Holds bs x) (hy : Holds bs y) : x = y := by
  obtain ⟨a, b, c, d, rfl, -⟩ := hx
  obtain ⟨a', b', c', d', he, -⟩ := hy
  simp only [List.cons.injEq] at he
  exact he.2.2.2.2.2

theorem Holds.next? {bs message : Bytes} (h : Holds bs message) (hle : message.length ≤ maxMessage)
    (rest : Bytes) : next? (bs ++ rest) = .ok (some (message, rest)) := by
  obtain ⟨a, b, c, d, rfl, hlen⟩ := h
  simp [Frame.next?, hlen, Nat.not_lt.2 hle]

theorem Holds.next?_tooLong {bs message : Bytes} (h : Holds bs message)
    (hlt : maxMessage < message.length) (rest : Bytes) :
    Frame.next? (bs ++ rest) = .error (.tooLong message.length) := by
  obtain ⟨a, b, c, d, rfl, hlen⟩ := h
  simp [Frame.next?, hlen, hlt]

/-- **What is split off is a frame.** -/
theorem next?_eq_some_iff {bs message rest : Bytes} :
    next? bs = .ok (some (message, rest)) ↔
      ∃ frame, bs = frame ++ rest ∧ Holds frame message ∧ message.length ≤ maxMessage := by
  constructor
  · intro h
    unfold next? at h
    split at h
    · next flag a b c d r =>
      split at h
      · simp at h
      split at h
      · simp at h
      next hflag =>
      obtain rfl : flag = 0 := Decidable.not_not.1 hflag
      simp only at h
      split at h
      · simp at h
      split at h
      · next hmax hle =>
        obtain ⟨rfl, rfl⟩ := Prod.mk.inj (Option.some.inj (Except.ok.inj h))
        have hlen : (r.take (length4 a b c d)).length = length4 a b c d := by
          rw [List.length_take]
          omega
        exact ⟨0 :: a :: b :: c :: d :: r.take (length4 a b c d), by simp,
          ⟨a, b, c, d, rfl, hlen.symm⟩, by omega⟩
      split at h <;> simp at h
    · simp at h
    · simp at h
  · rintro ⟨frame, rfl, hframe, hle⟩
    exact hframe.next? hle rest

end Frame

theorem readRequest_eq_ok_iff {message : Bytes} {q : Mail.Request} :
    readRequest message = .ok q ↔ Protobuf.parseRecord message = .ok q.message := by
  obtain ⟨text⟩ := q
  unfold readRequest
  split
  · next t h => simp [h]
  · next f h => simp [h]

/-- The frames behind the first one do not change the request. -/
theorem readFrames_some {fuel : Nat} {q : Mail.Request} {body : Bytes} {o : Option Mail.Request}
    (h : readFrames fuel (some q) body = .ok o) : o = some q := by
  induction fuel generalizing body with
  | zero => exact (Except.ok.inj h).symm
  | succ fuel ih =>
    rw [readFrames] at h
    split at h
    · simp at h
    · exact (Except.ok.inj h).symm
    · split at h
      · simp at h
      · exact ih h

theorem readFrames_nil (fuel : Nat) (first : Option Mail.Request) :
    readFrames fuel first [] = .ok first := by
  cases fuel <;> rfl

/-- **A body that is one frame within the limit is read as its record.** -/
theorem receive_frame {body message : Bytes} {text : String} (h : Frame.Holds body message)
    (hle : message.length ≤ Frame.maxMessage) (hr : Protobuf.parseRecord message = .ok text) :
    receive body = .ok ⟨text⟩ := by
  have hnext := h.next? hle []
  rw [List.append_nil] at hnext
  have hread : readRequest message = .ok ⟨text⟩ := readRequest_eq_ok_iff.2 hr
  rw [receive, readFrames, hnext]
  simp only [hread, readFrames_nil, Option.orElse_eq_orElse, Option.orElse_none]

/-- **A body that is one frame past the limit is refused for its length.** -/
theorem receive_frame_tooLong {body message : Bytes} (h : Frame.Holds body message)
    (hlt : Frame.maxMessage < message.length) :
    receive body = .error (.badFrame (.tooLong message.length)) := by
  have hnext := h.next?_tooLong hlt []
  rw [List.append_nil] at hnext
  rw [receive, readFrames, hnext]

/-- **The request of a body is the record in its first frame.** -/
theorem receive_first {body : Bytes} {q : Mail.Request} (h : receive body = .ok q) :
    ∃ frame message rest, body = frame ++ rest ∧ Frame.Holds frame message ∧
      message.length ≤ Frame.maxMessage ∧ Protobuf.parseRecord message = .ok q.message := by
  rw [receive, readFrames] at h
  split at h
  · simp at h
  · simp at h
  · next q' hq' =>
    obtain rfl := Except.ok.inj h
    split at hq'
    · simp at hq'
    · simp at hq'
    · next message rest hnext =>
      obtain ⟨frame, hbody, hframe, hle⟩ := Frame.next?_eq_some_iff.1 hnext
      split at hq'
      · simp at hq'
      · next q₁ hread =>
        obtain rfl := Option.some.inj (readFrames_some hq')
        exact ⟨frame, message, rest, hbody, hframe, hle, readRequest_eq_ok_iff.1 hread⟩

end Grpc
end MailGateway
