/-
# One connection, many messages

A client asks for one message after another, and each call is answered with the message
itself (`readReply_step`).  So the replies to a list of messages are these messages, as many
and in this order, whatever the server has counted before (`sendAll_eq`) and however the
connection that it understands is carried (`Connection.send_eq`).
-/

import MailGateway.Client
import MailGateway.Proofs.App.Echo

namespace MailGateway
namespace Client

variable {m : String}

/-- The call of a client is a call with its message. -/
theorem callsMail_call (h : (Protobuf.writeRecord m).length ≤ Grpc.Frame.maxMessage) :
    App.CallsMail (call m) m where
  version := rfl
  method := rfl
  path := by
    change Http.targetPath Grpc.sendPath = Grpc.sendPath
    decide
  type := by
    change Http.Headers.first? [Http.field "te" "trailers", Grpc.typeField] "content-type" = _
    decide +kernel
  encoding := by
    change Http.Headers.first? [Http.field "te" "trailers", Grpc.typeField] "grpc-encoding" = _ ∨ _
    exact .inl (by decide +kernel)
  body := by
    change Grpc.Frame.Holds [Grpc.Frame.write (Protobuf.writeRecord m)].flatten _
    rw [List.flatten_singleton]
    exact Grpc.Frame.holds_write (Nat.lt_of_le_of_lt h (by decide))

/-- An answer that was served is read as its reply. -/
theorem readReply_success (h : (Protobuf.writeRecord m).length ≤ Grpc.Frame.maxMessage) :
    readReply (Grpc.success ⟨m⟩) = .ok ⟨m⟩ := by
  have hheaders : refusal? (Grpc.success ⟨m⟩).headers = none := by
    rw [refusal?, Grpc.Code.ofHeaders_of_first?_eq_none (Grpc.first?_success ⟨m⟩)]
  have htrailers : refusal? [Grpc.statusField .ok] = none := by
    rw [refusal?, Grpc.Code.ofHeaders_of_first? (Grpc.first?_statusField .ok [])]
  have hshort : (Protobuf.writeRecord m).length < 2 ^ 32 := Nat.lt_of_le_of_lt h (by decide)
  have hframe := (Grpc.Frame.holds_write hshort).next? h []
  rw [List.append_nil] at hframe
  have hrecord : Protobuf.parseRecord (Protobuf.writeRecord m) = .ok m :=
    Protobuf.parseRecord_writeRecord_of_length (Nat.lt_of_le_of_lt h (by decide))
  have hbody : readBody (Grpc.Frame.write (Protobuf.writeRecord m)) = .ok ⟨m⟩ := by
    simp only [readBody, hframe, hrecord]
  have htrailers' : (Grpc.success ⟨m⟩).trailers = some [Grpc.statusField .ok] := rfl
  simp only [readReply, hheaders, htrailers', Option.getD_some, htrailers]
  exact hbody

/-- **A message comes back**, whatever the server has counted before. -/
theorem readReply_step (ρ : Metrics.Recorder)
    (h : (Protobuf.writeRecord m).length ≤ Grpc.Frame.maxMessage) :
    readReply (App.step ρ (call m)).2.response = .ok ⟨m⟩ := by
  have hcall := callsMail_call h
  rw [App.step_served hcall.isCall (hcall.accept h)]
  exact readReply_success h

/-- Where the first message is answered, its reply goes in front of the others. -/
theorem sendAll_cons_of_ok {ρ : Metrics.Recorder} {messages : List String} {reply : Mail.Reply}
    (h : readReply (App.step ρ (call m)).2.response = .ok reply) :
    sendAll ρ (m :: messages) =
      ((sendAll (App.step ρ (call m)).1 messages).1,
        reply :: (sendAll (App.step ρ (call m)).1 messages).2.1,
        (sendAll (App.step ρ (call m)).1 messages).2.2) := by
  rw [sendAll_cons, h]

/-- **The replies are the messages**, as many and in this order. -/
theorem sendAll_eq (ρ : Metrics.Recorder) {messages : List String}
    (h : ∀ m ∈ messages, (Protobuf.writeRecord m).length ≤ Grpc.Frame.maxMessage) :
    sendAll ρ messages =
      ((App.run ρ (messages.map call)).1, messages.map Mail.Reply.mk, none) := by
  induction messages generalizing ρ with
  | nil => rfl
  | cons m messages ih =>
    have hreply := readReply_step ρ (h m List.mem_cons_self)
    have hrest := ih (App.step ρ (call m)).1 fun n hn => h n (List.mem_cons_of_mem _ hn)
    rw [sendAll_cons_of_ok hreply, hrest, List.map_cons, List.map_cons, App.run_cons]

/-- **Over a connection that the server understands** the messages come back. -/
theorem Connection.send_eq {net : Network} {connection : Connection}
    (hunderstood : connection.isUnderstood = true) {messages : List String}
    (h : ∀ m ∈ messages, (Protobuf.writeRecord m).length ≤ Grpc.Frame.maxMessage) :
    connection.send net messages = (messages.map Mail.Reply.mk, none) := by
  rw [Connection.send, if_pos hunderstood, sendAll_eq connection.server.recorder h]

end Client
end MailGateway
