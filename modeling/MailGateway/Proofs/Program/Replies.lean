/-
# What is printed for messages that are sent

The words behind `--` are messages, whatever they look like (`parse_sendMail`).  Where the
settings load and the client has a connection that the server understands, plain or encrypted,
the program prints each reply as an object over several lines, the reply to an empty message too
(`prints_replyText`), in the order of the messages, and ends with success
(`sent_messages_come_back`).
-/

import MailGateway.Proofs.Client.Conversation
import MailGateway.Proofs.Client.Encryption
import MailGateway.Proofs.Files.Steps
import MailGateway.Proofs.Json.Lines
import Mathlib.Data.List.Forall2

namespace MailGateway

namespace CommandLine

/-- Behind `--` every word is a message. -/
theorem words_escaped (given : List (Choice × Option String)) (done messages : List String) :
    Level.words ⟨some .sendMail, given, done, .nothing, true⟩ messages =
      .ok ⟨some .sendMail, given, done ++ messages, .nothing, true⟩ := by
  induction messages generalizing done with
  | nil => rw [List.append_nil]; rfl
  | cons m messages ih =>
    have hrest := ih (done ++ [m])
    rw [List.append_assoc, List.singleton_append] at hrest
    exact hrest

/-- **Any messages can be asked for**, whatever they look like, behind any options. -/
theorem parse_sendMail {options messages : List String} {given : List (Choice × Option String)}
    {c : Command} (hoptions : Level.words { place := some .sendMail } options =
      .ok ⟨some .sendMail, given, [], .nothing, false⟩)
    (hcommand : Level.command ⟨some .sendMail, given, messages, .nothing, true⟩ .sendMail = .ok c) :
    parse ("send-mail" :: (options ++ "--" :: messages)) =
      .ok ⟨(given.lookup .config).join, given.any (·.1 = .debug), c⟩ := by
  have hverb : Verb.ofWord? "send-mail" = some .sendMail := by decide
  have hwords : Level.words { place := some .sendMail } (options ++ "--" :: messages) =
      .ok ⟨some .sendMail, given, messages, .nothing, true⟩ := by
    have hescaped := words_escaped given [] messages
    rw [Level.words] at hoptions
    rw [Level.words, List.foldlM_append, hoptions]
    exact hescaped
  simp only [parse, parseFrom, Level.isWaiting, Bool.or_self, Bool.false_eq_true, ↓reduceIte, hverb,
    parseVerb, hwords]
  simp [bind, Except.bind, Level.settle, hcommand, Level.value?, Level.has, pure, Except.pure]

end CommandLine

namespace Program

variable {w : Surroundings} {args : List String} {o : CommandLine.SendOptions}

/-- A text that is printed, other than the log. -/
def Output.printed? : Output → Option String
  | .text s => some s
  | _ => none

/-- The texts that are printed, other than the log. -/
def Run.printed (r : Run) : List String := r.output.filterMap Output.printed?

/-- A printed reply is an object over several lines, with the error as its only member. -/
structure Prints (text error : String) : Prop where
  layout : Utf8.encode text = (Json.Document.object [("error", .text error)]).layout 0
  members : Json.texts? (Utf8.encode text) = some [("error", error)]

theorem replyText_eq (m : String) : replyText ⟨m⟩ = Json.recordLines "error" m := by
  rw [replyText, ← Json.encode_recordLines, Utf8.decode?_encode]
  rfl

theorem prints_replyText (m : String) : Prints (replyText ⟨m⟩) m := by
  rw [replyText_eq]
  exact ⟨(Json.layout_object_text "error" m).symm, Json.texts?_recordLines "error" m⟩

/-- The command line asks for messages to be sent, and the client gets a connection to a server
that understands it. -/
structure Reaches (w : Surroundings) (args : List String) (o : CommandLine.SendOptions) :
    Prop where
  command : ∃ i file s spans, CommandLine.parse args = .ok i ∧ i.command = .sendMail o ∧
    settings w i.config = .ok (file, s) ∧ Telemetry.setUp w.environment s.otlpEndpoint = some spans
  connection : ∃ conn, Client.connect w.network w.files
    ⟨o.address, if o.insecure then none else some o.caFile, o.serverName⟩ = .ok conn ∧
      conn.isUnderstood = true

theorem sendMail_eq (hconnect : ∃ conn, Client.connect w.network w.files
      ⟨o.address, if o.insecure then none else some o.caFile, o.serverName⟩ = .ok conn ∧
        conn.isUnderstood = true)
    (h : ∀ m ∈ o.messages, (Protobuf.writeRecord m).length ≤ Grpc.Frame.maxMessage) :
    sendMail w o = (.event (.connected o.address) ::
      o.messages.map fun m => .text (replyText ⟨m⟩), .exit 0) := by
  obtain ⟨conn, hconnect, hunderstood⟩ := hconnect
  simp only [sendMail, hconnect, Client.Connection.send_eq hunderstood h, List.map_map]
  rfl

/-- What is printed is a text for each reply, in order. -/
theorem run_of_reaches (program : Option String) (h : Reaches w args o)
    (hlength : ∀ m ∈ o.messages, (Protobuf.writeRecord m).length ≤ Grpc.Frame.maxMessage) :
    (run w program args).printed = o.messages.map (fun m => replyText ⟨m⟩) ∧
      (run w program args).ending = .exit 0 := by
  obtain ⟨⟨i, file, s, ⟨_, exported⟩, hparse, hcommand, hsettings, htelemetry⟩, hconnection⟩ := h
  have hrun : run w program args =
      { filter := .choose w.environment (i.debug || s.debug)
        output := (exported ++ [announceFile file]).map .event ++ (sendMail w o).1
        ending := (sendMail w o).2 } := by
    simp only [run, hparse, hcommand, runWithSettings, hsettings, htelemetry]
  have hevents : ∀ events : List Log.Event,
      (events.map Output.event).filterMap Output.printed? = [] := fun events => by
    rw [List.filterMap_map, List.filterMap_eq_nil_iff]
    exact fun _ _ => rfl
  rw [hrun, sendMail_eq hconnection hlength]
  refine ⟨?_, rfl⟩
  rw [Run.printed, List.filterMap_append, hevents, List.nil_append, List.filterMap_cons]
  simp only [Output.printed?, List.filterMap_map]
  exact List.filterMap_eq_map ▸ rfl

/-- **None is lost and none comes before another.**  The replies to a list of messages are
these messages, over any connection that the server understands; and where the program has such
a connection, it prints one object for each message, in order, with the message as its only
member, and ends with success. -/
theorem sent_messages_come_back :
    (∀ (ρ : Metrics.Recorder) (messages : List String),
      (∀ m ∈ messages, (Protobuf.writeRecord m).length ≤ 4194304) →
      Client.sendAll ρ messages = ((App.run ρ (messages.map Client.call)).1,
        messages.map Mail.Reply.mk, none)) ∧
    (∀ (net : Client.Network) (conn : Client.Connection) (messages : List String),
      conn.isUnderstood = true → (∀ m ∈ messages, (Protobuf.writeRecord m).length ≤ 4194304) →
      conn.send net messages = (messages.map Mail.Reply.mk, none)) ∧
    ∀ (w : Surroundings) (program : Option String) (args : List String)
      (o : CommandLine.SendOptions), Reaches w args o →
      (∀ m ∈ o.messages, (Protobuf.writeRecord m).length ≤ 4194304) →
      (run w program args).ending = .exit 0 ∧
      List.Forall₂ (fun m text => Prints text m) o.messages (run w program args).printed := by
  refine ⟨fun ρ messages h => Client.sendAll_eq ρ h,
    fun net conn messages hunderstood h => Client.Connection.send_eq hunderstood h,
    fun w program args o h hlength => ?_⟩
  obtain ⟨hprinted, hending⟩ := run_of_reaches program h hlength
  refine ⟨hending, ?_⟩
  rw [hprinted, List.forall₂_map_right_iff, List.forall₂_same]
  exact fun m _ => prints_replyText m

/-! ### Messages to a server that signs for itself -/

theorem chooseFile_oneFile (text : String) :
    Config.chooseFile (Client.oneFile text) [] none = .ok none := by
  have hdefault : (Client.oneFile text).exists? Config.defaultFile = false :=
    Files.Tree.exists?_of_at?_eq_none
      ⟨by decide, by decide, by decide, by decide, by decide, by decide⟩ rfl rfl rfl
  have hexample : (Client.oneFile text).exists? Config.exampleFile = false :=
    Files.Tree.exists?_of_at?_eq_none
      ⟨by decide, by decide, by decide, by decide, by decide, by decide⟩ rfl rfl rfl
  simp [Config.chooseFile, Config.Environment.get?, hdefault, hexample]

/-- The surroundings of a client next to a server that signs for itself. -/
def nextToServer : Surroundings where
  files := Client.oneFile Client.selfSigned
  network := Client.localNetwork Client.secureServer

theorem settings_nextToServer : ∃ s, settings nextToServer none = .ok (none, s) ∧
    s.otlpEndpoint = none := by
  have hload : (match Config.load nextToServer.files [] none with
      | .ok s => s.otlpEndpoint.isNone
      | .error _ => false) = true := by decide
  split at hload
  · next s hs =>
    refine ⟨s, ?_, Option.isNone_iff_eq_none.1 hload⟩
    have hfile : Config.chooseFile nextToServer.files nextToServer.environment none = .ok none :=
      chooseFile_oneFile _
    have hs' : Config.load nextToServer.files nextToServer.environment none = .ok s := hs
    rw [settings, hfile]
    simp only [bind, Except.bind, hs']
    rfl
  · cases hload

theorem reaches_nextToServer {messages : List String} (h : messages ≠ []) :
    Reaches nextToServer ("send-mail" :: ["--ca-file=c"] ++ "--" :: messages)
      { caFile := "c", messages := messages } where
  command := by
    obtain ⟨s, hs, hendpoint⟩ := settings_nextToServer
    have hsome : messages.isEmpty = false := by simpa using h
    have hoptions : CommandLine.Level.words { place := some .sendMail } ["--ca-file=c"] =
        .ok ⟨some .sendMail, [(.caFile, some "c")], [], .nothing, false⟩ := rfl
    have hcommand : CommandLine.Level.command
        ⟨some .sendMail, [(.caFile, some "c")], messages, .nothing, true⟩ .sendMail =
          .ok (.sendMail { caFile := "c", messages := messages }) := by
      simp [CommandLine.Level.command, CommandLine.Level.conflict?, CommandLine.Level.has,
        CommandLine.Level.value?, List.lookup, hsome]
      rfl
    refine ⟨_, none, s, (false, []), CommandLine.parse_sendMail hoptions hcommand, rfl, hs, ?_⟩
    rw [hendpoint]
    rfl
  connection := by
    have hparse : Http.Uri.parse true "https://localhost:9091" = .ok (Client.localUri true) := by
      cbv
    exact ⟨_, (Client.connect_https_iff rfl hparse (by decide +kernel)).2
      ⟨Client.secureServer, _, Client.knows_secureServer rfl, rfl⟩, rfl⟩

/-- An empty message, one with a quote and a line feed, and one outside of ASCII. -/
theorem sent_messages_come_back_selfSigned :
    let messages := ["", "a\"b\n", "é"]
    let r := run nextToServer none ("send-mail" :: ["--ca-file=c"] ++ "--" :: messages)
    let plainly := Client.Connection.plain Client.plainServer
    (Client.sendAll .empty messages).2 = (messages.map Mail.Reply.mk, none) ∧
      plainly.send .empty messages = (messages.map Mail.Reply.mk, none) ∧
      r.ending = .exit 0 ∧ List.Forall₂ (fun m text => Prints text m) messages r.printed := by
  intro messages r plainly
  have hlength : ∀ m ∈ messages, (Protobuf.writeRecord m).length ≤ 4194304 := by decide +kernel
  have hreaches := reaches_nextToServer (show messages ≠ [] by decide)
  refine ⟨?_, sent_messages_come_back.2.1 .empty plainly messages rfl hlength,
    sent_messages_come_back.2.2 nextToServer none _ _ hreaches hlength⟩
  rw [sent_messages_come_back.1 .empty messages hlength]

end Program
end MailGateway
