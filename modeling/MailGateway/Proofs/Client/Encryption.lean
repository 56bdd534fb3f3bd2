/-
# When a client encrypts

A CA file is what a client knows a server by, but it is the scheme of the address that
decides whether the client encrypts (`connect_encrypts_iff_https`).  Once a client has read its
CA file,

- at an `https` address it connects exactly to a server that the file knows;
- at any other address it connects to whatever server is there, in plain text, and it is the
  first message that fails if the server expects an encrypted connection.
-/

import MailGateway.Program
import MailGateway.Proofs.Outcome

namespace MailGateway
namespace Client

variable {net : Network} {files : Files.Tree} {o : Options} {path : String} {uri : Http.Uri}
  {conn : Connection} {t : Trust} {server : Listener}

/-- The server where a URI leads is one that a client knows by the trust of its CA file. -/
structure Knows (net : Network) (files : Files.Tree) (o : Options) (path : String)
    (uri : Http.Uri) (server : Listener) (t : Trust) : Prop where
  trust : Trust.ofFile files path (o.serverName.getD uri.writtenHost) = .ok t
  listens : net.listener uri.host uri.port = some server
  proved : ∃ pair, server.transport = .tls pair ∧ net.proves pair.certificates t = true

/-- The trust of a file whose sections are known. -/
theorem ofFile_of_sections {text name : String} {sections : List Tls.Section} {roots : List Bytes}
    (hread : files.read path = .ok text) (hsections : Tls.Pem.sections? text = some sections)
    (hroots : (sections.filter (·.kind = .certificate)).map (·.content) = roots)
    (hanchors : ∀ root ∈ roots, Tls.Certificate.isAnchor root = true)
    (hname : Tls.ServerName.isValid name = true) :
    Trust.ofFile files path name = .ok ⟨roots, name⟩ := by
  have hall : roots.all Tls.Certificate.isAnchor = true := List.all_eq_true.2 hanchors
  simp only [Trust.ofFile, hread, Except.mapError, Except.bind, bind, hsections, hroots, hall,
    hname]
  rfl

theorem open?_encrypt_iff : Connection.open? net true (some t) server = some conn ↔
    (∃ pair, server.transport = .tls pair ∧ net.proves pair.certificates t = true) ∧
      conn = .encrypted server t := by
  cases htransport : server.transport with
  | plaintext => simp [Connection.open?, htransport]
  | tls pair => simp [Connection.open?, htransport, eq_comm (a := conn)]

/-- A client with a CA file connects where it has read the file, the address has a scheme,
and a connection to the server there can be opened. -/
theorem connect_eq_ok_iff (hca : o.caFile = some path)
    (hparse : Http.Uri.parse true o.address = .ok uri) : connect net files o = .ok conn ↔
      ∃ t, Trust.ofFile files path (o.serverName.getD uri.writtenHost) = .ok t ∧
      ∃ scheme, uri.schemeName? = some scheme ∧
      ∃ server, net.listener uri.host uri.port = some server ∧
        Connection.open? net (scheme = "https") (some t) server = some conn := by
  simp only [connect, hparse, hca, bind_eq_ok_iff, mapError_eq_ok_iff, map_eq_ok_iff,
    Option.mapM_some, Except.ok.injEq, exists_eq_left']
  constructor
  · rintro ⟨_, ⟨t, htrust, rfl⟩, hconnect⟩
    split at hconnect
    · cases hconnect
    · next scheme hscheme =>
      split at hconnect
      · next c hbind =>
        obtain rfl := Except.ok.inj hconnect
        obtain ⟨server, hlistens, hopen⟩ := Option.bind_eq_some_iff.1 hbind
        exact ⟨t, htrust, scheme, hscheme, server, hlistens, hopen⟩
      · cases hconnect
  · rintro ⟨t, htrust, scheme, hscheme, server, hlistens, hopen⟩
    refine ⟨some t, ⟨t, htrust, rfl⟩, ?_⟩
    simp only [hscheme, hlistens, Option.bind_some, hopen]
    rfl

/-- At an encrypted address a client with a CA file connects exactly to a server that it
knows. -/
theorem connect_https_iff (hca : o.caFile = some path)
    (hparse : Http.Uri.parse true o.address = .ok uri) (hscheme : uri.schemeName? = some "https") :
    connect net files o = .ok conn ↔
      ∃ server t, Knows net files o path uri server t ∧ conn = .encrypted server t := by
  rw [connect_eq_ok_iff hca hparse]
  constructor
  · rintro ⟨t, htrust, scheme, hs, server, hlistens, hopen⟩
    obtain rfl := Option.some.inj (hscheme.symm.trans hs)
    obtain ⟨hproved, rfl⟩ := open?_encrypt_iff.1 hopen
    exact ⟨server, t, ⟨htrust, hlistens, hproved⟩, rfl⟩
  · rintro ⟨server, t, ⟨htrust, hlistens, hproved⟩, rfl⟩
    exact ⟨t, htrust, "https", hscheme, server, hlistens, open?_encrypt_iff.2 ⟨hproved, rfl⟩⟩

/-- At an address of another scheme the client connects to any server, in plain text. -/
theorem connect_plain_iff (hca : o.caFile = some path)
    (hparse : Http.Uri.parse true o.address = .ok uri) (hscheme : uri.schemeName? ≠ some "https") :
    connect net files o = .ok conn ↔
      (∃ t, Trust.ofFile files path (o.serverName.getD uri.writtenHost) = .ok t) ∧
      (∃ scheme, uri.schemeName? = some scheme) ∧
      ∃ server, net.listener uri.host uri.port = some server ∧ conn = .plain server := by
  have hplain : ∀ scheme, uri.schemeName? = some scheme → ∀ trust server,
      Connection.open? net (scheme = "https") trust server = some (.plain server) := by
    intro scheme hs trust server
    have hother : decide (scheme = "https") = false := decide_eq_false fun heq => hscheme (heq ▸ hs)
    rw [hother]
    rfl
  rw [connect_eq_ok_iff hca hparse]
  constructor
  · rintro ⟨t, htrust, scheme, hs, server, hlistens, hopen⟩
    rw [hplain scheme hs] at hopen
    exact ⟨⟨t, htrust⟩, ⟨scheme, hs⟩, server, hlistens, (Option.some.inj hopen).symm⟩
  · rintro ⟨⟨t, htrust⟩, ⟨scheme, hs⟩, server, hlistens, rfl⟩
    exact ⟨t, htrust, scheme, hs, server, hlistens, hplain scheme hs (some t) server⟩

/-- A reply that is printed came over a connection. -/
theorem exists_connect_of_text {w : Program.Surroundings} {m : CommandLine.SendOptions}
    {text : String} (h : .text text ∈ (Program.sendMail w m).1) :
    ∃ conn, connect w.network w.files
      ⟨m.address, if m.insecure then none else some m.caFile, m.serverName⟩ = .ok conn := by
  unfold Program.sendMail at h
  dsimp only at h
  split at h
  · cases List.mem_singleton.1 h
  · next conn hconnect => exact ⟨conn, hconnect⟩

/-- **With a CA file it is the scheme of the address that decides whether a client
encrypts.**  At an `https` address it connects exactly to a server that it knows, over an
encrypted connection, and prints no reply of another; elsewhere it connects to any server, and
the connection is plain. -/
theorem connect_encrypts_iff_https (hca : o.caFile = some path)
    (hparse : Http.Uri.parse true o.address = .ok uri) :
    (uri.schemeName? = some "https" → ∀ conn, connect net files o = .ok conn ↔
      ∃ server t, Knows net files o path uri server t ∧ conn = .encrypted server t) ∧
    (uri.schemeName? ≠ some "https" → ∀ conn, connect net files o = .ok conn ↔
      (∃ t, Trust.ofFile files path (o.serverName.getD uri.writtenHost) = .ok t) ∧
      (∃ scheme, uri.schemeName? = some scheme) ∧
      ∃ server, net.listener uri.host uri.port = some server ∧ conn = .plain server) ∧
    (uri.schemeName? = some "https" → ∀ (w : Program.Surroundings) (messages : List String)
      (text : String), w.network = net → w.files = files →
      .text text ∈ (Program.sendMail w ⟨o.address, path, o.serverName, false, messages⟩).1 →
      ∃ server t, Knows net files o path uri server t) := by
  refine ⟨fun hscheme conn => connect_https_iff hca hparse hscheme,
    fun hscheme conn => connect_plain_iff hca hparse hscheme, ?_⟩
  rintro hscheme w messages text rfl rfl htext
  obtain ⟨conn, hconnect⟩ := exists_connect_of_text htext
  have ho : ⟨o.address, some path, o.serverName⟩ = o := by rw [← hca]
  obtain ⟨server, t, hknows, -⟩ := (connect_https_iff hca hparse hscheme).1 (ho ▸ hconnect)
  exact ⟨server, t, hknows⟩

/-! ### A server that signs for itself -/

/-- The lines of the certificate of a server that signs for itself. -/
def selfSignedLines : List String :=
  ["-----BEGIN CERTIFICATE-----",
   "MIIBkTCCATigAwIBAgIUOPrwSGaEktoj9/QF0mY30ynEH+0wCgYIKoZIzj0EAwIw",
   "FDESMBAGA1UEAwwJbG9jYWxob3N0MCAXDTI2MTExOTIxMzA0OFoYDzIxMjYxMDI2",
   "MjEzMDQ4WjAUMRIwEAYDVQQDDAlsb2NhbGhvc3QwWTATBgcqhkjOPQIBBggqhkjO",
   "PQMBBwNCAAQsxD5bzUVQBCqrID3L8lcKsKioc8OZF+5BgNeGH43/OY4K9kefFeZH",
   "mnz9cOxrDxIUm8UoZ54fE2CdybewJgU6o2YwZDAdBgNVHQ4EFgQUuFen6fG9qZPl",
   "ytRTxawULWxenYgwHwYDVR0jBBgwFoAUuFen6fG9qZPlytRTxawULWxenYgwFAYD",
   "VR0RBA0wC4IJbG9jYWxob3N0MAwGA1UdEwEB/wQCMAAwCgYIKoZIzj0EAwIDRwAw",
   "RAIgS8tWiELlfUMjM9KvrCZsfAmqW+XqzhEzpqLDqw2CxaMCIHTIKkFkUqCzknBn",
   "P87jtWj18KIIdC9MeK3CfeFrMYrK",
   "-----END CERTIFICATE-----"]

/-- The text of the certificate. -/
def selfSigned : String :=
  String.ofList (selfSignedLines.flatMap fun line => line.toList ++ ['\n'])

/-- The certificates in the text. -/
def selfSignedRoots : List Bytes :=
  (((Tls.Pem.sections? selfSigned).getD []).filter (·.kind = .certificate)).map (·.content)

/-- A tree with one file. -/
def oneFile (text : String) : Files.Tree := { entries := [(["c"], .file text)] }

/-- A network with one server on port 9091 of this host.  A certificate that is trusted
itself proves the name of the host. -/
def localNetwork (server : Listener) : Network where
  listener host port := if host = "localhost" ∧ port = 9091 then some server else none
  proves certificates t := certificates = t.roots ∧ t.name = "localhost"
  garbled := (.unavailable, "connection closed")

theorem read_oneFile (text : String) : (oneFile text).read "c" = .ok text := by cbv

theorem trust_selfSigned :
    Trust.ofFile (oneFile selfSigned) "c" "localhost" = .ok ⟨selfSignedRoots, "localhost"⟩ := by
  -- The text is decoded once, for its sections and for what is checked of them.
  have hchecked : ((Tls.Pem.sections? selfSigned).map fun sections =>
      ((sections.filter (·.kind = .certificate)).map (·.content)).all
        Tls.Certificate.isAnchor) = some true := by
    simp only [Tls.Pem.sections?, Tls.Pem.entries, selfSigned, String.toList_ofList,
      selfSignedLines, List.flatMap_cons, List.flatMap_nil]
    -- Each line is its characters, and the kernel need not decode it.
    repeat rw [String.toList_ofList]
    decide +kernel
  obtain ⟨sections, hs, hanchors⟩ := Option.map_eq_some_iff.1 hchecked
  have hroots : (sections.filter (·.kind = .certificate)).map (·.content) = selfSignedRoots := by
    rw [selfSignedRoots, hs]
    rfl
  rw [hroots] at hanchors
  exact ofFile_of_sections (read_oneFile _) hs hroots (List.all_eq_true.1 hanchors)
    (by decide)

/-- The URI of port 9091 of this host. -/
def localUri (encrypt : Bool) : Http.Uri :=
  ⟨some (if encrypt then "https" else "http"), "localhost:9091", ""⟩

theorem localUri_parts (encrypt : Bool) :
    (localUri encrypt).schemeName? = some (if encrypt then "https" else "http") ∧
      (localUri encrypt).host = "localhost" ∧ (localUri encrypt).writtenHost = "localhost" ∧
      (localUri encrypt).port = 9091 := by
  cases encrypt <;> decide +kernel

theorem listener_localUri (server : Listener) (encrypt : Bool) :
    (localNetwork server).listener (localUri encrypt).host (localUri encrypt).port =
      some server := by
  obtain ⟨-, hhost, -, hport⟩ := localUri_parts encrypt
  simp [localNetwork, hhost, hport]

/-- A key pair with the certificate. -/
def selfSignedPair : Tls.KeyPair := ⟨selfSignedRoots, default⟩

/-- A server with the key pair. -/
def secureServer : Listener := ⟨.tls selfSignedPair, .empty⟩

/-- A server without one. -/
def plainServer : Listener := ⟨.plaintext, .empty⟩

/-- The server is one that the certificate knows. -/
theorem knows_secureServer {o : Options} (hname : o.serverName = none) :
    Knows (localNetwork secureServer) (oneFile selfSigned) o "c" (localUri true) secureServer
      ⟨selfSignedRoots, "localhost"⟩ where
  trust := by
    rw [hname, Option.getD_none, (localUri_parts true).2.2.1]
    exact trust_selfSigned
  listens := listener_localUri secureServer true
  proved := ⟨selfSignedPair, rfl, by simp [localNetwork, selfSignedPair]⟩

/-- At the `https` address the certificate is what the client knows the server by. -/
theorem connect_encrypts_iff_https_selfSigned :
    connect (localNetwork secureServer) (oneFile selfSigned)
      { address := "https://localhost:9091", caFile := some "c" } =
        .ok (.encrypted secureServer ⟨selfSignedRoots, "localhost"⟩) := by
  have hparse : Http.Uri.parse true "https://localhost:9091" = .ok (localUri true) := by cbv
  exact ((connect_encrypts_iff_https rfl hparse).1 (localUri_parts true).1 _).2
    ⟨secureServer, _, knows_secureServer rfl, rfl⟩

theorem connect_localUri_http (server : Listener) :
    connect (localNetwork server) (oneFile selfSigned)
      { address := "http://localhost:9091", caFile := some "c" } = .ok (.plain server) := by
  have hparse : Http.Uri.parse true "http://localhost:9091" = .ok (localUri false) := by cbv
  obtain ⟨hscheme, -, hhost, -⟩ := localUri_parts false
  refine (connect_plain_iff rfl hparse (by rw [hscheme]; decide)).2
    ⟨⟨⟨selfSignedRoots, "localhost"⟩, ?_⟩, ⟨"http", hscheme⟩, server,
      listener_localUri server false, rfl⟩
  rw [Option.getD_none, hhost]
  exact trust_selfSigned

/-- At an `http` address the same client connects in plain text, to a plain server and to one
that expects an encrypted connection. -/
theorem connect_plain_with_caFile :
    connect (localNetwork plainServer) (oneFile selfSigned)
        { address := "http://localhost:9091", caFile := some "c" } = .ok (.plain plainServer) ∧
      connect (localNetwork secureServer) (oneFile selfSigned)
        { address := "http://localhost:9091", caFile := some "c" } = .ok (.plain secureServer) :=
  ⟨connect_localUri_http plainServer, connect_localUri_http secureServer⟩

end Client
end MailGateway
