/-
# The stages of a start

A start goes through three stages, and each has its own faults, its own notice and its
own report:

| stage | fault | notice | report |
| --- | --- | --- | --- |
| `address` | the lookup fails, or finds no address | none | `buildFailed` |
| `transport` | with `secure` set, the key pair does not load | the transport | `buildFailed` |
| `bind` | the address cannot be listened on | where the server listens | `failed` |

A run of the server is the walk through this table (`run_eq_stages`): the notices of the
stages up to the first with a fault, and then the report of that fault or the end of a
server that ran.  A fault hides all that only the later stages would look at
(`run_eq_of_address`, `run_eq_of_transport`), and without `secure` no stage looks at a file
(`run_eq_of_plaintext`).  All this is so on any system, whatever its resolver finds and
whatever it lets the server bind.
-/

import Mathlib
import MailGateway.Program

namespace MailGateway
namespace Server

open Config (Settings)

variable {sys : System} {files : Files.Tree} {s : Settings} {signalled : Bool} {e : StartError}

/-- The stages of a start. -/
inductive Stage where
  | address
  | transport
  | bind
  deriving DecidableEq, Repr

/-- The stage that an error is of. -/
def StartError.stage : StartError → Stage
  | .address _ _ _ => .address
  | .keyPair _ _ _ => .transport
  | .bind _ _ => .bind

/-- How an error is reported. -/
def StartError.report (e : StartError) : Log.Event :=
  match e.stage with
  | .address | .transport => .buildFailed e.message
  | .bind => .failed e.message

/-- The error of a step, if there is one. -/
def error? {α : Type} : Except StartError α → Option StartError
  | .ok _ => none
  | .error e => some e

theorem error?_mapError_eq_some_iff {ε α : Type} {x : Except ε α} {f : ε → StartError} :
    error? (x.mapError f) = some e ↔ ∃ fault, x = .error fault ∧ f fault = e := by
  cases x <;> simp [error?, Except.mapError]

namespace Stage

/-- The stages, in their order. -/
def all : List Stage := [.address, .transport, .bind]

/-- What a stage fails with.  A listener is bound where the host was found. -/
def fault? (sys : System) (files : Files.Tree) (s : Settings) : Stage → Option StartError
  | .address => error? (resolve sys.resolver s)
  | .transport =>
    if s.secure then
      error? ((Tls.KeyPair.load files s.certFile s.keyFile).mapError
        (.keyPair s.certFile s.keyFile))
    else none
  | .bind =>
    (resolve sys.resolver s).toOption.bind fun a => error? ((sys.bind a).mapError (.bind a))

/-- What a stage reports when it begins. -/
def notices (sys : System) (s : Settings) : Stage → List Log.Event
  | .address => []
  | .transport => [if s.secure then .loadingKeyPair s.certFile s.keyFile else .plaintext]
  | .bind => (resolve sys.resolver s).toOption.toList.map fun a => .starting a.text s.secure

/-- The stages that are begun: up to the first with a fault. -/
def begun (faults : Stage → Option StartError) : List Stage → List Stage
  | [] => []
  | g :: gs => if (faults g).isSome then [g] else g :: begun faults gs

/-- The lookup fails, or finds nothing. -/
theorem fault?_address_iff : fault? sys files s .address = some e ↔
    (∃ fault, Net.lookup sys.resolver (addressText s.host s.port) = .error fault ∧
      StartError.address s.host s.port (.lookup fault) = e) ∨
    (Net.lookup sys.resolver (addressText s.host s.port) = .ok [] ∧
      StartError.address s.host s.port .unresolved = e) := by
  unfold fault? resolve
  cases Net.lookup sys.resolver (addressText s.host s.port) with
  | error fault => simp [error?]
  | ok found => cases found <;> simp [error?]

theorem fault?_transport_iff : fault? sys files s .transport = some e ↔
    s.secure = true ∧ ∃ fault, Tls.KeyPair.load files s.certFile s.keyFile = .error fault ∧
      StartError.keyPair s.certFile s.keyFile fault = e := by
  simp [fault?, error?_mapError_eq_some_iff]

theorem fault?_bind_iff : fault? sys files s .bind = some e ↔
    ∃ a, resolve sys.resolver s = .ok a ∧ ∃ reason, sys.bind a = .error reason ∧
      StartError.bind a reason = e := by
  cases hresolve : resolve sys.resolver s <;>
    simp [fault?, hresolve, Except.toOption, error?_mapError_eq_some_iff]

/-- A stage fails with errors of its own kind. -/
theorem stage_of_fault? {g : Stage} (h : fault? sys files s g = some e) : e.stage = g := by
  cases g with
  | address =>
    obtain ⟨fault, -, rfl⟩ | ⟨-, rfl⟩ := fault?_address_iff.1 h <;> rfl
  | transport =>
    obtain ⟨-, fault, -, rfl⟩ := fault?_transport_iff.1 h
    rfl
  | bind =>
    obtain ⟨a, -, reason, -, rfl⟩ := fault?_bind_iff.1 h
    rfl

end Stage

/-- The log of a start up to its first fault. -/
def opening (sys : System) (files : Files.Tree) (s : Settings) : List Log.Event :=
  .initializing s.host s.port.val ::
    (Stage.begun (Stage.fault? sys files s) Stage.all).flatMap (Stage.notices sys s)

/-- The address of a server is the first that the lookup finds. -/
theorem resolve_eq_ok_iff {resolver : Net.Resolver} {a : Net.SocketAddress} :
    resolve resolver s = .ok a ↔
      ∃ others, Net.lookup resolver (addressText s.host s.port) = .ok (a :: others) := by
  unfold resolve
  cases Net.lookup resolver (addressText s.host s.port) with
  | error fault => simp
  | ok found => cases found <;> simp

/-- A start that fails before it listens. -/
theorem run_of_build_error {events : List Log.Event}
    (h : build files s sys.resolver = (events, .error e)) :
    run sys files s signalled =
      (.initializing s.host s.port.val :: events ++ [.buildFailed e.message], .failed) := by
  simp only [run, h]

/-- A start that fails to listen. -/
theorem run_of_bind_error {ready : Ready} {events : List Log.Event} {reason : String}
    (h : build files s sys.resolver = (events, .ok ready))
    (hbind : sys.bind ready.address = .error reason) :
    run sys files s signalled =
      (.initializing s.host s.port.val :: events ++ [ready.announce] ++
        [.failed (StartError.bind ready.address reason).message], .failed) := by
  simp only [run, h, Ready.serve, hbind]
  rfl

/-- A start that ends in a server that listens. -/
theorem run_of_bind {ready : Ready} {events : List Log.Event}
    (h : build files s sys.resolver = (events, .ok ready))
    (hbind : sys.bind ready.address = .ok ()) :
    run sys files s signalled =
      let opening := .initializing s.host s.port.val :: events ++ [ready.announce]
      if signalled then (opening ++ onSignal s ++ [.stopped], .stopped)
      else (opening, .running) := by
  simp only [run, h, Ready.serve, hbind]
  rfl

theorem fault?_address_of_resolve {a : Net.SocketAddress} (h : resolve sys.resolver s = .ok a) :
    Stage.fault? sys files s .address = none := by
  rw [Stage.fault?, h]
  rfl

theorem build_of_resolve_error (h : resolve sys.resolver s = .error e) :
    build files s sys.resolver = ([], .error e) := by
  rw [build, h]

theorem build_of_load_error {a : Net.SocketAddress} {fault : Tls.PairFault}
    (hresolve : resolve sys.resolver s = .ok a) (hsecure : s.secure = true)
    (hload : Tls.KeyPair.load files s.certFile s.keyFile = .error fault) :
    build files s sys.resolver =
      (Stage.notices sys s .transport, .error (.keyPair s.certFile s.keyFile fault)) := by
  simp [build, hresolve, Transport.prepare, hsecure, hload, Stage.notices, Except.map]

/-- Without a fault of the first two stages there is a server, and it is as secure as it
was asked to be. -/
theorem build_of_faults {a : Net.SocketAddress} (hresolve : resolve sys.resolver s = .ok a)
    (htransport : Stage.fault? sys files s .transport = none) :
    ∃ t, build files s sys.resolver = (Stage.notices sys s .transport, .ok ⟨a, t⟩) ∧
      t.isSecure = s.secure := by
  cases hsecure : s.secure with
  | false =>
    refine ⟨.plaintext, ?_, rfl⟩
    simp [build, hresolve, Transport.prepare, hsecure, Stage.notices, Except.map]
  | true =>
    cases hload : Tls.KeyPair.load files s.certFile s.keyFile with
    | error fault => simp [Stage.fault?, hsecure, hload, error?, Except.mapError] at htransport
    | ok pair =>
      refine ⟨.tls pair, ?_, rfl⟩
      simp [build, hresolve, Transport.prepare, hsecure, hload, Stage.notices, Except.map]

/-- The log of a start whose first two stages have no fault. -/
theorem opening_of_resolve {a : Net.SocketAddress} (hresolve : resolve sys.resolver s = .ok a)
    (htransport : Stage.fault? sys files s .transport = none) : opening sys files s =
      .initializing s.host s.port.val :: Stage.notices sys s .transport ++
        [.starting a.text s.secure] := by
  have haddress : Stage.fault? sys files s .address = none :=
    fault?_address_of_resolve hresolve
  have hnotices : Stage.notices sys s .bind = [.starting a.text s.secure] := by
    simp [Stage.notices, hresolve, Except.toOption]
  -- the last stage reports that it begins, whether or not it has a fault
  have hbegun : Stage.begun (Stage.fault? sys files s) Stage.all = Stage.all := by
    simp [Stage.all, Stage.begun, haddress, htransport]
  rw [opening, hbegun, Stage.all, List.flatMap_cons, List.flatMap_cons, List.flatMap_singleton,
    hnotices]
  rfl

/-- **A run of the server is a walk through its stages.** -/
theorem run_eq_stages (sys : System) (files : Files.Tree) (s : Settings)
    (signalled : Bool) : run sys files s signalled =
      match Stage.all.findSome? (Stage.fault? sys files s) with
      | some e => (opening sys files s ++ [e.report], .failed)
      | none =>
        if signalled then (opening sys files s ++ onSignal s ++ [.stopped], .stopped)
        else (opening sys files s, .running) := by
  cases hresolve : resolve sys.resolver s with
  | error e =>
    have hfault : Stage.fault? sys files s .address = some e := by
      rw [Stage.fault?, hresolve]
      rfl
    have hreport : e.report = .buildFailed e.message := by
      rw [StartError.report, Stage.stage_of_fault? hfault]
    rw [run_of_build_error (build_of_resolve_error hresolve)]
    simp [opening, Stage.all, Stage.begun, hfault, hreport, Stage.notices]
  | ok a =>
    have haddress : Stage.fault? sys files s .address = none :=
      fault?_address_of_resolve hresolve
    cases htransport : Stage.fault? sys files s .transport with
    | some e =>
      obtain ⟨hsecure, fault, hload, rfl⟩ := Stage.fault?_transport_iff.1 htransport
      rw [run_of_build_error (build_of_load_error hresolve hsecure hload)]
      simp [opening, Stage.all, Stage.begun, haddress, htransport, StartError.report,
        StartError.stage, Stage.notices]
    | none =>
      obtain ⟨t, hbuild, hsecure⟩ := build_of_faults hresolve htransport
      have hannounce : Ready.announce ⟨a, t⟩ = .starting a.text s.secure := by
        rw [Ready.announce, hsecure]
      rw [opening_of_resolve hresolve htransport]
      cases hbind : sys.bind a with
      | error reason =>
        have hfault : Stage.fault? sys files s .bind = some (.bind a reason) :=
          Stage.fault?_bind_iff.2 ⟨a, hresolve, reason, hbind, rfl⟩
        rw [run_of_bind_error hbuild hbind, hannounce]
        simp [Stage.all, haddress, htransport, hfault, StartError.report, StartError.stage]
      | ok _ =>
        have hfault : Stage.fault? sys files s .bind = none := by
          simp [Stage.fault?, hresolve, Except.toOption, hbind, error?, Except.mapError]
        rw [run_of_bind hbuild hbind, hannounce]
        simp [Stage.all, haddress, htransport, hfault]

/-! ### What a run does not look at -/

/-- The address depends on the host and the port alone. -/
theorem resolve_congr {s' : Settings} (hhost : s'.host = s.host) (hport : s'.port = s.port) :
    resolve sys.resolver s' = resolve sys.resolver s := by
  simp only [resolve, hhost, hport]

/-- **A host without an address hides all but the host and the port.** -/
theorem run_eq_of_address (h : (Stage.fault? sys files s .address).isSome)
    (bind : Net.SocketAddress → Except String Unit) (files' : Files.Tree) {s' : Settings}
    (hhost : s'.host = s.host) (hport : s'.port = s.port) :
    run { sys with bind } files' s' signalled = run sys files s signalled := by
  obtain ⟨e, hresolve⟩ : ∃ e, resolve sys.resolver s = .error e := by
    cases hresolve : resolve sys.resolver s with
    | error e => exact ⟨e, rfl⟩
    | ok a =>
      rw [fault?_address_of_resolve hresolve] at h
      exact absurd h Bool.false_ne_true
  have hresolve' : resolve sys.resolver s' = .error e := (resolve_congr hhost hport).trans hresolve
  rw [run_of_build_error (build_of_resolve_error hresolve), ← hhost, ← hport]
  exact run_of_build_error (build_of_resolve_error hresolve')

/-- **A key pair that does not load hides what can be bound.** -/
theorem run_eq_of_transport (h : (Stage.fault? sys files s .transport).isSome)
    (bind : Net.SocketAddress → Except String Unit) :
    run { sys with bind } files s signalled = run sys files s signalled := by
  obtain ⟨e, hfault⟩ := Option.isSome_iff_exists.1 h
  obtain ⟨hsecure, fault, hload, rfl⟩ := Stage.fault?_transport_iff.1 hfault
  obtain ⟨events, e, hbuild⟩ : ∃ events e, build files s sys.resolver = (events, .error e) := by
    cases hresolve : resolve sys.resolver s with
    | error e => exact ⟨_, _, build_of_resolve_error hresolve⟩
    | ok a => exact ⟨_, _, build_of_load_error hresolve hsecure hload⟩
  rw [run_of_build_error hbuild]
  exact run_of_build_error hbuild

theorem build_eq_of_plaintext (h : s.secure = false) (certFile keyFile : String)
    (files files' : Files.Tree) (resolver : Net.Resolver) :
    build files' { s with certFile, keyFile } resolver = build files s resolver := by
  simp only [build, Transport.prepare, h]
  rfl

/-- **Without `secure` the key pair plays no part,** neither the names of its files nor what
is in them. -/
theorem run_eq_of_plaintext (h : s.secure = false) (certFile keyFile : String)
    (files' : Files.Tree) :
    run sys files' { s with certFile, keyFile } signalled = run sys files s signalled := by
  unfold run
  rw [build_eq_of_plaintext h certFile keyFile files files' sys.resolver]
  rfl

/-! ### The transport of a server -/

theorem build_tls_iff {resolver : Net.Resolver} {a : Net.SocketAddress} {pair : Tls.KeyPair} :
    (build files s resolver).2 = .ok ⟨a, .tls pair⟩ ↔
      s.secure = true ∧ resolve resolver s = .ok a ∧
        Tls.KeyPair.load files s.certFile s.keyFile = .ok pair := by
  cases hresolve : resolve resolver s <;> cases hsecure : s.secure <;>
    cases hload : Tls.KeyPair.load files s.certFile s.keyFile <;>
    simp [build, Transport.prepare, hresolve, hsecure, hload, Except.map]

theorem build_plaintext_iff {resolver : Net.Resolver} {a : Net.SocketAddress} :
    (build files s resolver).2 = .ok ⟨a, .plaintext⟩ ↔
      s.secure = false ∧ resolve resolver s = .ok a := by
  cases hresolve : resolve resolver s <;> cases hsecure : s.secure <;>
    cases hload : Tls.KeyPair.load files s.certFile s.keyFile <;>
    simp [build, Transport.prepare, hresolve, hsecure, hload, Except.map]

/-! ### What a run reports -/

/-- Whether an event reports an error. -/
def isError (e : Log.Event) : Bool := e.level = .error

theorem isError_report (e : StartError) : isError e.report = true := by
  cases e <;> rfl

/-- Up to the report of a fault nothing is an error. -/
theorem filter_isError_opening : (opening sys files s).filter isError = [] := by
  refine List.filter_eq_nil_iff.2 fun e he => ?_
  rcases List.mem_cons.1 he with rfl | he
  · exact Bool.false_ne_true
  · obtain ⟨g, -, he⟩ := List.mem_flatMap.1 he
    cases g with
    | address => exact absurd he List.not_mem_nil
    | transport =>
      obtain rfl := List.mem_singleton.1 he
      cases s.secure <;> exact Bool.false_ne_true
    | bind =>
      obtain ⟨a, -, rfl⟩ := List.mem_map.1 he
      exact Bool.false_ne_true

/-- A fault is the one error of a run. -/
theorem filter_isError_run_of_fault
    (h : Stage.all.findSome? (Stage.fault? sys files s) = some e) :
    (run sys files s signalled).1.filter isError = [e.report] := by
  rw [run_eq_stages, h]
  show (opening sys files s ++ [e.report]).filter isError = [e.report]
  rw [List.filter_append, filter_isError_opening, List.nil_append]
  exact List.filter_eq_self.2 fun _ he => List.mem_singleton.1 he ▸ isError_report e

/-- Without a fault there is no error, whether or not a signal ends the run. -/
theorem filter_isError_run_of_no_fault
    (h : Stage.all.findSome? (Stage.fault? sys files s) = none) :
    (run sys files s signalled).1.filter isError = [] := by
  have hsignal : (onSignal s ++ [Log.Event.stopped]).filter isError = [] := rfl
  rw [run_eq_stages, h]
  cases signalled with
  | false => exact filter_isError_opening
  | true =>
    show (opening sys files s ++ onSignal s ++ [Log.Event.stopped]).filter isError = []
    rw [List.append_assoc, List.filter_append, filter_isError_opening, hsignal]
    rfl

end Server

namespace Program

open Config (Settings)
open Server (Stage)

/-- The errors that an output reports. -/
def errors (output : List Output) : List Log.Event :=
  output.filterMap fun
    | .event e => if Server.isError e then some e else none
    | _ => none

theorem errors_events (events : List Log.Event) :
    errors (events.map .event) = events.filter Server.isError := by
  induction events with
  | nil => rfl
  | cons e events ih =>
    rw [List.filter_cons, ← ih]
    cases h : Server.isError e <;> simp [errors, h]

/-- Setting the export up reports no error. -/
theorem filter_isError_setUp {env : Config.Environment} {endpoint : Option String} {b : Bool}
    {events : List Log.Event} (h : Telemetry.setUp env endpoint = some (b, events)) :
    events.filter Server.isError = [] := by
  unfold Telemetry.setUp at h
  split at h
  · obtain ⟨-, rfl⟩ := Prod.mk.inj (Option.some.inj h)
    rfl
  · split at h
    · cases h
    · split at h
      · obtain ⟨-, rfl⟩ := Prod.mk.inj (Option.some.inj h)
        rfl
      · split at h
        · cases h
        · obtain ⟨-, rfl⟩ := Prod.mk.inj (Option.some.inj h)
          rfl

theorem isError_announceFile (file : Option String) :
    Server.isError (announceFile file) = false := by
  unfold announceFile
  split
  · rfl
  · dsimp only
    split <;> rfl

/-- What a run reports before it serves is no error. -/
theorem run_of_serve {w : Surroundings} {program : Option String} {args : List String}
    {i : CommandLine.Invocation} {o : CommandLine.ServeOptions} {file : Option String}
    {s : Settings} {exported : Bool × List Log.Event} (hparse : CommandLine.parse args = .ok i)
    (hserve : i.command = .serve o) (hsettings : settings w i.config = .ok (file, s))
    (hexport : Telemetry.setUp w.environment s.otlpEndpoint = some exported) :
    ∃ before, errors before = [] ∧
      (run w program args).output = before ++ (serve w (o.apply s)).1 ∧
      (run w program args).ending = (serve w (o.apply s)).2 := by
  have hrun : run w program args = runWithSettings w i fun s => serve w (o.apply s) := by
    simp only [run, hparse, hserve]
  refine ⟨(exported.2 ++ [announceFile file]).map .event, ?_, ?_⟩
  · rw [errors_events, List.filter_append, filter_isError_setUp hexport, List.nil_append]
    exact List.filter_eq_nil_iff.2 fun e he => by
      rw [List.mem_singleton.1 he, isError_announceFile]
      exact Bool.false_ne_true
  · rw [hrun, runWithSettings, hsettings]
    simp only [hexport, true_and]

/-- What a server leaves behind, and how that ends the program. -/
theorem serve_eq_run (w : Surroundings) (s : Settings) :
    serve w s = ((Server.run w.system w.files s w.signalled).1.map .event,
      match (Server.run w.system w.files s w.signalled).2 with
      | .stopped => .exit 0
      | .failed => .exit 1
      | .running => .running) := rfl

/-- **A start is staged, and what was to be secure is never in the open.**  The first fault
alone decides; the files matter only to a secure server, and there is no other server where
a secure one was asked for. -/
theorem serve_staged (w : Surroundings) (s : Settings) :
    let fault? := Stage.fault? w.system w.files s
    let found := Net.lookup w.system.resolver (Server.addressText s.host s.port)
    (∀ g e, fault? g = some e ↔ match g with
      | .address =>
        (∃ fault, found = .error fault ∧ e = .address s.host s.port (.lookup fault)) ∨
          (found = .ok [] ∧ e = .address s.host s.port .unresolved)
      | .transport => s.secure = true ∧
        ∃ fault, Tls.KeyPair.load w.files s.certFile s.keyFile = .error fault ∧
          e = .keyPair s.certFile s.keyFile fault
      | .bind => ∃ a others, found = .ok (a :: others) ∧
        ∃ reason, w.system.bind a = .error reason ∧ e = .bind a reason) ∧
    (∀ g e, fault? g = some e → e.stage = g) ∧
    (match Stage.all.findSome? fault? with
      | some e =>
        serve w s = ((Server.opening w.system w.files s ++ [e.report]).map .event, .exit 1) ∧
        errors (serve w s).1 = [e.report]
      | none =>
        serve w s = (if w.signalled then
          ((Server.opening w.system w.files s ++ Server.onSignal s ++
            [Log.Event.stopped]).map .event, .exit 0)
          else ((Server.opening w.system w.files s).map .event, .running)) ∧
        errors (serve w s).1 = []) ∧
    ((fault? .address).isSome → ∀ (bind : Net.SocketAddress → Except String Unit)
      (files : Files.Tree) (s' : Settings), s'.host = s.host → s'.port = s.port →
        serve { w with system := { w.system with bind }, files } s' = serve w s) ∧
    ((fault? .transport).isSome → ∀ bind : Net.SocketAddress → Except String Unit,
      serve { w with system := { w.system with bind } } s = serve w s) ∧
    (∀ a pair, (Server.build w.files s w.system.resolver).2 = .ok ⟨a, .tls pair⟩ ↔
      s.secure = true ∧ (∃ others, found = .ok (a :: others)) ∧
        Tls.KeyPair.load w.files s.certFile s.keyFile = .ok pair) ∧
    (∀ a, (Server.build w.files s w.system.resolver).2 = .ok ⟨a, .plaintext⟩ ↔
      s.secure = false ∧ ∃ others, found = .ok (a :: others)) ∧
    (s.secure = true → ∀ (files : Files.Tree) (resolver : Net.Resolver) (a : Net.SocketAddress),
      (Server.build files s resolver).2 ≠ .ok ⟨a, .plaintext⟩) ∧
    (s.secure = false → ∀ (files : Files.Tree) (certFile keyFile : String),
      Server.build files { s with certFile, keyFile } w.system.resolver =
        Server.build w.files s w.system.resolver ∧
      serve { w with files } { s with certFile, keyFile } = serve w s) ∧
    (∀ program args i o file s₀ exported, CommandLine.parse args = .ok i →
      i.command = .serve o → settings w i.config = .ok (file, s₀) → o.apply s₀ = s →
      Telemetry.setUp w.environment s₀.otlpEndpoint = some exported →
      ∃ before, errors before = [] ∧ (run w program args).output = before ++ (serve w s).1 ∧
        (run w program args).ending = (serve w s).2) := by
  intro fault? found
  have hresolve : ∀ a, Server.resolve w.system.resolver s = .ok a ↔
      ∃ others, found = .ok (a :: others) := fun _ => Server.resolve_eq_ok_iff
  refine ⟨fun g e => ?faults, fun g e h => Server.Stage.stage_of_fault? h, ?outcome, ?noAddress,
    ?noPair, fun a pair => ?tls, fun a => ?plaintext,
    fun hsecure files resolver a hbuild => ?secure,
    fun hsecure files certFile keyFile => ⟨?build, ?serve⟩, ?run⟩
  case faults =>
    cases g with
    | address => simp only [fault?, Server.Stage.fault?_address_iff, found, eq_comm (b := e)]
    | transport => simp only [fault?, Server.Stage.fault?_transport_iff, eq_comm (b := e)]
    | bind =>
      simp only [fault?, Server.Stage.fault?_bind_iff, hresolve, eq_comm (b := e),
        exists_and_right]
  case outcome =>
    cases hfault : Stage.all.findSome? fault? with
    | some e =>
      refine ⟨?_, ?_⟩
      · rw [serve_eq_run, Server.run_eq_stages, hfault]
      · rw [serve_eq_run, errors_events]
        exact Server.filter_isError_run_of_fault hfault
    | none =>
      refine ⟨?_, ?_⟩
      · rw [serve_eq_run, Server.run_eq_stages, hfault]
        cases w.signalled <;> rfl
      · rw [serve_eq_run, errors_events]
        exact Server.filter_isError_run_of_no_fault hfault
  case noAddress =>
    intro h bind files s' hhost hport
    rw [serve_eq_run, serve_eq_run, Server.run_eq_of_address h bind files hhost hport]
  case noPair =>
    intro h bind
    rw [serve_eq_run, serve_eq_run, Server.run_eq_of_transport h bind]
  case tls => rw [← hresolve, Server.build_tls_iff]
  case plaintext => rw [← hresolve, Server.build_plaintext_iff]
  case secure =>
    have := (Server.build_plaintext_iff.1 hbuild).1
    rw [hsecure] at this
    exact Bool.noConfusion this
  case build =>
    exact Server.build_eq_of_plaintext hsecure certFile keyFile w.files files w.system.resolver
  case serve =>
    rw [serve_eq_run, serve_eq_run, Server.run_eq_of_plaintext hsecure certFile keyFile files]
  case run =>
    rintro program args i o file s₀ exported hparse hcommand hsettings rfl hexport
    exact run_of_serve hparse hcommand hsettings hexport

end Program
end MailGateway
