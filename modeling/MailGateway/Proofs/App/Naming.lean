/-
# Which method a call is named for

The recorder and the span name a call by two parts of its path, those around the first slash
behind the slashes at its front (`names_callLabels`).  The only method that is served has one
path, and it is compared as it stands.  So the two do not agree everywhere:

| path | is named for the method | is routed to it |
| --- | --- | --- |
| `/email.v1alpha1.EmailService/SendMail` | yes | yes |
| the same with more slashes in front | yes | no |
| any other path | no | no |

A call that is not routed is told so by its code alone, without a message (`isUnknown_iff`).
The names tell the route exactly where there are no more slashes in front
(`call_named_iff_slashes`).
-/

import Mathlib.Data.List.TakeWhile
import MailGateway.Proofs.App.Step
import MailGateway.Proofs.Http.Targets
import MailGateway.Proofs.Text.Separator

namespace MailGateway

namespace Trace

variable {path service method : String}

/-- What a path names: the parts around the first slash behind those at its front.  Where there
is no such slash, the service is not known. -/
inductive Names (path : String) : Metrics.CallLabels → Prop where
  | parts (n : Nat) (service method : String) (hservice : service ≠ "")
    (hslash : '/' ∉ service.toList)
    (hpath : path.toList = List.replicate n '/' ++ (service.toList ++ '/' :: method.toList)) :
    Names path ⟨service, method⟩
  | method (n : Nat) (method : String) (hslash : '/' ∉ method.toList)
    (hpath : path.toList = List.replicate n '/' ++ method.toList) :
    Names path ⟨"unknown", method⟩

/-- The slashes in front end where something else begins. -/
theorem dropWhile_slashes {n : Nat} {cs : List Char} (h : cs.head? ≠ some '/') :
    (List.replicate n '/' ++ cs).dropWhile (· = '/') = cs := by
  rw [List.dropWhile_append_of_pos fun c hc => decide_eq_true (List.eq_of_mem_replicate hc)]
  cases cs with
  | nil => rfl
  | cons c cs => exact List.dropWhile_cons_of_neg (by simpa using h)

theorem head?_ne_slash {cs : List Char} (h : '/' ∉ cs) : cs.head? ≠ some '/' := fun hhead =>
  h (List.mem_of_mem_head? hhead)

theorem Names.callLabels_eq {labels : Metrics.CallLabels} (h : Names path labels) :
    callLabels path = labels := by
  unfold callLabels
  dsimp only
  cases h with
  | parts n service method hservice hslash hpath =>
    have hhead : (service.toList ++ '/' :: method.toList).head? ≠ some '/' := by
      rw [List.head?_append_of_ne_nil _ (mt String.toList_eq_nil_iff.1 hservice)]
      exact head?_ne_slash hslash
    rw [hpath, dropWhile_slashes hhead, dropWhile_front hslash, takeWhile_front hslash,
      String.ofList_toList]
    exact congrArg _ String.ofList_toList
  | method n method hslash hpath =>
    rw [hpath, dropWhile_slashes (head?_ne_slash hslash), dropWhile_of_notMem hslash]
    exact congrArg _ String.ofList_toList

/-- **A call is named by its path.** -/
theorem names_callLabels (path : String) : Names path (callLabels path) := by
  obtain ⟨n, hpath⟩ : ∃ n, path.toList =
      List.replicate n '/' ++ path.toList.dropWhile (· = '/') := by
    refine ⟨(path.toList.takeWhile (· = '/')).length, ?_⟩
    have hslashes : ∀ c ∈ path.toList.takeWhile (· = '/'), c = '/' := fun c hc => by
      simpa using List.mem_takeWhile_imp hc
    rw [← List.eq_replicate_of_mem hslashes, List.takeWhile_append_dropWhile]
  have hhead := List.head?_dropWhile_not (· = '/') path.toList
  unfold callLabels
  dsimp only
  generalize path.toList.dropWhile (· = '/') = cs at hpath hhead
  have hcut := List.takeWhile_append_dropWhile (p := (· ≠ '/')) (l := cs)
  have hfront : '/' ∉ cs.takeWhile (· ≠ '/') := fun hmem => by
    simpa using List.mem_takeWhile_imp hmem
  split
  · next hnone =>
    rw [hnone, List.append_nil] at hcut
    refine .method n _ ?_ (by rw [String.toList_ofList]; exact hpath)
    rw [String.toList_ofList, ← hcut]
    exact hfront
  · next c rest hrest =>
    obtain rfl : c = '/' := by
      have hnext := List.head?_dropWhile_not (· ≠ '/') cs
      rw [hrest] at hnext
      simpa using hnext
    refine .parts n _ _ ?_ (by rwa [String.toList_ofList]) ?_
    · intro hempty
      have hnil : cs.takeWhile (· ≠ '/') = [] := by
        simpa using congrArg String.toList hempty
      rw [← hcut, hnil, hrest] at hhead
      simp at hhead
    · rw [String.toList_ofList, String.toList_ofList, ← hrest, hcut]
      exact hpath

/-- A method is named by its service and its name, behind any slashes. -/
theorem callLabels_eq_iff (hservice : service ≠ "") (hknown : service ≠ "unknown")
    (hslash : '/' ∉ service.toList) : callLabels path = ⟨service, method⟩ ↔
      ∃ n, path.toList = List.replicate n '/' ++ (service.toList ++ '/' :: method.toList) := by
  constructor
  · intro h
    have hnames := names_callLabels path
    rw [h] at hnames
    cases hnames with
    | parts n _ _ _ _ hpath => exact ⟨n, hpath⟩
    | method => exact absurd rfl hknown
  · rintro ⟨n, hpath⟩
    exact (Names.parts n service method hservice hslash hpath).callLabels_eq

end Trace

namespace Grpc

variable {f : Failure}

/-- A code without a message is sent for an unknown method only. -/
theorem Failure.eq_unknownMethod (hcode : f.code = .unimplemented) (hmessage : f.message = "") :
    f = .unknownMethod := by
  cases f with
  | unknownMethod => rfl
  | encodingRefused encoding =>
    unfold Failure.message at hmessage
    exact absurd (String.append_eq_empty_iff.1 hmessage).2 (by decide)
  | badFrame fault => cases fault <;> simp [Failure.code] at hcode
  | _ => simp [Failure.code] at hcode

/-- A message is sent where there is one. -/
theorem Failure.first?_message_eq_none_iff :
    f.response.headers.first? "grpc-message" = none ↔ f.message = "" := by
  have hname : "grpc-message".toLower = "grpc-message" := by decide +kernel
  have htype : "content-type".toLower ≠ "grpc-message" := by decide +kernel
  have hstatus : Code.headerName.toLower ≠ "grpc-message" := by decide +kernel
  have haccepted : "grpc-accept-encoding".toLower ≠ "grpc-message" := by decide +kernel
  have hfields : ∀ hs : Http.Headers,
      Http.Headers.first? (typeField :: statusField f.code :: hs) "grpc-message" =
        hs.first? "grpc-message" := fun hs => by
    rw [Http.Headers.first?_cons, Http.Headers.first?_cons]
    exact (if_neg htype).trans (if_neg hstatus)
  change Http.Headers.first? (typeField :: statusField f.code :: (_ ++ _)) _ = none ↔ _
  rw [hfields, Http.Headers.first?_append]
  by_cases hmessage : f.message = ""
  · simp only [hmessage, iff_true]
    cases f with
    | encodingRefused => exact (Http.Headers.first?_cons ..).trans (if_neg haccepted)
    | _ => rfl
  · have hnot : f.message.isEmpty = false := by simpa using hmessage
    simp [hnot, hmessage, Http.Headers.first?_cons, hname]

theorem checkEncoding_ne_unknownMethod (headers : Http.Headers) :
    checkEncoding headers ≠ .error .unknownMethod := by
  unfold checkEncoding
  split
  · nofun
  · split <;> nofun

/-- A body is never refused as unimplemented. -/
theorem code_of_readFrames {fuel : Nat} {first : Option Mail.Request} {body : Bytes}
    (h : readFrames fuel first body = .error f) : f.code ≠ .unimplemented := by
  induction fuel generalizing first body with
  | zero => cases h
  | succ fuel ih =>
    rw [readFrames] at h
    split at h
    · next fault _ =>
      obtain rfl := Except.error.inj h
      cases fault <;> simp [Failure.code]
    · cases h
    · next message rest _ =>
      split at h
      · next hread =>
        obtain rfl := Except.error.inj h
        unfold readRequest at hread
        split at hread
        · cases hread
        · obtain rfl := Except.error.inj hread
          simp [Failure.code]
      · exact ih h

theorem code_of_receive {body : Bytes} (h : receive body = .error f) :
    f.code ≠ .unimplemented := by
  unfold receive at h
  split at h
  · next hread =>
    obtain rfl := Except.error.inj h
    exact code_of_readFrames hread
  · obtain rfl := Except.error.inj h
    simp [Failure.code]
  · cases h

end Grpc

namespace App

variable {ρ : Metrics.Recorder} {r : Http.Request} {labels : Metrics.CallLabels}

/-- The labels of the method that is served. -/
def sendLabels : Metrics.CallLabels := ⟨"email.v1alpha1.EmailService", "SendMail"⟩

/-- A call is named by these labels: it is counted as started under them and under no others,
and they stand on its span, which may be exported. -/
structure Named (ρ : Metrics.Recorder) (r : Http.Request) (labels : Metrics.CallLabels) :
    Prop where
  started : ∀ l, (step ρ r).1.value (.started l) =
    ρ.value (.started l) + if l = labels then 1 else 0
  span : (Trace.Span.begin r.path r.headers).labels = labels
  exported : ∀ span ∈ (step ρ r).2.spans,
    span.attributes.lookup "grpc.service" = some labels.service ∧
      span.attributes.lookup "grpc.method" = some labels.method

/-- The answer to a call of a method that is not served: `unimplemented`, without a message. -/
def IsUnknown (response : Http.Response) : Prop :=
  Grpc.Sends response .unimplemented ∧ response.headers.first? "grpc-message" = none

theorem value_started (ρ : Metrics.Recorder) (r : Http.Request) (c : Grpc.Code)
    (l : Metrics.CallLabels) : (ρ.countAll (callCounts r c)).value (.started l) =
      ρ.value (.started l) + if l = Trace.callLabels r.path then 1 else 0 := by
  simp only [callCounts, Metrics.Recorder.countAll, List.foldl_cons, List.foldl_nil,
    Metrics.Recorder.value_count, Metrics.Series.started.injEq, reduceCtorEq, ↓reduceIte,
    Nat.add_zero, eq_comm]

theorem labels_callSpans {c : Grpc.Code} {span : Trace.Exported} (h : span ∈ callSpans r c) :
    span.attributes.lookup "grpc.service" = some (Trace.callLabels r.path).service ∧
      span.attributes.lookup "grpc.method" = some (Trace.callLabels r.path).method := by
  unfold callSpans Trace.Span.exported at h
  split at h
  · exact absurd h List.not_mem_nil
  · obtain rfl := List.mem_singleton.1 h
    exact ⟨rfl, rfl⟩

/-- However a call ends, it is named by its path. -/
theorem named_callLabels (ρ : Metrics.Recorder) (hr : isCall r = true) :
    Named ρ r (Trace.callLabels r.path) := by
  cases ha : Grpc.accept r with
  | ok q =>
    refine ⟨fun l => ?_, rfl, fun span => ?_⟩
    · rw [step_served hr ha]
      exact value_started ρ r .ok l
    · rw [step_served hr ha]
      exact labels_callSpans
  | error f =>
    refine ⟨fun l => ?_, rfl, fun span => ?_⟩
    · rw [step_refused hr ha]
      exact value_started ρ r f.code l
    · rw [step_refused hr ha]
      exact labels_callSpans

theorem named_iff (hr : isCall r = true) : Named ρ r labels ↔ Trace.callLabels r.path = labels :=
  ⟨fun h => h.span, fun h => h ▸ named_callLabels ρ hr⟩

/-! ### The answer to a call of an unknown method -/

theorem first?_tellLength_of_ne {response : Http.Response} {name : String}
    (h : "content-length" ≠ name) :
    (tellLength r response).headers.first? name = response.headers.first? name := by
  have hlength : Http.Headers.first? [Http.field "content-length" "0"] name = none := by
    have hlower : "content-length".toLower = "content-length" := by decide +kernel
    rw [Http.Headers.first?_cons, Http.field, hlower, if_neg h]
    rfl
  unfold tellLength
  split
  · rfl
  · rw [Http.Headers.first?_append, hlength, Option.or_none]

/-- A call is refused for its method exactly where its path is another one. -/
theorem accept_eq_unknownMethod_iff :
    Grpc.accept r = .error .unknownMethod ↔ r.path ≠ Grpc.sendPath := by
  constructor
  · intro h hpath
    unfold Grpc.accept at h
    rw [if_neg (not_not.2 hpath)] at h
    split at h
    · next f hencoding =>
      obtain rfl := Except.error.inj h
      exact Grpc.checkEncoding_ne_unknownMethod _ hencoding
    · exact Grpc.code_of_receive h rfl
  · intro h
    rw [Grpc.accept, if_pos h]

/-- **The answer tells whether the path leads to the method.** -/
theorem isUnknown_iff (hr : isCall r = true) :
    IsUnknown (step ρ r).2.response ↔ r.path ≠ Grpc.sendPath := by
  cases ha : Grpc.accept r with
  | ok q =>
    refine iff_of_false (fun h => ?_) (not_not.2 (path_of_accept ha))
    have hcode := (sends_step_served (ρ := ρ) hr ha).code_eq
    rw [h.1.code_eq] at hcode
    cases hcode
  | error f =>
    rw [← accept_eq_unknownMethod_iff, ha, Except.error.injEq]
    have hsends := sends_step_refused (ρ := ρ) hr ha
    have hmessage : (step ρ r).2.response.headers.first? "grpc-message" =
        f.response.headers.first? "grpc-message" := by
      rw [step_refused hr ha]
      exact first?_tellLength_of_ne (by decide)
    constructor
    · rintro ⟨hcode, hnone⟩
      rw [hmessage, Grpc.Failure.first?_message_eq_none_iff] at hnone
      exact Grpc.Failure.eq_unknownMethod (hsends.code_eq.symm.trans hcode.code_eq) hnone
    · rintro rfl
      exact ⟨hsends, hmessage.trans (Grpc.Failure.first?_message_eq_none_iff.2 rfl)⟩

/-! ### Names and routes -/

/-- The method's path with this many slashes in front. -/
def Slashed (n : Nat) (path : String) : Prop :=
  path.toList = List.replicate n '/' ++ "email.v1alpha1.EmailService/SendMail".toList

theorem slashed_one_iff {path : String} : Slashed 1 path ↔ path = Grpc.sendPath := by
  have hpath : Grpc.sendPath.toList =
      List.replicate 1 '/' ++ "email.v1alpha1.EmailService/SendMail".toList := by
    rw [Grpc.sendPath, String.toList_ofList, String.toList_ofList]
    rfl
  rw [Slashed, ← hpath, String.toList_inj]

theorem slashed_inj {m n : Nat} {path : String} (hm : Slashed m path) (hn : Slashed n path) :
    m = n := by
  have hlength := congrArg List.length (hm.symm.trans hn)
  simpa using hlength

/-- A call is named for the method behind any slashes, of which a path has at least one. -/
theorem named_sendLabels_iff (hr : isCall r = true) :
    Named ρ r sendLabels ↔ ∃ n, 0 < n ∧ Slashed n r.path := by
  have hslash : '/' ∉ "email.v1alpha1.EmailService".toList := by
    rw [String.toList_ofList]
    decide
  have hjoined : "email.v1alpha1.EmailService".toList ++ '/' :: "SendMail".toList =
      "email.v1alpha1.EmailService/SendMail".toList := by
    repeat rw [String.toList_ofList]
    rfl
  have hletter : "email.v1alpha1.EmailService/SendMail".toList.head? = some 'e' := by
    rw [String.toList_ofList]
    rfl
  rw [named_iff hr, sendLabels, Trace.callLabels_eq_iff (by decide) (by decide) hslash, hjoined]
  constructor
  · rintro ⟨n, hn⟩
    refine ⟨n, Nat.pos_of_ne_zero ?_, hn⟩
    rintro rfl
    have hhead : r.path.toList.head? = some 'e' := by
      rw [hn, List.replicate_zero, List.nil_append, hletter]
    rw [Http.Request.path] at hhead
    rcases Http.targetPath_cases r.target with h | h | h
    all_goals
      rw [h] at hhead
      exact absurd hhead (by decide)
  · rintro ⟨n, -, hn⟩
    exact ⟨n, hn⟩

/-- **The names of a call and its route.**  A call is named for the method exactly where its path
is the method's behind one slash or more, and is told that the method is unknown exactly where
its path is another one.  So the name tells the route exactly where there are no further slashes
in front. -/
theorem call_named_iff_slashes (ρ : Metrics.Recorder) (r : Http.Request)
    (hr : isCall r = true) :
    (Named ρ r sendLabels ↔ ∃ n, 0 < n ∧ Slashed n r.path) ∧
    (¬IsUnknown (step ρ r).2.response ↔ r.path = Grpc.sendPath) ∧
    ((Named ρ r sendLabels ↔ r.path = Grpc.sendPath) ↔ ¬∃ n, 1 < n ∧ Slashed n r.path) := by
  refine ⟨named_sendLabels_iff hr, by rw [isUnknown_iff hr, not_not], ?_⟩
  rw [named_sendLabels_iff hr, ← slashed_one_iff]
  constructor
  · rintro h ⟨n, hmore, hn⟩
    have hone := h.1 ⟨n, Nat.zero_lt_of_lt hmore, hn⟩
    exact absurd (slashed_inj hone hn) (Nat.ne_of_lt hmore)
  · intro h
    constructor
    · rintro ⟨n, hpos, hn⟩
      obtain rfl : n = 1 := by
        have hfew : ¬1 < n := fun hmore => h ⟨n, hmore, hn⟩
        omega
      exact hn
    · exact fun hone => ⟨1, Nat.one_pos, hone⟩

/-- A slash behind the method makes another path of it, which is neither named nor routed so. -/
theorem call_named_iff_slashes_trailing :
    let r : Http.Request :=
      { method := "POST", target := "/email.v1alpha1.EmailService/SendMail/", version := .http2
        headers := [("content-type", Utf8.ascii "application/grpc")], pieces := [] }
    isCall r = true ∧ ¬Named .empty r sendLabels ∧ IsUnknown (step .empty r).2.response := by
  intro r
  have hcall : isCall r = true := by decide +kernel
  have hpath : r.path ≠ Grpc.sendPath := by decide
  have hfew : ¬∃ n, 1 < n ∧ Slashed n r.path := by
    rintro ⟨n, -, hn⟩
    have hname : "email.v1alpha1.EmailService/SendMail".toList.getLast? = some 'l' := by
      rw [String.toList_ofList]
      rfl
    have hlast := congrArg List.getLast? hn
    rw [List.getLast?_append, hname, Option.some_or] at hlast
    exact absurd hlast (by decide)
  obtain ⟨-, hroute, hiff⟩ := call_named_iff_slashes .empty r hcall
  exact ⟨hcall, fun h => hpath ((hiff.2 hfew).1 h),
    not_not.1 fun h => hpath (hroute.1 h)⟩

/-- With two slashes in front, a call is counted and traced as one of the method, and told that
there is no such method. -/
theorem doubled_slash_named :
    let r : Http.Request :=
      { method := "POST", target := "//email.v1alpha1.EmailService/SendMail", version := .http2
        headers := [("content-type", Utf8.ascii "application/grpc")]
        pieces := [[0, 0, 0, 0, 4, 10, 2, 104, 105]] }
    isCall r = true ∧ r.path ≠ Grpc.sendPath ∧ Named .empty r sendLabels ∧
      IsUnknown (step .empty r).2.response := by
  intro r
  have hcall : isCall r = true := by decide +kernel
  have hpath : r.path ≠ Grpc.sendPath := by decide
  exact ⟨hcall, hpath, (named_iff hcall).2 (by decide), (isUnknown_iff hcall).2 hpath⟩

end App
end MailGateway
