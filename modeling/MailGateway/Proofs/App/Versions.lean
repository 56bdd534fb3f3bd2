/-
# Does the gateway answer the same over both protocol versions?

A request announced as JSON is for the gateway, over HTTP/1.1 and over HTTP/2 alike, and
the gateway does not look at the version.  But over HTTP/2 the announcement of a call is
sought in the whole content type, and a parameter in quotes may hold any text:

    content-type: application/json; a="application/grpc"

Such a request, and no other one of subtype `json`, is answered as a call over HTTP/2
(`version_indifferent_iff`).  The two answers then differ for certain: every answer to a
call says `application/grpc` in its header (`typeField_mem_call`), and no answer of the
gateway does (`typeField_notMem_answer`).
-/

import MailGateway.Proofs.App.Dispatch
import MailGateway.Proofs.Http.MediaTypes

namespace MailGateway

namespace Http

theorem field_ne_typeField_of_name {name : String} (h : name ≠ "content-type") (value : String) :
    field name value ≠ Grpc.typeField :=
  fun heq => h (congrArg Prod.fst heq)

theorem field_ne_typeField_of_value {value : String} (h : value ≠ "application/grpc")
    (name : String) : field name value ≠ Grpc.typeField := by
  intro heq
  have hbytes : Utf8.encode value = Utf8.encode "application/grpc" := congrArg Prod.snd heq
  have hread := Utf8.decode?_encode value
  rw [hbytes, Utf8.decode?_encode] at hread
  exact h (Option.some.inj hread).symm

theorem typeField_notMem_empty {hs : Headers} (h : Grpc.typeField ∉ hs) (status : Nat) :
    Grpc.typeField ∉ (Response.empty status hs).headers := by
  rw [Response.empty, List.mem_append, List.mem_singleton, not_or]
  exact ⟨h, (field_ne_typeField_of_name (by decide) _).symm⟩

theorem typeField_notMem_ofBytes {type : String} (h : type ≠ "application/grpc") (status : Nat)
    (body : Bytes) : Grpc.typeField ∉ (Response.ofBytes status type body).headers := by
  rw [Response.ofBytes, List.mem_cons, List.mem_singleton, not_or]
  exact ⟨(field_ne_typeField_of_value h _).symm, (field_ne_typeField_of_name (by decide) _).symm⟩

end Http

namespace Rest

theorem Assets.typeField_notMem_answer (name : String) :
    Grpc.typeField ∉ (Assets.answer name).headers := by
  have htypes : ∀ file ∈ Assets.files, file.2 ≠ "application/grpc" := by decide
  unfold Assets.answer
  dsimp only
  split
  · next type hlookup =>
    obtain ⟨before, after, hfiles, -⟩ := List.lookup_eq_some_iff.1 hlookup
    have hmem : (_, type) ∈ Assets.files := hfiles ▸ List.mem_append_right _ List.mem_cons_self
    rw [List.mem_singleton]
    exact (Http.field_ne_typeField_of_value (htypes _ hmem) _).symm
  · exact Http.typeField_notMem_empty List.not_mem_nil 404

theorem Assets.typeField_notMem_answerEncoded (rest : String) :
    Grpc.typeField ∉ (Assets.answerEncoded rest).headers := by
  unfold Assets.answerEncoded
  split
  · exact Assets.typeField_notMem_answer _
  · exact Http.typeField_notMem_ofBytes (by decide) _ _

theorem typeField_notMem_post (r : Http.Request) : Grpc.typeField ∉ (post r).1.headers := by
  unfold post
  split
  · exact Http.typeField_notMem_ofBytes (by decide) _ _
  · exact Http.typeField_notMem_ofBytes (by decide) _ _

theorem typeField_notMem_serve (ρ : Metrics.Recorder) (route : Route) (r : Http.Request) :
    Grpc.typeField ∉ (serve ρ route r).1.headers := by
  cases route with
  | mail => exact typeField_notMem_post r
  | document => exact Http.typeField_notMem_ofBytes (by decide) _ _
  | metrics =>
    rw [serve, List.mem_singleton]
    exact (Http.field_ne_typeField_of_value (by decide) _).symm
  | browser =>
    refine Http.typeField_notMem_empty ?_ 303
    rw [List.mem_singleton]
    exact (Http.field_ne_typeField_of_name (by decide) _).symm
  | browserRoot => exact Assets.typeField_notMem_answer _
  | browserFile rest => exact Assets.typeField_notMem_answerEncoded rest

theorem typeField_notMem_notFound (path : String) :
    Grpc.typeField ∉ (notFound path).headers := by
  unfold notFound
  split
  · exact List.not_mem_nil
  · exact Http.typeField_notMem_empty List.not_mem_nil 404

theorem headers_leave (method : String) (response : Http.Response) :
    (leave method response).headers = response.headers := by
  unfold leave
  split <;> rfl

/-- **No answer of the gateway looks like one to a call.** -/
theorem typeField_notMem_answer (ρ : Metrics.Recorder) (r : Http.Request) :
    Grpc.typeField ∉ (answer ρ r).1.headers := by
  cases hroute : Route.ofPath? r.path with
  | none =>
    simp only [answer, whole, hroute, headers_leave]
    exact typeField_notMem_notFound _
  | some route =>
    cases htakes : route.takes r.method with
    | true =>
      simp only [answer, whole, hroute, htakes, ↓reduceIte, headers_leave]
      exact typeField_notMem_serve ρ route r
    | false =>
      simp only [answer, whole, hroute, htakes, Bool.false_eq_true, ↓reduceIte, headers_leave]
      refine Http.typeField_notMem_empty ?_ 405
      rw [List.mem_singleton]
      exact (Http.field_ne_typeField_of_name (by decide) _).symm

end Rest

namespace App

variable {ρ : Metrics.Recorder} {r : Http.Request} {text : String} {m : Http.MediaType}

/-- The text in a content type that announces a call. -/
def announcement : List Char := "application/grpc".toList

/-- **Every answer to a call says so in its header.** -/
theorem typeField_mem_call (h : isCall r = true) :
    Grpc.typeField ∈ (step ρ r).2.response.headers := by
  cases ha : Grpc.accept r with
  | ok request =>
    rw [step_served h ha]
    exact List.mem_singleton_self _
  | error f =>
    rw [step_refused h ha]
    have hfirst : Grpc.typeField ∈ f.response.headers := List.mem_cons_self
    unfold tellLength
    dsimp only
    split
    · exact hfirst
    · exact List.mem_append_left _ hfirst

/-- A subtype that is `json` in lower case does not begin with `grpc`. -/
theorem not_grpc_of_json {subtype : List Char}
    (h : (String.ofList (Http.MediaType.splitSuffix subtype).1).toLower = "json") :
    ¬"grpc".toList <+: subtype := by
  intro hgrpc
  have hlower : (Http.MediaType.splitSuffix subtype).1.map Char.toLower = "json".toList := by
    have hspelled : ∀ s : String, s.toLower = s.map Char.toLower := fun _ => rfl
    rw [← h, hspelled, String.toList_map, String.toList_ofList]
  have hlength : (Http.MediaType.splitSuffix subtype).1.length = "grpc".toList.length := by
    rw [← List.length_map, hlower]
    decide
  have hsame : (Http.MediaType.splitSuffix subtype).1 = "grpc".toList :=
    (List.prefix_of_prefix_length_le (Http.MediaType.splitSuffix_prefix subtype) hgrpc
      (Nat.le_of_eq hlength)).eq_of_length hlength
  rw [hsame] at hlower
  revert hlower
  decide

/-- In a type of subtype `json` a call can be announced by the parameters only. -/
theorem announced_iff_parameters (hparse : Http.MediaType.parse? text = some m)
    (hjson : m.subtype = "json") :
    announcement <:+: text.toList ↔ announcement <:+: Http.MediaType.parameters text := by
  have hparts : announcement = "application".toList ++ '/' :: "grpc".toList := by decide
  constructor
  · intro h
    rw [hparts] at h ⊢
    rcases Http.MediaType.across_or_parameters hparse (by decide) (by decide) h with
      ⟨type, subtype, hs, -, hgrpc⟩ | h
    · exact absurd hgrpc (not_grpc_of_json (hs.subtypeLower.trans hjson))
    · exact h
  · intro h
    exact h.trans ((List.drop_suffix _ _).isInfix.trans (List.dropWhile_suffix _).isInfix)

/-- The gateway does not look at the version. -/
theorem step_gateway_version (v w : Http.Version) (hv : isCall { r with version := v } = false)
    (hw : isCall { r with version := w } = false) :
    step ρ { r with version := v } = step ρ { r with version := w } := by
  rw [step_gateway hv, step_gateway hw]
  rfl

theorem isCall_http11 (r : Http.Request) : isCall { r with version := .http11 } = false := rfl

theorem isCall_http2_iff (htext : r.headers.text? "content-type" = some text) :
    isCall { r with version := .http2 } = true ↔ announcement <:+: text.toList := by
  rw [← contains_iff_within, isCall]
  simp only [htext]
  rfl

/-- **A JSON request is answered the same over both versions, unless its parameters announce
a call.**  For a first content type of subtype `json`, whatever came before:

* status, headers and body of the two answers agree exactly if the parameters do not hold
  `application/grpc`;
* and then all else that the requests bring about is the same as well;
* parameters without a quote never hold it. -/
theorem version_indifferent_iff (ρ : Metrics.Recorder) (before : List Http.Request)
    (htext : r.headers.text? "content-type" = some text)
    (hparse : Http.MediaType.parse? text = some m) (hjson : m.subtype = "json") :
    let σ := (run ρ before).1
    let one := step σ { r with version := .http11 }
    let two := step σ { r with version := .http2 }
    (one.2.response.status = two.2.response.status ∧
        one.2.response.headers = two.2.response.headers ∧
        one.2.response.content = two.2.response.content ↔
      ¬announcement <:+: Http.MediaType.parameters text) ∧
    (¬announcement <:+: Http.MediaType.parameters text → one = two) ∧
    ('"' ∉ Http.MediaType.parameters text →
      ¬announcement <:+: Http.MediaType.parameters text) := by
  intro σ one two
  have hcall : isCall { r with version := .http2 } = true ↔
      announcement <:+: Http.MediaType.parameters text :=
    (isCall_http2_iff htext).trans (announced_iff_parameters hparse hjson)
  have hsame : ¬announcement <:+: Http.MediaType.parameters text → one = two := by
    intro h
    have htwo : isCall { r with version := .http2 } = false :=
      Bool.eq_false_iff.2 fun hc => h (hcall.1 hc)
    exact step_gateway_version .http11 .http2 (isCall_http11 r) htwo
  refine ⟨⟨?_, fun h => ?_⟩, hsame, ?_⟩
  · rintro ⟨-, hheaders, -⟩ hann
    have hone : Grpc.typeField ∉ one.2.response.headers := by
      show Grpc.typeField ∉ (step σ { r with version := .http11 }).2.response.headers
      rw [step_gateway (isCall_http11 r)]
      exact Rest.typeField_notMem_answer σ _
    rw [hheaders] at hone
    exact hone (typeField_mem_call (hcall.2 hann))
  · rw [hsame h]
    exact ⟨rfl, rfl, rfl⟩
  · intro hquote hann
    have hslash : '/' ∈ announcement := by decide
    exact hquote (Http.MediaType.quote_mem_parameters hparse (hann.subset hslash))

/-- Parameters with a quoted slash do not matter as long as they do not announce a call. -/
theorem version_indifferent_iff_charset :
    let r : Http.Request :=
      { method := "POST", target := "/v1alpha1/email", version := .http11
        headers := [("Content-Type",
          Utf8.ascii "Application/JSON; charset=utf-8; v=\"application/ grpc\"")]
        pieces := [Utf8.ascii "\x7b\"message\":\"x\"\x7d"] }
    step .empty { r with version := .http11 } = step .empty { r with version := .http2 } := by
  intro r
  have htext : r.headers.text? "content-type" =
      some "Application/JSON; charset=utf-8; v=\"application/ grpc\"" := by decide +kernel
  have hparse : Http.MediaType.parse?
      "Application/JSON; charset=utf-8; v=\"application/ grpc\"" =
        some ⟨"application", "json", none⟩ := by decide +kernel
  have hann : ¬announcement <:+: Http.MediaType.parameters
      "Application/JSON; charset=utf-8; v=\"application/ grpc\"" := by
    rw [← contains_iff_within]
    decide
  exact (version_indifferent_iff .empty [] htext hparse rfl).2.1 hann

/-- A mail whose type announces a call in a quoted parameter is sent over HTTP/1.1, and over
HTTP/2 it is answered as a call of a method that does not exist. -/
theorem quoted_announcement_divides :
    let r : Http.Request :=
      { method := "POST", target := "/v1alpha1/email", version := .http11
        headers := [("content-type", Utf8.ascii "application/json; a=\"application/grpc\"")]
        pieces := [Utf8.ascii "\x7b\"message\":\"x\"\x7d"] }
    let one := (step .empty { r with version := .http11 }).2
    let two := (step .empty { r with version := .http2 }).2
    ((r.headers.text? "content-type").bind Http.MediaType.parse? =
        some ⟨"application", "json", none⟩ ∧
      one.backend = .gateway ∧ one.response.status = 200 ∧ one.asked = 1 ∧
      two.backend = .calls ∧ Grpc.Sends two.response .unimplemented ∧ two.asked = 0) ∧
    ¬(one.response.status = two.response.status ∧ one.response.headers = two.response.headers ∧
      one.response.content = two.response.content) := by
  intro r one two
  -- Both answers are evaluated once, so all that is said of them is decided together.
  suffices hdiffer : _ ∧ one.response.headers ≠ two.response.headers from
    hdiffer.imp_right fun hne h => hne h.2.1
  unfold Grpc.Sends
  decide +kernel

end App
end MailGateway
