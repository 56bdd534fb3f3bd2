/-
# Requests for the headers alone

A HEAD request is answered like the GET request for the same thing, without the body.  The
router keeps to this in one place: it has the whole answer first (`Rest.whole`), which does not
depend on which of the two methods was asked with, and then leaves the body out.

The length of what is left out is told before.  For a body of bytes the answer itself tells it.
The metrics page and the files of the API browser are known here by what is in them and by name,
not by their bytes, so their lengths are a parameter (`Http.Sizes`); the router puts the length
behind the other headers while the answer still has them (`Rest.sent`).

| path | GET | length of HEAD |
| --- | --- | --- |
| of the mail | 405, `allow: POST` | 0 |
| of a document, a page or a file | as it is | that of the whole |
| of the API browser without a slash | 303 | 0 |
| of no route | 404 | as for GET |
-/

import MailGateway.Proofs.App.Routing

namespace MailGateway

namespace Http

/-- The answer tells the length of what it carries. -/
def Response.TellsLength (z : Sizes) (r : Response) : Prop :=
  r.headers.first? "content-length" = some (Utf8.ascii (toString (r.content.length z)))

/-- The request with another method. -/
def Request.withMethod (r : Request) (method : String) : Request := { r with method }

variable {z : Sizes} {hs : Headers} {r : Response}

/-- A length behind headers that do not tell any is the one that is told. -/
theorem tellsLength_of_headers (hnone : hs.first? "content-length" = none)
    (h : r.headers = hs ++ [r.content.lengthField z]) : r.TellsLength z := by
  have hname : "content-length".toLower = "content-length" := by decide +kernel
  rw [Response.TellsLength, h, Headers.first?_append, hnone, Option.none_or, Headers.first?_cons,
    Content.lengthField, field, if_pos hname]

theorem first?_contentLength_of_ne {name : String} (h : name.toLower ≠ "content-length")
    (value : String) : Headers.first? [field name value] "content-length" = none :=
  Rest.first?_field_of_ne h []

theorem first?_contentLength_type (type : String) :
    Headers.first? [field "content-type" type] "content-length" = none :=
  first?_contentLength_of_ne (by decide +kernel) type

theorem tellsLength_ofBytes (status : Nat) (type : String) (body : Bytes) :
    ((Response.ofBytes status type body).measured z).TellsLength z :=
  tellsLength_of_headers (first?_contentLength_type type) rfl

theorem tellsLength_empty (h : hs.first? "content-length" = none) (status : Nat) :
    ((Response.empty status hs).measured z).TellsLength z := by
  have hzero : field "content-length" "0" = Content.lengthField z (.bytes []) := by
    rw [Content.lengthField, Content.length, List.length_nil]
    rfl
  refine tellsLength_of_headers h ?_
  show hs ++ [field "content-length" "0"] = _
  rw [hzero]
  rfl

end Http

namespace Rest

variable {ρ : Metrics.Recorder} {r : Http.Request} {z : Http.Sizes} {route : Route}

theorem answer_eq_leave_whole (ρ : Metrics.Recorder) (r : Http.Request) :
    answer ρ r = (leave r.method (whole ρ r).1, (whole ρ r).2) := rfl

/-- No route tells the two methods apart. -/
theorem Route.takes_head (route : Route) : route.takes "HEAD" = route.takes "GET" := by
  cases route <;> rfl

/-- No route looks at the method of a request that it takes. -/
theorem serve_withMethod (ρ : Metrics.Recorder) (route : Route) (r : Http.Request)
    (method : String) : serve ρ route (r.withMethod method) = serve ρ route r := by
  cases route <;> rfl

theorem whole_head (ρ : Metrics.Recorder) (r : Http.Request) :
    whole ρ (r.withMethod "HEAD") = whole ρ (r.withMethod "GET") := by
  have hpath (method : String) : (r.withMethod method).path = r.path := rfl
  have hmethod (method : String) : (r.withMethod method).method = method := rfl
  simp only [whole, hpath, hmethod, serve_withMethod, Route.takes_head]

/-- What can be read is read without a word. -/
theorem events_whole_get (ρ : Metrics.Recorder) (r : Http.Request) :
    (whole ρ (r.withMethod "GET")).2 = [] := by
  unfold whole
  split
  · rfl
  · next route _ =>
    split
    · next htakes =>
      cases route with
      | mail => exact absurd htakes (Bool.false_ne_true)
      | _ => rfl
    · rfl

theorem tellsLength_asset (name : String) : ((Assets.answer name).measured z).TellsLength z := by
  unfold Assets.answer
  dsimp only
  split
  · exact Http.tellsLength_of_headers (Http.first?_contentLength_type _) rfl
  · exact Http.tellsLength_empty rfl 404

theorem tellsLength_serve (ρ : Metrics.Recorder) (route : Route) (r : Http.Request) :
    ((serve ρ route r).1.measured z).TellsLength z := by
  cases route with
  | mail =>
    rw [serve, post]
    split
    · exact Http.tellsLength_ofBytes _ _ _
    · exact Http.tellsLength_ofBytes _ _ _
  | document => exact Http.tellsLength_ofBytes _ _ _
  | metrics => exact Http.tellsLength_of_headers (Http.first?_contentLength_type _) rfl
  | browser =>
    exact Http.tellsLength_empty (Http.first?_contentLength_of_ne (by decide +kernel) _) 303
  | browserRoot => exact tellsLength_asset ""
  | browserFile rest =>
    rw [serve, Assets.answerEncoded]
    split
    · exact tellsLength_asset _
    · exact Http.tellsLength_ofBytes _ _ _

/-- **Whatever has a route is sent with its length.** -/
theorem tellsLength_whole (h : Route.ofPath? r.path = some route) :
    ((whole ρ r).1.measured z).TellsLength z := by
  have hallow : Http.Headers.first? [Http.field "allow" route.allowed] "content-length" = none :=
    Http.first?_contentLength_of_ne (by decide +kernel) route.allowed
  simp only [whole, h]
  split
  · exact tellsLength_serve ρ route r
  · exact Http.tellsLength_empty hallow 405

end Rest

namespace App

open Http (Sizes)

variable {r : Http.Request}

/-- A HEAD request is to its GET request as it should be, with the same recorder before both. -/
structure Mirrors (ρ : Metrics.Recorder) (get head : Http.Request) : Prop where
  backend : (step ρ get).2.backend = .gateway ∧ (step ρ head).2.backend = .gateway
  status : (step ρ head).2.response.status = (step ρ get).2.response.status
  headers : (step ρ head).2.response.headers = (step ρ get).2.response.headers
  trailers : (step ρ head).2.response.trailers = (step ρ get).2.response.trailers
  content : (step ρ head).2.response.content = .bytes []
  /-- The lengths of pages and files change nothing in this. -/
  sent : ∀ z, Rest.sent z ρ get = (step ρ get).2.response.measured z ∧
    Rest.sent z ρ head = (Rest.sent z ρ get).withoutBody
  /-- On a route both tell the length of what GET carries. -/
  length : ∀ row, Rest.Leads get.path row → ∀ z, (Rest.sent z ρ get).TellsLength z ∧
    (Rest.sent z ρ head).headers.first? "content-length" =
      some (Utf8.ascii (toString ((step ρ get).2.response.content.length z)))
  /-- Where there is nothing to read both list the methods. -/
  allow : ∀ row, Rest.Leads get.path row → "GET" ∉ row.methods →
    Rest.RefusesMethod (step ρ get).2.response row.allow ∧
      Rest.RefusesMethod (step ρ head).2.response row.allow
  /-- Each is counted once under its method, the label of the path and its status. -/
  counted : CountedUnder ρ get (Rest.pathLabel get.path) ∧
    CountedUnder ρ head (Rest.pathLabel get.path)
  asked : (step ρ get).2.asked = 0 ∧ (step ρ head).2.asked = 0

theorem content_measured (z : Sizes) (response : Http.Response) :
    (response.measured z).content = response.content := by
  unfold Http.Response.measured
  split
  · rfl
  · rfl

theorem response_step_get (ρ : Metrics.Recorder) (hr : isCall r = false) :
    (step ρ (r.withMethod "GET")).2.response = (Rest.whole ρ (r.withMethod "GET")).1 := by
  rw [step_gateway (r := r.withMethod "GET") hr]
  rfl

theorem response_step_head (ρ : Metrics.Recorder) (hr : isCall r = false) :
    (step ρ (r.withMethod "HEAD")).2.response =
      (step ρ (r.withMethod "GET")).2.response.withoutBody := by
  rw [response_step_get ρ hr, step_gateway (r := r.withMethod "HEAD") hr,
    Rest.answer_eq_leave_whole, Rest.whole_head]
  rfl

theorem sent_head (z : Sizes) (ρ : Metrics.Recorder) (r : Http.Request) :
    Rest.sent z ρ (r.withMethod "HEAD") = (Rest.sent z ρ (r.withMethod "GET")).withoutBody := by
  rw [Rest.sent, Rest.whole_head]
  rfl

/-- **A HEAD request mirrors the GET request**, whatever came before both. -/
theorem head_mirrors_get (ρ : Metrics.Recorder) (before : List Http.Request)
    (hr : backend r = .gateway) :
    Mirrors (run ρ before).1 (r.withMethod "GET") (r.withMethod "HEAD") := by
  have hcall : isCall r = false := by simpa [backend] using hr
  generalize (run ρ before).1 = σ
  have hget := response_step_get σ hcall
  have hhead := response_step_head σ hcall
  have hsent (z : Sizes) : Rest.sent z σ (r.withMethod "GET") =
      (step σ (r.withMethod "GET")).2.response.measured z := by
    rw [hget]
    rfl
  refine
    { backend := ?backend, status := ?status, headers := ?headers, trailers := ?trailers
      content := ?content, sent := fun z => ⟨hsent z, sent_head z σ r⟩, length := ?length
      allow := ?allow, counted := ?counted, asked := ?asked }
  case backend => rw [backend_step, backend_step]; exact ⟨hr, hr⟩
  case status => rw [hhead]; rfl
  case headers => rw [hhead]; rfl
  case trailers => rw [hhead]; rfl
  case content => rw [hhead]; rfl
  case length =>
    intro row hrow z
    obtain ⟨route, hroute, -⟩ := Rest.leads_iff.1 hrow
    have htold : (Rest.sent z σ (r.withMethod "GET")).TellsLength z :=
      Rest.tellsLength_whole (r := r.withMethod "GET") hroute
    refine ⟨htold, ?_⟩
    rw [Http.Response.TellsLength, hsent, content_measured] at htold
    rw [sent_head, hsent]
    exact htold
  case allow =>
    intro row hrow hmethod
    have hrefused := (routed_of_leads (r := r.withMethod "GET") σ hcall hrow).refused hmethod
    refine ⟨hrefused, ?_⟩
    rw [hhead]
    exact ⟨hrefused.status, hrefused.allow⟩
  case counted =>
    exact ⟨countedUnder_pathLabel (r := r.withMethod "GET") σ hcall,
      countedUnder_pathLabel (r := r.withMethod "HEAD") σ hcall⟩
  case asked =>
    have hnone : (Rest.whole σ (r.withMethod "GET")).2 = [] := Rest.events_whole_get σ r
    rw [step_gateway (r := r.withMethod "GET") hcall, step_gateway (r := r.withMethod "HEAD") hcall,
      Rest.answer_eq_leave_whole, Rest.answer_eq_leave_whole, Rest.whole_head, hnone]
    exact ⟨rfl, rfl⟩

/-- A mail cannot be read, whichever of the two methods tries to. -/
theorem head_mirrors_get_mail :
    let r : Http.Request :=
      { method := "POST", target := "/v1alpha1/email?a", version := .http10, headers := []
        pieces := [Utf8.ascii "x"] }
    backend r = .gateway ∧
      Mirrors (run .empty [r]).1 (r.withMethod "GET") (r.withMethod "HEAD") ∧
      Rest.RefusesMethod (step (run .empty [r]).1 (r.withMethod "HEAD")).2.response "POST" := by
  intro r
  have hbackend : backend r = .gateway := by decide
  have hmirrors := head_mirrors_get .empty [r] hbackend
  have hpath : (r.withMethod "GET").path = "/v1alpha1/email" := by decide
  have hleads : Rest.Leads (r.withMethod "GET").path ⟨"/v1alpha1/email", ["POST"], "POST"⟩ := by
    rw [hpath]
    exact .literal _ List.mem_cons_self
  exact ⟨hbackend, hmirrors, (hmirrors.allow _ hleads (by decide)).2⟩

end App
end MailGateway
