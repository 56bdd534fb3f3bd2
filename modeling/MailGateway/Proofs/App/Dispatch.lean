/-
# Which backend answers, and what it remembers

A request is a call by its version and by the bytes of its first content type, and by
nothing else (`isCall_iff`).

The recorder is all that lasts from one request to the next.  A call does not look at it,
and of the gateway's answers only one shows it, the content of the metrics page
(`answer_eq_of_not_page`); what stands around that content stays the same
(`withoutBody_answer`).  So a request in the middle of a run is answered as its backend
alone answers it when nothing has come before (`answer_stateless`).
-/

import Mathlib.Data.List.Basic
import Mathlib.Tactic.SplitIfs
import MailGateway.Proofs.App.Step

namespace MailGateway

namespace Http.Headers

/-- The character that a byte of a value stands for. -/
def charOf (b : UInt8) : Char := Char.ofNat b.toNat

theorem toNat_charOf (b : UInt8) : (charOf b).toNat = b.toNat := by
  have hlt : b.toNat < 256 := b.toNat_lt
  have hvalid : b.toNat.isValidChar := .inl (by omega)
  rw [charOf, Char.ofNat, dif_pos hvalid]
  rfl

theorem charOf_injective : Function.Injective charOf := by
  intro a b h
  have hnat : a.toNat = b.toNat := by rw [← toNat_charOf a, ← toNat_charOf b, h]
  exact UInt8.toNat_inj.1 hnat

/-- Visible ASCII, blanks and tabs. -/
theorem isVisible_iff (b : UInt8) : isVisible b = true ↔ (0x20 ≤ b ∧ b < 0x7F) ∨ b = 0x09 := by
  simp [isVisible]

/-- The text of a value is its characters, if all of them are visible. -/
theorem valueText?_eq_some_iff {value : Bytes} {text : String} :
    valueText? value = some text ↔
      (∀ b ∈ value, (0x20 ≤ b ∧ b < 0x7F) ∨ b = 0x09) ∧ text.toList = value.map charOf := by
  unfold valueText?
  simp only [List.all_eq_true, isVisible_iff]
  split
  · next h =>
    rw [Option.some.injEq, ← String.toList_inj, String.toList_ofList, eq_comm]
    exact (and_iff_right h).symm
  · next h => simp [h]

/-- Looking for a part among characters is looking for its bytes. -/
theorem map_charOf_within_iff {part value : Bytes} :
    part.map charOf <:+: value.map charOf ↔ part <:+: value := by
  refine ⟨?_, fun h => h.map charOf⟩
  rintro ⟨front, back, h⟩
  obtain ⟨frontAndPart, back, rfl, hfront, -⟩ := List.map_eq_append_iff.1 h.symm
  obtain ⟨front, part', rfl, -, hpart⟩ := List.map_eq_append_iff.1 hfront
  obtain rfl : part' = part := List.map_injective_iff.2 charOf_injective hpart
  exact ⟨front, back, rfl⟩

end Http.Headers

namespace Rest

variable {ρ σ : Metrics.Recorder} {r : Http.Request}

/-- Only the metrics page shows what was counted. -/
theorem serve_eq_of_ne_metrics {route : Route} (h : route ≠ .metrics) :
    serve ρ route r = serve σ route r := by
  cases route with
  | metrics => exact absurd rfl h
  | _ => rfl

/-- The metrics page shows it in its content alone. -/
theorem serve_metrics (ρ σ : Metrics.Recorder) (r : Http.Request) :
    (serve ρ .metrics r).1.withoutBody = (serve σ .metrics r).1.withoutBody ∧
      (serve ρ .metrics r).2 = (serve σ .metrics r).2 :=
  ⟨rfl, rfl⟩

theorem path_of_metrics {path : String} (h : Route.ofPath? path = some .metrics) :
    path = "/metrics" := by
  unfold Route.ofPath? at h
  split_ifs at h with hmail hdocument hmetrics
  all_goals simp_all

/-- **Only a reading of the metrics page shows what was counted.** -/
theorem answer_eq_of_not_page (h : ¬(r.path = "/metrics" ∧ r.method = "GET")) :
    answer ρ r = answer σ r := by
  unfold answer whole
  cases hroute : Route.ofPath? r.path with
  | none => rfl
  | some route =>
    by_cases htakes : route.takes r.method = true
    · simp only [htakes, ↓reduceIte]
      by_cases hmetrics : route = .metrics
      · subst hmetrics
        have hpath : r.path = "/metrics" := path_of_metrics hroute
        -- the route takes `GET` and `HEAD`, and an answer to `HEAD` has no content
        have hhead : r.method = "HEAD" := by
          have hmethod : r.method = "GET" ∨ r.method = "HEAD" := by
            simpa [Route.takes] using htakes
          exact hmethod.resolve_left fun hget => h ⟨hpath, hget⟩
        obtain ⟨hresponse, hevents⟩ := serve_metrics ρ σ r
        simp only [leave, hhead, ↓reduceIte, hresponse, hevents]
      · rw [serve_eq_of_ne_metrics (ρ := ρ) (σ := σ) hmetrics]
    · simp only [htakes, Bool.false_eq_true, ↓reduceIte]

/-- **What stands around the content of an answer does not depend on what was counted.** -/
theorem withoutBody_answer (ρ σ : Metrics.Recorder) (r : Http.Request) :
    (answer ρ r).1.withoutBody = (answer σ r).1.withoutBody ∧
      (answer ρ r).2 = (answer σ r).2 := by
  by_cases h : r.path = "/metrics" ∧ r.method = "GET"
  · obtain ⟨hpath, hmethod⟩ := h
    have hroute : Route.ofPath? r.path = some .metrics := by
      rw [hpath]
      rfl
    have htakes : Route.takes .metrics r.method = true := by
      rw [hmethod]
      rfl
    have hhead : r.method ≠ "HEAD" := by
      rw [hmethod]
      decide
    simp only [answer, whole, leave, hroute, htakes, ↓reduceIte, hhead]
    exact serve_metrics ρ σ r
  · rw [answer_eq_of_not_page (ρ := ρ) (σ := σ) h]
    exact ⟨rfl, rfl⟩

end Rest

namespace App

variable {ρ : Metrics.Recorder} {r : Http.Request}

theorem contains_iff_within (part text : List Char) :
    contains part text = true ↔ part <:+: text := by
  induction text with
  | nil => simp [contains]
  | cons c cs ih =>
    rw [contains, Bool.or_eq_true, ih, List.isPrefixOf_iff_prefix, List.infix_cons_iff]

/-- **A request is a call** if it is HTTP/2 and its first content type is visible ASCII,
blanks and tabs, with `application/grpc` somewhere in it. -/
theorem isCall_iff (r : Http.Request) : isCall r = true ↔
    r.version = .http2 ∧ ∃ value, r.headers.first? "content-type" = some value ∧
      (∀ b ∈ value, (0x20 ≤ b ∧ b < 0x7F) ∨ b = 0x09) ∧
      Utf8.ascii "application/grpc" <:+: value := by
  have hpart : "application/grpc".toList =
      (Utf8.ascii "application/grpc").map Http.Headers.charOf := by decide
  rw [isCall, Bool.and_eq_true, decide_eq_true_iff]
  refine and_congr_right fun _ => ?_
  constructor
  · intro h
    cases htext : r.headers.text? "content-type" with
    | none => simp [htext] at h
    | some text =>
      rw [htext] at h
      obtain ⟨value, hvalue, htext⟩ := Option.bind_eq_some_iff.1 htext
      obtain ⟨hvisible, hchars⟩ := Http.Headers.valueText?_eq_some_iff.1 htext
      refine ⟨value, hvalue, hvisible, ?_⟩
      rwa [contains_iff_within, hchars, hpart, Http.Headers.map_charOf_within_iff] at h
  · rintro ⟨value, hvalue, hvisible, hinfix⟩
    have htext : r.headers.text? "content-type" =
        some (String.ofList (value.map Http.Headers.charOf)) := by
      rw [Http.Headers.text?, hvalue]
      exact Http.Headers.valueText?_eq_some_iff.2 ⟨hvisible, String.toList_ofList⟩
    have hcontains : contains "application/grpc".toList (value.map Http.Headers.charOf) = true := by
      rwa [contains_iff_within, hpart, Http.Headers.map_charOf_within_iff]
    simpa only [htext, String.toList_ofList] using hcontains

/-- What a backend alone answers when nothing has been counted.  The log of a call opens
with the notice of its dispatch. -/
def alone (b : Backend) (r : Http.Request) : Answer :=
  match b with
  | .calls => (serveCall r).1
  | .gateway => (serveGateway .empty r).1

theorem step_call_eq_alone (h : isCall r = true) : (step ρ r).2 = alone .calls r := by
  simp only [step, serve, backend_of_isCall h, alone]

theorem step_gateway_eq_alone (h : isCall r = false)
    (hpage : ¬(r.path = "/metrics" ∧ r.method = "GET")) :
    (step ρ r).2 = alone .gateway r := by
  rw [step_gateway h, Rest.answer_eq_of_not_page (σ := .empty) hpage]
  rfl

/-- Two answers that may differ in their content only. -/
structure AgreeOutside (a b : Answer) : Prop where
  backend : a.backend = b.backend
  status : a.response.status = b.response.status
  headers : a.response.headers = b.response.headers
  trailers : a.response.trailers = b.response.trailers
  events : a.events = b.events
  spans : a.spans = b.spans

theorem AgreeOutside.refl (a : Answer) : AgreeOutside a a := ⟨rfl, rfl, rfl, rfl, rfl, rfl⟩

/-- A request of the gateway is answered as on a fresh recorder, up to the content. -/
theorem agreeOutside_step_gateway (h : isCall r = false) :
    AgreeOutside (step ρ r).2 (alone .gateway r) := by
  obtain ⟨hresponse, hevents⟩ := Rest.withoutBody_answer ρ .empty r
  rw [step_gateway h]
  exact
    { backend := rfl
      status := congrArg (·.status) hresponse
      headers := congrArg (·.headers) hresponse
      trailers := congrArg (·.trailers) hresponse
      events := hevents
      spans := rfl }

/-- A request is answered as its backend alone answers it, up to the content of a page of
metrics. -/
theorem agreeOutside_step (ρ : Metrics.Recorder) (r : Http.Request) :
    AgreeOutside (step ρ r).2 (alone (backend r) r) ∧
      (¬(backend r = .gateway ∧ r.path = "/metrics" ∧ r.method = "GET") →
        (step ρ r).2 = alone (backend r) r) := by
  cases h : isCall r with
  | true =>
    rw [step_call_eq_alone h, backend_of_isCall h]
    exact ⟨.refl _, fun _ => rfl⟩
  | false =>
    rw [backend_of_not_isCall h]
    refine ⟨agreeOutside_step_gateway h, fun hpage => step_gateway_eq_alone h fun hread => ?_⟩
    exact hpage ⟨rfl, hread⟩

/-- **Dispatch is exact and keeps nothing.**  Wherever a request stands in a run, and
whatever was counted before the run:

* calls are answered by their own backend and all else by the gateway, and what a call is
  the version and the first content type say;
* the answer is that of the chosen backend alone, asked as the first;
* but for the content of a page of metrics, around which all is as in that answer. -/
theorem answer_stateless (ρ : Metrics.Recorder) (before after : List Http.Request)
    (r : Http.Request) :
    let announced := r.version = .http2 ∧
      ∃ value, r.headers.first? "content-type" = some value ∧
        (∀ b ∈ value, (0x20 ≤ b ∧ b < 0x7F) ∨ b = 0x09) ∧
        Utf8.ascii "application/grpc" <:+: value
    ∃ a, (run ρ (before ++ r :: after)).2[before.length]? = some a ∧
      (a.backend = .calls ↔ announced) ∧ (a.backend = .gateway ↔ ¬announced) ∧
      AgreeOutside a (alone a.backend r) ∧
      (¬(a.backend = .gateway ∧ r.path = "/metrics" ∧ r.method = "GET") →
        a = alone a.backend r) := by
  intro announced
  have hbackend : (step (run ρ before).1 r).2.backend = backend r := backend_step _ r
  have hcall : isCall r = true ↔ announced := isCall_iff r
  have hcalls : backend r = .calls ↔ announced := by
    rw [← hcall]
    cases h : isCall r <;> simp [backend, h]
  have hgateway : backend r = .gateway ↔ ¬announced := by
    rw [← hcalls]
    cases backend r <;> simp
  obtain ⟨hagree, heq⟩ := agreeOutside_step (run ρ before).1 r
  refine ⟨_, answer_run ρ before after r, ?_⟩
  rw [hbackend]
  exact ⟨hcalls, hgateway, hagree, heq⟩

end App
end MailGateway
