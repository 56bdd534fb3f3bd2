/-
# What becomes of a posted mail

A mail posted to the gateway has one of five outcomes, whatever its headers and its body:

| status | if |
| --- | --- |
| 415 | the first content type does not announce JSON |
| 413 | else, the body is longer than 2097152 bytes |
| 400 | else, the body is no JSON text |
| 422 | else, it is JSON of another shape |
| 200 | else: the body posts a message |

`Disposal` states the five conditions, and the status of the answer is the one whose condition
holds (`status_post_iff`).  An accepted mail is answered by its message alone, written as a
reply, however the body spells it (`step_accepted`); no other one reaches the mail service
(`step_not_accepted`).

JSON is announced by a media type `application/json` or `application/x+json`, in any case and
with any parameters.  The part in front of a suffix counts as well: `application/json+xml`
announces JSON, too (`suffixed_json_accepted`).
-/

import MailGateway.Proofs.App.Dispatch
import MailGateway.Proofs.App.Echo
import MailGateway.Proofs.Http.MediaGrammar
import MailGateway.Proofs.Json.Records

namespace MailGateway
namespace App

open Http (MediaType)

/-- A mail is posted to the gateway. -/
structure IsPost (r : Http.Request) : Prop where
  method : r.method = "POST"
  path : r.path = Rest.Route.mailPath
  gateway : backend r = .gateway

/-- The first content type is readable, and it is a media type of `application` with one of
these subtypes, in lower case. -/
def Announces (subtypes : List Char → Prop) (r : Http.Request) : Prop :=
  ∃ value, r.headers.first? "content-type" = some value ∧
    (∀ b ∈ value, (0x20 ≤ b ∧ b < 0x7F) ∨ b = 0x09) ∧
    ∃ type subtype, MediaType.Written type subtype (value.map Http.Headers.charOf) ∧
      type.map Char.toLower = "application".toList ∧ subtypes (subtype.map Char.toLower)

/-- The first content type announces JSON. -/
def AnnouncesJson : Http.Request → Prop := Announces MediaType.IsJsonSubtype

/-- The status of a posted mail, and why. -/
inductive Disposal (r : Http.Request) : Nat → Prop where
  | unannounced (ha : ¬AnnouncesJson r) : Disposal r 415
  | tooLong (ha : AnnouncesJson r) (hlt : 2097152 < r.content.length) : Disposal r 413
  | noJson {fault} (ha : AnnouncesJson r) (hle : r.content.length ≤ 2097152)
      (hread : Mail.Request.ofJson r.content = .error fault)
      (hcause : fault.cause.category = .ended ∨ fault.cause.category = .malformed) :
      Disposal r 400
  | mismatched {fault} (ha : AnnouncesJson r) (hle : r.content.length ≤ 2097152)
      (hread : Mail.Request.ofJson r.content = .error fault)
      (hcause : fault.cause.category = .mismatched) : Disposal r 422
  | accepted {message} (ha : AnnouncesJson r) (hle : r.content.length ≤ 2097152)
      (hread : Mail.Request.ofJson r.content = .ok ⟨message⟩) : Disposal r 200

variable {ρ : Metrics.Recorder} {r : Http.Request} {m : String} {n : Nat} {f : Json.Fault}

/-- **What announces JSON is told by its spelling.** -/
theorem announcesJson_iff : Rest.announcesJson r.headers = true ↔ AnnouncesJson r := by
  unfold Rest.announcesJson Http.Headers.text?
  constructor
  · intro h
    split at h
    · next media hmedia =>
      obtain ⟨text, htext, hparse⟩ := Option.bind_eq_some_iff.1 hmedia
      obtain ⟨value, hvalue, htext⟩ := Option.bind_eq_some_iff.1 htext
      obtain ⟨hvisible, hchars⟩ := Http.Headers.valueText?_eq_some_iff.1 htext
      obtain ⟨type, subtype, hwritten, rfl⟩ := MediaType.parse?_eq_some_iff.1 hparse
      obtain ⟨htype, hsubtype⟩ := MediaType.isJson_ofParts.1 h
      exact ⟨value, hvalue, hvisible, type, subtype, hchars ▸ hwritten, htype, hsubtype⟩
    · cases h
  · rintro ⟨value, hvalue, hvisible, type, subtype, hwritten, htype, hsubtype⟩
    rw [← String.toList_ofList (l := value.map _)] at hwritten
    have htext := Http.Headers.valueText?_eq_some_iff.2 ⟨hvisible, String.toList_ofList⟩
    have hparse := MediaType.parse?_eq_some_iff.2 ⟨type, subtype, hwritten, rfl⟩
    rw [hvalue, Option.bind_some, htext, Option.bind_some, hparse]
    exact MediaType.isJson_ofParts.2 ⟨htype, hsubtype⟩

/-! ### The checks, in their order -/

theorem accept_unannounced (ha : ¬AnnouncesJson r) : Rest.accept r = .error .notJson := by
  rw [← announcesJson_iff, Bool.not_eq_true] at ha
  simp only [Rest.accept, ha, Bool.not_false, ↓reduceIte]

theorem accept_tooLong (ha : AnnouncesJson r) (hlt : Rest.maxBody < r.content.length) :
    Rest.accept r = .error .tooLong := by
  simp only [Rest.accept, announcesJson_iff.2 ha, Bool.not_true, Bool.false_eq_true, ↓reduceIte,
    hlt]

theorem accept_fault (ha : AnnouncesJson r) (hle : r.content.length ≤ Rest.maxBody)
    (hread : Mail.Request.ofJson r.content = .error f) :
    Rest.accept r = .error (.fault r.content f) := by
  simp only [Rest.accept, announcesJson_iff.2 ha, Bool.not_true, Bool.false_eq_true, ↓reduceIte,
    Nat.not_lt.2 hle, hread]

theorem accept_message (ha : AnnouncesJson r) (hle : r.content.length ≤ Rest.maxBody)
    (hread : Mail.Request.ofJson r.content = .ok ⟨m⟩) : Rest.accept r = .ok ⟨m⟩ := by
  simp only [Rest.accept, announcesJson_iff.2 ha, Bool.not_true, Bool.false_eq_true, ↓reduceIte,
    Nat.not_lt.2 hle, hread]

/-- **One of the five conditions holds.** -/
theorem exists_disposal (r : Http.Request) : ∃ n, Disposal r n := by
  by_cases ha : AnnouncesJson r
  · rcases Nat.lt_or_ge 2097152 r.content.length with hlt | hle
    · exact ⟨413, .tooLong ha hlt⟩
    · cases hread : Mail.Request.ofJson r.content with
      | ok request => exact ⟨200, .accepted ha hle hread⟩
      | error f =>
        cases hcause : f.cause.category with
        | ended => exact ⟨400, .noJson ha hle hread (.inl hcause)⟩
        | malformed => exact ⟨400, .noJson ha hle hread (.inr hcause)⟩
        | mismatched => exact ⟨422, .mismatched ha hle hread hcause⟩
  · exact ⟨415, .unannounced ha⟩

theorem Disposal.status_eq (h : Disposal r n) : (Rest.post r).1.status = n := by
  unfold Rest.post
  cases h with
  | unannounced ha =>
    rw [accept_unannounced ha]
    rfl
  | tooLong ha hlt =>
    rw [accept_tooLong ha hlt]
    rfl
  | @noJson fault ha hle hread hcause =>
    rw [accept_fault ha hle hread]
    have hne : fault.cause.category ≠ .mismatched := by
      rcases hcause with hcause | hcause <;> rw [hcause] <;> decide
    exact if_neg hne
  | mismatched ha hle hread hcause =>
    rw [accept_fault ha hle hread]
    exact if_pos hcause
  | accepted ha hle hread =>
    rw [accept_message ha hle hread]
    rfl

theorem IsPost.outcome (h : IsPost r) : (step ρ r).2.response = (Rest.post r).1 ∧
    (step ρ r).2.events = (Rest.post r).2 := by
  have hcall : isCall r = false := by
    have hbackend := h.gateway
    unfold backend at hbackend
    split at hbackend
    · cases hbackend
    · next hcall => simpa using hcall
  rw [step_gateway hcall, answer_posted h.method h.path]
  exact ⟨rfl, rfl⟩

/-- **The status is the one whose condition holds.** -/
theorem status_post_iff (h : IsPost r) : (step ρ r).2.response.status = n ↔ Disposal r n := by
  rw [h.outcome.1]
  constructor
  · rintro rfl
    obtain ⟨n, hn⟩ := exists_disposal r
    rw [hn.status_eq]
    exact hn
  · exact Disposal.status_eq

/-- **An accepted mail is answered by its message**, which is reported once. -/
theorem step_accepted (h : IsPost r) (hstatus : (step ρ r).2.response.status = 200)
    (hread : Mail.Request.ofJson r.content = .ok ⟨m⟩) :
    (step ρ r).2.response = .ofBytes 200 "application/json" (Mail.Reply.mk m).toJson ∧
      (step ρ r).2.events = [.handling (Utf8.encode m).length (some .request)] := by
  cases (status_post_iff h).1 hstatus with
  | accepted ha hle _ =>
    rw [h.outcome.1, h.outcome.2, Rest.post, accept_message ha hle hread, Utf8.length_encode]
    exact ⟨rfl, rfl⟩

/-- **No other mail is reported.** -/
theorem step_not_accepted (h : IsPost r) (hstatus : (step ρ r).2.response.status ≠ 200) :
    (step ρ r).2.events = [] := by
  obtain ⟨hresponse, hevents⟩ := h.outcome (ρ := ρ)
  rw [hresponse, Rest.post] at hstatus
  rw [hevents, Rest.post]
  cases haccept : Rest.accept r with
  | error refusal => rfl
  | ok request =>
    rw [haccept] at hstatus
    exact absurd rfl hstatus

/-- **The answer to an accepted mail tells the message, and only the message.** -/
theorem content_eq_iff {σ : Metrics.Recorder} {s : Http.Request} (h : IsPost r) (hs : IsPost s)
    (hstatus : (step ρ r).2.response.status = 200)
    (hstatus' : (step σ s).2.response.status = 200) :
    (step ρ r).2.response.content = (step σ s).2.response.content ↔
      Mail.Request.ofJson r.content = Mail.Request.ofJson s.content := by
  cases (status_post_iff h).1 hstatus with
  | @accepted m _ _ hread =>
    cases (status_post_iff hs).1 hstatus' with
    | @accepted m' _ _ hread' =>
      rw [(step_accepted h hstatus hread).1, (step_accepted hs hstatus' hread').1, hread, hread']
      constructor
      · intro hcontent
        have hsame := Mail.Reply.ofJson_toJson ⟨m⟩
        rw [Http.Content.bytes.inj hcontent, Mail.Reply.ofJson_toJson] at hsame
        obtain rfl := congrArg Mail.Reply.error (Except.ok.inj hsame)
        rfl
      · intro hsame
        obtain rfl := congrArg Mail.Request.message (Except.ok.inj hsame)
        rfl

/-- **Text behind the value is no JSON.** -/
theorem status_trailing {text : String} {ds rest : List Char} {v : Json.Value} (h : IsPost r)
    (ha : AnnouncesJson r) (hle : r.content.length ≤ 2097152)
    (hcontent : r.content = Utf8.encode text) (hblanks : Json.Blanks text.toList ds)
    (hwritten : Json.Written ds v rest) (hgives : v.Gives "message" m)
    (hrest : ¬Json.Blanks rest []) : (step ρ r).2.response.status = 400 := by
  obtain ⟨fault, hread, hcause⟩ :=
    Json.parseRecord_trailing Mail.Request.shape hblanks hwritten hgives hrest
  have hfault : Mail.Request.ofJson r.content = .error fault := by
    rw [hcontent, Mail.Request.ofJson, hread]
    rfl
  exact (status_post_iff h).2 (.noJson ha hle hfault (.inr (by rw [hcause]; rfl)))

/-- **Every posted mail, by its headers and its body.**

* The status is 415, 413, 400, 422 or 200, each exactly if its condition holds.
* Text behind the value of a body is among the faults of status 400.
* With status 200, the answer is the message as a reply and can be read back, and the mail
  service is asked once and reports the length of the message as a detail.
* With another status it is not asked, and nothing is reported.
* Two accepted mails have one body in answer exactly if they post one message. -/
theorem post_classified (ρ : Metrics.Recorder) (h : IsPost r) :
    (∀ n, (step ρ r).2.response.status = n ↔ Disposal r n) ∧
    (∀ text ds rest v m, AnnouncesJson r → r.content.length ≤ 2097152 →
      r.content = Utf8.encode text → Json.Blanks text.toList ds → Json.Written ds v rest →
      v.Gives "message" m → ¬Json.Blanks rest [] → (step ρ r).2.response.status = 400) ∧
    (∀ m, (step ρ r).2.response.status = 200 → Mail.Request.ofJson r.content = .ok ⟨m⟩ →
      (step ρ r).2.response = .ofBytes 200 "application/json" (Mail.Reply.mk m).toJson ∧
      Mail.Reply.ofJson (Mail.Reply.mk m).toJson = .ok ⟨m⟩ ∧ (step ρ r).2.asked = 1 ∧
      ∃ e, (step ρ r).2.events = [e] ∧ e.level = .debug ∧
        e = .handling (Utf8.encode m).length (some .request)) ∧
    ((step ρ r).2.response.status ≠ 200 → (step ρ r).2.asked = 0 ∧ (step ρ r).2.events = []) ∧
    (∀ σ s, IsPost s → (step ρ r).2.response.status = 200 →
      (step σ s).2.response.status = 200 →
      ((step ρ r).2.response.content = (step σ s).2.response.content ↔
        Mail.Request.ofJson r.content = Mail.Request.ofJson s.content)) := by
  refine ⟨fun n => status_post_iff h, fun text ds rest v m => status_trailing h,
    fun m hstatus hread => ?_, fun hstatus => ?_, fun σ s hs => content_eq_iff h hs⟩
  · obtain ⟨hresponse, hevents⟩ := step_accepted h hstatus hread
    refine ⟨hresponse, Mail.Reply.ofJson_toJson ⟨m⟩, ?_, _, hevents, rfl, rfl⟩
    rw [Answer.asked, hevents]
    rfl
  · have hevents := step_not_accepted h hstatus
    refine ⟨?_, hevents⟩
    rw [Answer.asked, hevents]
    rfl

/-- A mail posted with a content type, its body in pieces. -/
def mailPost (type : String) (pieces : List Bytes) : Http.Request :=
  { method := "POST", target := "/v1alpha1/email", version := .http11
    headers := [("Content-Type", Utf8.ascii type)], pieces }

/-- A message in a list, with an escape in it that two pieces share, posted as a JSON type with a
suffix and a parameter: its answer, and the length that is reported. -/
theorem post_classified_escaped :
    let post := mailPost "Application/Problem+JSON; q=\"a;b\" "
      [Utf8.ascii " [ \"\\u00", Utf8.ascii "e9a\" ] "]
    (step .empty post).2.response.content = .bytes (Utf8.encode "\x7b\"error\":\"éa\"\x7d") ∧
      (step .empty post).2.events = [.handling 3 (some .request)] := by
  intro post
  have hpost : IsPost post := ⟨rfl, by decide, by decide⟩
  obtain ⟨-, -, haccepted, -⟩ := post_classified .empty hpost
  obtain ⟨hresponse, -, -, e, hevents, -, he⟩ := haccepted "éa" (by decide +kernel) (by cbv)
  have hlength : (Utf8.encode "éa").length = 3 := by decide
  rw [hresponse, hevents, he, hlength]
  exact ⟨congrArg Http.Content.bytes (by decide), rfl⟩

/-- **The part in front of a suffix counts as well.**  A subtype that is not `json` and has no
suffix `json` may announce JSON all the same. -/
theorem suffixed_json_accepted :
    ¬∀ ρ r, IsPost r → ((step ρ r).2.response.status = 415 ↔
      ¬Announces (fun subtype => subtype = "json".toList ∨
        ∃ stem, subtype = stem ++ "+json".toList) r) := by
  intro h
  let post := mailPost "application/json+xml" [Utf8.ascii "\x7b\"message\":\"x\"\x7d"]
  have hpost : IsPost post := ⟨rfl, by decide, by decide⟩
  have hstatus : (step .empty post).2.response.status ≠ 415 := by decide +kernel
  obtain ⟨value, hvalue, -, type, subtype, hwritten, -, hsubtype⟩ :=
    not_not.1 (mt (h .empty post hpost).2 hstatus)
  have hfirst : post.headers.first? "content-type" = some (Utf8.ascii "application/json+xml") := by
    decide +kernel
  obtain rfl := Option.some.inj (hfirst.symm.trans hvalue)
  have hrest : ((Utf8.ascii "application/json+xml").map Http.Headers.charOf).dropWhile
      MediaType.isToken = '/' :: "json+xml".toList := by decide
  rw [hwritten.dropWhile_eq (by decide)] at hrest
  obtain rfl := (List.cons.inj hrest).2
  rcases hsubtype with hsubtype | ⟨stem, hsubtype⟩
  · revert hsubtype
    decide
  · have hlower : "json+xml".toList.map Char.toLower = "json+xml".toList := by decide
    have hsuffix : "+json".toList <:+ "json+xml".toList := ⟨stem, hsubtype.symm.trans hlower⟩
    revert hsuffix
    decide

end App
end MailGateway
