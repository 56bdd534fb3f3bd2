/-
# The route table of the gateway

| template | methods | `allow` |
| --- | --- | --- |
| `/v1alpha1/email` | POST | `POST` |
| `/swagger.json` | GET, HEAD | `GET,HEAD` |
| `/metrics` | GET, HEAD | `GET,HEAD` |
| `/swagger-ui` | GET, HEAD | `GET,HEAD` |
| `/swagger-ui/` | GET, HEAD | `GET,HEAD` |
| `/swagger-ui/` and at least one more character | GET, HEAD | `GET,HEAD` |

`Leads` reads the table: a path leads to at most one row (`Leads.unique`), and it is the row of
the route that is taken for the path (`leads_iff`).  The answer, the counters and the header
`allow` are made at three places, and all of them keep to that row (`gateway_route_table`).
-/

import Mathlib.Tactic.SplitIfs
import MailGateway.Proofs.App.Step
import MailGateway.Proofs.Http.Targets

namespace MailGateway
namespace Rest

/-! ### The table -/

/-- A row of the table: the name that its requests are counted under, its methods, and how the
header `allow` lists them. -/
structure Row where
  template : String
  methods : List String
  allow : String
  deriving DecidableEq, Repr

/-- A row of what is read. -/
def Row.read (template : String) : Row := ⟨template, ["GET", "HEAD"], "GET,HEAD"⟩

/-- The rows whose template is their path. -/
def literalRows : List Row :=
  [⟨"/v1alpha1/email", ["POST"], "POST"⟩, .read "/swagger.json", .read "/metrics",
    .read "/swagger-ui", .read "/swagger-ui/"]

/-- The row of all that is below the API browser. -/
def belowRow : Row := .read "/swagger-ui/\x7b*rest\x7d"

/-- The row that a path leads to. -/
inductive Leads : String → Row → Prop where
  | literal (row : Row) (h : row ∈ literalRows) : Leads row.template row
  | below (rest : String) (h : rest ≠ "") : Leads ("/swagger-ui/" ++ rest) belowRow

namespace Route

variable {p : String} {route : Route}

/-- The path of a route. -/
def path : Route → String
  | .browserFile rest => browserPath ++ rest
  | route => route.template

/-- The row of a route. -/
def row : Route → Row
  | .mail => ⟨mailPath, ["POST"], "POST"⟩
  | route => .read route.template

theorem takes_iff {method : String} : route.takes method = true ↔ method ∈ route.row.methods := by
  cases route <;> simp [takes, row, Row.read]

theorem allow_row : route.row.allow = route.allowed := by
  cases route <;> rfl

theorem template_row : route.row.template = route.template := by
  cases route <;> rfl

/-- What is below the API browser has a route of its own. -/
theorem ofPath?_below {rest : String} (h : rest ≠ "") :
    ofPath? (browserPath ++ rest) = some (.browserFile rest) := by
  have hprefix : browserPath.toList.isPrefixOf (browserPath ++ rest).toList = true := by
    rw [List.isPrefixOf_iff_prefix, String.toList_append]
    exact List.prefix_append _ _
  have hother : ∀ other : String, browserPath.toList.isPrefixOf other.toList = false →
      browserPath ++ rest ≠ other := by
    rintro other hno rfl
    exact Bool.false_ne_true (hno.symm.trans hprefix)
  have hroot : browserPath ++ rest ≠ browserPath := by
    rw [Ne, ← String.toList_inj, String.toList_append, List.append_right_eq_self]
    exact mt String.toList_eq_nil_iff.1 h
  have hrest : (browserPath ++ rest).toList.drop browserPath.length = rest.toList := by
    rw [String.toList_append, ← String.length_toList, List.drop_left]
  rw [ofPath?, if_neg (hother _ (by decide)), if_neg (hother _ (by decide)),
    if_neg (hother _ (by decide)), if_neg (hother _ (by decide)), if_neg hroot,
    if_pos hprefix, hrest, String.ofList_toList]

theorem below_of_isPrefixOf (h : browserPath.toList.isPrefixOf p.toList = true) :
    p = browserPath ++ String.ofList (p.toList.drop browserPath.length) := by
  obtain ⟨rest, hrest⟩ := List.isPrefixOf_iff_prefix.1 h
  rw [← hrest, ← String.length_toList, List.drop_left, ← String.toList_inj, String.toList_append,
    String.toList_ofList, hrest]

/-- A path has one route: the one it is the path of.  The path of the API browser itself is none
of its files. -/
theorem ofPath?_eq_some_iff :
    ofPath? p = some route ↔ p = route.path ∧ route ≠ .browserFile "" := by
  constructor
  · intro h
    unfold ofPath? at h
    split_ifs at h with hmail hdocument hmetrics hbrowser hroot hbelow
    all_goals obtain rfl := Option.some.inj h
    · exact ⟨hmail, nofun⟩
    · exact ⟨hdocument, nofun⟩
    · exact ⟨hmetrics, nofun⟩
    · exact ⟨hbrowser, nofun⟩
    · exact ⟨hroot, nofun⟩
    · have hpath := below_of_isPrefixOf hbelow
      refine ⟨hpath, fun hempty => hroot ?_⟩
      rw [hpath, Route.browserFile.inj hempty, String.append_empty]
  · rintro ⟨rfl, hroute⟩
    cases route with
    | browserFile rest => exact ofPath?_below fun h => hroute (congrArg _ h)
    | _ => decide

end Route

variable {path : String} {row other : Row}

/-- **A path leads to the row of its route.** -/
theorem leads_iff :
    Leads path row ↔ ∃ route, Route.ofPath? path = some route ∧ route.row = row := by
  constructor
  · rintro (⟨row, hrow⟩ | ⟨rest, hrest⟩)
    · simp only [literalRows, List.mem_cons, List.not_mem_nil, or_false] at hrow
      rcases hrow with rfl | rfl | rfl | rfl | rfl
      exacts [⟨.mail, by decide⟩, ⟨.document, by decide⟩,
        ⟨.metrics, by decide⟩, ⟨.browser, by decide⟩,
        ⟨.browserRoot, by decide⟩]
    · exact ⟨.browserFile rest, Route.ofPath?_below hrest, rfl⟩
  · rintro ⟨route, hroute, rfl⟩
    obtain ⟨rfl, hfile⟩ := Route.ofPath?_eq_some_iff.1 hroute
    cases route with
    | browserFile rest => exact .below rest fun h => hfile (congrArg _ h)
    | mail => exact .literal (Route.row .mail) (by decide)
    | document => exact .literal (Route.row .document) (by decide)
    | metrics => exact .literal (Route.row .metrics) (by decide)
    | browser => exact .literal (Route.row .browser) (by decide)
    | browserRoot => exact .literal (Route.row .browserRoot) (by decide)

theorem Leads.unique (h : Leads path row) (hother : Leads path other) : row = other := by
  obtain ⟨route, hroute, rfl⟩ := leads_iff.1 h
  obtain ⟨route', hroute', rfl⟩ := leads_iff.1 hother
  rw [Option.some.inj (hroute.symm.trans hroute')]

/-- What a request of the gateway is counted under. -/
theorem pathLabel_of_leads (h : Leads path row) : pathLabel path = row.template := by
  obtain ⟨route, hroute, rfl⟩ := leads_iff.1 h
  rw [pathLabel, hroute, Option.map_some, Option.getD_some, Route.template_row]

theorem ofPath?_eq_none_iff : Route.ofPath? path = none ↔ ∀ row, ¬Leads path row := by
  constructor
  · intro hnone row h
    obtain ⟨route, hroute, -⟩ := leads_iff.1 h
    cases hnone.symm.trans hroute
  · intro h
    cases hroute : Route.ofPath? path with
    | none => rfl
    | some route => exact absurd (leads_iff.2 ⟨route, hroute, rfl⟩) (h route.row)

/-- What a path is counted under: the template of its row, or else `unmatched`. -/
inductive Labelled (path : String) : String → Prop where
  | row (row : Row) (h : Leads path row) : Labelled path row.template
  | unmatched (h : ∀ row, ¬Leads path row) : Labelled path "unmatched"

theorem labelled_pathLabel (path : String) : Labelled path (pathLabel path) := by
  cases hroute : Route.ofPath? path with
  | none =>
    rw [pathLabel, hroute]
    exact .unmatched (ofPath?_eq_none_iff.1 hroute)
  | some route =>
    have hleads : Leads path route.row := leads_iff.2 ⟨route, hroute, rfl⟩
    rw [pathLabel_of_leads hleads]
    exact .row route.row hleads

/-! ### Answers to methods -/

/-- An answer that does not speak of methods. -/
structure TakesMethod (response : Http.Response) : Prop where
  status : response.status ≠ 405
  allow : response.headers.first? "allow" = none

/-- An answer that refuses the method and lists the others. -/
structure RefusesMethod (response : Http.Response) (allowed : String) : Prop where
  status : response.status = 405
  allow : response.headers.first? "allow" = some (Utf8.ascii allowed)

theorem first?_field_of_ne {name value other : String} (h : name.toLower ≠ other)
    (hs : Http.Headers) : Http.Headers.first? (Http.field name value :: hs) other =
      hs.first? other := by
  rw [Http.Headers.first?_cons, Http.field, if_neg h]

theorem lower_contentLength : "content-length".toLower ≠ "allow" := by decide +kernel

theorem lower_contentType : "content-type".toLower ≠ "allow" := by decide +kernel

theorem first?_allow_empty (status : Nat) (hs : Http.Headers) :
    (Http.Response.empty status hs).headers.first? "allow" = hs.first? "allow" := by
  rw [Http.Response.empty, Http.Headers.first?_append, first?_field_of_ne lower_contentLength]
  exact Option.or_none

theorem takesMethod_empty {status : Nat} (h : status ≠ 405) :
    TakesMethod (.empty status []) :=
  ⟨h, first?_allow_empty status []⟩

theorem takesMethod_ofBytes {status : Nat} (h : status ≠ 405) (type : String) (body : Bytes) :
    TakesMethod (.ofBytes status type body) := by
  refine ⟨h, ?_⟩
  rw [Http.Response.ofBytes, first?_field_of_ne lower_contentType,
    first?_field_of_ne lower_contentLength]
  rfl

theorem takesMethod_asset (name : String) : TakesMethod (Assets.answer name) := by
  unfold Assets.answer
  dsimp only
  split
  · exact ⟨by simp, first?_field_of_ne lower_contentType []⟩
  · exact takesMethod_empty (by simp)

theorem Refusal.status_ne (refusal : Refusal) : refusal.status ≠ 405 := by
  cases refusal with
  | fault body f =>
    unfold Refusal.status
    dsimp only
    split <;> simp
  | _ => simp [Refusal.status]

/-- No route answers a method that it takes as if it did not. -/
theorem takesMethod_serve (ρ : Metrics.Recorder) (route : Route) (r : Http.Request) :
    TakesMethod (serve ρ route r).1 := by
  cases route with
  | mail =>
    rw [serve, post]
    split
    · next refusal _ => exact takesMethod_ofBytes refusal.status_ne _ _
    · exact takesMethod_ofBytes (by simp) _ _
  | document => exact takesMethod_ofBytes (by simp) _ _
  | metrics => exact ⟨by simp [serve], first?_field_of_ne lower_contentType []⟩
  | browser =>
    have hlocation : "location".toLower ≠ "allow" := by decide +kernel
    exact ⟨by simp [serve, Http.Response.empty],
      (first?_allow_empty 303 _).trans (first?_field_of_ne hlocation [])⟩
  | browserRoot => exact takesMethod_asset ""
  | browserFile rest =>
    rw [serve, Assets.answerEncoded]
    split
    · exact takesMethod_asset _
    · exact takesMethod_ofBytes (by simp) _ _

theorem refusesMethod_empty (allowed : String) :
    RefusesMethod (.empty 405 [Http.field "allow" allowed]) allowed := by
  have hallow : "allow".toLower = "allow" := by decide +kernel
  refine ⟨rfl, (first?_allow_empty 405 _).trans ?_⟩
  rw [Http.Headers.first?_cons, Http.field, if_pos hallow]

variable {r : Http.Request}

/-- An answer speaks of methods the same with its body and without. -/
theorem speaks_leave (method : String) (response : Http.Response) :
    (TakesMethod (leave method response) ↔ TakesMethod response) ∧
    ∀ allowed, RefusesMethod (leave method response) allowed ↔
      RefusesMethod response allowed := by
  unfold leave
  split
  · exact ⟨⟨fun h => ⟨h.status, h.allow⟩, fun h => ⟨h.status, h.allow⟩⟩,
      fun _ => ⟨fun h => ⟨h.status, h.allow⟩, fun h => ⟨h.status, h.allow⟩⟩⟩
  · exact ⟨.rfl, fun _ => .rfl⟩

theorem takesMethod_answer (ρ : Metrics.Recorder) (h : Leads r.path row)
    (hmethod : r.method ∈ row.methods) : TakesMethod (answer ρ r).1 := by
  obtain ⟨route, hroute, rfl⟩ := leads_iff.1 h
  simp only [answer, whole, hroute, Route.takes_iff.2 hmethod, ↓reduceIte, speaks_leave]
  exact takesMethod_serve ρ route r

theorem refusesMethod_answer (ρ : Metrics.Recorder) (h : Leads r.path row)
    (hmethod : r.method ∉ row.methods) : RefusesMethod (answer ρ r).1 row.allow := by
  obtain ⟨route, hroute, rfl⟩ := leads_iff.1 h
  have htakes : ¬route.takes r.method = true := mt Route.takes_iff.1 hmethod
  simp only [answer, whole, hroute, htakes, Bool.false_eq_true, ↓reduceIte, speaks_leave,
    Route.allow_row]
  exact refusesMethod_empty route.allowed

/-- What no route takes is not found, and nothing is said about it. -/
theorem answer_of_not_leads (ρ : Metrics.Recorder) (h : ∀ row, ¬Leads r.path row) :
    (answer ρ r).1.status = 404 ∧ (answer ρ r).1.content = .bytes [] := by
  simp only [answer, whole, leave, ofPath?_eq_none_iff.2 h, notFound]
  split <;> split <;> exact ⟨rfl, rfl⟩

end Rest

namespace App

variable {ρ : Metrics.Recorder} {r : Http.Request} {row : Rest.Row}

/-- A request is counted once under its method, this label and the status of its answer, and
under nothing else. -/
def CountedUnder (ρ : Metrics.Recorder) (r : Http.Request) (label : String) : Prop :=
  let labels : Metrics.RouteLabels := ⟨r.method, label, (step ρ r).2.response.status⟩
  ∀ s, (step ρ r).1.value s =
    ρ.value s + if s = .requests labels ∨ s = .requestSeconds labels then 1 else 0

/-- What a request with this row in the table brings about. -/
structure Routed (ρ : Metrics.Recorder) (r : Http.Request) (row : Rest.Row) : Prop where
  counted : CountedUnder ρ r row.template
  taken : r.method ∈ row.methods → Rest.TakesMethod (step ρ r).2.response
  refused : r.method ∉ row.methods → Rest.RefusesMethod (step ρ r).2.response row.allow

/-- What a request without a row brings about. -/
structure Unrouted (ρ : Metrics.Recorder) (r : Http.Request) : Prop where
  counted : CountedUnder ρ r "unmatched"
  status : (step ρ r).2.response.status = 404
  content : (step ρ r).2.response.content = .bytes []

theorem countedUnder_pathLabel (ρ : Metrics.Recorder) (hr : isCall r = false) :
    CountedUnder ρ r (Rest.pathLabel r.path) := by
  unfold CountedUnder
  intro labels s
  have hstep : (step ρ r).1 = ρ.countAll [.requests labels, .requestSeconds labels] := by
    simp only [labels, step_gateway hr, Rest.series]
  rw [hstep, Metrics.Recorder.countAll, List.foldl_cons, List.foldl_cons, List.foldl_nil,
    Metrics.Recorder.value_count, Metrics.Recorder.value_count, Nat.add_assoc]
  congr 1
  by_cases hrequests : s = .requests labels
  · simp [hrequests]
  · by_cases hseconds : s = .requestSeconds labels
    · simp [hseconds]
    · simp [hrequests, hseconds, Ne.symm hrequests, Ne.symm hseconds]

theorem routed_of_leads (ρ : Metrics.Recorder) (hr : isCall r = false)
    (h : Rest.Leads r.path row) : Routed ρ r row := by
  have hanswer : (step ρ r).2.response = (Rest.answer ρ r).1 := by rw [step_gateway hr]
  refine ⟨?_, ?_, ?_⟩
  · rw [← Rest.pathLabel_of_leads h]
    exact countedUnder_pathLabel ρ hr
  · rw [hanswer]
    exact Rest.takesMethod_answer ρ h
  · rw [hanswer]
    exact Rest.refusesMethod_answer ρ h

theorem unrouted_of_not_leads (ρ : Metrics.Recorder) (hr : isCall r = false)
    (h : ∀ row, ¬Rest.Leads r.path row) : Unrouted ρ r := by
  have hanswer : (step ρ r).2.response = (Rest.answer ρ r).1 := by rw [step_gateway hr]
  have hlabel : Rest.pathLabel r.path = "unmatched" := by
    rw [Rest.pathLabel, Rest.ofPath?_eq_none_iff.2 h]
    rfl
  obtain ⟨hstatus, hcontent⟩ := Rest.answer_of_not_leads ρ h
  exact ⟨hlabel ▸ countedUnder_pathLabel ρ hr, hanswer ▸ hstatus, hanswer ▸ hcontent⟩

/-- The gateway sees of a target its path only. -/
theorem step_gateway_target (ρ : Metrics.Recorder) (hr : isCall r = false) {s t : String}
    (h : Http.targetPath s = Http.targetPath t) :
    step ρ { r with target := s } = step ρ { r with target := t } := by
  have hpath : Http.Request.path { r with target := s } =
      Http.Request.path { r with target := t } := h
  have hserve : ∀ route, Rest.serve ρ route { r with target := s } =
      Rest.serve ρ route { r with target := t } := by
    intro route
    cases route <;> rfl
  have hanswer : Rest.answer ρ { r with target := s } = Rest.answer ρ { r with target := t } := by
    simp only [Rest.answer, Rest.whole, hpath, hserve]
  have hseries : ∀ status, Rest.series { r with target := s } status =
      Rest.series { r with target := t } status := by
    intro status
    rw [Rest.series, Rest.series, hpath]
  rw [step_gateway (r := { r with target := s }) hr, step_gateway (r := { r with target := t }) hr,
    hanswer, hseries]

/-- **The route table of the gateway is exact.**  A path leads to at most one row.  A request
whose path leads to a row is counted under the template of the row, and refused with the list of
methods exactly where its method is not one of the row; any other request is not found.  A query
behind the path makes no difference. -/
theorem gateway_route_table (ρ : Metrics.Recorder) (r : Http.Request)
    (hr : backend r = .gateway) :
    (∀ row other, Rest.Leads r.path row → Rest.Leads r.path other → row = other) ∧
    (∀ row, Rest.Leads r.path row → Routed ρ r row) ∧
    ((∀ row, ¬Rest.Leads r.path row) → Unrouted ρ r) ∧
    ∀ path query : List Char, path.head? = some '/' → '?' ∉ path → '#' ∉ path →
      step ρ { r with target := String.ofList (path ++ '?' :: query) } =
        step ρ { r with target := String.ofList path } := by
  have hcall : isCall r = false := by simpa [backend] using hr
  refine ⟨fun _ _ => Rest.Leads.unique, fun row => routed_of_leads ρ hcall,
    unrouted_of_not_leads ρ hcall, fun path query hslash hquery hfragment => ?_⟩
  refine step_gateway_target ρ hcall ?_
  rw [Http.targetPath_query hslash hquery hfragment,
    Http.targetPath_of_no_query hslash hquery hfragment]

/-- Below the API browser nothing is decoded, and a method is not known by its meaning. -/
theorem gateway_route_table_below :
    let r : Http.Request :=
      { method := "get", target := "/swagger-ui/%2E%2E/metrics?all", version := .http11
        headers := [], pieces := [] }
    backend r = .gateway ∧ Routed .empty r Rest.belowRow ∧
      Rest.RefusesMethod (step .empty r).2.response "GET,HEAD" := by
  intro r
  have hbackend : backend r = .gateway := by decide
  have hpath : r.path = "/swagger-ui/" ++ "%2E%2E/metrics" := by decide
  have hleads : Rest.Leads r.path Rest.belowRow := by
    rw [hpath]
    exact .below _ (by decide)
  obtain ⟨-, htable, -, -⟩ := gateway_route_table .empty r hbackend
  have hrouted := htable _ hleads
  exact ⟨hbackend, hrouted, hrouted.refused (by decide)⟩

end App
end MailGateway
