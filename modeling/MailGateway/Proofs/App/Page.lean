/-
# The pages of a run

The metrics page shows the recorder and nothing else but the order in which it is visited and
the times that the clock has measured.  So the page that a request of a run is answered with is
that of the recorder which the requests before it have left (`shows_run`), and what holds of the
page of every recorder at every moment holds of every page of every run, whatever paths the calls
had (`run_pages_wellFormed`).  There is more on a page than counts, and a name with a pair of
backslashes is not found again as it was (`run_pages_beyond_counts`).
-/

import MailGateway.Proofs.App.Conservation
import MailGateway.Proofs.Metrics.WellFormed

namespace MailGateway
namespace Rest

variable {ρ : Metrics.Recorder} {r : Http.Request} {page : Metrics.Exposition}

/-- A file of the browser is no page of metrics. -/
theorem Assets.content_answer_ne (name : String) :
    (Assets.answer name).content ≠ .exposition page := by
  unfold Assets.answer
  simp only
  split <;> nofun

/-- A route that shows a page, shows the recorder. -/
theorem shows_serve {route : Route} (h : (serve ρ route r).1.content = .exposition page) :
    page = ρ.exposition := by
  cases route with
  | metrics => exact (Http.Content.exposition.inj h).symm
  | mail =>
    simp only [serve, post] at h
    split at h <;> cases h
  | document | browser => cases h
  | browserRoot => exact absurd h (Assets.content_answer_ne "")
  | browserFile rest =>
    simp only [serve, Assets.answerEncoded] at h
    split at h
    · exact absurd h (Assets.content_answer_ne _)
    · cases h

/-- An answer that shows a page, shows the recorder. -/
theorem shows_answer (h : (answer ρ r).1.content = .exposition page) :
    page = ρ.exposition := by
  have hwhole : (whole ρ r).1.content = .exposition page := by
    simp only [answer, leave] at h
    split at h
    · cases h
    · exact h
  unfold whole at hwhole
  split at hwhole
  · unfold notFound at hwhole
    split at hwhole <;> cases hwhole
  · split at hwhole
    · exact shows_serve hwhole
    · cases hwhole

end Rest

namespace App

/-- A step that shows a page, shows the recorder. -/
theorem shows_step {ρ : Metrics.Recorder} {r : Http.Request} {page : Metrics.Exposition}
    (h : (step ρ r).2.response.content = .exposition page) : page = ρ.exposition := by
  cases hr : isCall r with
  | false =>
    rw [step_gateway hr] at h
    exact Rest.shows_answer h
  | true =>
    cases hq : Grpc.accept r with
    | ok q =>
      rw [step_served hr hq] at h
      cases h
    | error f =>
      rw [step_refused hr hq, content_tellLength] at h
      cases h

/-- **A page of a run** shows what the requests before it have left. -/
theorem shows_run {ρ : Metrics.Recorder} {rs : List Http.Request} {a : Answer}
    {page : Metrics.Exposition} (ha : a ∈ (run ρ rs).2)
    (hpage : a.response.content = .exposition page) :
    ∃ before r after, rs = before ++ r :: after ∧ page = (run ρ before).1.exposition := by
  induction rs generalizing ρ with
  | nil => simp [run] at ha
  | cons r rs ih =>
    rw [run_cons] at ha
    rcases List.mem_cons.1 ha with rfl | ha
    · exact ⟨[], r, rs, rfl, shows_step hpage⟩
    · obtain ⟨before, t, after, rfl, rfl⟩ := ih ha
      exact ⟨r :: before, t, after, rfl, rfl⟩

theorem status_metrics {ρ : Metrics.Recorder} {r : Http.Request} (hr : isCall r = false)
    (hpath : r.path = "/metrics") (hget : r.method = "GET") :
    (step ρ r).2.response.status = 200 := by
  have hroute : Rest.Route.ofPath? "/metrics" = some .metrics := by decide
  have hhead : ("GET" : String) ≠ "HEAD" := by decide
  simp only [step_gateway hr, Rest.answer, Rest.whole, Rest.leave, hpath, hroute, hget,
    if_neg hhead]
  rfl

/-- **Every page of every run is well formed**, with all its lines and at every moment, for what
the requests before it have counted, and each request that asks for it gets that page. -/
theorem run_pages_wellFormed (ρ : Metrics.Recorder) (rs : List Http.Request) :
    (∀ a ∈ (run ρ rs).2, ∀ page, a.response.content = .exposition page →
      ∃ before r after, rs = before ++ r :: after ∧
        ∀ moment, Metrics.WellFormed (run ρ before).1.increments (page.lines moment)) ∧
    ∀ before r after, rs = before ++ r :: after → isCall r = false → r.path = "/metrics" →
      r.method = "GET" →
      ∃ a, (run ρ rs).2[before.length]? = some a ∧ a.response.status = 200 ∧
        a.response.content = .exposition (run ρ before).1.exposition ∧
        ∀ moment, Metrics.WellFormed (run ρ before).1.increments
          ((run ρ before).1.exposition.lines moment) := by
  constructor
  · intro a ha page hpage
    obtain ⟨before, r, after, hsplit, rfl⟩ := shows_run ha hpage
    exact ⟨before, r, after, hsplit, (run ρ before).1.wellFormed_lines⟩
  · rintro before r after rfl hr hpath hget
    exact ⟨_, answer_run ρ before after r, status_metrics hr hpath hget,
      content_metrics hr hpath hget, (run ρ before).1.wellFormed_lines⟩

/-- A call whose path has quotes, braces and backslashes in it is counted under labels that
the page escapes. -/
theorem run_pages_wellFormed_quoted :
    let odd : Http.Request :=
      { method := "POST", target := "/a\"b\\/\x7bc\x7d\\", version := .http2
        headers := [("content-type", Utf8.ascii "application/grpc")], pieces := [] }
    let scrape : Http.Request :=
      { method := "GET", target := "/metrics", version := .http11, headers := [], pieces := [] }
    (∀ moment, ("grpc_server_started_total\x7bgrpc_type=\"unary\",grpc_service=\"a\\\"b\\\\\"," ++
      "grpc_method=\"\x7bc\x7d\\\\\"\x7d 1") ∈ (run .empty [odd]).1.exposition.lines moment) ∧
    ∃ a, (run .empty [odd, scrape]).2[1]? = some a ∧ a.response.status = 200 ∧
      a.response.content = .exposition (run .empty [odd]).1.exposition ∧
      ∀ moment, Metrics.WellFormed (run .empty [odd]).1.increments
        ((run .empty [odd]).1.exposition.lines moment) := by
  intro odd scrape
  have hcall : isCall scrape = false := by decide
  have hpath : scrape.path = "/metrics" := by decide
  refine ⟨fun moment => ?_,
    (run_pages_wellFormed .empty [odd, scrape]).2 [odd] scrape [] rfl hcall hpath rfl⟩
  let started : Metrics.Key := (Metrics.Series.started ⟨"a\"b\\", "\x7bc\x7d\\"⟩).key
  have hpage : (started, 1) ∈ (run .empty [odd]).1.exposition.counters ∧
      ∀ other ∈ (run .empty [odd]).1.exposition.counters,
        other.1.written = started.written → other.2 = 1 := by decide +kernel
  have hline : Metrics.counterLine (started.written, 1) =
      "grpc_server_started_total\x7bgrpc_type=\"unary\",grpc_service=\"a\\\"b\\\\\"," ++
        "grpc_method=\"\x7bc\x7d\\\\\"\x7d 1" := by decide
  rw [← hline]
  exact Metrics.Exposition.counterLine_mem_lines
    (Metrics.Exposition.mem_values_of_unique hpage.1 hpage.2)

/-- **Not every line tells a count.**  A page has a line with the time that requests took, which is
no whole number, and lines on quantiles with one more label; and where the name of a service has
two backslashes one after the other, a reader finds one. -/
theorem run_pages_beyond_counts :
    let send : Http.Request :=
      { method := "POST", target := "/v1alpha1/email", version := .http11
        headers := [("content-type", Utf8.ascii "application/json")]
        pieces := [Utf8.ascii "\x7b\x7d"] }
    let call : Http.Request :=
      { method := "POST", target := "/c\\\\d/m", version := .http2
        headers := [("content-type", Utf8.ascii "application/grpc")], pieces := [] }
    let scrape : Http.Request :=
      { method := "GET", target := "/metrics", version := .http11, headers := [], pieces := [] }
    let half : Metrics.Moment :=
      { (default : Metrics.Moment) with sum := fun _ => .finite false 1 (-1) }
    let finds (page : Metrics.Exposition) (s : Metrics.Sample) :=
      ∃ line ∈ page.lines half, s.IsReadingOf line
    ∃ a page, (run .empty [send, call, scrape]).2[2]? = some a ∧
      a.response.content = .exposition page ∧
      finds page ⟨"http_request_duration_seconds_sum",
        [("method", "POST"), ("path", "/v1alpha1/email"), ("status", "200")], "0.5"⟩ ∧
      finds page ⟨"http_request_duration_seconds",
        [("method", "POST"), ("path", "/v1alpha1/email"), ("status", "200"), ("quantile", "1")],
        "0"⟩ ∧
      Trace.callLabels call.path = ⟨"c\\\\d", "m"⟩ ∧
      finds page ⟨"grpc_server_started_total",
        [("grpc_type", "unary"), ("grpc_service", "c\\d"), ("grpc_method", "m")], "1"⟩ := by
  intro send call scrape half finds
  have hcall : isCall scrape = false := by decide +kernel
  have hpath : scrape.path = "/metrics" := by decide
  let timed : Metrics.Series := .requestSeconds ⟨"POST", "/v1alpha1/email", 200⟩
  let started : Metrics.Series := .started ⟨"c\\\\d", "m"⟩
  have hpage : timed.key ∈ (run .empty [send, call]).1.exposition.summaries.map Prod.fst ∧
      (started.key, 1) ∈ (run .empty [send, call]).1.exposition.counters ∧
      ∀ other ∈ (run .empty [send, call]).1.exposition.counters,
        other.1.written = started.key.written → other.2 = 1 := by decide +kernel
  obtain ⟨htimed, hstarted, hone⟩ := hpage
  obtain ⟨times, hlines⟩ := Metrics.Exposition.exists_summaryLines_mem_lines (m := half) htimed
  have hsum : finds (run .empty [send, call]).1.exposition
      (timed.sample "_sum" [] (Metrics.seconds (half.sum timed.key.written))) :=
    ⟨_, hlines _ (List.mem_append_right _ List.mem_cons_self), timed.isReadingOf_sumLine _⟩
  have hquantile : finds (run .empty [send, call]).1.exposition
      (timed.sample "" [("quantile", "1")]
        (Metrics.seconds (half.quantile timed.key.written "1"))) :=
    ⟨_, hlines _ (List.mem_append_left _ (List.mem_map_of_mem (by simp [Metrics.quantiles]))),
      timed.isReadingOf_quantileLine half "1"⟩
  have hcounter : finds (run .empty [send, call]).1.exposition
      (started.sample "" [] (toString (1 : UInt64))) :=
    ⟨_, Metrics.Exposition.counterLine_mem_lines
      (Metrics.Exposition.mem_values_of_unique hstarted hone), started.isReadingOf_counterLine 1⟩
  have hread : timed.sample "_sum" [] (Metrics.seconds (half.sum timed.key.written)) =
        ⟨"http_request_duration_seconds_sum",
          [("method", "POST"), ("path", "/v1alpha1/email"), ("status", "200")], "0.5"⟩ ∧
      timed.sample "" [("quantile", "1")]
          (Metrics.seconds (half.quantile timed.key.written "1")) =
        ⟨"http_request_duration_seconds", [("method", "POST"), ("path", "/v1alpha1/email"),
          ("status", "200"), ("quantile", "1")], "0"⟩ ∧
      started.sample "" [] (toString (1 : UInt64)) = ⟨"grpc_server_started_total",
        [("grpc_type", "unary"), ("grpc_service", "c\\d"), ("grpc_method", "m")], "1"⟩ := by
    decide +kernel
  exact ⟨_, _, answer_run .empty [send, call] [] scrape, content_metrics hcall hpath rfl,
    hread.1 ▸ hsum, hread.2.1 ▸ hquantile, by decide, hread.2.2 ▸ hcounter⟩

end App
end MailGateway
