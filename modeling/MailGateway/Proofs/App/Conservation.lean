/-
# What the recorder has counted

Each request contributes a few increments, which `Contributes` tells from the request, the routes
and the answer:

| backend | families | labels |
| --- | --- | --- |
| gateway | requests and their times | method, template of the row or `unmatched`, status |
| calls | starts, codes and times | service and method around a slash of the path, code sent |

A run of requests adds to the recorder what its requests contribute and nothing else
(`increments_run_perm`).  The rest follows from that:

* no increment depends on what was counted before (`contribution_step`), so the order
  of the requests plays no part;
* among the increments of one request, a call that started was also observed and
  has one code (`Balanced`), and this survives joining lists;
* each request adds one increment to each family of its backend, so the families
  count the requests (`total_run`).

The metrics page shows the recorder as it was before the request for it.
-/

import MailGateway.Proofs.App.Dispatch
import MailGateway.Proofs.App.Naming
import MailGateway.Proofs.App.Routing
import MailGateway.Proofs.Metrics.Counts

namespace MailGateway

namespace Metrics

/-- The backend that a family counts. -/
def Family.backend : Family → App.Backend
  | .requests | .requestSeconds => .gateway
  | .started | .handled | .handlingSeconds => .calls

end Metrics

namespace Rest

/-- The paths that requests are counted under. -/
def pathLabels : List String :=
  ["/v1alpha1/email", "/swagger.json", "/metrics", "/swagger-ui", "/swagger-ui/",
    "/swagger-ui/\x7b*rest\x7d", "unmatched"]

theorem pathLabel_mem (path : String) : pathLabel path ∈ pathLabels := by
  unfold pathLabel
  cases Route.ofPath? path with
  | none => decide
  | some route =>
    cases route <;> simp [pathLabels, Route.template, Route.mailPath, Route.browserPath]

end Rest

namespace App

variable {ρ σ : Metrics.Recorder} {r : Http.Request} {rs : List Http.Request}

/-- What a request with this answer contributes to the metrics. -/
inductive Contributes (r : Http.Request) (a : Answer) : List Metrics.Series → Prop where
  | gateway (path : String) (hbackend : a.backend = .gateway) (hpath : Rest.Labelled r.path path) :
    Contributes r a [.requests ⟨r.method, path, a.response.status⟩,
      .requestSeconds ⟨r.method, path, a.response.status⟩]
  | call (labels : Metrics.CallLabels) (c : Grpc.Code) (hbackend : a.backend = .calls)
    (hlabels : Trace.Names r.path labels) (hcode : Grpc.Sends a.response c) :
    Contributes r a [.started labels, .handled labels c, .handlingSeconds labels]

/-- The increments of a request, made from its answer. -/
def contribution (r : Http.Request) (a : Answer) : List Metrics.Series :=
  match a.backend with
  | .gateway =>
    let labels : Metrics.RouteLabels := ⟨r.method, Rest.pathLabel r.path, a.response.status⟩
    [.requests labels, .requestSeconds labels]
  | .calls =>
    let labels := Trace.callLabels r.path
    [.started labels, .handled labels (Grpc.sentCode a.response), .handlingSeconds labels]

/-- The status of an answer does not depend on what was counted. -/
theorem status_answer (ρ σ : Metrics.Recorder) (r : Http.Request) :
    (Rest.answer ρ r).1.status = (Rest.answer σ r).1.status :=
  congrArg (·.status) (Rest.withoutBody_answer ρ σ r).1

/-- A call contributes under the code that its answer sends. -/
theorem contribution_call {c : Grpc.Code} (hr : isCall r = true)
    (h : Grpc.Sends (step ρ r).2.response c) : contribution r (step ρ r).2 = callCounts r c := by
  rw [contribution, backend_step, backend_of_isCall hr]
  simp only [h.code_eq, callCounts]

theorem contribution_gateway (hr : isCall r = false) :
    contribution r (step ρ r).2 = Rest.series r (Rest.answer ρ r).1.status := by
  rw [step_gateway hr]
  rfl

/-- A call is counted under one code, which is the one that its answer sends. -/
theorem counted_call (hr : isCall r = true) : ∃ c, ∀ ρ : Metrics.Recorder,
    (step ρ r).1 = ρ.countAll (callCounts r c) ∧
      contribution r (step ρ r).2 = callCounts r c := by
  cases ha : Grpc.accept r with
  | error f =>
    refine ⟨f.code, fun ρ => ⟨?_, contribution_call hr (sends_step_refused hr ha)⟩⟩
    rw [step_refused hr ha]
  | ok q =>
    refine ⟨.ok, fun ρ => ⟨?_, contribution_call hr (sends_step_served hr ha)⟩⟩
    rw [step_served hr ha]

/-- **A request adds what its answer tells**, and nothing else. -/
theorem step_fst (ρ : Metrics.Recorder) (r : Http.Request) :
    (step ρ r).1 = ρ.countAll (contribution r (step ρ r).2) := by
  cases hr : isCall r with
  | false => rw [contribution_gateway hr, step_gateway hr]
  | true =>
    obtain ⟨c, h⟩ := counted_call hr
    rw [(h ρ).1, (h ρ).2]

/-- What a request contributes does not depend on what was counted. -/
theorem contribution_step (ρ σ : Metrics.Recorder) (r : Http.Request) :
    contribution r (step ρ r).2 = contribution r (step σ r).2 := by
  cases hr : isCall r with
  | false => rw [contribution_gateway hr, contribution_gateway hr, status_answer ρ σ]
  | true =>
    obtain ⟨c, h⟩ := counted_call hr
    rw [(h ρ).2, (h σ).2]

/-- What a request contributes, whatever was counted before it. -/
def counts (r : Http.Request) : List Metrics.Series := contribution r (step .empty r).2

/-- **What is added is what the request contributes.** -/
theorem contributes_counts (ρ : Metrics.Recorder) (r : Http.Request) :
    Contributes r (step ρ r).2 (counts r) := by
  cases hr : isCall r with
  | false =>
    have hbackend : (step ρ r).2.backend = .gateway := by rw [step_gateway hr]
    rw [counts, contribution_step .empty ρ, contribution, hbackend]
    exact .gateway _ hbackend (Rest.labelled_pathLabel r.path)
  | true =>
    obtain ⟨c, hsends⟩ : ∃ c, Grpc.Sends (step ρ r).2.response c := by
      cases ha : Grpc.accept r with
      | error f => exact ⟨f.code, sends_step_refused hr ha⟩
      | ok q => exact ⟨.ok, sends_step_served hr ha⟩
    have hbackend : (step ρ r).2.backend = .calls := by rw [backend_step, backend_of_isCall hr]
    rw [counts, contribution_step .empty ρ, contribution_call hr hsends]
    exact .call _ c hbackend (Trace.names_callLabels r.path) hsends

theorem contribution_eq_counts (ρ : Metrics.Recorder) (r : Http.Request) :
    contribution r (step ρ r).2 = counts r := contribution_step ρ .empty r

theorem increments_step_perm (ρ : Metrics.Recorder) (r : Http.Request) :
    (step ρ r).1.increments.Perm (counts r ++ ρ.increments) := by
  rw [step_fst, contribution_eq_counts]
  exact ρ.increments_countAll_perm (counts r)

/-- Each request adds one increment to each family of its backend. -/
theorem countP_counts (r : Http.Request) (f : Metrics.Family) :
    ((counts r).countP fun s => s.family = f) = if backend r = f.backend then 1 else 0 := by
  rw [counts, contribution, backend_step]
  cases backend r <;> cases f <;> rfl

theorem contributes_run (ρ : Metrics.Recorder) (rs : List Http.Request) :
    List.Forall₂ (fun x => Contributes x.1 x.2) (rs.zip (run ρ rs).2) (rs.map counts) := by
  induction rs generalizing ρ with
  | nil => exact .nil
  | cons r rs ih => exact .cons (contributes_counts ρ r) (ih (step ρ r).1)

/-- **A run adds what its requests contribute**, in some order. -/
theorem increments_run_perm (ρ : Metrics.Recorder) (rs : List Http.Request) :
    (run ρ rs).1.increments.Perm (rs.flatMap counts ++ ρ.increments) := by
  induction rs generalizing ρ with
  | nil => exact .refl _
  | cons r rs ih =>
    -- the later requests count on top of the first one, so they stand in front of it
    have hstep := (increments_step_perm ρ r).append_left (rs.flatMap counts)
    have hswap : (rs.flatMap counts ++ (counts r ++ ρ.increments)).Perm
        ((r :: rs).flatMap counts ++ ρ.increments) := by
      rw [← List.append_assoc, List.flatMap_cons]
      exact List.perm_append_comm.append_right _
    exact (ih (step ρ r).1).trans (hstep.trans hswap)

theorem value_run (ρ : Metrics.Recorder) (rs : List Http.Request) (s : Metrics.Series) :
    (run ρ rs).1.value s = ρ.value s + (rs.flatMap counts).count s := by
  rw [Metrics.Recorder.value, (increments_run_perm ρ rs).count_eq, List.count_append,
    Nat.add_comm]
  rfl

/-- The final counts do not depend on the order of the requests. -/
theorem value_run_perm {ts : List Http.Request} (h : ts.Perm rs) (ρ : Metrics.Recorder)
    (s : Metrics.Series) : (run ρ ts).1.value s = (run ρ rs).1.value s := by
  rw [value_run, value_run, (h.flatMap_right counts).count_eq]

theorem countP_flatMap_counts (rs : List Http.Request) (f : Metrics.Family) :
    ((rs.flatMap counts).countP fun s => s.family = f) =
      rs.countP fun r => backend r = f.backend := by
  induction rs with
  | nil => rfl
  | cons r rs ih =>
    rw [List.flatMap_cons, List.countP_append, countP_counts, ih, List.countP_cons, Nat.add_comm]
    simp only [decide_eq_true_eq]

/-- Each family counts the requests of its backend. -/
theorem total_run (ρ : Metrics.Recorder) (rs : List Http.Request) (f : Metrics.Family) :
    (run ρ rs).1.total f = ρ.total f + rs.countP fun r => backend r = f.backend := by
  rw [Metrics.Recorder.total_eq_countP, Metrics.Recorder.total_eq_countP,
    (increments_run_perm ρ rs).countP_eq, List.countP_append, countP_flatMap_counts, Nat.add_comm]

/-- Every request is of one backend. -/
theorem countP_backend (rs : List Http.Request) :
    (rs.countP fun r => backend r = .gateway) + (rs.countP fun r => backend r = .calls) =
      rs.length := by
  induction rs with
  | nil => rfl
  | cons r rs ih =>
    rw [List.countP_cons, List.countP_cons, List.length_cons, ← ih]
    cases backend r <;> simp <;> omega

/-- A page of metrics shows what was counted before the request for it. -/
theorem content_metrics (hr : isCall r = false) (hpath : r.path = "/metrics")
    (hget : r.method = "GET") :
    (step ρ r).2.response.content = .exposition ρ.exposition := by
  have hroute : Rest.Route.ofPath? "/metrics" = some .metrics := by decide
  have hhead : ("GET" : String) ≠ "HEAD" := by decide
  simp only [step_gateway hr, Rest.answer, Rest.whole, Rest.leave, hpath, hroute, hget,
    if_neg hhead]
  rfl

/-- The families of both backends count all requests. -/
theorem total_run_add (ρ : Metrics.Recorder) (rs : List Http.Request) :
    (run ρ rs).1.total .requests + (run ρ rs).1.total .started =
      ρ.total .requests + ρ.total .started + rs.length := by
  have hrequests : (run ρ rs).1.total .requests =
      ρ.total .requests + rs.countP fun r => backend r = .gateway := total_run ρ rs .requests
  have hstarted : (run ρ rs).1.total .started =
      ρ.total .started + rs.countP fun r => backend r = .calls := total_run ρ rs .started
  rw [hrequests, hstarted, ← countP_backend rs]
  omega

/-- A request of the gateway is timed once. -/
theorem balanced_series (r : Http.Request) (status : Nat) :
    Metrics.Balanced (Rest.series r status) := by
  refine ⟨fun l => ?_, fun l => ?_, fun l => ?_⟩
  · simp [Rest.series, List.count_cons]
  · simp [Rest.series]
  · simp [Rest.series]

/-- A call is observed once, and ends with one code. -/
theorem balanced_callCounts (r : Http.Request) (c : Grpc.Code) :
    Metrics.Balanced (callCounts r c) := by
  have hone : (Grpc.Code.all.map fun d => if c = d then 1 else 0).sum = 1 := by
    cases c <;> rfl
  refine ⟨fun l => ?_, fun l => ?_, fun l => ?_⟩
  · simp [callCounts]
  · simp [callCounts, List.count_cons]
  · by_cases hl : Trace.callLabels r.path = l
    · simpa [callCounts, List.count_cons, hl] using hone.symm
    · simp [callCounts, hl]

/-- A request contributes to one backend's families only. -/
theorem counts_cases (r : Http.Request) :
    (∃ status, counts r = Rest.series r status) ∨ ∃ c, counts r = callCounts r c := by
  cases hr : isCall r with
  | false => exact .inl ⟨_, contribution_gateway hr⟩
  | true =>
    obtain ⟨c, h⟩ := counted_call hr
    exact .inr ⟨c, (h .empty).2⟩

theorem balanced_counts (rs : List Http.Request) : Metrics.Balanced (rs.flatMap counts) := by
  induction rs with
  | nil => exact .nil
  | cons r rs ih =>
    refine Metrics.Balanced.append ?_ ih
    obtain ⟨status, h⟩ | ⟨c, h⟩ := counts_cases r
    · rw [h]
      exact balanced_series r status
    · rw [h]
      exact balanced_callCounts r c

/-- No path outside the list of labels is counted. -/
theorem path_mem_of_counted {l : Metrics.RouteLabels}
    (h : .requests l ∈ rs.flatMap counts) : l.path ∈ Rest.pathLabels := by
  obtain ⟨r, -, hmem⟩ := List.mem_flatMap.1 h
  obtain ⟨status, hr⟩ | ⟨c, hr⟩ := counts_cases r
  · rw [hr] at hmem
    have hl : l = ⟨r.method, Rest.pathLabel r.path, status⟩ := by simpa [Rest.series] using hmem
    rw [hl]
    exact Rest.pathLabel_mem r.path
  · rw [hr] at hmem
    simp [callCounts] at hmem

/-- **Conservation.**  For a run of any length from any recorder:

* each answer comes from the backend of its request, and what the requests contribute is what
  is added;
* for each label the gains of times and requests agree, and so do those of starts, ends
  and codes;
* the gains of a family are the requests of its backend, so all requests are counted;
* another order of the requests gives the same values;
* only listed paths gain;
* a page of metrics shows what was counted before the request for it. -/
theorem run_conserves (ρ : Metrics.Recorder) (rs : List Http.Request) :
    let σ := (run ρ rs).1
    let answers := (run ρ rs).2
    let gain := fun s => σ.value s - ρ.value s
    (answers.map (·.backend) = rs.map backend ∧
      ∃ added : List (List Metrics.Series),
        List.Forall₂ (fun x => Contributes x.1 x.2) (rs.zip answers) added ∧
        ∀ s, σ.value s = ρ.value s + added.flatten.count s) ∧
    (∀ l, gain (.requests l) = gain (.requestSeconds l)) ∧
    (∀ l, gain (.started l) = gain (.handlingSeconds l) ∧
      gain (.started l) = (Grpc.Code.all.map fun c => gain (.handled l c)).sum) ∧
    (∀ f, σ.total f = ρ.total f + rs.countP fun r => backend r = f.backend) ∧
    σ.total .requests + σ.total .started =
      ρ.total .requests + ρ.total .started + rs.length ∧
    (∀ ts, ts.Perm rs → ∀ s, (run ρ ts).1.value s = σ.value s) ∧
    (∀ l, gain (.requests l) ≠ 0 → l.path ∈ Rest.pathLabels) ∧
    (∀ before r after, rs = before ++ r :: after → isCall r = false → r.path = "/metrics" →
      r.method = "GET" → answers[before.length]?.map (·.response.content) =
        some (.exposition (run ρ before).1.exposition)) := by
  intro σ answers gain
  have hvalue : ∀ s, σ.value s = ρ.value s + (rs.flatMap counts).count s := value_run ρ rs
  have hgain : ∀ s, gain s = (rs.flatMap counts).count s := by
    intro s
    show σ.value s - ρ.value s = _
    rw [hvalue, Nat.add_sub_cancel_left]
  have hbalanced := balanced_counts rs
  refine ⟨⟨backends_run ρ rs, rs.map counts, contributes_run ρ rs, ?_⟩, fun l => ?_,
    fun l => ⟨?_, ?_⟩, total_run ρ rs, total_run_add ρ rs, fun ts h s => value_run_perm h ρ s,
    fun l h => ?_, ?_⟩
  · rw [← List.flatMap_def]
    exact hvalue
  · rw [hgain, hgain]
    exact hbalanced.timed l
  · rw [hgain, hgain]
    exact hbalanced.observed l
  · simp only [hgain]
    exact hbalanced.coded l
  · rw [hgain] at h
    exact path_mem_of_counted (List.count_pos_iff.1 (Nat.pos_of_ne_zero h))
  · rintro before r after hrs hr hpath hget
    have hat : answers[before.length]? = some (step (run ρ before).1 r).2 := by
      show (run ρ rs).2[before.length]? = _
      rw [hrs, answer_run]
    rw [hat, Option.map_some, content_metrics hr hpath hget]

/-- A call of a method that does not exist and a post without a type are counted, and shown
by the page behind them. -/
theorem run_conserves_failures :
    let missing : Http.Request :=
      { method := "POST", target := "/email.v1alpha1.EmailService/Missing", version := .http2
        headers := [("content-type", Utf8.ascii "application/grpc")], pieces := [] }
    let untyped : Http.Request :=
      { method := "POST", target := "/v1alpha1/email", version := .http11
        headers := [], pieces := [Utf8.ascii "\x7b\x7d"] }
    let scrape : Http.Request :=
      { method := "GET", target := "/metrics", version := .http11, headers := [], pieces := [] }
    let σ := (run .empty [missing, untyped, scrape]).1
    σ.total .requests + σ.total .started = 3 ∧
      (run .empty [missing, untyped, scrape]).2[2]?.map (·.response.content) =
        some (.exposition (run .empty [missing, untyped]).1.exposition) := by
  intro missing untyped scrape σ
  have h := run_conserves .empty [missing, untyped, scrape]
  obtain ⟨-, -, -, -, htotal, -, -, hscrape⟩ := h
  refine ⟨htotal, hscrape [missing, untyped] scrape [] rfl ?_ ?_ rfl⟩
  · decide
  · decide

end App
end MailGateway
