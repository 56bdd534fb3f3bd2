/-
# Calls join the trace of their caller

The exported spans of a call depend on nothing but its path and what its caller says of the
trace, however the call ends (`spans_of_isCall`).  `Joins` says how: one span below the
caller's, or none where the caller does not record the trace, or one span without a parent
where the caller names none.

What the caller says is its first `traceparent`; later ones are of no account, for the spans
and for all the rest (`call_joins_trace`).
-/

import MailGateway.Proofs.App.Dispatch
import MailGateway.Proofs.App.Headers
import MailGateway.Proofs.Text.Utf8
import MailGateway.Proofs.Trace.Parent

namespace MailGateway

namespace Http.Headers

variable {hs ts : Headers} {name other : String}

theorem visible_ofChars {cs : List Char} (h : ∀ c ∈ cs, 0x20 ≤ c.toNat ∧ c.toNat < 0x7F) :
    (∀ b ∈ Utf8.ofChars cs, (0x20 ≤ b ∧ b < 0x7F) ∨ b = 0x09) ∧
      cs = (Utf8.ofChars cs).map charOf := by
  induction cs with
  | nil => exact ⟨fun b hb => absurd hb List.not_mem_nil, rfl⟩
  | cons c cs ih =>
    obtain ⟨hle, hlt⟩ := h c List.mem_cons_self
    obtain ⟨hvisible, hmap⟩ := ih fun d hd => h d (List.mem_cons_of_mem c hd)
    have ha : Utf8.Ascii c c.toNat.toUInt8 := Utf8.ascii_toUInt8 (by omega)
    rw [ha.ofChars_cons]
    refine ⟨?_, ?_⟩
    · rintro b (_ | ⟨_, hb⟩)
      · rw [UInt8.le_iff_toNat_le, UInt8.lt_iff_toNat_lt, ha.toNat_eq]
        exact .inl ⟨hle, hlt⟩
      · exact hvisible b hb
    · rw [List.map_cons, ← hmap, charOf, ha.toNat_eq, Char.ofNat_toNat]

/-- A text of visible characters is the text of its bytes. -/
theorem valueText?_encode {text : String}
    (h : ∀ c ∈ text.toList, 0x20 ≤ c.toNat ∧ c.toNat < 0x7F) :
    valueText? (Utf8.encode text) = some text := by
  rw [valueText?_eq_some_iff, Utf8.encode_eq_ofChars]
  exact visible_ofChars h

/-- Fields of another name may be left out. -/
theorem first?_filter (h : name ≠ other) (hs : Headers) :
    first? (hs.filter fun field => field.1.toLower ≠ other) name = first? hs name := by
  induction hs with
  | nil => rfl
  | cons field hs ih =>
    rw [first?_cons]
    by_cases hname : field.1.toLower = other
    · rw [List.filter_cons_of_neg (by simp [hname]), ih, if_neg (by rw [hname]; exact Ne.symm h)]
    · rw [List.filter_cons_of_pos (by simp [hname]), first?_cons, ih]

end Http.Headers

namespace App

variable {ρ : Metrics.Recorder} {r : Http.Request}

/-- The caller names no parent: it sends no readable `traceparent`, or one without four parts
or with an id that is none. -/
def Orphaned (headers : Http.Headers) : Prop :=
  headers.text? "traceparent" = none ∨
    ∃ text, headers.text? "traceparent" = some text ∧ Trace.NamesNone text

/-- The exported spans of a call, by what its caller says of the trace. -/
structure Joins (headers : Http.Headers) (spans : List Trace.Exported) : Prop where
  recorded {trace span : String} (ht : Trace.IsId 32 trace) (hs : Trace.IsId 16 span)
    (h : headers.first? "traceparent" = some (Utf8.ascii (Trace.parentText trace span true))) :
    ∃ exported parent, spans = [exported] ∧ exported.parent = some parent ∧
      Numeral.hex 32 parent.trace = trace ∧ Numeral.hex 16 parent.span = span
  unrecorded {trace span : String} (ht : Trace.IsId 32 trace) (hs : Trace.IsId 16 span)
    (h : headers.first? "traceparent" = some (Utf8.ascii (Trace.parentText trace span false))) :
    spans = []
  orphaned (h : Orphaned headers) : ∃ exported, spans = [exported] ∧ exported.parent = none

/-- The headers differ at most in what stands behind the first `traceparent`. -/
structure SameButLaterParents (hs ts : Http.Headers) : Prop where
  first : hs.first? "traceparent" = ts.first? "traceparent"
  others : (hs.filter fun field => field.1.toLower ≠ "traceparent") =
    ts.filter fun field => field.1.toLower ≠ "traceparent"

theorem spans_of_isCall (hr : isCall r = true) : (step ρ r).2.spans = callSpans r .ok := by
  cases ha : Grpc.accept r with
  | ok q => rw [step_served hr ha]
  | error f => rw [step_refused hr ha]

theorem text?_parentText {trace span : String} {sampled : Bool} {headers : Http.Headers}
    (ht : Trace.IsId 32 trace) (hs : Trace.IsId 16 span)
    (h : headers.first? "traceparent" = some (Utf8.ascii (Trace.parentText trace span sampled))) :
    headers.text? "traceparent" = some (Trace.parentText trace span sampled) := by
  rw [Http.Headers.text?, h]
  exact Http.Headers.valueText?_encode (Trace.visible_parentText ht hs sampled)

theorem exported_orphan (span : Trace.Span) (h : span.parent = none) :
    ∃ exported, span.exported = [exported] ∧ exported.parent = none := by
  rw [Trace.Span.exported, h]
  exact ⟨_, rfl, rfl⟩

theorem exported_recorded (span : Trace.Span) {t s : Nat} {state : String}
    (h : span.parent = some ⟨t, s, true, state⟩) :
    ∃ exported, span.exported = [exported] ∧ exported.parent = some ⟨t, s, true, state⟩ := by
  rw [Trace.Span.exported, h]
  exact ⟨_, rfl, rfl⟩

theorem exported_unrecorded (span : Trace.Span) {t s : Nat} {state : String}
    (h : span.parent = some ⟨t, s, false, state⟩) : span.exported = [] := by
  rw [Trace.Span.exported, h]

theorem ofHeaders?_parentText {trace span : String} {sampled : Bool} {headers : Http.Headers}
    (ht : Trace.IsId 32 trace) (hs : Trace.IsId 16 span)
    (h : headers.first? "traceparent" = some (Utf8.ascii (Trace.parentText trace span sampled))) :
    ∃ t s state, Trace.Context.ofHeaders? headers = some ⟨t, s, sampled, state⟩ ∧
      Numeral.hex 32 t = trace ∧ Numeral.hex 16 s = span := by
  obtain ⟨t, s, hread, htrace, hspan⟩ := Trace.readParent?_parentText ht hs sampled
  refine ⟨t, s, ((headers.text? "tracestate").map Trace.readState).getD "", ?_, htrace, hspan⟩
  rw [Trace.Context.ofHeaders?, text?_parentText ht hs h]
  simp only [Option.bind_eq_bind, Option.bind_some, hread]

theorem ofHeaders?_orphaned {headers : Http.Headers} (h : Orphaned headers) :
    Trace.Context.ofHeaders? headers = none := by
  rw [Trace.Context.ofHeaders?]
  rcases h with hnone | ⟨text, htext, hnames⟩
  · rw [hnone]
    rfl
  · rw [htext]
    simp only [Option.bind_eq_bind, Option.bind_some, Trace.readParent?_eq_none hnames,
      Option.bind_none]

theorem joins_callSpans (r : Http.Request) (c : Grpc.Code) :
    Joins r.headers (callSpans r c) where
  recorded ht hs h := by
    obtain ⟨t, s, state, hparent, htrace, hspan⟩ := ofHeaders?_parentText ht hs h
    obtain ⟨exported, hspans, hexported⟩ :=
      exported_recorded ⟨Trace.callLabels r.path, _, some c⟩ hparent
    exact ⟨exported, _, hspans, hexported, htrace, hspan⟩
  unrecorded ht hs h := by
    obtain ⟨t, s, state, hparent, -, -⟩ := ofHeaders?_parentText ht hs h
    exact exported_unrecorded ⟨Trace.callLabels r.path, _, some c⟩ hparent
  orphaned h := exported_orphan ⟨Trace.callLabels r.path, _, some c⟩ (ofHeaders?_orphaned h)

theorem AgreeButSpans.eq {a b : Answer} (h : AgreeButSpans a b) (hs : a.spans = b.spans) :
    a = b := by
  obtain ⟨backend, response, events, spans⟩ := a
  obtain ⟨rfl, rfl, rfl⟩ := h
  obtain rfl := hs
  rfl

/-- What stands behind the first `traceparent` decides nothing. -/
theorem step_later_parents {headers : Http.Headers} (h : SameButLaterParents r.headers headers) :
    step ρ { r with headers } = step ρ r := by
  have hfirst {name : String} (hname : name ≠ "traceparent") :
      headers.first? name = r.headers.first? name := by
    rw [← Http.Headers.first?_filter hname, ← h.others, Http.Headers.first?_filter hname]
  have halike : Alike { r with headers } r :=
    ⟨rfl, rfl, rfl, rfl, hfirst (by decide), hfirst (by decide)⟩
  have htrace : SameTrace { r with headers } r := ⟨h.first.symm, hfirst (by decide)⟩
  obtain ⟨hcounted, hagree, hspans⟩ := step_alike halike ρ
  exact Prod.ext hcounted (hagree.eq (hspans htrace))

/-- **Every call joins the trace of its caller**, whatever becomes of it; other requests export
no span.  Later values of `traceparent` are of no account. -/
theorem call_joins_trace (ρ : Metrics.Recorder) (r : Http.Request) :
    (isCall r = true → Joins r.headers (step ρ r).2.spans) ∧
      (isCall r = false → (step ρ r).2.spans = []) ∧
      ∀ headers, SameButLaterParents r.headers headers →
        step ρ { r with headers } = step ρ r := by
  refine ⟨fun hr => ?_, fun hr => ?_, fun headers h => ?_⟩
  · rw [spans_of_isCall hr]
    exact joins_callSpans r .ok
  · rw [step_gateway hr]
  · exact step_later_parents h

/-- A call of a method that does not exist, with two values of `traceparent`: its span is below
the one that the first value names, zeros in front included. -/
theorem call_joins_trace_repeated :
    let trace := "0000f3577b34da6a3ce929d0e0e47360"
    let span := "00f067aa0ba902b7"
    let r : Http.Request :=
      { method := "POST", target := "/email.v1alpha1.EmailService/Missing", version := .http2
        headers := [("content-type", Utf8.ascii "application/grpc"),
          ("Traceparent", Utf8.ascii (Trace.parentText trace span true)),
          ("traceparent", Utf8.ascii "00-0-0-00")]
        pieces := [] }
    isCall r = true ∧ ∃ exported parent, (step .empty r).2.spans = [exported] ∧
      exported.parent = some parent ∧ Numeral.hex 32 parent.trace = trace ∧
      Numeral.hex 16 parent.span = span := by
  intro trace span r
  have hcall : isCall r = true := by decide +kernel
  obtain ⟨hjoins, -, -⟩ := call_joins_trace .empty r
  exact ⟨hcall, (hjoins hcall).recorded (by decide +kernel) (by decide +kernel) (by decide +kernel)⟩

end App
end MailGateway
