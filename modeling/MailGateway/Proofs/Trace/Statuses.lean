/-
# What a status is reported as

A status is sent as a numeral, but its value may be any bytes.  `Code.Denotes` says, without
a reader, which code a value is to be reported as:

| value | code |
| --- | --- |
| a numeral of a code's number, 0 to 16, with a sign and zeros in front at will | this code |
| any other value | `unknown` |

The reader does so for the numerals of 32 bits (`Code.denotes_ofValue_iff`).  Every other value,
be it a longer numeral, another text or no text, it takes as it takes a missing status, for `ok`
(`Code.ofValue_of_not_isReadable`).  Both observers of a call have their code from this reader, so
the log and the span say that a call whose status they could not read went well
(`status_reported_iff`).
-/

import MailGateway.Proofs.App.Traces
import MailGateway.Proofs.Text.Numerals
import MailGateway.Proofs.Trace.Observations

namespace MailGateway

namespace Http.Headers

variable {value : Bytes} {text : String}

theorem ofChars_map_charOf (h : ∀ b ∈ value, b < 0x80) :
    Utf8.ofChars (value.map charOf) = value := by
  induction value with
  | nil => rfl
  | cons b bs ih =>
    have hb : (charOf b).toNat < 0x80 := by
      rw [toNat_charOf]
      exact UInt8.lt_iff_toNat_lt.1 (h b List.mem_cons_self)
    have hbyte : Utf8.Ascii (charOf b) b := ⟨hb, by rw [toNat_charOf]; exact UInt8.ofNat_toNat.symm⟩
    rw [List.map_cons, hbyte.ofChars_cons, ih fun c hc => h c (List.mem_cons_of_mem b hc)]

/-- A value with a text is the bytes of the text. -/
theorem encode_of_valueText? (h : valueText? value = some text) : value = Utf8.encode text := by
  obtain ⟨hvisible, htext⟩ := valueText?_eq_some_iff.1 h
  rw [Utf8.encode_eq_ofChars, htext, ofChars_map_charOf]
  intro b hb
  rcases hvisible b hb with ⟨-, hlt⟩ | rfl
  · exact UInt8.lt_trans hlt (by decide)
  · decide

end Http.Headers

namespace Grpc.Code

variable {value : Bytes} {z w : Int} {c : Code}

/-- The value is a decimal numeral, perhaps with a sign, and stands for this number. -/
def IsNumeral (value : Bytes) (z : Int) : Prop :=
  ∃ text : String, value = Utf8.encode text ∧ Numeral.Spells text.toList z

/-- The code that a value is to be reported as. -/
inductive Denotes (value : Bytes) : Code → Prop where
  | numbered {c : Code} (h : IsNumeral value c.number) : Denotes value c
  | other (h : ∀ c : Code, ¬IsNumeral value c.number) : Denotes value .unknown

/-- The value is a numeral of 32 bits. -/
def IsReadable (value : Bytes) : Prop := ∃ z, IsNumeral value z ∧ -2 ^ 31 ≤ z ∧ z < 2 ^ 31

/-- **The reader of values reads numerals.** -/
theorem isNumeral_iff : IsNumeral value z ↔
    ((Http.Headers.valueText? value).bind fun text => Numeral.signed? text.toList) = some z := by
  constructor
  · rintro ⟨text, rfl, h⟩
    rw [Http.Headers.valueText?_encode h.visible]
    exact Numeral.signed?_eq_some_iff.2 h
  · intro h
    obtain ⟨text, htext, hread⟩ := Option.bind_eq_some_iff.1 h
    exact ⟨text, Http.Headers.encode_of_valueText? htext, Numeral.signed?_eq_some_iff.1 hread⟩

theorem IsNumeral.unique (hz : IsNumeral value z) (hw : IsNumeral value w) : z = w :=
  Option.some.inj ((isNumeral_iff.1 hz).symm.trans (isNumeral_iff.1 hw))

theorem ofValue_of_isNumeral (h : IsNumeral value z) (hle : -2 ^ 31 ≤ z) (hlt : z < 2 ^ 31) :
    ofValue value = ofNumber z := by
  have hfilter : (some z).filter (fun n => -2 ^ 31 ≤ n ∧ n < 2 ^ 31) = some z :=
    Option.filter_some_pos (decide_eq_true ⟨hle, hlt⟩)
  simp only [ofValue, isNumeral_iff.1 h, hfilter, Option.map_some, Option.getD_some]

/-- **What is no numeral of 32 bits is reported as `ok`.** -/
theorem ofValue_of_not_isReadable (h : ¬IsReadable value) : ofValue value = .ok := by
  have hnone : ((Http.Headers.valueText? value).bind fun text =>
      Numeral.signed? text.toList).filter (fun n => -2 ^ 31 ≤ n ∧ n < 2 ^ 31) = none := by
    refine Option.filter_eq_none_iff.2 fun n hn hrange => h ⟨n, isNumeral_iff.2 hn, ?_⟩
    exact of_decide_eq_true hrange
  simp only [ofValue, hnone, Option.map_none, Option.getD_none]

/-- A number that no code has is that of an unknown one. -/
theorem ofNumber_eq_unknown (h : ∀ c : Code, z ≠ c.number) : ofNumber z = .unknown := by
  have hnone : all.find? (fun c => (c.number : Int) = z) = none := by
    refine List.find?_eq_none.2 fun c _ hc => h c ?_
    exact (of_decide_eq_true hc).symm
  rw [ofNumber, hnone]
  rfl

theorem denotes_ofNumber (h : IsNumeral value z) : Denotes value (ofNumber z) := by
  by_cases hcode : ∃ c : Code, z = c.number
  · obtain ⟨c, rfl⟩ := hcode
    rw [ofNumber_number]
    exact .numbered h
  · have hnone : ∀ c : Code, z ≠ c.number := not_exists.1 hcode
    rw [ofNumber_eq_unknown hnone]
    exact .other fun c hc => hnone c (h.unique hc)

/-- A value that denotes `ok` is a numeral of zero. -/
theorem denotes_ok_iff : Denotes value .ok ↔ IsNumeral value 0 :=
  ⟨fun h => by cases h with | numbered h => exact h, fun h => .numbered h⟩

/-- **A value is read as the code that it denotes exactly if it is a numeral of 32 bits.** -/
theorem denotes_ofValue_iff : Denotes value (ofValue value) ↔ IsReadable value := by
  constructor
  · intro h
    by_contra hnot
    rw [ofValue_of_not_isReadable hnot, denotes_ok_iff] at h
    exact hnot ⟨0, h, by decide, by decide⟩
  · rintro ⟨z, hz, hle, hlt⟩
    rw [ofValue_of_isNumeral hz hle hlt]
    exact denotes_ofNumber hz

end Grpc.Code

namespace Trace

open Grpc.Code (Denotes IsNumeral IsReadable)

/-- The first status that an observer finds. -/
def Observation.status? : Observation → Option Bytes
  | .head headers _ => headers.first? Grpc.Code.headerName
  | .ending trailers _ => trailers.bind (·.first? Grpc.Code.headerName)

/-- An observation is reported once, under this code, and leaves the code on the span. -/
structure ReportedAs (s : Span) (o : Observation) (code : Grpc.Code) : Prop where
  logged : (s.observe o).2 = [.finished code (some o.latency.toMillis)]
  recorded : (s.observe o).1 = { s with code := some code }
  exported : ∀ e ∈ (s.observe o).1.exported, e.attributes.lookup "grpc.code" = some code.name

theorem Observation.code?_of_status? {o : Observation} {value : Bytes}
    (h : o.status? = some value) : o.code? = some (Grpc.Code.ofValue value) := by
  cases o with
  | head headers after =>
    rw [status?] at h
    rw [code?, h]
    rfl
  | ending trailers after =>
    rw [status?] at h
    rw [code?, h]
    rfl

/-- The export of a span names its code. -/
theorem lookup_exported {s : Span} {code : Grpc.Code} (h : s.code = some code) :
    ∀ e ∈ s.exported, e.attributes.lookup "grpc.code" = some code.name := by
  intro e he
  unfold Span.exported at he
  split at he
  · exact absurd he List.not_mem_nil
  · obtain rfl := List.mem_singleton.1 he
    rw [h]
    rfl

theorem reportedAs_of_code? {s : Span} {o : Observation} {code : Grpc.Code}
    (h : o.code? = some code) : ReportedAs s o code := by
  have hobserve : s.observe o =
      ({ s with code := some code }, [.finished code (some o.latency.toMillis)]) := by
    rw [Span.observe_eq, Observation.report?, h]
    rfl
  refine ⟨by rw [hobserve], by rw [hobserve], ?_⟩
  rw [hobserve]
  exact lookup_exported rfl

/-- **A status that is present is reported as what it denotes exactly if it can be read**, which
are the numerals of 32 bits.  Any other is reported as `ok`, which it does not denote. -/
theorem status_reported_iff (s : Span) {o : Observation} {value : Bytes}
    (h : o.status? = some value) :
    ∃ code, ReportedAs s o code ∧ (Denotes value code ↔ IsReadable value) ∧
      (IsReadable value → code = .ok → IsNumeral value 0) ∧
      (¬IsReadable value → code = .ok ∧ ¬IsNumeral value 0) := by
  refine ⟨_, reportedAs_of_code? (Observation.code?_of_status? h),
    Grpc.Code.denotes_ofValue_iff, fun hread hok => ?_, fun hnot => ⟨?_, fun hzero => ?_⟩⟩
  · have hdenotes := Grpc.Code.denotes_ofValue_iff.2 hread
    rw [hok] at hdenotes
    exact Grpc.Code.denotes_ok_iff.1 hdenotes
  · exact Grpc.Code.ofValue_of_not_isReadable hnot
  · exact hnot ⟨0, hzero, by decide, by decide⟩

/-- The largest numeral of 32 bits is the number of no code, and is reported as it denotes. -/
theorem status_reported_iff_largest :
    (Observation.ending (some [("grpc-status", Utf8.ascii "2147483647")]) ⟨0, 0⟩).status? =
        some (Utf8.ascii "2147483647") ∧
      ∃ code, ReportedAs (Span.begin "/s/m" [])
          (.ending (some [("grpc-status", Utf8.ascii "2147483647")]) ⟨0, 0⟩) code ∧
        Denotes (Utf8.ascii "2147483647") code := by
  have hnumeral : IsNumeral (Utf8.ascii "2147483647") 2147483647 :=
    Grpc.Code.isNumeral_iff.2 (by decide)
  have hfirst : (Observation.ending (some [("grpc-status", Utf8.ascii "2147483647")])
      ⟨0, 0⟩).status? = some (Utf8.ascii "2147483647") := by decide +kernel
  obtain ⟨code, hreported, hdenotes, -, -⟩ := status_reported_iff (Span.begin "/s/m" []) hfirst
  exact ⟨hfirst, code, hreported, hdenotes.2 ⟨_, hnumeral, by decide, by decide⟩⟩

/-- The numeral after it is the number of no code either, and is reported as `ok`. -/
theorem overlong_status_reported_ok :
    (Observation.ending (some [("grpc-status", Utf8.ascii "2147483648")]) ⟨0, 0⟩).status? =
        some (Utf8.ascii "2147483648") ∧
      ReportedAs (Span.begin "/s/m" [])
        (.ending (some [("grpc-status", Utf8.ascii "2147483648")]) ⟨0, 0⟩) .ok ∧
      Denotes (Utf8.ascii "2147483648") .unknown ∧ ¬IsNumeral (Utf8.ascii "2147483648") 0 := by
  have hnumeral : IsNumeral (Utf8.ascii "2147483648") 2147483648 :=
    Grpc.Code.isNumeral_iff.2 (by decide)
  refine ⟨by decide +kernel, reportedAs_of_code? (by decide +kernel), .other fun c hc => ?_,
    fun hzero => ?_⟩
  · have hnumber := hnumeral.unique hc
    cases c <;> exact absurd hnumber (by decide)
  · exact absurd (hnumeral.unique hzero) (by decide)

end Trace
end MailGateway
