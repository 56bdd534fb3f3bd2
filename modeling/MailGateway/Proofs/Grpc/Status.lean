/-
# The status that a caller gets

The status of a call is sent as a numeral, among the trailers of an answer that has
some and among the headers of every other.  `Sends` says so without the lenient reader
`Code.ofHeaders`, which takes a missing status for `ok`; where a status is sent, the
reader finds it (`Code.ofHeaders_of_first?`), so an answer sends at most one code
(`Sends.code_eq`).

A served call sends `ok` in the trailers (`sends_success`), a failed one its code among
the headers (`Failure.sends_response`), and that code is never `ok`
(`Failure.code_ne_ok`).
-/

import MailGateway.Grpc.Call

namespace MailGateway
namespace Grpc

/-- The numeral of a code, as it is sent. -/
def Code.numeral (c : Code) : Bytes := Utf8.ascii (toString c.number)

/-- The fields that carry the status of an answer: the trailers, or the headers of an
answer without trailers. -/
def statusFields (r : Http.Response) : Http.Headers := r.trailers.getD r.headers

/-- The answer tells the caller this code. -/
def Sends (r : Http.Response) (c : Code) : Prop :=
  (statusFields r).first? Code.headerName = some c.numeral

/-- The code that an answer tells the caller. -/
def sentCode (r : Http.Response) : Code := Code.ofHeaders (statusFields r)

/-- **Where a status is sent, it is read.** -/
theorem Code.ofHeaders_of_first? {hs : Http.Headers} {c : Code}
    (h : hs.first? Code.headerName = some c.numeral) : Code.ofHeaders hs = c := by
  have hread : (Http.Headers.valueText? c.numeral).bind (fun text =>
      (Numeral.signed? text.toList).bind fun n =>
        if -2 ^ 31 ≤ n ∧ n < 2 ^ 31 then some n else none) = some (c.number : Int) := by
    cases c <;> decide
  have hnumeral : Code.numeral? hs = some (c.number : Int) := by
    rw [← hread, Code.numeral?, Http.Headers.text?, h]
    rfl
  rw [Code.ofHeaders, hnumeral]
  exact Code.ofNumber_number c

theorem Code.ofHeaders_of_first?_eq_none {hs : Http.Headers}
    (h : hs.first? Code.headerName = none) : Code.ofHeaders hs = .ok := by
  simp [Code.ofHeaders, Code.numeral?, Http.Headers.text?, h]

/-- The code that the value of a status stands for: `ok` where it is no numeral of 32 bits. -/
def Code.ofValue (value : Bytes) : Code :=
  let numeral? := (Http.Headers.valueText? value).bind fun text => Numeral.signed? text.toList
  ((numeral?.filter fun n => -2 ^ 31 ≤ n ∧ n < 2 ^ 31).map ofNumber).getD .ok

/-- **The first status decides**, whatever else the header map has; a missing one is `ok`. -/
theorem Code.ofHeaders_eq (hs : Http.Headers) :
    Code.ofHeaders hs = ((hs.first? Code.headerName).map Code.ofValue).getD .ok := by
  cases hfirst : hs.first? Code.headerName with
  | none => exact Code.ofHeaders_of_first?_eq_none hfirst
  | some value =>
    simp only [Code.ofHeaders, Code.numeral?, Http.Headers.text?, hfirst, Code.ofValue,
      Option.bind_eq_bind, Option.bind_some, Option.map_some, Option.getD_some]
    cases Http.Headers.valueText? value with
    | none => rfl
    | some text =>
      simp only [Option.bind_some]
      cases Numeral.signed? text.toList with
      | none => rfl
      | some n => simp only [Option.bind_some, Option.filter_some, decide_eq_true_eq]

/-- An answer sends at most one code. -/
theorem Sends.code_eq {r : Http.Response} {c : Code} (h : Sends r c) : sentCode r = c :=
  Code.ofHeaders_of_first? h

theorem Failure.code_ne_ok (f : Failure) : f.code ≠ .ok := by
  cases f with
  | badFrame fault => cases fault <;> simp [Failure.code]
  | _ => simp [Failure.code]

theorem first?_typeField (hs : Http.Headers) :
    Http.Headers.first? (typeField :: hs) Code.headerName = hs.first? Code.headerName := by
  rw [Http.Headers.first?_cons, if_neg (by decide +kernel)]

theorem first?_statusField (c : Code) (hs : Http.Headers) :
    Http.Headers.first? (statusField c :: hs) Code.headerName = some c.numeral := by
  have hname : Code.headerName.toLower = Code.headerName := by decide +kernel
  rw [Http.Headers.first?_cons]
  exact if_pos hname

/-- A failed call tells its code among the headers. -/
theorem Failure.first?_response (f : Failure) :
    f.response.headers.first? Code.headerName = some f.code.numeral := by
  change Http.Headers.first? (typeField :: statusField f.code :: (_ ++ _)) _ = _
  rw [first?_typeField, first?_statusField]

theorem Failure.sends_response (f : Failure) : Sends f.response f.code := f.first?_response

theorem Failure.trailers_response (f : Failure) : f.response.trailers = none := rfl

/-- A served call has no status among its headers. -/
theorem first?_success (reply : Mail.Reply) :
    (success reply).headers.first? Code.headerName = none := by
  rw [success, first?_typeField]
  rfl

theorem sends_success (reply : Mail.Reply) : Sends (success reply) .ok :=
  first?_statusField .ok []

end Grpc
end MailGateway
