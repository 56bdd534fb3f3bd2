/-
# Values that nobody asked for

A member with an unknown name may hold any JSON value.  `skipValue` checks its form
and finds its end without building it: the brackets still open are a list, so
nesting has no limit, and each step reads at least one byte.

Texts are checked by `skipString`, numbers by `skipNumber`; no number is out of
range here, since none is evaluated.
-/

import MailGateway.Json.Number
import MailGateway.Json.Quote

namespace MailGateway
namespace Json

/-- Blanks between the tokens. -/
def isBlank (b : UInt8) : Bool := b = 0x20 || b = 0x0A || b = 0x09 || b = 0x0D

/-- The bytes from the next token on. -/
def skipBlank (bs : Bytes) : Bytes := bs.dropWhile isBlank

theorem length_dropWhile_le (p : UInt8 → Bool) (bs : Bytes) :
    (bs.dropWhile p).length ≤ bs.length :=
  (List.dropWhile_sublist p).length_le

theorem skipBlank_length (bs : Bytes) : (skipBlank bs).length ≤ bs.length :=
  length_dropWhile_le _ bs

/-- Reads the rest of one of the three words. -/
def readWord : (word bs : Bytes) → Except Fault Bytes
  | [], bs => .ok bs
  | _ :: _, [] => .error ⟨.endInValue, [], .whole⟩
  | w :: word, b :: r => if b = w then readWord word r else .error ⟨.identifierExpected, r, .whole⟩

theorem readWord_length {word bs r : Bytes} (h : readWord word bs = .ok r) :
    r.length ≤ bs.length := by
  induction word generalizing bs with
  | nil => simp only [readWord, Except.ok.injEq] at h; simp [h]
  | cons w word ih =>
    cases bs with
    | nil => simp [readWord] at h
    | cons b t =>
      simp only [readWord] at h
      split at h
      · have := ih h
        simp only [List.length_cons]
        omega
      · simp at h

/-- The part of a number behind `e`. -/
def skipExponent (bs : Bytes) : Except Fault Bytes :=
  let bs :=
    match bs with
    | 0x2B :: r | 0x2D :: r => r
    | _ => bs
  match bs with
  | [] => .error ⟨.invalidNumber, [], .whole⟩
  | b :: r =>
    if isDigit b then .ok (r.dropWhile isDigit) else .error ⟨.invalidNumber, r, .whole⟩

/-- The part of a number behind its whole part. -/
def skipNumberTail (bs : Bytes) : Except Fault Bytes :=
  match bs with
  | 0x2E :: r =>
    let rest := r.dropWhile isDigit
    if rest.length = r.length then .error (.ahead .invalidNumber rest)
    else
      match rest with
      | 0x65 :: r | 0x45 :: r => skipExponent r
      | _ => .ok rest
  | 0x65 :: r | 0x45 :: r => skipExponent r
  | _ => .ok bs

/-- A number behind its sign. -/
def skipNumber (bs : Bytes) : Except Fault Bytes :=
  match bs with
  | [] => .error ⟨.invalidNumber, [], .whole⟩
  | b :: r =>
    if b = 0x30 then
      match r with
      | d :: _ => if isDigit d then .error (.ahead .invalidNumber r) else skipNumberTail r
      | [] => .ok []
    else if isDigit b then skipNumberTail (r.dropWhile isDigit)
    else .error ⟨.invalidNumber, r, .whole⟩

theorem skipExponent_length {bs r : Bytes} (h : skipExponent bs = .ok r) :
    r.length ≤ bs.length := by
  unfold skipExponent at h
  have : ∀ xs : Bytes,
      (match xs with | 0x2B :: r | 0x2D :: r => r | _ => xs).length ≤ xs.length := by
    intro xs; split <;> simp
  have hb := this bs
  revert h hb
  generalize (match bs with | 0x2B :: r | 0x2D :: r => r | _ => bs) = xs
  intro h hb
  cases xs with
  | nil => simp at h
  | cons b t =>
    simp only at h
    split at h
    · obtain rfl := Except.ok.inj h
      have := length_dropWhile_le isDigit t
      simp only [List.length_cons] at hb
      omega
    · simp at h

theorem skipNumberTail_length {bs r : Bytes} (h : skipNumberTail bs = .ok r) :
    r.length ≤ bs.length := by
  unfold skipNumberTail at h
  split at h
  · next t =>
    have hd := length_dropWhile_le isDigit t
    simp only at h
    split at h
    · simp at h
    · split at h
      · next t' ht =>
        have := skipExponent_length h
        simp only [ht, List.length_cons] at hd ⊢
        omega
      · next t' ht =>
        have := skipExponent_length h
        simp only [ht, List.length_cons] at hd ⊢
        omega
      · obtain rfl := Except.ok.inj h
        simp only [List.length_cons]
        omega
  · have := skipExponent_length h
    simp only [List.length_cons]
    omega
  · have := skipExponent_length h
    simp only [List.length_cons]
    omega
  · obtain rfl := Except.ok.inj h
    exact Nat.le_refl _

theorem skipNumber_length {bs r : Bytes} (h : skipNumber bs = .ok r) :
    r.length < bs.length := by
  unfold skipNumber at h
  split at h
  · simp at h
  · next b t =>
    split at h
    · split at h
      · split at h
        · simp at h
        · have := skipNumberTail_length h
          simp only [List.length_cons] at *
          omega
      · obtain rfl := Except.ok.inj h
        simp
    · split at h
      · have := skipNumberTail_length h
        have := length_dropWhile_le isDigit t
        simp only [List.length_cons]
        omega
      · simp at h

theorem skipString_length {bs r : Bytes} (h : skipString bs = .ok r) : r.length < bs.length := by
  fun_induction skipString bs with
  | case1 => simp at h
  | case2 => obtain rfl := Except.ok.inj h; simp
  | case3 => simp at h
  | case4 b e t _ ih =>
    have := ih h
    simp only [List.length_cons]
    omega
  | case5 => simp at h
  | case6 b e t _ _ r' _ ih =>
    have := ih h
    simp only [List.length_cons]
    omega
  | case7 => simp at h
  | case8 => simp at h
  | case9 b t _ _ _ ih =>
    have := ih h
    simp only [List.length_cons]
    omega

/-- A bracket that is still open. -/
inductive Frame where
  | list
  | object
  deriving DecidableEq, Repr

/-- The fault of an end of input inside a bracket. -/
def Frame.ended : Frame → Cause
  | .list => .endInList
  | .object => .endInObject

/-- The fault of a byte that neither closes a bracket nor separates its values. -/
def Frame.unclosed : Frame → Cause
  | .list => .listEndExpected
  | .object => .objectEndExpected

/-- The closing bracket. -/
def Frame.close : Frame → UInt8
  | .list => 0x5D
  | .object => 0x7D

/-- A value that is no list and no object; `none` where one opens. -/
def skipScalar (bs : Bytes) : Except Fault (Option Frame × Bytes) :=
  match bs with
  | [] => .error ⟨.endInValue, [], .whole⟩
  | b :: r =>
    if b = 0x6E then (readWord [0x75, 0x6C, 0x6C] r).map (none, ·)
    else if b = 0x74 then (readWord [0x72, 0x75, 0x65] r).map (none, ·)
    else if b = 0x66 then (readWord [0x61, 0x6C, 0x73, 0x65] r).map (none, ·)
    else if b = 0x2D then (skipNumber r).map (none, ·)
    else if isDigit b then (skipNumber bs).map (none, ·)
    else if b = 0x22 then (skipString r).map (none, ·)
    else if b = 0x5B then .ok (some .list, r)
    else if b = 0x7B then .ok (some .object, r)
    else .error (.ahead .valueExpected bs)

/-- The name of a member and the colon behind it. -/
def skipKey (bs : Bytes) : Except Fault Bytes :=
  match skipBlank bs with
  | [] => .error ⟨.endInObject, [], .whole⟩
  | b :: r =>
    if b = 0x22 then
      match skipString r with
      | .error f => .error f
      | .ok r =>
        match skipBlank r with
        | [] => .error ⟨.endInObject, [], .whole⟩
        | c :: r => if c = 0x3A then .ok r else .error (.ahead .colonExpected (c :: r))
    else .error (.ahead .keyNotString (b :: r))

theorem map_eq_ok {α β ε : Type} {f : α → β} {x : Except ε α} {y : β} (h : x.map f = .ok y) :
    ∃ a, x = .ok a ∧ f a = y := by
  cases x with
  | error e => simp [Except.map] at h
  | ok a => exact ⟨a, rfl, by simpa [Except.map] using h⟩

theorem skipScalar_length {bs r : Bytes} {o : Option Frame} (h : skipScalar bs = .ok (o, r)) :
    r.length < bs.length := by
  have word : ∀ {w t : Bytes}, (readWord w t).map (none, ·) = .ok (o, r) → r.length ≤ t.length := by
    intro w t hw
    obtain ⟨x, hx, hxy⟩ := map_eq_ok hw
    obtain ⟨_, rfl⟩ := Prod.mk.inj hxy
    exact readWord_length hx
  unfold skipScalar at h
  split at h
  · simp at h
  · next b t =>
    simp only [List.length_cons]
    split at h
    · have := word h; omega
    split at h
    · have := word h; omega
    split at h
    · have := word h; omega
    split at h
    · obtain ⟨x, hx, hxy⟩ := map_eq_ok h
      obtain ⟨_, rfl⟩ := Prod.mk.inj hxy
      have := skipNumber_length hx
      omega
    split at h
    · obtain ⟨x, hx, hxy⟩ := map_eq_ok h
      obtain ⟨_, rfl⟩ := Prod.mk.inj hxy
      have := skipNumber_length hx
      simpa using this
    split at h
    · obtain ⟨x, hx, hxy⟩ := map_eq_ok h
      obtain ⟨_, rfl⟩ := Prod.mk.inj hxy
      have := skipString_length hx
      omega
    split at h
    · obtain ⟨_, rfl⟩ := Prod.mk.inj (Except.ok.inj h); omega
    split at h
    · obtain ⟨_, rfl⟩ := Prod.mk.inj (Except.ok.inj h); omega
    · simp at h

theorem skipKey_length {bs r : Bytes} (h : skipKey bs = .ok r) : r.length < bs.length := by
  have hb := skipBlank_length bs
  unfold skipKey at h
  split at h
  · simp at h
  · next b t ht =>
    rw [ht, List.length_cons] at hb
    split at h
    · split at h
      · simp at h
      · next t₂ h₂ =>
        have := skipString_length h₂
        have hc := skipBlank_length t₂
        split at h
        · simp at h
        · next c t₃ h₃ =>
          rw [h₃, List.length_cons] at hc
          split at h
          · obtain rfl := Except.ok.inj h
            omega
          · simp at h
    · simp at h

mutual
/-- Reads a value inside the brackets `outer`, and everything up to the last of them. -/
def skipInside (outer : List Frame) (bs : Bytes) : Except Fault Bytes :=
  match h : skipScalar (skipBlank bs) with
  | .error f => .error f
  | .ok (none, r) =>
    have : r.length < bs.length := Nat.lt_of_lt_of_le (skipScalar_length h) (skipBlank_length bs)
    skipBehind true outer r
  | .ok (some frame, r) =>
    have : r.length < bs.length := Nat.lt_of_lt_of_le (skipScalar_length h) (skipBlank_length bs)
    skipBehind false (frame :: outer) r
termination_by (bs.length, 0)

/-- Goes on behind a value (`comma`: another may follow behind a comma) or behind an
opening bracket. -/
def skipBehind (comma : Bool) (open_ : List Frame) (bs : Bytes) : Except Fault Bytes :=
  match open_ with
  | [] => .ok bs
  | frame :: outer =>
    match h : skipBlank bs with
    | [] => .error ⟨frame.ended, [], .whole⟩
    | b :: r =>
      have hr : r.length < bs.length := by
        have := skipBlank_length bs
        rw [h, List.length_cons] at this
        omega
      if b = frame.close then skipBehind true outer r
      else if comma && b != 0x2C then .error (.ahead frame.unclosed (b :: r))
      else
        let next := if comma then r else bs
        have hn : next.length ≤ bs.length := by
          show (if comma then r else bs).length ≤ bs.length
          split <;> omega
        match frame with
        | .list => skipInside (frame :: outer) next
        | .object =>
          match hk : skipKey next with
          | .error f => .error f
          | .ok v =>
            have : v.length < bs.length := Nat.lt_of_lt_of_le (skipKey_length hk) hn
            skipInside (frame :: outer) v
termination_by (bs.length, 1)
decreasing_by
  · exact Prod.Lex.left _ _ hr
  · rcases Nat.lt_or_eq_of_le hn with h | h
    · exact Prod.Lex.left _ _ h
    · exact h ▸ Prod.Lex.right _ (by omega)
  · exact Prod.Lex.left _ _ (by assumption)
end

/-- Finds the end of a value. -/
def skipValue (bs : Bytes) : Except Fault Bytes := skipInside [] bs

end Json
end MailGateway
