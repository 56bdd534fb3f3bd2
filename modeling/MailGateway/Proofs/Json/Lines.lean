/-
# Records over several lines

The form of a record that is for reading by eye is the layout of an object with one text in
it (`layout_object_text`).  It is a text (`encode_recordLines`): what is escaped is ASCII
before and after, and the bytes of all other characters stay together.  And it is read back,
by a reader that takes every member of an object, as that one member and no other
(`texts?_recordLines`).
-/

import MailGateway.Json.Document
import MailGateway.Proofs.Json.RoundTrip
import MailGateway.Proofs.Text.Utf8

namespace MailGateway
namespace Json

/-! ### The written form as a text -/

/-- The characters that a character of a text is written with. -/
def writeChar (c : Char) : List Char :=
  if c.toNat < 0x80 then (writeByte c.toNat.toUInt8).map fun b => Char.ofNat b.toNat else [c]

/-- The written form of a text is a text. -/
def quoted (s : String) : String := String.ofList ('"' :: (s.toList.flatMap writeChar ++ ['"']))

theorem writeByte_ascii : ∀ n, n < 0x80 →
    ((writeByte n.toUInt8).map fun b => Char.ofNat b.toNat).flatMap String.utf8EncodeChar =
      writeByte n.toUInt8 := by
  decide

theorem writeByte_of_le {b : UInt8} (h : 0x80 ≤ b) : writeByte b = [b] := by
  have hlow : ∀ k : UInt8, k < 0x80 → b ≠ k := fun k hk heq => by
    subst heq
    exact absurd h (UInt8.not_le.2 hk)
  have hcontrol : ¬b < 0x20 := UInt8.not_lt.2 (UInt8.le_trans (by decide) h)
  have hquote : ¬(b = 0x22 ∨ b = 0x5C) := not_or.2 ⟨hlow _ (by decide), hlow _ (by decide)⟩
  rw [writeByte, if_neg hquote, if_neg (hlow _ (by decide)), if_neg (hlow _ (by decide)),
    if_neg (hlow _ (by decide)), if_neg (hlow _ (by decide)), if_neg (hlow _ (by decide)),
    if_neg hcontrol]

theorem flatMap_writeByte_of_le {bs : Bytes} (h : ∀ b ∈ bs, 0x80 ≤ b) :
    bs.flatMap writeByte = bs := by
  induction bs with
  | nil => rfl
  | cons b bs ih =>
    rw [List.flatMap_cons, writeByte_of_le (h b List.mem_cons_self),
      ih fun c hc => h c (List.mem_cons_of_mem _ hc)]
    rfl

/-- A character is written byte by byte, and the bytes are those of characters. -/
theorem flatMap_writeByte_char (c : Char) :
    (String.utf8EncodeChar c).flatMap writeByte = (writeChar c).flatMap String.utf8EncodeChar := by
  unfold writeChar
  split
  · next h =>
    rw [writeByte_ascii _ h, Utf8.utf8EncodeChar_ascii h, List.flatMap_singleton]
  · next h =>
    rw [List.flatMap_singleton]
    exact flatMap_writeByte_of_le (Utf8.le_of_mem_utf8EncodeChar (Nat.not_lt.1 h))

/-- **The written form of a text** is well-formed UTF-8. -/
theorem encode_quoted (s : String) : Utf8.encode (quoted s) = writeString s := by
  have hquote : String.utf8EncodeChar '"' = [0x22] := by decide
  have hchars : ∀ cs : List Char, (cs.flatMap String.utf8EncodeChar).flatMap writeByte =
      (cs.flatMap writeChar).flatMap String.utf8EncodeChar := fun cs => by
    rw [List.flatMap_assoc, List.flatMap_assoc, funext flatMap_writeByte_char]
  rw [quoted, Utf8.encode_ofList, writeString, Utf8.encode_eq_flatMap, hchars]
  simp [hquote]

/-- A record over several lines, as a text. -/
def recordLines (field value : String) : String :=
  "\x7b\n  " ++ quoted field ++ ": " ++ quoted value ++ "\n\x7d"

theorem encode_recordLines (shape : RecordShape) (value : String) :
    Utf8.encode (recordLines shape.field value) = writeRecordLines shape value := by
  simp only [recordLines, Utf8.encode_append, encode_quoted, writeRecordLines, Utf8.ascii]

theorem encode_recordLines_eq (field value : String) :
    Utf8.encode (recordLines field value) =
      0x7B :: 0x0A :: 0x20 :: 0x20 :: (writeString field ++
        0x3A :: 0x20 :: (writeString value ++ [0x0A, 0x7D])) := by
  have hopen : Utf8.encode "\x7b\n  " = [0x7B, 0x0A, 0x20, 0x20] := by decide
  have hcolon : Utf8.encode ": " = [0x3A, 0x20] := by decide
  have hclose : Utf8.encode "\n\x7d" = [0x0A, 0x7D] := by decide
  simp [recordLines, Utf8.encode_append, encode_quoted, hopen, hcolon, hclose]

/-- The layout of an object with one text in it. -/
theorem layout_object_text (field value : String) :
    (Document.object [(field, .text value)]).layout 0 = Utf8.encode (recordLines field value) := by
  rw [encode_recordLines_eq]
  simp [Document.layout, Document.layoutMembers, Document.block, Document.newline]

/-! ### Reading an object of texts -/

/-- The members of an object up to its closing brace, and the rest.  Each member has at
least one byte, so `fuel` may be the number of bytes. -/
def readTexts? (fuel : Nat) (first : Bool) (bs : Bytes) :
    Option (List (String × String) × Bytes) :=
  match fuel with
  | 0 => none
  | fuel + 1 =>
    match skipBlank bs with
    | 0x7D :: r => some ([], r)
    | bs => do
      let r ← (nameStart first bs).toOption
      let (name, r) ← (readString r).toOption
      let r ← (colon r).toOption
      let (value, r) ← (readText r).toOption
      let (members, r) ← readTexts? fuel false r
      pure ((name, value) :: members, r)

/-- The members of the object that is the whole input, if all of them are texts. -/
def texts? (bs : Bytes) : Option (List (String × String)) := do
  let r ← match skipBlank bs with
    | 0x7B :: r => some r
    | _ => none
  let (members, rest) ← readTexts? (r.length + 1) true r
  if (skipBlank rest).isEmpty then some members else none

theorem readText_blank {b : UInt8} (h : isBlank b = true) (r : Bytes) :
    readText (b :: r) = readText r := by
  rw [readText, readText, skipBlank_blank h]

theorem readTexts?_close (fuel : Nat) (first : Bool) (rest : Bytes) :
    readTexts? (fuel + 1) first (0x0A :: 0x7D :: rest) = some ([], rest) := by
  rw [readTexts?, skipBlank_blank (by decide), skipBlank_cons (by decide)]
  rfl

/-- The first member of an object, on a line of its own. -/
theorem readTexts?_first {fuel : Nat} {rest left : Bytes} {members : List (String × String)}
    (field value : String) (h : readTexts? fuel false rest = some (members, left)) :
    readTexts? (fuel + 1) true (0x0A :: 0x20 :: 0x20 :: (writeString field ++
        0x3A :: 0x20 :: (writeString value ++ rest))) =
      some ((field, value) :: members, left) := by
  rw [writeString_append, readTexts?, skipBlank_blank (by decide), skipBlank_blank (by decide),
    skipBlank_blank (by decide), skipBlank_cons (by decide)]
  split
  · next heq => simp at heq
  · have hblank : isBlank 0x20 = true := by decide
    simp only [nameStart_first, readString_write, colon_cons, readText_blank hblank,
      readText_writeString, h, Except.toOption, bind, Option.bind, pure]

/-- **A record over several lines** is an object with one member. -/
theorem texts?_recordLines (field value : String) :
    texts? (Utf8.encode (recordLines field value)) = some [(field, value)] := by
  rw [encode_recordLines_eq]
  obtain ⟨fuel, hfuel⟩ : ∃ fuel, (0x0A :: 0x20 :: 0x20 :: (writeString field ++
      0x3A :: 0x20 :: (writeString value ++ [0x0A, 0x7D]))).length + 1 = fuel + 2 := ⟨_, rfl⟩
  have hread := readTexts?_first field value (readTexts?_close fuel false [])
  rw [texts?, skipBlank_cons (by decide)]
  simp only [hfuel, hread, bind, Option.bind]
  rfl

end Json
end MailGateway
