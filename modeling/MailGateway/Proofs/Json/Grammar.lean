/-
# The grammar of JSON texts

The grammar of RFC 8259 over characters, written as relations between a text and what is left
of it: `Written cs v rest` says that `cs` is a text of the value `v` with `rest` behind it.
A value is kept as a tree (`Value`), and a string as the pieces that it is spelled with, so
that what its escapes stand for is a question of its own (`Denotes`).

Numbers are the one token that what follows may prolong.  Behind a value in a list, in an
object or in a whole text there is nothing that does (`Items.follows`, `Members.follows`,
`Blanks.follows`).

A record of one text field is a list or an object that gives the field (`Value.Gives`).
-/

import MailGateway.Text.Numeral

namespace MailGateway
namespace Json

/-! ### Strings -/

/-- A piece of a string: a character, by itself or by its short escape, or a unit of UTF-16
in four hexadecimal digits. -/
inductive Piece where
  | char (c : Char)
  | unit (n : Nat)
  deriving DecidableEq, Repr

/-- The units of a character in UTF-16: one, or a pair of surrogates. -/
def units (c : Char) : List Nat :=
  if c.toNat < 0x10000 then [c.toNat]
  else [0xD800 + (c.toNat - 0x10000) / 0x400, 0xDC00 + (c.toNat - 0x10000) % 0x400]

/-- The characters that the pieces of a string stand for.  A surrogate that has no other half
stands for none, and so does a string with such a piece. -/
inductive Denotes : List Piece → List Char → Prop where
  | nil : Denotes [] []
  | char {c ps cs} (h : Denotes ps cs) : Denotes (.char c :: ps) (c :: cs)
  | units {c ps cs} (h : Denotes ps cs) : Denotes ((units c).map .unit ++ ps) (c :: cs)

/-- Letters behind a backslash, and what they stand for. -/
def shortEscapes : List (Char × Char) :=
  [('"', '"'), ('\\', '\\'), ('/', '/'), ('b', '\x08'), ('f', '\x0c'), ('n', '\n'),
   ('r', '\r'), ('t', '\t')]

/-- A character that stands for itself between quotes. -/
def IsUnescaped (c : Char) : Prop := 0x20 ≤ c.toNat ∧ c ≠ '"' ∧ c ≠ '\\'

/-- The inside of a string. -/
inductive Chars : List Char → List Piece → List Char → Prop where
  | nil {rest} : Chars rest [] rest
  | plain {c cs ps rest} (hc : IsUnescaped c) (h : Chars cs ps rest) :
      Chars (c :: cs) (.char c :: ps) rest
  | short {e c cs ps rest} (he : (e, c) ∈ shortEscapes) (h : Chars cs ps rest) :
      Chars ('\\' :: e :: cs) (.char c :: ps) rest
  | unicode {a b c d n cs ps rest}
      (hn : Numeral.digits? Numeral.hexadecimal? 16 [a, b, c, d] = some n)
      (h : Chars cs ps rest) : Chars ('\\' :: 'u' :: a :: b :: c :: d :: cs) (.unit n :: ps) rest

/-! ### Blanks and numbers -/

/-- Characters between the tokens. -/
def blanks : List Char := [' ', '\t', '\n', '\r']

/-- Any number of blanks. -/
inductive Blanks : List Char → List Char → Prop where
  | nil {rest} : Blanks rest rest
  | cons {c cs rest} (hc : c ∈ blanks) (h : Blanks cs rest) : Blanks (c :: cs) rest

/-- Decimal digits, at least one. -/
inductive Digits : List Char → List Char → Prop where
  | one {c rest} (hc : c.isDigit = true) : Digits (c :: rest) rest
  | cons {c cs rest} (hc : c.isDigit = true) (h : Digits cs rest) : Digits (c :: cs) rest

/-- The whole part of a number: zero, or digits of which the first is not zero. -/
inductive Whole : List Char → List Char → Prop where
  | zero {rest} : Whole ('0' :: rest) rest
  | digits {c cs rest} (hc : c ≠ '0') (h : Digits (c :: cs) rest) : Whole (c :: cs) rest

/-- The fraction of a number, if it has one. -/
inductive Fraction : List Char → List Char → Prop where
  | absent {rest} : Fraction rest rest
  | digits {cs rest} (h : Digits cs rest) : Fraction ('.' :: cs) rest

/-- The exponent of a number, if it has one. -/
inductive Exponent : List Char → List Char → Prop where
  | absent {rest} : Exponent rest rest
  | bare {e cs rest} (he : e = 'e' ∨ e = 'E') (h : Digits cs rest) : Exponent (e :: cs) rest
  | signed {e s cs rest} (he : e = 'e' ∨ e = 'E') (hs : s = '+' ∨ s = '-') (h : Digits cs rest) :
      Exponent (e :: s :: cs) rest

/-- A number behind its sign. -/
inductive Unsigned : List Char → List Char → Prop where
  | mk {cs ds es rest} (hw : Whole cs ds) (hf : Fraction ds es) (he : Exponent es rest) :
      Unsigned cs rest

/-- A number. -/
inductive Number : List Char → List Char → Prop where
  | plain {cs rest} (h : Unsigned cs rest) : Number cs rest
  | negative {cs rest} (h : Unsigned cs rest) : Number ('-' :: cs) rest

/-! ### Values -/

/-- A value.  Nothing is kept of a number. -/
inductive Value where
  | null
  | flag (value : Bool)
  | number
  | text (pieces : List Piece)
  | list (items : List Value)
  | object (members : List (List Piece × Value))

mutual
/-- A value. -/
inductive Written : List Char → Value → List Char → Prop where
  | null {rest} : Written ('n' :: 'u' :: 'l' :: 'l' :: rest) .null rest
  | yes {rest} : Written ('t' :: 'r' :: 'u' :: 'e' :: rest) (.flag true) rest
  | no {rest} : Written ('f' :: 'a' :: 'l' :: 's' :: 'e' :: rest) (.flag false) rest
  | number {cs rest} (h : Number cs rest) : Written cs .number rest
  | text {cs ps rest} (h : Chars cs ps ('"' :: rest)) : Written ('"' :: cs) (.text ps) rest
  | emptyList {cs rest} (h : Blanks cs (']' :: rest)) : Written ('[' :: cs) (.list []) rest
  | list {cs ds es v vs rest} (hb : Blanks cs ds) (hv : Written ds v es) (hs : Items es vs rest) :
      Written ('[' :: cs) (.list (v :: vs)) rest
  | emptyObject {cs rest} (h : Blanks cs ('}' :: rest)) : Written ('{' :: cs) (.object []) rest
  | object {cs ds m ms rest} (hm : Member cs m ds) (hs : Members ds ms rest) :
      Written ('{' :: cs) (.object (m :: ms)) rest

/-- What follows an item of a list, up to the closing bracket. -/
inductive Items : List Char → List Value → List Char → Prop where
  | close {cs rest} (h : Blanks cs (']' :: rest)) : Items cs [] rest
  | next {cs ds es fs v vs rest} (hc : Blanks cs (',' :: ds)) (hb : Blanks ds es)
      (hv : Written es v fs) (hs : Items fs vs rest) : Items cs (v :: vs) rest

/-- A member of an object, with the blanks in front of it. -/
inductive Member : List Char → List Piece × Value → List Char → Prop where
  | mk {cs ds es fs gs name v rest} (hq : Blanks cs ('"' :: ds)) (hn : Chars ds name ('"' :: es))
      (hc : Blanks es (':' :: fs)) (hb : Blanks fs gs) (hv : Written gs v rest) :
      Member cs (name, v) rest

/-- What follows a member of an object, up to the closing brace. -/
inductive Members : List Char → List (List Piece × Value) → List Char → Prop where
  | close {cs rest} (h : Blanks cs ('}' :: rest)) : Members cs [] rest
  | next {cs ds es m ms rest} (hc : Blanks cs (',' :: ds)) (hm : Member ds m es)
      (hs : Members es ms rest) : Members cs (m :: ms) rest
end

/-- The text is that of one value, with blanks around it. -/
def IsText (text : String) (v : Value) : Prop :=
  ∃ cs rest, Blanks text.toList cs ∧ Written cs v rest ∧ Blanks rest []

/-! ### Records -/

/-- The members have names, and other ones than the field. -/
def Others (field : String) (ms : List (List Piece × Value)) : Prop :=
  ∀ m ∈ ms, ∃ other, other ≠ field ∧ Denotes m.1 other.toList

/-- The value gives the field of a record of one text field: as the only item of a list, or as
the only member of that name in an object, whose other members have other names.  The field is
empty where there is no item and no such member. -/
inductive Value.Gives (field : String) : Value → String → Prop where
  | item {ps s} (h : Denotes ps s.toList) : Gives field (.list [.text ps]) s
  | noItem : Gives field (.list []) ""
  | member {before after name ps s} (hn : Denotes name field.toList) (h : Denotes ps s.toList)
      (hs : Others field (before ++ after)) :
      Gives field (.object (before ++ (name, .text ps) :: after)) s
  | noMember {ms} (hs : Others field ms) : Gives field (.object ms) ""

/-! ### What may follow a number -/

/-- The text does not begin with anything that prolongs a number. -/
def Follows (cs : List Char) : Prop :=
  ∀ c ∈ cs.head?, c.isDigit = false ∧ c ≠ '.' ∧ c ≠ 'e' ∧ c ≠ 'E'

theorem Blanks.follows {cs rest : List Char} (h : Blanks cs rest) (hrest : Follows rest) :
    Follows cs := by
  have hblanks : ∀ c ∈ blanks, c.isDigit = false ∧ c ≠ '.' ∧ c ≠ 'e' ∧ c ≠ 'E' := by
    simp [blanks]
  cases h with
  | nil => exact hrest
  | cons hc _ =>
    rintro c ⟨⟩
    exact hblanks _ hc

theorem Items.follows {cs rest : List Char} {vs : List Value} (h : Items cs vs rest) :
    Follows cs := by
  cases h with
  | close hb => exact hb.follows (by rintro c ⟨⟩; decide)
  | next hb => exact hb.follows (by rintro c ⟨⟩; decide)

theorem Members.follows {cs rest : List Char} {ms : List (List Piece × Value)}
    (h : Members cs ms rest) : Follows cs := by
  cases h with
  | close hb => exact hb.follows (by rintro c ⟨⟩; decide)
  | next hb => exact hb.follows (by rintro c ⟨⟩; decide)

end Json
end MailGateway
