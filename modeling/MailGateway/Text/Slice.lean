/-
# Parts of a text

A part of a text is named by where it begins and ends, counted in bytes.  No part begins
or ends inside a character.
-/

namespace MailGateway
namespace Text

/-- The bytes that characters take. -/
def width : List Char → Nat
  | [] => 0
  | c :: cs => c.utf8Size + width cs

theorem width_append (cs ds : List Char) : width (cs ++ ds) = width cs + width ds := by
  induction cs with
  | nil => simp [width]
  | cons c cs ih => simp only [List.cons_append, width, ih]; omega

/-- The characters in the first `n` bytes, and those behind. -/
def splitBytes? : Nat → List Char → Option (List Char × List Char)
  | 0, cs => some ([], cs)
  | _ + 1, [] => none
  | n + 1, c :: cs =>
    if c.utf8Size ≤ n + 1 then
      (splitBytes? (n + 1 - c.utf8Size) cs).map fun (before, behind) => (c :: before, behind)
    else none

/-- Cutting behind a part that stands in front gives that part. -/
theorem splitBytes?_width (cs ds : List Char) :
    splitBytes? (width cs) (cs ++ ds) = some (cs, ds) := by
  induction cs with
  | nil => cases ds <;> rfl
  | cons c cs ih =>
    obtain ⟨n, hn⟩ : ∃ n, width (c :: cs) = n + 1 :=
      ⟨width (c :: cs) - 1, by have := c.utf8Size_pos; simp only [width]; omega⟩
    have hle : c.utf8Size ≤ n + 1 := by rw [← hn]; simp only [width]; omega
    have hrest : n + 1 - c.utf8Size = width cs := by rw [← hn]; simp only [width]; omega
    rw [hn, List.cons_append, splitBytes?, if_pos hle, hrest, ih]
    rfl

/-- What stands behind the first `n` bytes. -/
def behind? (n : Nat) (cs : List Char) : Option (List Char) := (splitBytes? n cs).map (·.2)

/-- The part between two places. -/
def slice? (first last : Nat) (cs : List Char) : Option (List Char) := do
  let rest ← behind? first cs
  (splitBytes? (last - first) rest).map (·.1)

example : slice? 1 3 "aéb".toList = some ['é'] := by decide +kernel
example : slice? 1 2 "aéb".toList = none := by decide +kernel

end Text
end MailGateway
