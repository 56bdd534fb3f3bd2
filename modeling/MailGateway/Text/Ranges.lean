/-
# Sets of characters as runs

A set of code points is given by its runs, in order and without overlap, and
searched by halves.
-/

namespace MailGateway
namespace Text

/-- Whether some run in `ranges[lo, hi)` holds `n`; the runs are in order, so half of
them is left out at each step and `fuel` need not exceed the bits of their number. -/
def inRanges (ranges : Array (Nat × Nat)) (n : Nat) (fuel lo hi : Nat) : Bool :=
  match fuel with
  | 0 => false
  | fuel + 1 =>
    if hi ≤ lo then false
    else
      let mid := (lo + hi) / 2
      match ranges[mid]? with
      | none => false
      | some (a, b) =>
        if n < a then inRanges ranges n fuel lo mid
        else if b < n then inRanges ranges n fuel (mid + 1) hi
        else true

end Text
end MailGateway
