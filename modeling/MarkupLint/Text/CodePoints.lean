namespace MarkupLint

/-!
# Sets of code points

Character properties are given as lists of closed intervals of code points.
Membership is a comparison with each interval, so it evaluates without any
set-up and a property can be read off its table.
-/

/-- A set of code points, as closed intervals `(low, high)`. -/
abbrev CodePointRanges := List (Nat × Nat)

namespace CodePointRanges

/-- Whether one of the intervals holds the character. -/
def contains (ranges : CodePointRanges) (character : Char) : Bool :=
  ranges.any fun (low, high) =>
    Nat.ble low character.toNat && Nat.ble character.toNat high

end CodePointRanges

end MarkupLint
