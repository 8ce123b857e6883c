/-!
Character classes given by tables of code points.
-/

namespace SvgIcon
namespace Text

/-- Inclusive ranges of code points, in increasing order. -/
abbrev Ranges := List (Nat × Nat)

/-- Whether a code point lies in one of the ranges. -/
def Ranges.hold (ranges : Ranges) (code : Nat) : Bool :=
  ranges.any fun r => r.1 ≤ code && code ≤ r.2

theorem Ranges.hold_iff {ranges : Ranges} {code : Nat} :
    ranges.hold code = true ↔ ∃ r ∈ ranges, r.1 ≤ code ∧ code ≤ r.2 := by
  simp [Ranges.hold]

end Text
end SvgIcon
