import SvgIcon.Number.Double

/-!
Sizes and how much smaller a document has become.
-/

namespace SvgIcon
namespace Service

/-- The size of a text in UTF-8. -/
def byteSize (s : String) : Nat := s.utf8ByteSize

/-- A hundred times a number, rounded half up to a whole number and divided by a hundred; `none`
if it is not finite. -/
def ofHundredths? (scaled : Double) : Option Double := do
  Double.quotient? (← (scaled.add (.ofRatio false 1 2)).floor?) 100

/-- A number rounded half up to two places. -/
def round2? (x : Double) : Option Double := ofHundredths? (x.mul (.ofRatio false 100 1))

/-- The part that has been saved, in percent with two places; zero of nothing.  There is no answer
only if the quotient is too large for a number. -/
def reductionPercentage? (original optimized : Int) : Option Double :=
  if original ≤ 0 then some .zero
  else do round2? ((← Double.quotient? (original - optimized) original).mul (.ofRatio false 100 1))

end Service
end SvgIcon
