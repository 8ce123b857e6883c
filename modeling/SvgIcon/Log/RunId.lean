import SvgIcon.Log.Digest
import SvgIcon.Number.Double
import SvgIcon.Text.Quoted

/-!
Names for runs: a prefix, the time in milliseconds, and eight hexadecimal digits of a digest of
random bytes.
-/

namespace SvgIcon

def runId (start : String) (milliseconds : Int) (random : List UInt8) : String :=
  let digits := ((Digest.sha256 random).take 1).flatMap fun w => Text.hexDigits 8 w.toNat
  s!"{start}-{milliseconds}-{String.ofList digits}"

/-- A time in seconds as whole milliseconds; `none` if it is not finite. -/
def milliseconds? (seconds : Double) : Option Int := (seconds.mul (.ofRatio false 1000 1)).truncate?

end SvgIcon
