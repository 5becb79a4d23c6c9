import BenchKernel.Target.Direction
import BenchKernel.Target.Literal

/-! # Loops

A counted loop as a template writes it: two registers with the texts of their first values, a direction, the
text of the step and a label. -/

namespace BenchKernel

structure Loop where
  label : String
  counter : String
  start : String
  /-- The register that holds the end value. -/
  limit : String
  stop : String
  direction : Direction
  step : String
  deriving DecidableEq, Repr

/-- Whether the start value is written as a plain zero. -/
def Loop.fromZero (l : Loop) : Bool := Literal.isZero l.start

end BenchKernel
