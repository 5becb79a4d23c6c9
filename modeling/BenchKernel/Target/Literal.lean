import BenchKernel.Fault
import BenchKernel.Number.Reading
import BenchKernel.Text.Blank

/-! # Literal operands

Operands of a loop are texts. One that reads as a signed word of 64 bits is a literal; any other is a symbol
for the assembler or for a later substitution. -/

namespace BenchKernel.Literal

/-- Whether an operand is written as one of the plain forms of zero. -/
def isZero (text : String) : Bool := Text.trimmed text ∈ ["0", "0x0", "0x00"]

/-- The digits of a literal in base sixteen after `0x` or `0X`, and otherwise in base ten. -/
def readMagnitude (cs : List Char) : Except Number.ReadError Int :=
  match cs with
  | '0' :: 'x' :: digits => Number.readSigned 16 digits
  | '0' :: 'X' :: digits => Number.readSigned 16 digits
  | digits => Number.readSigned 10 digits

/-- The value of a literal operand, and nothing for a symbol. After the optional minus sign and base mark the
    digits may carry a sign of their own. The least word has no negation. -/
def value? (text : String) : Except Fault (Option Int) :=
  match Text.trim text.toList with
  | '-' :: digits =>
    match readMagnitude digits with
    | .error _ => .ok none
    | .ok n => if n = -Int.ofNat (Number.twoPow 63) then .error (.negation text) else .ok (some (-n))
  | digits =>
    match readMagnitude digits with
    | .error _ => .ok none
    | .ok n => .ok (some n)

end BenchKernel.Literal
