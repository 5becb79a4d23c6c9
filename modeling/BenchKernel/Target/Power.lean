import BenchKernel.Target.Loop
import BenchKernel.Text.Quoted

/-! # Loops on POWER

POWER counts a loop in its count register: the number of passes is computed once, before the body, and the
back edge decrements it. The loop is left at once when the number is not positive. -/

namespace BenchKernel.Power

/-- One line of POWER assembler. Immediate operands that the assembler has to split stay texts. -/
inductive Op
  | li (reg : String) (value : Int)
  | lisHighest (reg value : String)
  | oriHigher (reg value : String)
  /-- Moves the low half of a register to its high half. -/
  | shiftHigh (reg : String)
  | orisHigh (reg value : String)
  | oriLow (reg value : String)
  | mr (dst src : String)
  | subf (dst a b : String)
  | add (dst a b : String)
  | addic (dst src : String) (value : Int)
  | addi (dst src value : String)
  | sradi (dst src : String) (shift : Nat)
  | divd (dst a b : String)
  | cmpdi (reg : String) (value : Int)
  | ble (label : String)
  | mtctr (reg : String)
  | bdnz (label : String)
  | align
  | label (name : String)
  deriving DecidableEq, Repr

def Op.write : Op → String
  | .li r v => s!"li {r}, {v}"
  | .lisHighest r v => s!"lis {r}, {v}@highest"
  | .oriHigher r v => s!"ori {r}, {r}, {v}@higher"
  | .shiftHigh r => s!"rldicr {r}, {r}, 32, 31"
  | .orisHigh r v => s!"oris {r}, {r}, {v}@h"
  | .oriLow r v => s!"ori {r}, {r}, {v}@l"
  | .mr d s => s!"mr {d}, {s}"
  | .subf d a b => s!"subf {d}, {a}, {b}"
  | .add d a b => s!"add {d}, {a}, {b}"
  | .addic d s v => s!"addic {d}, {s}, {v}"
  | .addi d s v => s!"addi {d}, {s}, {v}"
  | .sradi d s n => s!"sradi {d}, {s}, {n}"
  | .divd d a b => s!"divd {d}, {a}, {b}"
  | .cmpdi r v => s!"cmpdi {r}, {v}"
  | .ble l => s!"ble {l}"
  | .mtctr r => s!"mtctr {r}"
  | .bdnz l => s!"bdnz {l}"
  | .align => ".align 4"
  | .label name => s!"{name}:"

/-- The register that computes the number of passes. -/
def scratch : String := "r0"

def afterLabel (label : String) : String := s!"{label}_exit"

/-- Whether a value fits in a signed field of 16 bits. -/
def isShort (n : Int) : Bool := decide (-32768 ≤ n) && decide (n ≤ 32767)

/-- Loads an operand whose literal value, if any, is known. A short literal takes one line; any other operand
    is put together from its four fields of 16 bits. -/
def loadKnown (reg text : String) (literal : Option Int) : List Op :=
  match literal.filter isShort with
  | some n => [.li reg n]
  | none => [.lisHighest reg text, .oriHigher reg text, .shiftHigh reg, .orisHigh reg text, .oriLow reg text]

def load (reg text : String) : Except Fault (List Op) := do
  let literal ← Literal.value? text
  return loadKnown reg text literal

/-- Loads an address, written in base sixteen. -/
def loadAddress (reg : String) (address : Nat) : List Op :=
  loadKnown reg ("0x" ++ Text.hexDigits address) (if address < Number.twoPow 63 then some (Int.ofNat address) else none)

/-- Sets the scratch register to the distance from the start to the bound. -/
def distance (l : Loop) : Op :=
  if l.direction.countsDown then .subf scratch l.limit l.counter
  else if l.fromZero then .mr scratch l.limit
  else .subf scratch l.counter l.limit

/-- The base-two logarithm of a power of two. -/
def exponent? (n : Nat) : Option Nat := (List.range 64).find? fun k => Number.twoPow k = n

/-- Divides the distance by a known step and rounds up, one pass more for an inclusive bound. The limit
    register holds the divisor in between and is loaded anew. -/
def divideBy (l : Loop) (step : Nat) : Except Fault (List Op) := do
  let bias := if l.direction.isInclusive then step else step - 1
  let biased := if bias = 0 then [] else [.addic scratch scratch (Int.ofNat bias)]
  if step = 1 then return biased
  match exponent? step with
  | some k => return biased ++ [.sradi scratch scratch k]
  | none => return biased ++ (← load l.limit l.step) ++ [.divd scratch scratch l.limit] ++ (← load l.limit l.stop)

/-- Divides the distance by a step that only the assembler knows. -/
def divideBySymbol (l : Loop) : Except Fault (List Op) := do
  let step ← load l.limit l.step
  let bias := if l.direction.isInclusive then [] else [.addic scratch scratch (-1)]
  let stop ← load l.limit l.stop
  return step ++ [.add scratch scratch l.limit] ++ bias ++ [.divd scratch scratch l.limit] ++ stop

/-- Sets the scratch register from the distance to the number of passes. A literal step counts as known when
    it is positive and short. -/
def passes (l : Loop) : Except Fault (List Op) := do
  match (← Literal.value? l.step).filter fun n => decide (1 ≤ n) && decide (n ≤ 32767) with
  | some n => divideBy l n.toNat
  | none => divideBySymbol l

def header (l : Loop) : Except Fault (List Op) := do
  let start ← load l.counter l.start
  let stop ← load l.limit l.stop
  let count ← passes l
  return start ++ stop ++ [distance l] ++ count ++
    [.cmpdi scratch 0, .ble (afterLabel l.label), .mtctr scratch, .align, .label l.label]

def footer (l : Loop) : List Op :=
  let step := if l.direction.countsDown then s!"-{l.step}" else l.step
  [.addi l.counter l.counter step, .bdnz l.label, .label (afterLabel l.label)]

end BenchKernel.Power
