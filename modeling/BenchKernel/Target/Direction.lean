import BenchKernel.Text.Blank

/-! # Loop directions

The comparison of the loop register with the end value under which a loop goes on. -/

namespace BenchKernel

inductive Direction
  | less
  | lessEqual
  | greater
  | greaterEqual
  | equal
  | notEqual
  deriving DecidableEq, Repr

namespace Direction

def all : List Direction := [less, lessEqual, greater, greaterEqual, equal, notEqual]

def symbol : Direction → String
  | less => "<"
  | lessEqual => "<="
  | greater => ">"
  | greaterEqual => ">="
  | equal => "=="
  | notEqual => "!="

def ofSymbol? (text : String) : Option Direction :=
  all.find? fun d => d.symbol == Text.trimmed text

def countsDown : Direction → Bool
  | greater | greaterEqual => true
  | _ => false

/-- Whether the loop also runs with the end value itself. -/
def isInclusive : Direction → Bool
  | lessEqual | greaterEqual => true
  | _ => false

/-- The Intel conditional jump that is taken when the comparison holds. -/
def intelJump : Direction → String
  | less => "jl"
  | lessEqual => "jle"
  | greater => "jg"
  | greaterEqual => "jge"
  | equal => "je"
  | notEqual => "jne"

def armCondition : Direction → String
  | less => "lt"
  | lessEqual => "le"
  | greater => "gt"
  | greaterEqual => "ge"
  | equal => "eq"
  | notEqual => "ne"

end Direction

end BenchKernel
