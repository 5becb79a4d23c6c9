import BenchKernel.Target.Loop

/-! # Loops that compare and branch

On the Intel and ARM targets a loop is set up by two loads and closed by a step, a comparison and a
conditional branch. The vector form of 64-bit ARM computes a lane predicate in place of the comparison for
the two directions that have one. The operations are the same on all these targets; a dialect writes them. -/

namespace BenchKernel.Branching

inductive Op
  | clear (reg : String)
  | load (reg value : String)
  | allLanes
  /-- Activates the lanes below `bound`, or up to it, counted from `reg` as unsigned numbers. -/
  | lanes (inclusive : Bool) (reg bound : String)
  | copyLanes (copy : String)
  | align
  | label (name : String)
  | advance (down : Bool) (reg step : String)
  | compare (reg bound : String)
  | branch (direction : Direction) (label : String)
  | branchFirst (label : String)
  deriving DecidableEq, Repr

/-- The predicate registers that receive copies of the loop predicate. -/
def laneCopies : List String := ["p2", "p3", "p4"]

/-- For a direction with a lane predicate, whether the predicate includes the bound. -/
def lanePredicate? : Direction → Option Bool
  | .less => some false
  | .lessEqual => some true
  | _ => none

/-- Computes the loop predicate and its copies. -/
def updateLanes (inclusive : Bool) (l : Loop) : List Op :=
  .lanes inclusive l.counter l.limit :: laneCopies.map .copyLanes

def start (l : Loop) : Op := if l.fromZero then .clear l.counter else .load l.counter l.start

/-- The operations before the body. `vector` asks for lane predicates where they exist. -/
def header (vector : Bool) (l : Loop) : List Op :=
  let setup := match if vector then lanePredicate? l.direction else none with
    | some inclusive => .allLanes :: updateLanes inclusive l
    | none => []
  [start l, .load l.limit l.stop] ++ setup ++ [.align, .label l.label]

def footer (vector : Bool) (l : Loop) : List Op :=
  .advance l.direction.countsDown l.counter l.step ::
    match if vector then lanePredicate? l.direction else none with
    | some inclusive => updateLanes inclusive l ++ [.branchFirst l.label]
    | none => [.compare l.counter l.limit, .branch l.direction l.label]

/-! ### Dialects -/

inductive Dialect
  | intel
  | arm
  | arm64
  deriving DecidableEq, Repr

def stepMnemonic (down : Bool) : String := if down then "sub" else "add"

/-- How a dialect writes an operation. Only the 64-bit ARM dialect has lanes. -/
def Dialect.write : Dialect → Op → String
  | .intel, .clear r => s!"xor {r}, {r}"
  | .arm, .clear r => s!"eor {r}, {r}, {r}"
  | .arm64, .clear r => s!"mov {r}, xzr"
  | .intel, .load r v => s!"mov {r}, {v}"
  | _, .load r v => s!"ldr {r}, ={v}"
  | _, .allLanes => "ptrue p0.d"
  | _, .lanes inclusive r b =>
    let mnemonic := if inclusive then "whilels" else "whilelo"
    s!"{mnemonic} p1.d, {r}, {b}"
  | _, .copyLanes p => s!"mov {p}.b, p1.b"
  | .intel, .align => ".align 16"
  | .arm, .align => ".align 2"
  | .arm64, .align => ".align 4"
  | _, .label name => s!"{name}:"
  | .intel, .advance down r s => stepMnemonic down ++ s!" {r}, {s}"
  | _, .advance down r s => stepMnemonic down ++ s!" {r}, {r}, #{s}"
  | _, .compare r b => s!"cmp {r}, {b}"
  | .intel, .branch d l => d.intelJump ++ s!" {l}"
  | .arm, .branch d l => "b" ++ d.armCondition ++ s!" {l}"
  | .arm64, .branch d l => "b." ++ d.armCondition ++ s!" {l}"
  | _, .branchFirst l => s!"b.first {l}"

end BenchKernel.Branching
