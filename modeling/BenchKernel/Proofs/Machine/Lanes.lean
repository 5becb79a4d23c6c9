import BenchKernel.Proofs.Machine.CompareBranch

/-! # Machines with lanes

The vector form of 64-bit ARM adds predicate registers to the machine that compares and branches. Each of them says of
every lane whether it is active. Loops compute such a predicate from two general registers as unsigned numbers, copy
it, and branch on its first lane. -/

namespace BenchKernel.Lanes
open Machine CompareBranch

/-- What the predicate registers say of the lanes, by name and number of the lane. -/
abbrev Predicates := String → Nat → Bool

/-- The state of a machine that compares and branches, with predicate registers. -/
abbrev State (w : Nat) (ρ : Type) := CompareBranch.State w (Predicates × ρ)

variable {w : Nat} {ρ : Type}

/-- Whether a number is below another one, or also equal to it, both without a sign. -/
def isBelow (inclusive : Bool) (a b : BitVec w) : Bool := if inclusive then a.ule b else a.ult b

/-- The lanes count on from `a`. A lane is active as long as its number and those of all lanes before it are below the
    bound. -/
def lanesBelow (inclusive : Bool) (a bound : BitVec w) (lane : Nat) : Bool :=
  (List.range (lane + 1)).all fun i => isBelow inclusive (a + BitVec.ofNat w i) bound

theorem lanesBelow_zero (inclusive : Bool) (a bound : BitVec w) :
    lanesBelow inclusive a bound 0 = isBelow inclusive a bound := by
  simp [lanesBelow]

/-! ### Instructions -/

inductive Instr
  /-- Activates all lanes of a predicate register. -/
  | allActive (dst : String)
  | activeBelow (inclusive : Bool) (dst reg bound : String)
  | copy (dst src : String)
  /-- Jumps if the first lane of the predicate computed last is active. -/
  | jumpFirst (target : String)
  deriving DecidableEq, Repr

/-- Writes a predicate register. -/
def setPredicate (dst : String) (lanes : Nat → Bool) (s : State w ρ) : State w ρ :=
  { s with rest := (Function.update s.rest.1 dst lanes, s.rest.2) }

/-- The flags of a computed predicate tell whether its first lane is active and whether none is. No lane is active
    without the first. -/
def flagsOfLanes (lanes : Nat → Bool) : Flags := ⟨lanes 0, !lanes 0, false⟩

def Instr.act : Instr → Action (State w ρ)
  | allActive dst => .effect (setPredicate dst fun _ => true)
  | activeBelow inclusive dst reg bound => .effect fun s =>
    let lanes := lanesBelow inclusive (s.regs reg) (s.regs bound)
    { setPredicate dst lanes s with flags := flagsOfLanes lanes }
  | copy dst src => .effect fun s => setPredicate dst (s.rest.1 src) s
  | jumpFirst target => .branch id (fun s => s.flags.negative) target

/-! ### Reading lines -/

/-- The names of the predicate registers. -/
def predicates : List String :=
  ["p0", "p1", "p2", "p3", "p4", "p5", "p6", "p7", "p8", "p9", "p10", "p11", "p12", "p13", "p14", "p15"]

/-- The predicate register of an operand that also gives the width of its lanes. -/
def predicate? (laneWidth operand : String) : Option String := predicates.find? fun p => p ++ laneWidth == operand

/-- A predicate computed from two general registers. -/
def belowOf (inclusive : Bool) (p reg bound : String) : Option Instr :=
  if reg ∈ registers .armv8 ∧ bound ∈ registers .armv8 then
    (predicate? ".d" p).map fun dst => .activeBelow inclusive dst reg bound
  else none

def decode : String → List String → Option Instr
  | "ptrue", [p] => (predicate? ".d" p).map .allActive
  | "whilelo", [p, reg, bound] => belowOf false p reg bound
  | "whilels", [p, reg, bound] => belowOf true p reg bound
  | "mov", [dst, src] => (predicate? ".b" dst).bind fun dst => (predicate? ".b" src).map (.copy dst)
  | "b.first", [target] => some (.jumpFirst target)
  | _, _ => none

/-- What a line does that works on lanes. -/
def readLanes (other : String → Action (State w ρ)) (line : String) : Action (State w ρ) :=
  Assembler.read (commentMark .armv8) (fun m operands => (decode m operands).map Instr.act) other line

/-- What a line does. The machine is the one without lanes, with the lines that it does not know read as lines that work
    on lanes. -/
def read (other : String → Action (State w ρ)) (line : String) : Action (State w ρ) :=
  CompareBranch.read .armv8 (readLanes other) line

/-! ### The lines of a loop -/

section Lines
variable {other : String → Action (State w ρ)} {reg bound text : String}

theorem read_instruction {mnemonic operand : String} {operands : List String} {instr : Instr}
    (hmnemonic : Assembler.IsWord mnemonic) (hwords : ∀ w ∈ operand :: operands, Assembler.IsWord w)
    (hmark : (commentMark .armv8).toList.isPrefixOf mnemonic.toList = false)
    (hplain : CompareBranch.decode .armv8 mnemonic (operand :: operands) = none)
    (hdecode : decode mnemonic (operand :: operands) = some instr) :
    read other (Assembler.instruction mnemonic (operand :: operands)) = instr.act := by
  rw [read, CompareBranch.read, Assembler.read_operands hmnemonic hwords hmark, hplain]
  exact Assembler.read_instruction hmnemonic hwords hmark (by rw [hdecode]; rfl)

theorem read_allLanes :
    read other (Branching.Dialect.arm64.write .allLanes) = .effect (setPredicate "p0" fun _ => true) := by
  have htext : Branching.Dialect.arm64.write .allLanes = Assembler.instruction "ptrue" ["p0.d"] := by decide
  have hdecode : decode "ptrue" ["p0.d"] = some (.allActive "p0") := by decide
  rw [htext, read_instruction (by decide) (by decide) rfl rfl hdecode]
  rfl

theorem read_lanes (inclusive : Bool) (hreg : reg ∈ registers .armv8) (hbound : bound ∈ registers .armv8) :
    read other (Branching.Dialect.arm64.write (.lanes inclusive reg bound)) =
      (Instr.activeBelow inclusive "p1" reg bound).act := by
  have hwords : ∀ v ∈ ["p1.d", reg, bound], Assembler.IsWord v := by
    simp only [List.mem_cons, List.not_mem_nil, or_false, forall_eq_or_imp, forall_eq]
    exact ⟨by decide, isWord_register hreg, isWord_register hbound⟩
  have htext : Branching.Dialect.arm64.write (.lanes inclusive reg bound) =
      Assembler.instruction (if inclusive then "whilels" else "whilelo") ["p1.d", reg, bound] := by
    rw [Assembler.instruction_three]
    cases inclusive <;> rfl
  rw [htext]
  have hbelow : belowOf inclusive "p1.d" reg bound = some (.activeBelow inclusive "p1" reg bound) := by
    rw [belowOf, if_pos ⟨hreg, hbound⟩]
    rfl
  cases inclusive
  · exact read_instruction (by decide) hwords rfl rfl hbelow
  · exact read_instruction (by decide) hwords rfl rfl hbelow

theorem read_copyLanes {p : String} (hp : p ∈ Branching.laneCopies) :
    read other (Branching.Dialect.arm64.write (.copyLanes p)) = (Instr.copy p "p1").act := by
  have hall : ∀ p ∈ Branching.laneCopies, Branching.Dialect.arm64.write (.copyLanes p) =
      Assembler.instruction "mov" [p ++ ".b", "p1.b"] ∧ Assembler.IsWord (p ++ ".b") ∧
      CompareBranch.decode .armv8 "mov" [p ++ ".b", "p1.b"] = none ∧
      decode "mov" [p ++ ".b", "p1.b"] = some (.copy p "p1") := by decide
  obtain ⟨htext, hword, hplain, hdecode⟩ := hall p hp
  have hwords : ∀ v ∈ [p ++ ".b", "p1.b"], Assembler.IsWord v := by
    simp only [List.mem_cons, List.not_mem_nil, or_false, forall_eq_or_imp, forall_eq]
    exact ⟨hword, by decide⟩
  rw [htext]
  exact read_instruction (by decide) hwords rfl hplain hdecode

theorem read_branchFirst (htext : Assembler.isSymbol text = true) :
    read other (Branching.Dialect.arm64.write (.branchFirst text)) =
      .branch id (fun s => s.flags.negative) text := by
  have hwords : ∀ v ∈ [text], Assembler.IsWord v := by simp [Assembler.isWord_of_isSymbol htext]
  have hline : Branching.Dialect.arm64.write (.branchFirst text) = Assembler.instruction "b.first" [text] := rfl
  have hdecode : decode "b.first" [text] = some (.jumpFirst text) := rfl
  rw [hline, read_instruction (by decide) hwords rfl rfl hdecode]
  rfl

end Lines

end BenchKernel.Lanes
