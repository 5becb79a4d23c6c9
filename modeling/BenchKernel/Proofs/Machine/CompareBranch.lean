import BenchKernel.Proofs.Execution.Counting
import BenchKernel.Proofs.Grammar.Tag
import BenchKernel.Proofs.Target.Scaffold
import Mathlib.Data.BitVec

/-! # Machines that compare and branch

The instructions that loops are made of on the Intel and ARM targets without lanes: zeroing, loading a constant, adding
and subtracting one, comparing two registers and branching on the flags. Registers are known by their names at full
width. All other lines are left open: what they do is given from outside, so that results hold for every instruction
that a body may use. -/

namespace BenchKernel.CompareBranch
open Machine

/-! ### States -/

/-- The flags that signed comparisons look at. -/
structure Flags where
  negative : Bool
  zero : Bool
  overflow : Bool
  deriving DecidableEq, Repr

/-- Registers of width `w`, flags, and whatever else other instructions work on. -/
structure State (w : Nat) (ρ : Type) where
  regs : String → BitVec w
  flags : Flags
  rest : ρ

variable {w : Nat} {ρ : Type}

/-- The flags of a result. -/
def Flags.ofResult (result : BitVec w) (overflow : Bool) : Flags := ⟨result.msb, result == 0, overflow⟩

/-- The flags after comparing two registers, which are those of the difference. -/
def Flags.compare (a b : BitVec w) : Flags := .ofResult (a - b) (BitVec.ssubOverflow a b)

end BenchKernel.CompareBranch

namespace BenchKernel.Direction

/-- Whether the flags are those under which a conditional branch is taken. -/
def taken : Direction → CompareBranch.Flags → Bool
  | less, f => f.negative != f.overflow
  | lessEqual, f => f.zero || f.negative != f.overflow
  | greater, f => !f.zero && f.negative == f.overflow
  | greaterEqual, f => f.negative == f.overflow
  | equal, f => f.zero
  | notEqual, f => !f.zero

end BenchKernel.Direction

namespace BenchKernel.CompareBranch
open Machine

variable {w : Nat} {ρ : Type}

/-- Subtracting two numbers of half a range each: the remainder around zero has the wrong sign exactly if the
    difference leaves the half range. -/
theorem bmod_neg_ne_overflow {x y half : Int} {range : Nat} (hrange : (range : Int) = 2 * half) (hx : -half ≤ x)
    (hx' : x < half) (hy : -half ≤ y) (hy' : y < half) :
    (decide ((x - y).bmod range < 0) != (decide (x - y ≥ half) || decide (x - y < -half))) = decide (x < y) := by
  rcases lt_or_ge (x - y) (-half) with hlow | hlow
  · have hmod : (x - y).bmod range = x - y + range := by
      rw [← Int.add_bmod_right]
      exact Int.bmod_eq_of_le (by omega) (by omega)
    simp only [hmod, decide_eq_false (show ¬x - y + range < 0 by omega), decide_eq_true hlow,
      decide_eq_true (show x < y by omega), Bool.or_true]
    rfl
  · rcases lt_or_ge (x - y) half with hhigh | hhigh
    · have hmod : (x - y).bmod range = x - y := Int.bmod_eq_of_le (by omega) (by omega)
      simp only [hmod, decide_eq_false (show ¬x - y ≥ half by omega), decide_eq_false (show ¬x - y < -half by omega),
        Bool.or_false, Bool.bne_false, decide_eq_decide]
      omega
    · have hmod : (x - y).bmod range = x - y - range := by
        rw [← Int.sub_bmod_right]
        exact Int.bmod_eq_of_le (by omega) (by omega)
      simp only [hmod, decide_eq_true (show x - y - range < 0 by omega), decide_eq_true hhigh,
        decide_eq_false (show ¬x < y by omega), Bool.true_or]
      rfl

theorem negative_ne_overflow (hw : 0 < w) (a b : BitVec w) :
    ((Flags.compare a b).negative != (Flags.compare a b).overflow) = decide (a.toInt < b.toInt) := by
  have hrange : ((2 ^ w : Nat) : Int) = 2 * 2 ^ (w - 1) := by
    obtain ⟨v, rfl⟩ : ∃ v, w = v + 1 := ⟨w - 1, by omega⟩
    push_cast
    rw [pow_succ, mul_comm]
  have hmsb : (a - b).msb = decide ((a.toInt - b.toInt).bmod (2 ^ w) < 0) := by
    rw [BitVec.msb_eq_toInt, BitVec.toInt_sub]
  rw [← bmod_neg_ne_overflow hrange a.le_toInt a.toInt_lt b.le_toInt b.toInt_lt, ← hmsb]
  rfl

theorem zero_compare (a b : BitVec w) : (Flags.compare a b).zero = decide (a.toInt = b.toInt) := by
  simp only [Flags.compare, Flags.ofResult, BitVec.toInt_inj]
  rw [Bool.eq_iff_iff, beq_iff_eq, decide_eq_true_eq]
  exact sub_eq_zero

theorem taken_compare (hw : 0 < w) (d : Direction) (a b : BitVec w) :
    d.taken (Flags.compare a b) = d.holds a.toInt b.toInt := by
  have hless := negative_ne_overflow hw a b
  have hzero := zero_compare a b
  have hge : ((Flags.compare a b).negative == (Flags.compare a b).overflow) = !decide (a.toInt < b.toInt) := by
    rw [← hless, bne, Bool.not_not]
  cases d <;> simp only [Direction.taken, Direction.holds, hless, hzero, hge]
  all_goals grind

/-! ### Instructions -/

inductive Instr
  | exclusiveOr (dst a b : String)
  | set (dst : String) (value : Int)
  | add (dst src : String) (value : Int)
  | subtract (dst src : String) (value : Int)
  | compare (a b : String)
  | jump (direction : Direction) (target : String)
  | nothing
  deriving DecidableEq, Repr

/-- Writes a result to a register, and the flags too if asked to. -/
def State.put (flagged : Bool) (dst : String) (value : BitVec w) (overflow : Bool) (s : State w ρ) : State w ρ :=
  { s with
    regs := Function.update s.regs dst value
    flags := if flagged then .ofResult value overflow else s.flags }

/-- What an instruction does. On a machine that is `flagged`, arithmetic sets the flags and not only comparisons. -/
def Instr.act (flagged : Bool) : Instr → Action (State w ρ)
  | exclusiveOr dst a b => .effect fun s => s.put flagged dst (s.regs a ^^^ s.regs b) false
  | set dst value => .effect fun s => s.put false dst (BitVec.ofInt w value) false
  | add dst src value => .effect fun s =>
    s.put flagged dst (s.regs src + BitVec.ofInt w value) (BitVec.saddOverflow (s.regs src) (BitVec.ofInt w value))
  | subtract dst src value => .effect fun s =>
    s.put flagged dst (s.regs src - BitVec.ofInt w value) (BitVec.ssubOverflow (s.regs src) (BitVec.ofInt w value))
  | compare a b => .effect fun s => { s with flags := .compare (s.regs a) (s.regs b) }
  | jump direction target => .branch id (fun s => direction.taken s.flags) target
  | nothing => .effect id

/-! ### Reading lines -/

/-- The names of the general registers at full width. -/
def registers : Arch → List String
  | .x86 => ["eax", "ebx", "ecx", "edx", "esi", "edi", "ebp", "esp"]
  | .x8664 =>
    ["rax", "rbx", "rcx", "rdx", "rsi", "rdi", "rbp", "rsp", "r8", "r9", "r10", "r11", "r12", "r13", "r14", "r15"]
  | .armv7 => ["r0", "r1", "r2", "r3", "r4", "r5", "r6", "r7", "r8", "r9", "r10", "r11", "r12", "lr"]
  | .armv8 =>
    ["x0", "x1", "x2", "x3", "x4", "x5", "x6", "x7", "x8", "x9", "x10", "x11", "x12", "x13", "x14", "x15", "x16", "x17",
      "x18", "x19", "x20", "x21", "x22", "x23", "x24", "x25", "x26", "x27", "x28", "x29", "x30"]
  | _ => []

/-- The width of the general registers. -/
def width : Arch → Nat
  | .x86 | .armv7 => 32
  | _ => 64

/-- What starts a comment. -/
def commentMark : Arch → String
  | .armv7 => "@"
  | .armv8 => "//"
  | _ => "#"

/-- Whether arithmetic sets the flags. -/
def isFlagged : Arch → Bool
  | .x86 | .x8664 => true
  | _ => false

/-- A constant operand after what marks it as one. -/
def markedConstant? (mark text : String) : Option Int :=
  (Text.after? mark.toList text.toList).bind fun cs => Assembler.constant? (String.ofList cs)

section Decoding
variable (regs : List String)

/-- An instruction on one register and a number. -/
def onRegister (make : String → Int → Instr) (reg : String) (value : Option Int) : Option Instr :=
  if reg ∈ regs then value.map (make reg) else none

def decodeIntel : String → List String → Option Instr
  | "xor", [a, b] => if a ∈ regs ∧ b ∈ regs then some (.exclusiveOr a a b) else none
  | "mov", [r, v] => onRegister regs .set r (Assembler.constant? v)
  | "add", [r, v] => onRegister regs (fun r => .add r r) r (Assembler.constant? v)
  | "sub", [r, v] => onRegister regs (fun r => .subtract r r) r (Assembler.constant? v)
  | "cmp", [a, b] => if a ∈ regs ∧ b ∈ regs then some (.compare a b) else none
  | "jl", [target] => some (.jump .less target)
  | "jle", [target] => some (.jump .lessEqual target)
  | "jg", [target] => some (.jump .greater target)
  | "jge", [target] => some (.jump .greaterEqual target)
  | "je", [target] => some (.jump .equal target)
  | "jne", [target] => some (.jump .notEqual target)
  | ".align", [_] => some .nothing
  | _, _ => none

/-- What the two ARM machines have in common. -/
def decodeArmCommon : String → List String → Option Instr
  | "ldr", [r, v] => onRegister regs .set r (markedConstant? "=" v)
  | "add", [d, r, v] => if d ∈ regs then onRegister regs (.add d) r (markedConstant? "#" v) else none
  | "sub", [d, r, v] => if d ∈ regs then onRegister regs (.subtract d) r (markedConstant? "#" v) else none
  | "cmp", [a, b] => if a ∈ regs ∧ b ∈ regs then some (.compare a b) else none
  | ".align", [_] => some .nothing
  | _, _ => none

def decodeArm : String → List String → Option Instr
  | "eor", [d, a, b] => if d ∈ regs ∧ a ∈ regs ∧ b ∈ regs then some (.exclusiveOr d a b) else none
  | "blt", [target] => some (.jump .less target)
  | "ble", [target] => some (.jump .lessEqual target)
  | "bgt", [target] => some (.jump .greater target)
  | "bge", [target] => some (.jump .greaterEqual target)
  | "beq", [target] => some (.jump .equal target)
  | "bne", [target] => some (.jump .notEqual target)
  | mnemonic, operands => decodeArmCommon regs mnemonic operands

def decodeArm64 : String → List String → Option Instr
  | "mov", [r, "xzr"] => onRegister regs .set r (some 0)
  | "b.lt", [target] => some (.jump .less target)
  | "b.le", [target] => some (.jump .lessEqual target)
  | "b.gt", [target] => some (.jump .greater target)
  | "b.ge", [target] => some (.jump .greaterEqual target)
  | "b.eq", [target] => some (.jump .equal target)
  | "b.ne", [target] => some (.jump .notEqual target)
  | mnemonic, operands => decodeArmCommon regs mnemonic operands

end Decoding

def decode (arch : Arch) : String → List String → Option Instr :=
  match arch with
  | .x86 | .x8664 => decodeIntel (registers arch)
  | .armv7 => decodeArm (registers arch)
  | .armv8 => decodeArm64 (registers arch)
  | _ => fun _ _ => none

/-- What a line does; the lines that no loop is made of are left to `other`. -/
def read (arch : Arch) (other : String → Action (State w ρ)) (line : String) : Action (State w ρ) :=
  Assembler.read (commentMark arch) (fun m operands => (decode arch m operands).map (Instr.act (isFlagged arch))) other
    line

/-! ### The lines of a loop -/

/-- The targets whose loops compare and branch, without lanes. -/
def targets : List Arch := [.x86, .x8664, .armv7, .armv8]

/-- A line writes a register and no other. -/
def Sets (reg : String) (value : State w ρ → BitVec w) (action : Action (State w ρ)) : Prop :=
  ∃ f, action = .effect f ∧ ∀ s, (f s).regs = Function.update s.regs reg (value s)

section Lines
variable {arch : Arch} {dialect : Branching.Dialect} {other : String → Action (State w ρ)} {reg bound text : String}

theorem mem_targets : arch ∈ targets ↔ arch = .x86 ∨ arch = .x8664 ∨ arch = .armv7 ∨ arch = .armv8 := by
  simp [targets]

theorem targets_cases (harch : arch ∈ targets) (hdialect : arch.dialect? = some dialect) :
    (dialect = .intel ∧ commentMark arch = "#" ∧ decode arch = decodeIntel (registers arch)) ∨
      (arch = .armv7 ∧ dialect = .arm) ∨ (arch = .armv8 ∧ dialect = .arm64) := by
  rcases mem_targets.mp harch with rfl | rfl | rfl | rfl <;> cases hdialect
  · exact Or.inl ⟨rfl, rfl, rfl⟩
  · exact Or.inl ⟨rfl, rfl, rfl⟩
  · exact Or.inr (Or.inl ⟨rfl, rfl⟩)
  · exact Or.inr (Or.inr ⟨rfl, rfl⟩)

theorem isWord_register (hreg : reg ∈ registers arch) : Assembler.IsWord reg := by
  have hall : ∀ r ∈ registers arch, Assembler.IsWord r := by cases arch <;> decide
  exact hall reg hreg

theorem read_instruction {mnemonic operand : String} {operands : List String} {instr : Instr}
    (hmnemonic : Assembler.IsWord mnemonic) (hwords : ∀ w ∈ operand :: operands, Assembler.IsWord w)
    (hmark : (commentMark arch).toList.isPrefixOf mnemonic.toList = false)
    (hdecode : decode arch mnemonic (operand :: operands) = some instr) :
    read arch other (Assembler.instruction mnemonic (operand :: operands)) = instr.act (isFlagged arch) :=
  Assembler.read_instruction hmnemonic hwords hmark (by rw [hdecode]; rfl)

theorem read_clear (harch : arch ∈ targets) (hdialect : arch.dialect? = some dialect) (hreg : reg ∈ registers arch) :
    Sets reg (fun _ => 0) (read arch other (dialect.write (.clear reg))) := by
  have hword := isWord_register hreg
  have hxor : ∀ flagged, Sets reg (fun _ => 0) (Instr.act (w := w) (ρ := ρ) flagged (.exclusiveOr reg reg reg)) :=
    fun flagged => ⟨_, rfl, fun s => by simp [State.put]⟩
  rcases targets_cases harch hdialect with ⟨rfl, hmark, hdecode⟩ | ⟨rfl, rfl⟩ | ⟨rfl, rfl⟩
  · have htext : Branching.Dialect.intel.write (.clear reg) = Assembler.instruction "xor" [reg, reg] :=
      (Assembler.instruction_two "xor" reg reg).symm
    have hinstr : decode arch "xor" [reg, reg] = some (.exclusiveOr reg reg reg) := by
      rw [hdecode]
      exact if_pos ⟨hreg, hreg⟩
    rw [htext, read_instruction (by decide) (by simp [hword]) (by rw [hmark]; rfl) hinstr]
    exact hxor _
  · have htext : Branching.Dialect.arm.write (.clear reg) = Assembler.instruction "eor" [reg, reg, reg] :=
      (Assembler.instruction_three "eor" reg reg reg).symm
    have hinstr : decode .armv7 "eor" [reg, reg, reg] = some (.exclusiveOr reg reg reg) := if_pos ⟨hreg, hreg, hreg⟩
    rw [htext, read_instruction (by decide) (by simp [hword]) rfl hinstr]
    exact hxor _
  · have htext : Branching.Dialect.arm64.write (.clear reg) = Assembler.instruction "mov" [reg, "xzr"] := by
      rw [Assembler.instruction_two, String.append_assoc]
      rfl
    have hinstr : decode .armv8 "mov" [reg, "xzr"] = some (.set reg 0) := if_pos hreg
    rw [htext, read_instruction (by decide) (by simp [hword]; decide) rfl hinstr]
    exact ⟨_, rfl, fun s => by simp [State.put]⟩

theorem markedConstant?_eq (mark text : String) : markedConstant? mark (mark ++ text) = Assembler.constant? text := by
  rw [markedConstant?, Text.after?_eq_some_iff.mpr String.toList_append, Option.bind_some, String.ofList_toList]

theorem write_load_arm (hdialect : dialect = .arm ∨ dialect = .arm64) :
    dialect.write (.load reg text) = Assembler.instruction "ldr" [reg, "=" ++ text] := by
  have hmark : "ldr" ++ " " ++ reg ++ ", " ++ "=" = "ldr" ++ " " ++ reg ++ ", =" := String.append_assoc
  rw [Assembler.instruction_two, ← String.append_assoc, hmark]
  rcases hdialect with rfl | rfl <;> rfl

theorem read_load (harch : arch ∈ targets) (hdialect : arch.dialect? = some dialect) (hreg : reg ∈ registers arch)
    {n : Int} (hn : Assembler.constant? text = some n) :
    Sets reg (fun _ => BitVec.ofInt w n) (read arch other (dialect.write (.load reg text))) := by
  have hword := isWord_register hreg
  have htextWord := Assembler.isWord_of_constant? hn
  have hload : ∀ flagged, Sets reg (fun _ => BitVec.ofInt w n) (Instr.act (ρ := ρ) flagged (.set reg n)) :=
    fun flagged => ⟨_, rfl, fun _ => rfl⟩
  rcases targets_cases harch hdialect with ⟨rfl, hmark, hdecode⟩ | harm
  · have htext : Branching.Dialect.intel.write (.load reg text) = Assembler.instruction "mov" [reg, text] :=
      (Assembler.instruction_two "mov" reg text).symm
    have hinstr : decode arch "mov" [reg, text] = some (.set reg n) := by
      rw [hdecode, ← Option.map_some, ← hn]
      exact if_pos hreg
    rw [htext, read_instruction (by decide) (by simp [hword, htextWord]) (by rw [hmark]; rfl) hinstr]
    exact hload _
  · have hwords : ∀ v ∈ [reg, "=" ++ text], Assembler.IsWord v := by
      simp [hword, Assembler.isWord_append (show Assembler.IsWord "=" by decide) htextWord]
    have hinstr : decode arch "ldr" [reg, "=" ++ text] = some (.set reg n) := by
      rw [← Option.map_some, ← hn, ← markedConstant?_eq "="]
      rcases harm with ⟨h, -⟩ | ⟨h, -⟩ <;> rw [h] at hreg ⊢ <;> exact if_pos hreg
    have hmark : (commentMark arch).toList.isPrefixOf "ldr".toList = false := by
      rcases harm with ⟨h, -⟩ | ⟨h, -⟩ <;> rw [h] <;> rfl
    rw [write_load_arm (harm.imp And.right And.right), read_instruction (by decide) hwords hmark hinstr]
    exact hload _

theorem write_advance_arm (hdialect : dialect = .arm ∨ dialect = .arm64) (down : Bool) :
    dialect.write (.advance down reg text) =
      Assembler.instruction (if down then "sub" else "add") [reg, reg, "#" ++ text] := by
  have hmark : ∀ m : String, m ++ " " ++ reg ++ ", " ++ reg ++ ", " ++ "#" = m ++ " " ++ reg ++ ", " ++ reg ++ ", #" :=
    fun _ => String.append_assoc
  rw [Assembler.instruction_three, ← String.append_assoc, hmark]
  rcases hdialect with rfl | rfl <;>
  · show (if down then "sub" else "add") ++ (" " ++ reg ++ ", " ++ reg ++ ", #" ++ text) = _
    simp only [String.append_assoc]

/-- The number that the loop register moves by. -/
def advanceBy (down : Bool) (n : Int) (value : BitVec w) : BitVec w :=
  if down then value - BitVec.ofInt w n else value + BitVec.ofInt w n

theorem read_advance (harch : arch ∈ targets) (hdialect : arch.dialect? = some dialect) (hreg : reg ∈ registers arch)
    {n : Int} (hn : Assembler.constant? text = some n) (down : Bool) :
    Sets reg (fun s => advanceBy down n (s.regs reg)) (read arch other (dialect.write (.advance down reg text))) := by
  have hword := isWord_register hreg
  have htextWord := Assembler.isWord_of_constant? hn
  have hact : ∀ flagged, Sets reg (fun s => advanceBy down n (s.regs reg))
      (Instr.act (w := w) (ρ := ρ) flagged (if down then .subtract reg reg n else .add reg reg n)) := by
    intro flagged
    cases down <;> exact ⟨_, rfl, fun _ => rfl⟩
  have hmnemonic : Assembler.IsWord (if down then "sub" else "add") := by cases down <;> decide
  rcases targets_cases harch hdialect with ⟨rfl, hmark, hdecode⟩ | harm
  · have htext : Branching.Dialect.intel.write (.advance down reg text) =
        Assembler.instruction (if down then "sub" else "add") [reg, text] := by
      show (if down then "sub" else "add") ++ (" " ++ reg ++ ", " ++ text) = _
      simp only [Assembler.instruction_two, String.append_assoc]
    have hinstr : decode arch (if down then "sub" else "add") [reg, text] =
        some (if down then .subtract reg reg n else .add reg reg n) := by
      rw [hdecode]
      cases down <;> exact (if_pos hreg).trans (by rw [hn]; rfl)
    rw [htext, read_instruction hmnemonic (by simp [hword, htextWord]) (by rw [hmark]; cases down <;> rfl) hinstr]
    exact hact _
  · have hwords : ∀ v ∈ [reg, reg, "#" ++ text], Assembler.IsWord v := by
      simp [hword, Assembler.isWord_append (show Assembler.IsWord "#" by decide) htextWord]
    have hinstr : decode arch (if down then "sub" else "add") [reg, reg, "#" ++ text] =
        some (if down then .subtract reg reg n else .add reg reg n) := by
      rcases harm with ⟨h, -⟩ | ⟨h, -⟩ <;> rw [h] at hreg ⊢ <;> cases down <;>
        exact (if_pos hreg).trans ((if_pos hreg).trans (by rw [markedConstant?_eq, hn]; rfl))
    have hmark : (commentMark arch).toList.isPrefixOf (if down then "sub" else "add").toList = false := by
      rcases harm with ⟨h, -⟩ | ⟨h, -⟩ <;> rw [h] <;> cases down <;> rfl
    rw [write_advance_arm (harm.imp And.right And.right), read_instruction hmnemonic hwords hmark hinstr]
    exact hact _

theorem read_compare (harch : arch ∈ targets) (hdialect : arch.dialect? = some dialect) (hreg : reg ∈ registers arch)
    (hbound : bound ∈ registers arch) :
    read arch other (dialect.write (.compare reg bound)) =
      .effect fun s => { s with flags := .compare (s.regs reg) (s.regs bound) } := by
  have hwords : ∀ v ∈ [reg, bound], Assembler.IsWord v := by simp [isWord_register hreg, isWord_register hbound]
  have htext : dialect.write (.compare reg bound) = Assembler.instruction "cmp" [reg, bound] := by
    rw [Assembler.instruction_two]
    cases dialect <;> rfl
  have hinstr : decode arch "cmp" [reg, bound] = some (.compare reg bound) := by
    rcases targets_cases harch hdialect with ⟨-, -, hdecode⟩ | ⟨h, -⟩ | ⟨h, -⟩
    · rw [hdecode]
      exact if_pos ⟨hreg, hbound⟩
    · rw [h] at hreg hbound ⊢
      exact if_pos ⟨hreg, hbound⟩
    · rw [h] at hreg hbound ⊢
      exact if_pos ⟨hreg, hbound⟩
  have hmark : (commentMark arch).toList.isPrefixOf "cmp".toList = false := by cases arch <;> rfl
  rw [htext, read_instruction (by decide) hwords hmark hinstr]
  rfl

theorem read_branch (harch : arch ∈ targets) (hdialect : arch.dialect? = some dialect)
    (htext : Assembler.isSymbol text = true) (d : Direction) :
    read arch other (dialect.write (.branch d text)) = .branch id (fun s => d.taken s.flags) text := by
  have hwords : ∀ v ∈ [text], Assembler.IsWord v := by simp [Assembler.isWord_of_isSymbol htext]
  obtain ⟨mnemonic, hwrite, hword, hmark, hinstr⟩ : ∃ mnemonic,
      dialect.write (.branch d text) = Assembler.instruction mnemonic [text] ∧ Assembler.IsWord mnemonic ∧
      (commentMark arch).toList.isPrefixOf mnemonic.toList = false ∧
      decode arch mnemonic [text] = some (.jump d text) := by
    rcases targets_cases harch hdialect with ⟨rfl, hmark, hdecode⟩ | ⟨rfl, rfl⟩ | ⟨rfl, rfl⟩
    · refine ⟨d.intelJump, String.append_assoc.symm, ?_, ?_, ?_⟩
      · cases d <;> decide
      · rw [hmark]
        cases d <;> rfl
      · rw [hdecode]
        cases d <;> rfl
    · refine ⟨"b" ++ d.armCondition, String.append_assoc.symm, ?_, ?_, ?_⟩
      · cases d <;> decide
      · cases d <;> rfl
      · cases d <;> rfl
    · refine ⟨"b." ++ d.armCondition, String.append_assoc.symm, ?_, ?_, ?_⟩
      · cases d <;> decide
      · cases d <;> rfl
      · cases d <;> rfl
  rw [hwrite, read_instruction hword hwords hmark hinstr]
  rfl

theorem read_align (harch : arch ∈ targets) (hdialect : arch.dialect? = some dialect) :
    read arch other (dialect.write .align) = .effect id := by
  rcases mem_targets.mp harch with rfl | rfl | rfl | rfl <;> cases hdialect <;> rfl

theorem read_label (harch : arch ∈ targets) (htext : Assembler.isSymbol text = true) :
    read arch other (text ++ ":") = .label text := by
  refine Assembler.read_label htext ?_
  rcases mem_targets.mp harch with rfl | rfl | rfl | rfl <;> decide

theorem read_comment (harch : arch ∈ targets) (text : String) : read arch other (arch.comment text) = .effect id := by
  have hmark : arch.commentMark = commentMark arch := by
    rcases mem_targets.mp harch with rfl | rfl | rfl | rfl <;> rfl
  rw [Arch.comment, hmark]
  refine Assembler.read_comment ?_ text
  cases arch <;> decide

end Lines

end BenchKernel.CompareBranch
