import BenchKernel.Proofs.Grammar.Tag
import BenchKernel.Proofs.Machine.Operand
import BenchKernel.Proofs.Target.Scaffold
import Mathlib.Data.BitVec

/-! # The POWER machine

The instructions that loops are made of on POWER, on registers of 64 bits, with the count register, the outcome of the
last comparison and the carry. Immediate operands are signed numbers of 16 bits, or one of the four fields of 16 bits
of a constant. All other lines are left open: what they do is given from outside. -/

namespace BenchKernel.Power
open Machine

/-! ### States -/

structure State (ρ : Type) where
  regs : String → BitVec 64
  /-- The count register. -/
  ctr : BitVec 64
  /-- The first field of the condition register. -/
  order : Ordering
  carry : Bool
  /-- Whatever else other instructions work on. -/
  rest : ρ

variable {ρ : Type}

def State.put (dst : String) (value : BitVec 64) (s : State ρ) : State ρ :=
  { s with regs := Function.update s.regs dst value }

/-! ### Instructions -/

inductive Instr
  | li (dst : String) (value : Int)
  | lis (dst : String) (field : BitVec 16)
  | ori (dst src : String) (field : BitVec 16)
  | oris (dst src : String) (field : BitVec 16)
  /-- Rotates by 32 bits and clears the low half. -/
  | shiftHigh (dst src : String)
  | mr (dst src : String)
  | subf (dst a b : String)
  | add (dst a b : String)
  | addic (dst src : String) (value : Int)
  | addi (dst src : String) (value : Int)
  | sradi (dst src : String) (shift : Nat)
  | divd (dst a b : String)
  | cmpdi (reg : String) (value : Int)
  | ble (target : String)
  | mtctr (reg : String)
  | bdnz (target : String)
  | nothing
  deriving DecidableEq

/-- What an instruction does. As a base of `addi`, register zero stands for the number zero. -/
def Instr.act : Instr → Action (State ρ)
  | li dst value => .effect fun s => s.put dst (BitVec.ofInt 64 value)
  | lis dst field => .effect fun s => s.put dst (field.signExtend 64 <<< 16)
  | ori dst src field => .effect fun s => s.put dst (s.regs src ||| field.setWidth 64)
  | oris dst src field => .effect fun s => s.put dst (s.regs src ||| field.setWidth 64 <<< 16)
  | shiftHigh dst src => .effect fun s => s.put dst ((s.regs src).rotateLeft 32 &&& BitVec.allOnes 64 <<< 32)
  | mr dst src => .effect fun s => s.put dst (s.regs src)
  | subf dst a b => .effect fun s => s.put dst (s.regs b - s.regs a)
  | add dst a b => .effect fun s => s.put dst (s.regs a + s.regs b)
  | addic dst src value => .effect fun s =>
    { s.put dst (s.regs src + BitVec.ofInt 64 value) with
      carry := BitVec.uaddOverflow (s.regs src) (BitVec.ofInt 64 value) }
  | addi dst src value => .effect fun s =>
    s.put dst ((if src = "r0" then 0 else s.regs src) + BitVec.ofInt 64 value)
  | sradi dst src shift => .effect fun s =>
    { s.put dst ((s.regs src).sshiftRight shift) with
      carry := (s.regs src).msb && (s.regs src).setWidth shift != 0 }
  | divd dst a b => .effect fun s => s.put dst ((s.regs a).sdiv (s.regs b))
  | cmpdi reg value => .effect fun s => { s with order := compare (s.regs reg).toInt value }
  | ble target => .branch id (fun s => s.order != .gt) target
  | mtctr reg => .effect fun s => { s with ctr := s.regs reg }
  | bdnz target => .branch (fun s => { s with ctr := s.ctr - 1 }) (fun s => s.ctr != 0) target
  | nothing => .effect id

/-! ### Reading lines -/

/-- The names of the general registers. -/
def registers : List String :=
  ["r0", "r1", "r2", "r3", "r4", "r5", "r6", "r7", "r8", "r9", "r10", "r11", "r12", "r13", "r14", "r15", "r16", "r17",
    "r18", "r19", "r20", "r21", "r22", "r23", "r24", "r25", "r26", "r27", "r28", "r29", "r30", "r31"]

/-- A signed immediate operand. -/
def immediate? (text : String) : Option Int :=
  (Assembler.constant? text).filter fun n => decide (-32768 ≤ n) && decide (n ≤ 32767)

/-- The field of a constant that starts at some bit. -/
def field (bit : Nat) (n : Int) : BitVec 16 := (BitVec.ofInt 64 n >>> bit).setWidth 16

/-- A field of a constant, asked for by what stands behind it. -/
def field? (behind : String) (bit : Nat) (text : String) : Option (BitVec 16) :=
  (Text.after? behind.toList.reverse text.toList.reverse).bind fun cs =>
    (Assembler.constant? (String.ofList cs.reverse)).map (field bit)

/-- A shift by less than the width. -/
def shift? (text : String) : Option Nat :=
  (Assembler.constant? text).bind fun n => if 0 ≤ n ∧ n < 64 then some n.toNat else none

/-- An instruction whose registers are general ones. -/
def onRegisters (regs : List String) (instr : Option Instr) : Option Instr :=
  if regs.all (· ∈ registers) then instr else none

def decode : String → List String → Option Instr
  | "li", [d, v] => onRegisters [d] ((immediate? v).map (.li d))
  | "lis", [d, v] => onRegisters [d] ((field? "@highest" 48 v).map (.lis d))
  | "ori", [d, r, v] =>
    onRegisters [d, r] (((field? "@higher" 32 v).map (.ori d r)).or ((field? "@l" 0 v).map (.ori d r)))
  | "oris", [d, r, v] => onRegisters [d, r] ((field? "@h" 16 v).map (.oris d r))
  | "rldicr", [d, r, "32", "31"] => onRegisters [d, r] (some (.shiftHigh d r))
  | "mr", [d, r] => onRegisters [d, r] (some (.mr d r))
  | "subf", [d, a, b] => onRegisters [d, a, b] (some (.subf d a b))
  | "add", [d, a, b] => onRegisters [d, a, b] (some (.add d a b))
  | "addic", [d, r, v] => onRegisters [d, r] ((immediate? v).map (.addic d r))
  | "addi", [d, r, v] => onRegisters [d, r] ((immediate? v).map (.addi d r))
  | "sradi", [d, r, v] => onRegisters [d, r] ((shift? v).map (.sradi d r))
  | "divd", [d, a, b] => onRegisters [d, a, b] (some (.divd d a b))
  | "cmpdi", [r, v] => onRegisters [r] ((immediate? v).map (.cmpdi r))
  | "ble", [target] => some (.ble target)
  | "mtctr", [r] => onRegisters [r] (some (.mtctr r))
  | "bdnz", [target] => some (.bdnz target)
  | ".align", [_] => some .nothing
  | _, _ => none

/-- What a line does; the lines that no loop is made of are left to `other`. -/
def read (other : String → Action (State ρ)) (line : String) : Action (State ρ) :=
  Assembler.read "#" (fun m operands => (decode m operands).map Instr.act) other line

/-! ### The lines of a loop -/

/-- The instruction that a line of a loop is. -/
inductive Means : Op → Instr → Prop
  | li {d : String} {n : Int} (hd : d ∈ registers) (hn : isShort n = true) : Means (.li d n) (.li d n)
  | lisHighest {d text : String} {n : Int} (hd : d ∈ registers) (hn : Assembler.constant? text = some n) :
      Means (.lisHighest d text) (.lis d (field 48 n))
  | oriHigher {d text : String} {n : Int} (hd : d ∈ registers) (hn : Assembler.constant? text = some n) :
      Means (.oriHigher d text) (.ori d d (field 32 n))
  | shiftHigh {d : String} (hd : d ∈ registers) : Means (.shiftHigh d) (.shiftHigh d d)
  | orisHigh {d text : String} {n : Int} (hd : d ∈ registers) (hn : Assembler.constant? text = some n) :
      Means (.orisHigh d text) (.oris d d (field 16 n))
  | oriLow {d text : String} {n : Int} (hd : d ∈ registers) (hn : Assembler.constant? text = some n) :
      Means (.oriLow d text) (.ori d d (field 0 n))
  | mr {d r : String} (hd : d ∈ registers) (hr : r ∈ registers) : Means (.mr d r) (.mr d r)
  | subf {d a b : String} (hd : d ∈ registers) (ha : a ∈ registers) (hb : b ∈ registers) :
      Means (.subf d a b) (.subf d a b)
  | add {d a b : String} (hd : d ∈ registers) (ha : a ∈ registers) (hb : b ∈ registers) :
      Means (.add d a b) (.add d a b)
  | addic {d r : String} {n : Int} (hd : d ∈ registers) (hr : r ∈ registers) (hn : isShort n = true) :
      Means (.addic d r n) (.addic d r n)
  | addi {d r text : String} {n : Int} (hd : d ∈ registers) (hr : r ∈ registers)
      (hn : Assembler.constant? text = some n) (hshort : isShort n = true) : Means (.addi d r text) (.addi d r n)
  | sradi {d r : String} {k : Nat} (hd : d ∈ registers) (hr : r ∈ registers) (hk : k < 64) :
      Means (.sradi d r k) (.sradi d r k)
  | divd {d a b : String} (hd : d ∈ registers) (ha : a ∈ registers) (hb : b ∈ registers) :
      Means (.divd d a b) (.divd d a b)
  | cmpdi {r : String} {n : Int} (hr : r ∈ registers) (hn : isShort n = true) : Means (.cmpdi r n) (.cmpdi r n)
  | ble {target : String} (h : Assembler.isSymbol target = true) : Means (.ble target) (.ble target)
  | mtctr {r : String} (hr : r ∈ registers) : Means (.mtctr r) (.mtctr r)
  | bdnz {target : String} (h : Assembler.isSymbol target = true) : Means (.bdnz target) (.bdnz target)
  | align : Means .align .nothing

/-! ### Lines as words -/

def Op.mnemonic : Op → String
  | .li _ _ => "li"
  | .lisHighest _ _ => "lis"
  | .oriHigher _ _ | .oriLow _ _ => "ori"
  | .shiftHigh _ => "rldicr"
  | .orisHigh _ _ => "oris"
  | .mr _ _ => "mr"
  | .subf _ _ _ => "subf"
  | .add _ _ _ => "add"
  | .addic _ _ _ => "addic"
  | .addi _ _ _ => "addi"
  | .sradi _ _ _ => "sradi"
  | .divd _ _ _ => "divd"
  | .cmpdi _ _ => "cmpdi"
  | .ble _ => "ble"
  | .mtctr _ => "mtctr"
  | .bdnz _ => "bdnz"
  | .align => ".align"
  | .label name => name

def Op.operands : Op → List String
  | .li d n => [d, toString n]
  | .lisHighest d text => [d, text ++ "@highest"]
  | .oriHigher d text => [d, d, text ++ "@higher"]
  | .shiftHigh d => [d, d, "32", "31"]
  | .orisHigh d text => [d, d, text ++ "@h"]
  | .oriLow d text => [d, d, text ++ "@l"]
  | .mr d r => [d, r]
  | .subf d a b | .add d a b | .divd d a b => [d, a, b]
  | .addic d r n => [d, r, toString n]
  | .addi d r text => [d, r, text]
  | .sradi d r k => [d, r, toString k]
  | .cmpdi r n => [r, toString n]
  | .ble target | .bdnz target => [target]
  | .mtctr r => [r]
  | .align => ["4"]
  | .label _ => []

theorem write_eq {op : Op} (h : op.isLabel = false) : op.write = Assembler.instruction op.mnemonic op.operands := by
  cases op with
  | li d n => exact (Assembler.instruction_two "li" d (toString n)).symm
  | lisHighest d text =>
    rw [Op.operands, Assembler.instruction_two, ← String.append_assoc]
    rfl
  | oriHigher d text =>
    rw [Op.operands, Assembler.instruction_three, ← String.append_assoc]
    rfl
  | shiftHigh d =>
    show "rldicr " ++ d ++ ", " ++ d ++ ", 32, 31" = _
    simp [Op.mnemonic, Op.operands, Assembler.instruction, String.append_assoc]
  | orisHigh d text =>
    rw [Op.operands, Assembler.instruction_three, ← String.append_assoc]
    rfl
  | oriLow d text =>
    rw [Op.operands, Assembler.instruction_three, ← String.append_assoc]
    rfl
  | mr d r => exact (Assembler.instruction_two "mr" d r).symm
  | subf d a b => exact (Assembler.instruction_three "subf" d a b).symm
  | add d a b => exact (Assembler.instruction_three "add" d a b).symm
  | addic d r n => exact (Assembler.instruction_three "addic" d r (toString n)).symm
  | addi d r text => exact (Assembler.instruction_three "addi" d r text).symm
  | sradi d r k => exact (Assembler.instruction_three "sradi" d r (toString k)).symm
  | divd d a b => exact (Assembler.instruction_three "divd" d a b).symm
  | cmpdi r n => exact (Assembler.instruction_two "cmpdi" r (toString n)).symm
  | ble target => rfl
  | mtctr r => rfl
  | bdnz target => rfl
  | align => rfl
  | label name => cases h

/-! ### Reading a line back -/

section Lines
variable {other : String → Action (State ρ)} {op : Op} {instr : Instr} {regs : List String} {r text : String} {n : Int}

theorem isWord_register (h : r ∈ registers) : Assembler.IsWord r := by
  have hall : ∀ r ∈ registers, Assembler.IsWord r := by decide
  exact hall r h

theorem isWord_number (n : Int) : Assembler.IsWord n.repr :=
  Assembler.isWord_of_constant? (Assembler.constant?_toString n)

theorem isWord_shift (k : Nat) : Assembler.IsWord k.repr :=
  Assembler.isWord_of_constant? (Assembler.constant?_toString_nat k)

theorem isWord_field (h : Assembler.constant? text = some n) {behind : String} (hbehind : Assembler.IsWord behind) :
    Assembler.IsWord (text ++ behind) :=
  Assembler.isWord_append (Assembler.isWord_of_constant? h) hbehind

theorem onRegisters_eq (h : ∀ r ∈ regs, r ∈ registers) (instr : Option Instr) : onRegisters regs instr = instr := by
  rw [onRegisters, if_pos (List.all_eq_true.mpr fun r hr => decide_eq_true (h r hr))]

theorem onRegisters_immediate (hregs : ∀ r ∈ regs, r ∈ registers) (h : Assembler.constant? text = some n)
    (hn : isShort n = true) (instr : Int → Instr) :
    onRegisters regs ((immediate? text).map instr) = some (instr n) := by
  have himmediate : immediate? text = some n := by
    rw [immediate?, h]
    exact if_pos hn
  rw [onRegisters_eq hregs, himmediate, Option.map_some]

theorem field?_append (h : Assembler.constant? text = some n) (behind : String) (bit : Nat) :
    field? behind bit (text ++ behind) = some (field bit n) := by
  have hrev : (text ++ behind).toList.reverse = behind.toList.reverse ++ text.toList.reverse := by simp
  rw [field?, Text.after?_eq_some_iff.mpr hrev, Option.bind_some, List.reverse_reverse, String.ofList_toList, h]
  rfl

theorem shift?_eq {k : Nat} (h : k < 64) : shift? (toString k) = some k := by
  rw [shift?, Assembler.constant?_toString_nat, Option.bind_some, if_pos ⟨by omega, by omega⟩, Int.toNat_natCast]

theorem isLabel_of_means (h : Means op instr) : op.isLabel = false := by
  cases h <;> rfl

theorem isWord_mnemonic (h : op.isLabel = false) :
    Assembler.IsWord op.mnemonic ∧ "#".toList.isPrefixOf op.mnemonic.toList = false := by
  cases op with
  | label _ => cases h
  | _ =>
    simp only [Op.mnemonic]
    decide

theorem isWord_operands (h : Means op instr) : ∀ w ∈ op.operands, Assembler.IsWord w := by
  cases h with
  | li hd => simp [Op.operands, isWord_register hd, isWord_number]
  | lisHighest hd hn =>
    simp [Op.operands, isWord_register hd, isWord_field hn (show Assembler.IsWord "@highest" by decide)]
  | oriHigher hd hn =>
    simp [Op.operands, isWord_register hd, isWord_field hn (show Assembler.IsWord "@higher" by decide)]
  | shiftHigh hd =>
    simp [Op.operands, isWord_register hd, show Assembler.IsWord "32" by decide, show Assembler.IsWord "31" by decide]
  | orisHigh hd hn => simp [Op.operands, isWord_register hd, isWord_field hn (show Assembler.IsWord "@h" by decide)]
  | oriLow hd hn => simp [Op.operands, isWord_register hd, isWord_field hn (show Assembler.IsWord "@l" by decide)]
  | mr hd hr => simp [Op.operands, isWord_register hd, isWord_register hr]
  | subf hd ha hb => simp [Op.operands, isWord_register hd, isWord_register ha, isWord_register hb]
  | add hd ha hb => simp [Op.operands, isWord_register hd, isWord_register ha, isWord_register hb]
  | addic hd hr => simp [Op.operands, isWord_register hd, isWord_register hr, isWord_number]
  | addi hd hr hn => simp [Op.operands, isWord_register hd, isWord_register hr, Assembler.isWord_of_constant? hn]
  | sradi hd hr => simp [Op.operands, isWord_register hd, isWord_register hr, isWord_shift]
  | divd hd ha hb => simp [Op.operands, isWord_register hd, isWord_register ha, isWord_register hb]
  | cmpdi hr => simp [Op.operands, isWord_register hr, isWord_number]
  | ble h => simp [Op.operands, Assembler.isWord_of_isSymbol h]
  | mtctr hr => simp [Op.operands, isWord_register hr]
  | bdnz h => simp [Op.operands, Assembler.isWord_of_isSymbol h]
  | align => simp [Op.operands, show Assembler.IsWord "4" by decide]

theorem decode_words (h : Means op instr) : decode op.mnemonic op.operands = some instr := by
  cases h with
  | li hd hn => exact onRegisters_immediate (by simp [hd]) (Assembler.constant?_toString _) hn _
  | lisHighest hd hn =>
    refine (onRegisters_eq (by simp [hd]) _).trans ?_
    rw [field?_append hn, Option.map_some]
  | oriHigher hd hn =>
    refine (onRegisters_eq (by simp [hd]) _).trans ?_
    rw [field?_append hn]
    rfl
  | shiftHigh hd => exact onRegisters_eq (by simp [hd]) _
  | orisHigh hd hn =>
    refine (onRegisters_eq (by simp [hd]) _).trans ?_
    rw [field?_append hn, Option.map_some]
  | @oriLow d text n hd hn =>
    have hhigher : field? "@higher" 32 (text ++ "@l") = none := by simp [field?, Text.after?]
    refine (onRegisters_eq (by simp [hd]) _).trans ?_
    rw [hhigher, field?_append hn]
    rfl
  | mr hd hr => exact onRegisters_eq (by simp [hd, hr]) _
  | subf hd ha hb => exact onRegisters_eq (by simp [hd, ha, hb]) _
  | add hd ha hb => exact onRegisters_eq (by simp [hd, ha, hb]) _
  | addic hd hr hn => exact onRegisters_immediate (by simp [hd, hr]) (Assembler.constant?_toString _) hn _
  | addi hd hr hn hshort => exact onRegisters_immediate (by simp [hd, hr]) hn hshort _
  | sradi hd hr hk =>
    refine (onRegisters_eq (by simp [hd, hr]) _).trans ?_
    rw [shift?_eq hk, Option.map_some]
  | divd hd ha hb => exact onRegisters_eq (by simp [hd, ha, hb]) _
  | cmpdi hr hn => exact onRegisters_immediate (by simp [hr]) (Assembler.constant?_toString _) hn _
  | ble h => rfl
  | mtctr hr => exact onRegisters_eq (by simp [hr]) _
  | bdnz h => rfl
  | align => rfl

theorem read_write (h : Means op instr) : read other op.write = instr.act := by
  have hlabel := isLabel_of_means h
  have hdecode := decode_words h
  obtain ⟨hmnemonic, hmark⟩ := isWord_mnemonic hlabel
  obtain ⟨operand, operands, hoperands⟩ : ∃ operand operands, op.operands = operand :: operands := by
    cases h <;> exact ⟨_, _, rfl⟩
  have hwords := isWord_operands h
  rw [hoperands] at hdecode hwords
  rw [write_eq hlabel, hoperands]
  exact Assembler.read_instruction hmnemonic hwords hmark (by rw [hdecode]; rfl)

theorem read_label {name : String} (h : Assembler.isSymbol name = true) : read other (name ++ ":") = .label name :=
  Assembler.read_label h (by decide)

theorem read_comment (text : String) : read other (Arch.ppc64.comment text) = .effect id :=
  Assembler.read_comment (by decide) text

end Lines

end BenchKernel.Power
