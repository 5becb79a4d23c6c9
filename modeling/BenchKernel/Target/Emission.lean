import BenchKernel.Target.Arch
import BenchKernel.Target.Branching
import BenchKernel.Target.Power

/-! # What each target emits

The register table of a target, the lines around a routine, the lines around a loop body and the lines that
load a stream's address. All lines are text for the GNU assembler. -/

namespace BenchKernel

/-- Stands in a routine's header where the stream addresses are loaded. -/
def streamMark : String := "#STREAM_POINTERS#"

namespace Arch

/-- The registers that a stream may be given, in the order in which they are given. -/
def registers : Arch → List String
  | x86 => ["eax", "ebx", "ecx", "edx", "esi", "edi"]
  | x8664 => ["rax", "rbx", "rcx", "rdx", "rsi", "rdi", "r8", "r9", "r10", "r11", "r12", "r13", "r14", "r15"]
  | armv7 => ["r0", "r1", "r2", "r3", "r4", "r5", "r6", "r7", "r8", "r9", "r10", "r12"]
  | armv8 | armv8Sve =>
    ["x0", "x1", "x2", "x3", "x4", "x5", "x6", "x7", "x8", "x9", "x10", "x11", "x12", "x13", "x14", "x15", "x16",
      "x17"]
  | ppc64 => ["r3", "r4", "r5", "r6", "r7", "r8", "r9", "r10", "r11", "r12"]

def stackPointer : Arch → String
  | x86 => "esp"
  | x8664 => "rsp"
  | armv7 | armv8 | armv8Sve => "sp"
  | ppc64 => "r1"

def framePointer : Arch → String
  | x86 => "ebp"
  | x8664 => "rbp"
  | armv7 => "r11"
  | armv8 | armv8Sve => "x29"
  | ppc64 => "r31"

def returnRegister? : Arch → Option String
  | x86 | x8664 => none
  | armv7 | ppc64 => some "lr"
  | armv8 | armv8Sve => some "x30"

def commentMark : Arch → String
  | x86 | x8664 | ppc64 => "#"
  | armv7 => "@"
  | armv8 | armv8Sve => "//"

def comment (arch : Arch) (text : String) : String := arch.commentMark ++ " " ++ text

/-- The compiler flags that a target needs. -/
def objectFlags : Arch → List String
  | x86 => ["-m32"]
  | armv8Sve => ["-march=armv8-a+sve"]
  | ppc64 => ["-Wa,-mregnames"]
  | x8664 | armv7 | armv8 => []

/-! ### The lines around a routine -/

/-- The registers that an Intel routine saves on entry. -/
def savedRegisters : Arch → List String
  | x86 => ["ebx", "esi", "edi"]
  | x8664 => ["rbx", "r12", "r13", "r14", "r15"]
  | _ => []

def intelPrologue (arch : Arch) (name : String) : List String :=
  [".intel_syntax noprefix", ".text", s!".globl {name}", s!".type {name}, @function", ".align 16", s!"{name}:",
    s!"push {arch.framePointer}", s!"mov {arch.framePointer}, {arch.stackPointer}"] ++
    arch.savedRegisters.map (fun r => s!"push {r}") ++ [streamMark]

def intelEpilogue (arch : Arch) (name : String) : List String :=
  arch.savedRegisters.reverse.map (fun r => s!"pop {r}") ++
    [s!"mov {arch.stackPointer}, {arch.framePointer}", s!"pop {arch.framePointer}", "ret",
      s!".size {name}, .-{name}", ".section .note.GNU-stack,\"\",@progbits"]

/-- The lines before a routine's body. The last one is the stream mark. -/
def header : Arch → (name : String) → List String
  | x86, name => intelPrologue x86 name
  | x8664, name => intelPrologue x8664 name
  | armv7, name =>
    [".text", ".arm", ".align 2", s!".global {name}", s!".type {name}, %function", s!"{name}:",
      "push \x7br4-r11, lr\x7d", streamMark]
  | armv8, name | armv8Sve, name =>
    [".text", ".align 4", s!".global {name}", s!".type {name}, %function", s!"{name}:", "stp x29, x30, [sp, -16]!",
      "mov x29, sp", streamMark]
  | ppc64, name =>
    [".abiversion 2", ".text", ".align 4", s!".globl {name}", s!".type {name}, @function", s!"{name}:",
      "std r31, -8(r1)", "mr r31, r1", streamMark]

def footer : Arch → (name : String) → List String
  | x86, name => intelEpilogue x86 name
  | x8664, name => intelEpilogue x8664 name
  | armv7, name =>
    ["pop \x7br4-r11, pc\x7d", s!".size {name}, .-{name}", ".section .note.GNU-stack,\"\",%progbits"]
  | armv8, name | armv8Sve, name =>
    ["ldp x29, x30, [sp], 16", "ret", s!".size {name}, .-{name}", ".section .note.GNU-stack,\"\",%progbits"]
  | ppc64, name =>
    ["ld r31, -8(r1)", "blr", s!".size {name}, .-{name}", ".section .note.GNU-stack,\"\",@progbits"]

/-! ### The lines around a loop -/

/-- A count register holds no (in)equality test. -/
def supports : Arch → Direction → Bool
  | ppc64, .equal | ppc64, .notEqual => false
  | _, _ => true

def dialect? : Arch → Option Branching.Dialect
  | x86 | x8664 => some .intel
  | armv7 => some .arm
  | armv8 | armv8Sve => some .arm64
  | ppc64 => none

/-- Whether loops use lane predicates where they can. -/
def isVector (arch : Arch) : Bool := arch == armv8Sve

def loopPrologue (arch : Arch) (l : Loop) : Except Fault (List String) :=
  match arch.dialect? with
  | some dialect => .ok ((Branching.header arch.isVector l).map dialect.write)
  | none => (Power.header l).map fun ops => ops.map Power.Op.write

def loopEpilogue (arch : Arch) (l : Loop) : List String :=
  match arch.dialect? with
  | some dialect => (Branching.footer arch.isVector l).map dialect.write
  | none => (Power.footer l).map Power.Op.write

def streamLoads (arch : Arch) (reg : String) (address : Nat) : List String :=
  let text := "0x" ++ Text.hexDigits address
  match arch with
  | x86 => [s!"mov {reg}, {text}"]
  | x8664 => [s!"movabs {reg}, {text}"]
  | armv7 | armv8 | armv8Sve => [s!"ldr {reg}, ={text}"]
  | ppc64 => (Power.loadAddress reg address).map Power.Op.write

end Arch

end BenchKernel
