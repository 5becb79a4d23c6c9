import BenchKernel.Text.Pieces
import BenchKernel.Text.Replace

/-! # Target architectures

The six targets, their names and the target triples that select them. -/

namespace BenchKernel

inductive Arch
  | x86
  | x8664
  | armv7
  | armv8
  | armv8Sve
  | ppc64
  deriving DecidableEq, Repr

namespace Arch

/-- Every target, in the order in which they are listed. -/
def all : List Arch := [x86, x8664, armv7, armv8, armv8Sve, ppc64]

def name : Arch → String
  | x86 => "x86"
  | x8664 => "x86-64"
  | armv7 => "armv7"
  | armv8 => "armv8"
  | armv8Sve => "armv8-sve"
  | ppc64 => "ppc64"

/-- Further names by which a target is known. -/
def aliases : List (String × Arch) :=
  [("x86_64", x8664), ("amd64", x8664), ("aarch64", armv8), ("arm64", armv8), ("aarch64-sve", armv8Sve),
    ("sve", armv8Sve), ("power", ppc64), ("ppc64le", ppc64)]

/-- The target of a name or alias, in any ASCII case and with blanks around it. -/
def ofName? (text : String) : Option Arch :=
  let key := Text.lowered (Text.trimmed text)
  match all.find? (fun arch => arch.name == key) with
  | some arch => some arch
  | none => aliases.lookup key

/-- The machine part of a target triple: the text before the first hyphen. -/
def machine (triple : String) : String :=
  match Text.cutAt? '-' triple.toList with
  | some (before, _) => String.ofList before
  | none => triple

/-- The target of a triple; `sve` selects the vector form of a 64-bit ARM machine. -/
def ofTriple? (triple : String) (sve : Bool) : Option Arch :=
  let m := machine triple
  if m ∈ ["x86_64", "amd64"] then some x8664
  else if m ∈ ["i386", "i486", "i586", "i686", "x86"] then some x86
  else if m ∈ ["aarch64", "arm64"] then some (if sve then armv8Sve else armv8)
  else if Text.startsWith "armv7".toList m.toList || Text.startsWith "thumbv7".toList m.toList || m == "arm" then
    some armv7
  else if m ∈ ["powerpc64", "powerpc64le", "ppc64", "ppc64le"] then some ppc64
  else none

def default : Arch := x8664

end Arch

end BenchKernel
