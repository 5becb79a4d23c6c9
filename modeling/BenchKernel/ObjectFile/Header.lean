import BenchKernel.Stream.Codec

/-! # Headers of object files

A 64-bit little-endian ELF file is read from its bytes with every access checked: what does not lie in the file
cannot be read. The header says where the tables of sections and of segments are. -/

namespace BenchKernel.ObjectFile

def slice? (file : ByteArray) (start length : Nat) : Option ByteArray :=
  if start + length ≤ file.size then some (file.extract start (start + length)) else none

/-- An unsigned number of some bytes, least significant first. -/
def number? (file : ByteArray) (start length : Nat) : Option Nat :=
  (slice? file start length).map fun bytes => Codec.ofBytes bytes.toList

structure Header where
  kind : Nat
  machine : Nat
  version : Nat
  programOffset : Nat
  sectionOffset : Nat
  programSize : Nat
  programCount : Nat
  sectionSize : Nat
  sectionCount : Nat
  nameIndex : Nat

/-- The bytes that start a 64-bit little-endian file of the current version. -/
def magic : List UInt8 := [0x7f, 0x45, 0x4c, 0x46, 2, 1, 1]

def header? (file : ByteArray) : Option Header := do
  let bytes ← slice? file 0 64
  guard ((bytes.extract 0 7).toList = magic)
  return {
    kind := ← number? file 16 2
    machine := ← number? file 18 2
    version := ← number? file 20 4
    programOffset := ← number? file 32 8
    sectionOffset := ← number? file 40 8
    programSize := ← number? file 54 2
    programCount := ← number? file 56 2
    sectionSize := ← number? file 58 2
    sectionCount := ← number? file 60 2
    nameIndex := ← number? file 62 2 }

end BenchKernel.ObjectFile
