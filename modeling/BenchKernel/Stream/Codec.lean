import BenchKernel.Number.Binary
import BenchKernel.Template.Basic

/-! # Element codecs

Elements are written and read as doubles, given by their words. Each element type has a codec that turns a
double into the element's bytes, least significant first, and back. -/

namespace BenchKernel

structure Double where
  bits : UInt64
  deriving DecidableEq, Repr

namespace Codec

/-- The `count` low bytes of a number, least significant first. -/
def toBytes : (count : Nat) → Nat → List UInt8
  | 0, _ => []
  | count + 1, n => UInt8.ofNat n :: toBytes count (n / 256)

def ofBytes : List UInt8 → Nat
  | [] => 0
  | b :: rest => b.toNat + 256 * ofBytes rest

def signedWord (bits : Nat) (n : Int) : Nat := (n % Int.ofNat (Number.twoPow bits)).toNat

def signedValue (bits word : Nat) : Int :=
  if word < Number.twoPow (bits - 1) then Int.ofNat word else Int.ofNat word - Int.ofNat (Number.twoPow bits)

open Number in
def store (type : ElementType) (d : Double) : Nat :=
  let value := binary64.decode d.bits.toNat
  match type with
  | .int => signedWord 32 (value.toSigned 32)
  | .int64 => signedWord 64 (value.toSigned 64)
  | .float => binary64.convert binary32 d.bits.toNat
  | .double => d.bits.toNat

open Number in
def fetch (type : ElementType) (word : Nat) : Double :=
  match type with
  | .int => ⟨UInt64.ofNat (binary64.ofInt (signedValue 32 word))⟩
  | .int64 => ⟨UInt64.ofNat (binary64.ofInt (signedValue 64 word))⟩
  | .float => ⟨UInt64.ofNat (binary32.convert binary64 word)⟩
  | .double => ⟨UInt64.ofNat word⟩

def write (type : ElementType) (d : Double) : List UInt8 := toBytes type.size (store type d)

def read (type : ElementType) (bytes : List UInt8) : Double := fetch type (ofBytes bytes)

end Codec

end BenchKernel
