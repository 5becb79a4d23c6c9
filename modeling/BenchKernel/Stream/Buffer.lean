import BenchKernel.Fault
import BenchKernel.Number.Reading
import BenchKernel.Stream.Codec
import BenchKernel.Stream.Worker
import BenchKernel.Template.Error

/-! # Stream buffers

A buffer holds the elements of a stream in bytes that start at an aligned address. Its storage has room for
one alignment step more than the elements need, and the elements lie behind an offset that aligns them. -/

namespace BenchKernel

/-- The elements of a buffer start at a multiple of this. -/
def bufferAlignment : Nat := 64

structure Buffer where
  type : ElementType
  extents : List Nat
  length : Nat
  address : Nat
  /-- Where the elements start in the storage. -/
  offset : Nat
  storage : List UInt8

namespace Buffer

/-- The distance from an address to the next multiple of the alignment. -/
def alignOffset (address : Nat) : Nat := (bufferAlignment - address % bufferAlignment) % bufferAlignment

/-- Multiplies extents from left to right, and fails as soon as a product is no word of 64 bits. -/
def elementCount? : (product : Nat) → List Nat → Option Nat
  | product, [] => some product
  | product, n :: rest => if Number.wordMax < product * n then none else elementCount? (product * n) rest

/-- The number of elements and the bytes of storage, where both are words. -/
def sizes? (type : ElementType) (extents : List Nat) : Option (Nat × Nat) := do
  let count ← elementCount? 1 extents
  let bytes := count * type.size
  guard (bytes ≤ Number.wordMax)
  let padded := bytes + bufferAlignment
  guard (padded ≤ Number.wordMax)
  return (count, padded)

/-- A buffer of zero bytes whose storage starts at `address`. -/
def allocate (address : Nat) (type : ElementType) (extents : List Nat) : Except (Stop SetupError) Buffer :=
  match sizes? type extents with
  | none => .error (.error (.streamTooLarge type extents))
  | some (count, padded) =>
    if Number.twoPow 63 ≤ padded then .error (.fault (.capacity padded))
    else
      .ok { type, extents, length := count, address, offset := alignOffset address,
            storage := List.replicate padded 0 }

def bytes (b : Buffer) : List UInt8 := (b.storage.drop b.offset).take (b.length * b.type.size)

/-- Puts bytes into the storage, from a position among the elements' bytes on. -/
def patch (b : Buffer) (position : Nat) (new : List UInt8) : Buffer :=
  let start := b.offset + position
  { b with storage := b.storage.take start ++ new ++ b.storage.drop (start + new.length) }

/-- Where an element starts among the bytes. An element beyond the last one is a fault, and so is one whose end is no
    word of 64 bits: a program is meant that is built with checks for overflow. Without them such an end would be taken
    modulo the word. -/
def position (b : Buffer) (index : Nat) : Except Fault Nat :=
  let stop := (index + 1) * b.type.size
  if Number.wordMax < stop ∨ b.bytes.length < stop then .error (.access index) else .ok (index * b.type.size)

def get (b : Buffer) (index : Nat) : Except Fault Double := do
  let start ← b.position index
  return Codec.read b.type ((b.bytes.drop start).take b.type.size)

def set (b : Buffer) (index : Nat) (value : Double) : Except Fault Buffer := do
  let start ← b.position index
  return b.patch start (Codec.write b.type value)

def readElements (type : ElementType) : (count : Nat) → List UInt8 → List Double
  | 0, _ => []
  | count + 1, bytes => Codec.read type (bytes.take type.size) :: readElements type count (bytes.drop type.size)

def elements (b : Buffer) : List Double := readElements b.type b.length b.bytes

def fill (b : Buffer) (value : Double) : Buffer :=
  b.patch 0 (List.replicate b.length (Codec.write b.type value)).flatten

def poke (b : Buffer) (index : Nat) (byte : UInt8) : Except Fault Buffer :=
  if b.bytes.length ≤ index then .error (.access index) else .ok (b.patch index [byte])

/-- What a thread is told about the buffer. -/
def placement (b : Buffer) : Placement := ⟨b.address + b.offset, b.extents⟩

end Buffer

end BenchKernel
