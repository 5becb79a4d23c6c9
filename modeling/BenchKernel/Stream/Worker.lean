/-! # Workers

What one worker thread brings to a template: the address and the extents of each stream, its place in its
group, and what it reports about an iteration. -/

namespace BenchKernel

structure Placement where
  address : Nat
  extents : List Nat
  deriving DecidableEq, Repr

structure Worker where
  thread : Nat := 0
  group : Nat := 0
  threads : Nat := 1
  iterations : Nat := 1
  bytesPerIteration : Nat := 0
  streams : List Placement := []
  deriving DecidableEq, Repr

end BenchKernel
