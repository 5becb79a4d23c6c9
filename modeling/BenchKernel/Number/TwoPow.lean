/-! # Powers of two

The number of words of a given width. -/

namespace BenchKernel.Number

def twoPow (bits : Nat) : Nat := Nat.pow 2 bits

end BenchKernel.Number
