/-! # Blank characters

A character is blank when it has the Unicode property `White_Space`. Trimming drops blank characters
from the ends of a text, splitting into words cuts at them. -/

namespace BenchKernel.Text

/-- The code points with the property `White_Space`, as closed ranges in increasing order. -/
def blankRanges : List (Nat × Nat) :=
  [(0x9, 0xD), (0x20, 0x20), (0x85, 0x85), (0xA0, 0xA0), (0x1680, 0x1680), (0x2000, 0x200A),
    (0x2028, 0x2029), (0x202F, 0x202F), (0x205F, 0x205F), (0x3000, 0x3000)]

/-- Whether a code point lies in one of the ranges. -/
def inRanges (ranges : List (Nat × Nat)) (n : Nat) : Bool :=
  ranges.any fun r => decide (r.1 ≤ n) && decide (n ≤ r.2)

def isBlank (c : Char) : Bool := inRanges blankRanges c.toNat

def trimStart (cs : List Char) : List Char := cs.dropWhile isBlank

def trimEnd (cs : List Char) : List Char := (cs.reverse.dropWhile isBlank).reverse

def trim (cs : List Char) : List Char := trimEnd (trimStart cs)

/-- The text without the blank characters at its two ends. -/
def trimmed (s : String) : String := String.ofList (trim s.toList)

def isBlankText (s : String) : Bool := s.toList.all isBlank

/-- The text with `A` to `Z` in lower case; no other character changes. -/
def lowered (s : String) : String := String.ofList (s.toList.map Char.toLower)

end BenchKernel.Text
