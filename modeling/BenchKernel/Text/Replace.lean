/-! # Replacing a key in a text

All occurrences of a key are found from left to right, without overlap, and replaced by one value. -/

namespace BenchKernel.Text

/-- What follows `key` at the start of a text, if the text starts with it. -/
def after? : (key cs : List Char) → Option (List Char)
  | [], cs => some cs
  | _ :: _, [] => none
  | k :: ks, c :: cs => if k = c then after? ks cs else none

def startsWith (key cs : List Char) : Bool := (after? key cs).isSome

def occurs (key : List Char) : List Char → Bool
  | [] => key.isEmpty
  | c :: cs => startsWith key (c :: cs) || occurs key cs

/-- Replaces the occurrences of a key that start after the next `skip` characters, which belong to an
    occurrence already replaced. -/
def replaceFrom (key value : List Char) : (skip : Nat) → List Char → List Char
  | _, [] => []
  | skip + 1, _ :: cs => replaceFrom key value skip cs
  | 0, c :: cs =>
    if startsWith key (c :: cs) then value ++ replaceFrom key value (key.length - 1) cs
    else c :: replaceFrom key value 0 cs

/-- Replaces every occurrence of a non-empty key. -/
def replaceAll (key value cs : List Char) : List Char := replaceFrom key value 0 cs

end BenchKernel.Text
