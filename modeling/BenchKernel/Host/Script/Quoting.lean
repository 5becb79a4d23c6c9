import BenchKernel.Host.Script.Source

/-! # Texts as a shell would write them

Texts with the quotes that a shell needs to read them back. -/

namespace BenchKernel.Script

def escapeLetters : List (Char × Char) :=
  [('\x07', 'a'), ('\x08', 'b'), ('\x1b', 'E'), ('\x0c', 'f'), ('\n', 'n'), ('\r', 'r'), ('\t', 't'), ('\x0b', 'v')]

def isPrintable (c : Char) : Bool := 32 ≤ c.toNat && c.toNat < 127

variable (text : String)

/-- A text between quotes in which escapes count. -/
def escapedWord : String :=
  let escaped (c : Char) : String :=
    match escapeLetters.lookup c with
    | some letter => String.ofList ['\\', letter]
    | none =>
      if c = '\'' || c = '\\' then String.ofList ['\\', c]
      else if isPrintable c then String.singleton c
      else "\\" ++ Number.padded 8 3 c.toNat
  s!"$'{String.join (text.toList.map escaped)}'"

def quotedWord : String :=
  if text.toList.all isPrintable then "'" ++ "'\\''".intercalate ((Text.splitAt '\'' text.toList).map String.ofList) ++ "'"
  else escapedWord text

def isBareChar (c : Char) : Bool := c.isAlphanum || ['%', '+', '-', '.', '/', ':', '=', '@', '_'].contains c

def backslashed : String :=
  if text.isEmpty then "''"
  else if !text.toList.all isPrintable then escapedWord text
  else
    String.join (text.toList.zipIdx.map fun (c, i) =>
      if isBareChar c || (c = '~' && 0 < i) || (c = '#' && 0 < i) then String.singleton c else String.ofList ['\\', c])

def doubleQuoted : String :=
  if text.toList.all isPrintable then
    let special (c : Char) : Bool := c == '"' || c == '\\' || c == '$' || c.toNat == 96
    "\"" ++ String.join (text.toList.map fun c => if special c then String.ofList ['\\', c] else String.singleton c) ++ "\""
  else escapedWord text

/-- A word as traces show it. -/
def tracedWord : String :=
  if text.isEmpty then "''"
  else if !text.toList.all isPrintable then escapedWord text
  else
    let isBare (c : Char) : Bool := isBareChar c || ['#', '~', ',', '\x7b', '\x7d'].contains c
    let first := text.toList.head?
    if text.toList.all isBare && first != some '#' && first != some '~' && !text.toList.contains ',' then text else quotedWord text

def unquoted : (fuel : Nat) → List Char → List Char
  | 0, cs => cs
  | _ + 1, [] => []
  | fuel + 1, '\\' :: rest =>
    let (found, rest) := quotedEscape rest
    found ++ unquoted fuel rest
  | fuel + 1, c :: rest => c :: unquoted fuel rest

end BenchKernel.Script
