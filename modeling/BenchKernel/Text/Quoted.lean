import BenchKernel.Text.Blank
import BenchKernel.Text.Unprinted

/-! # Quoted text and the text of records

Reports show a text between double quotes, with the quote, the backslash and the usual controls escaped by
a backslash and other unprinted characters by their code point. A record shows as its name with its fields
between braces, a list between square brackets. -/

namespace BenchKernel.Text

/-- The digits of a number in base sixteen, in lower case. -/
def hexDigits (n : Nat) : String := String.ofList (Nat.toDigits 16 n)

/-- How one character stands in quoted text. -/
def escape (c : Char) : String :=
  if c = '"' then "\\\""
  else if c = '\\' then "\\\\"
  else if c = '\n' then "\\n"
  else if c = '\r' then "\\r"
  else if c = '\t' then "\\t"
  else if c.toNat = 0 then "\\0"
  else if inRanges unprintedRanges c.toNat then "\\u\x7b" ++ hexDigits c.toNat ++ "\x7d"
  else String.singleton c

def quoted (s : String) : String := "\"" ++ String.join (s.toList.map escape) ++ "\""

def showList (items : List String) : String := "[" ++ ", ".intercalate items ++ "]"

def quotedList (items : List String) : String := showList (items.map quoted)

def showRecord (name : String) (fields : List (String × String)) : String :=
  name ++ " \x7b " ++ ", ".intercalate (fields.map fun (field, value) => field ++ ": " ++ value) ++ " \x7d"

def showWrapped (name value : String) : String := name ++ "(" ++ value ++ ")"

end BenchKernel.Text
