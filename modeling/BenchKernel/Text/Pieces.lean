import BenchKernel.Text.Blank

/-! # Pieces of a text

Cutting a text at the characters of a class gives one piece more than there are such characters. Lines,
words, list items and identifiers are all read from the pieces of some class. -/

namespace BenchKernel.Text

/-- The maximal runs of characters in `keep`, empty ones included: the text cut at every other character. -/
def pieces (keep : Char → Bool) : List Char → List (List Char)
  | [] => [[]]
  | c :: cs =>
    match pieces keep cs with
    | [] => [[]]
    | piece :: rest => if keep c then (c :: piece) :: rest else [] :: piece :: rest

def splitAt (sep : Char) (cs : List Char) : List (List Char) := pieces (· != sep) cs

def runs (keep : Char → Bool) (cs : List Char) : List (List Char) :=
  (pieces keep cs).filter fun piece => !piece.isEmpty

/-- The text before the first `sep` and the text after it. -/
def cutAt? (sep : Char) : List Char → Option (List Char × List Char)
  | [] => none
  | c :: cs => if c = sep then some ([], cs) else (cutAt? sep cs).map fun (a, b) => (c :: a, b)

/-- The words of a text: its maximal runs without blank characters. -/
def words (s : String) : List String :=
  (runs (fun c => !isBlank c) s.toList).map String.ofList

/-- A character of an identifier: an ASCII letter or digit, or an underscore. -/
def isWordChar (c : Char) : Bool := c.isAlphanum || c == '_'

/-- The identifiers of a text, in lower case. -/
def identifiers (s : String) : List String :=
  (runs isWordChar s.toList).map fun run => lowered (String.ofList run)

/-! ### Lines -/

/-- A line without one carriage return at its end. -/
def dropReturn (cs : List Char) : List Char :=
  if cs.getLast? = some '\r' then cs.dropLast else cs

/-- The lines among the pieces between newlines: a piece that a newline ends loses one carriage return
    before it, and an empty last piece is no line. -/
def linesOfPieces : List (List Char) → List (List Char)
  | [] => []
  | [last] => if last.isEmpty then [] else [last]
  | piece :: rest => dropReturn piece :: linesOfPieces rest

def lines (s : String) : List String :=
  (linesOfPieces (splitAt '\n' s.toList)).map String.ofList

/-- The text cut at every newline, carriage returns and empty pieces kept. -/
def newlinePieces (s : String) : List String := (splitAt '\n' s.toList).map String.ofList

def joinLines (ls : List String) : String := "\n".intercalate ls

end BenchKernel.Text
