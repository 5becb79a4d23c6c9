import BenchKernel.Text.Utf8

/-! # Script files

A file that is no program of the machine can name the program that interprets it: its first line starts with `#!`,
followed by the path of the interpreter and at most one argument. Only the start of a file is looked at. -/

namespace BenchKernel.ScriptFile

def lookedAt : Nat := 256

def isBlank (c : Char) : Bool := c == ' ' || c == '\t'

def endsPath (c : Char) : Bool := isBlank c || c.toNat == 0

/-- The text between `#!` and the end of its line. Without a line end in sight the path of the interpreter has to
    have an end of its own. -/
def firstLine? (content : ByteArray) : Option (List Char) :=
  let start := (Text.ofBytes (content.extract 0 lookedAt)).toList
  let padded := start ++ List.replicate (lookedAt - start.length) (Char.ofNat 0)
  match padded with
  | '#' :: '!' :: rest =>
    let line := rest.takeWhile fun c => c != '\n' && c.toNat != 0
    if rest[line.length]? = some '\n' then some line
    else
      let path := (rest.dropLast.dropWhile isBlank)
      if path.any endsPath then some rest.dropLast else none
  | _ => none

/-- The interpreter that a file names, and its argument. -/
def interpreter? (content : ByteArray) : Option (String × Option String) :=
  match firstLine? content with
  | none => none
  | some line =>
    let line := ((line.dropWhile isBlank).reverse.dropWhile isBlank).reverse
    let path := line.takeWhile fun c => !endsPath c
    let rest := line.drop path.length
    if path.isEmpty then none
    else
      let argument :=
        match rest with
        | c :: _ =>
          if isBlank c then (rest.dropWhile isBlank).takeWhile (·.toNat != 0) else []
        | [] => []
      some (String.ofList path, if argument.isEmpty then none else some (String.ofList argument))

end BenchKernel.ScriptFile
