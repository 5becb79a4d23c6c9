import BenchKernel.Grammar.Error

/-! # Markers

A marker is a line with a tag, an opening parenthesis right after it, and arguments up to the matching
closing parenthesis. Arguments are separated by the commas outside inner parentheses. -/

namespace BenchKernel.Marker

/-- Whether a line is a marker with a tag: after leading blanks, the tag and an opening parenthesis. -/
def isTagged (line tag : String) : Bool :=
  Text.startsWith (tag.toList ++ ['(']) (Text.trimStart line.toList)

/-- The text up to the parenthesis that closes `depth` inner ones and the one already open. -/
def untilClosed : (depth : Nat) → List Char → Option (List Char)
  | _, [] => none
  | depth, '(' :: cs => (untilClosed (depth + 1) cs).map ('(' :: ·)
  | 0, ')' :: _ => some []
  | depth + 1, ')' :: cs => (untilClosed depth cs).map (')' :: ·)
  | depth, c :: cs => (untilClosed depth cs).map (c :: ·)

/-- The text cut at its commas outside parentheses. A closing parenthesis without a partner changes no
    depth. -/
def splitArguments : (depth : Nat) → List Char → List (List Char)
  | _, [] => [[]]
  | depth, c :: cs =>
    if c = ',' ∧ depth = 0 then [] :: splitArguments 0 cs
    else
      let depth := if c = '(' then depth + 1 else if c = ')' then depth - 1 else depth
      match splitArguments depth cs with
      | [] => [[c]]
      | argument :: rest => (c :: argument) :: rest

/-- The arguments in the text between the parentheses. -/
def argumentsOf (inner : List Char) : List String :=
  if inner.all Text.isBlank then [] else (splitArguments 0 inner).map fun a => String.ofList (Text.trim a)

/-- The arguments of a line, from its first opening parenthesis on. -/
def arguments (line : String) : Except GrammarError (List String) :=
  match Text.cutAt? '(' line.toList with
  | none => .error (.malformedMarker line "missing opening parenthesis")
  | some (_, rest) =>
    match untilClosed 0 rest with
    | none => .error (.malformedMarker line "missing closing parenthesis")
    | some inner => .ok (argumentsOf inner)

/-- The register and the value of an argument `register=value`, cut at the first equals sign. -/
def binding (tag argument : String) : Except GrammarError (String × String) :=
  match Text.cutAt? '=' argument.toList with
  | none => .error (.registerBinding tag argument)
  | some (register, value) =>
    let register := Text.trim register
    let value := Text.trim value
    if register.isEmpty || value.isEmpty then .error (.registerBinding tag argument)
    else .ok (String.ofList register, String.ofList value)

end BenchKernel.Marker
