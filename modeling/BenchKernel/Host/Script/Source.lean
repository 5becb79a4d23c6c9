import BenchKernel.Host.Script.Tree
import BenchKernel.Number.Reading
import BenchKernel.Text.Utf8

/-! # The text of a shell script

A script that is being read, and what stands at the start of a text that is left: names, operators, escapes. -/

namespace BenchKernel.Script

/-- Why a script cannot be read, and whether its line is shown. -/
structure ReadFault where
  line : Nat
  texts : List String
  shows : Bool := false
  deriving DecidableEq, Repr

/-- A document that has been announced. -/
structure AwaitedDocument where
  index : Nat
  mark : String
  quoted : Bool
  dropTabs : Bool
  line : Nat
  deriving DecidableEq, Repr

/-- What is left of a script, and what has been learnt from it. -/
structure Source where
  rest : List Char
  line : Nat := 1
  isFile : Bool := false
  label : String := ""
  pushed : Option Token := none
  awaited : List AwaitedDocument := []
  documents : List (Nat × Word) := []
  nextDocument : Nat := 0
  aliases : List (String × String) := []
  /-- The aliases that have been replaced, and what was left to read then. An alias is not replaced within its own
      text. -/
  replaced : List (String × Nat) := []
  /-- What was left to read after the text of an alias that ends in a blank: the word after it may be an alias too. -/
  followed : Option Nat := none
  dialect : Dialect := .plain
  groups : Bool := false
  assignable : Bool := false
  /-- The last token as it is written, and what was left to read when it started. -/
  token : List Char := []
  tokenStart : Nat := 0
  warnings : List (Nat × String) := []

abbrev Read := StateT Source (Except ReadFault)

def fault {α : Type} (text : String) : Read α := do throw ⟨(← get).line, ["Syntax error: " ++ text], false⟩

def isExtended : Read Bool := do return (← get).dialect = .extended

def ticked (text : String) : String := String.ofList (Char.ofNat 96 :: text.toList ++ ['\''])

/-- The fault that a closing character is missing. -/
def unclosed {α : Type} (line : Nat) (closing text : String) : Read α := do
  if ← isExtended then throw ⟨line, ["unexpected EOF while looking for matching " ++ ticked closing], false⟩
  else fault text

/-- The fault that a token cannot stand there. -/
def unexpected {α : Type} (t : Token) (expected : Option String) : Read α := do
  if ← isExtended then
    let s ← get
    match t with
    | .eof => throw ⟨s.line, ["syntax error: unexpected end of file"], false⟩
    | .newline => throw ⟨s.line - 1, ["syntax error near unexpected token " ++ ticked "newline"], true⟩
    | _ => throw ⟨s.line, ["syntax error near unexpected token " ++ ticked (String.ofList s.token)], true⟩
  else
    let wanted := (expected.map fun text => s!" (expecting {text})").getD ""
    fault (String.ofList ((s!"{t.shown} unexpected{wanted}").toList.take 63))

def dropChars (count : Nat) : Read Unit := modify fun s =>
  { s with rest := s.rest.drop count, line := s.line + (s.rest.take count).count '\n' }

/-- A text after the broken line ends at its start, and their number. -/
def afterContinuations : List Char → List Char × Nat
  | '\\' :: '\n' :: rest =>
    let (rest, lines) := afterContinuations rest
    (rest, lines + 1)
  | rest => (rest, 0)

def peek : Read (Option Char) := do
  let s ← get
  let (rest, lines) := afterContinuations s.rest
  set { s with rest := rest, line := s.line + lines }
  return rest.head?

def putBack (t : Token) : Read Unit := modify fun s => { s with pushed := some t }

/-- Where a part of a word stands. -/
inductive Region
  | word
  | mark
  | braces
  | quotes
  | quotedBraces (inDocument : Bool)
  | document
  | formula (depth : Nat)
  | bracesTo (stop : Char)
  /-- Between brackets after a name, with the number of brackets that are open. -/
  | subscript (depth : Nat)
  /-- Between the parentheses of a pattern, with the number of those that are open. -/
  | group (depth : Nat)
  /-- The word of a regular expression, with the number of parentheses that are open. -/
  | regex (depth : Nat)
  deriving DecidableEq, Repr

def Region.isQuoted : Region → Bool
  | word | mark | braces | bracesTo _ | subscript _ | group _ | regex _ => false
  | quotes | quotedBraces _ | document | formula _ => true

def Region.inBraces (r : Region) (pattern : Bool) : Region :=
  if r.isQuoted && !pattern then .quotedBraces (r == .document || r == .quotedBraces true) else .braces

def endsWord (c : Char) : Bool := [' ', '\t', '\n', ';', '&', '|', '(', ')', '<', '>'].contains c

/-- Whether a backslash quotes a character. -/
def Region.escapes (r : Region) (c : Char) : Bool :=
  !r.isQuoted || c == '\\' || c == '$' || c.toNat == 96 || (c == '"' && r != .document) ||
    (c == '\x7d' && (r == .quotedBraces true || r == .quotedBraces false))

def markQuoted (parts : List Part) : List Part :=
  match parts with
  | .text true _ :: _ => parts
  | _ => .text true "" :: parts

/-- What stands at the start of an expansion between braces. -/
structure BraceHead where
  parameter : Parameter
  change : Word → Change
  isPattern : Bool := false
  closed : Bool := false
  rest : List Char

def BraceHead.bad (parameter : Parameter) (cs : List Char) : BraceHead :=
  ⟨parameter, fun _ => .bad "", false, false, if cs.head? = some '\x7d' then cs else cs.drop 1⟩

/-- Reads what follows a parameter between braces. -/
def readChange (parameter : Parameter) (cs : List Char) : BraceHead :=
  let cut (make : Bool → Word → Change) (longest : Bool) (rest : List Char) : BraceHead :=
    ⟨parameter, make longest, true, false, rest⟩
  let other (orEmpty : Bool) (cs : List Char) : Option BraceHead :=
    match cs with
    | '-' :: rest => some ⟨parameter, .otherwise orEmpty, false, false, rest⟩
    | '=' :: rest => some ⟨parameter, .assign orEmpty, false, false, rest⟩
    | '?' :: rest => some ⟨parameter, .require orEmpty, false, false, rest⟩
    | '+' :: rest => some ⟨parameter, .instead orEmpty, false, false, rest⟩
    | _ => none
  match cs with
  | '\x7d' :: rest => ⟨parameter, fun _ => .keep, false, true, rest⟩
  | '%' :: '%' :: rest => cut .cutEnd true rest
  | '%' :: rest => cut .cutEnd false rest
  | '#' :: '#' :: rest => cut .cutStart true rest
  | '#' :: rest => cut .cutStart false rest
  | ':' :: '\x7d' :: rest => ⟨parameter, .before, false, false, rest⟩
  | ':' :: rest => (other true rest).getD (.bad parameter rest)
  | _ => (other false cs).getD (.bad parameter cs)

def readParameter? (cs : List Char) : Option (Parameter × List Char) :=
  match cs with
  | [] => none
  | c :: rest =>
    if isNameStart c then some (.variable (String.ofList (cs.takeWhile Text.isWordChar)), cs.dropWhile Text.isWordChar)
    else if c.isDigit then
      (number? (cs.takeWhile Char.isDigit)).map fun index => (.positional index, cs.dropWhile Char.isDigit)
    else (specialParameter? c).map fun parameter => (parameter, rest)

def readBraceHead (cs : List Char) : BraceHead :=
  let length (cs : List Char) : Option BraceHead :=
    match readParameter? cs with
    | some (parameter, '\x7d' :: rest) => some ⟨parameter, fun _ => .length, false, true, rest⟩
    | _ => none
  let plain : BraceHead :=
    match readParameter? cs with
    | some (parameter, rest) => readChange parameter rest
    | none => .bad (.variable "") cs
  match cs with
  | '#' :: c :: rest =>
    if c == '\x7d' then plain
    else if Text.isWordChar c then (length (c :: rest)).getD ⟨.variable "", fun _ => .bad "", false, false, c :: rest⟩
    else (length (c :: rest)).getD plain
  | _ => plain

def readRedirection (d : Dialect) (cs : List Char) : String × List Char :=
  match cs with
  | '<' :: '<' :: '<' :: rest => if d = .extended then ("<<<", rest) else ("<<", '<' :: rest)
  | '>' :: '>' :: rest => (">>", rest)
  | '>' :: '|' :: rest => (">|", rest)
  | '>' :: '&' :: rest => (">&", rest)
  | '>' :: rest => (">", rest)
  | '<' :: '<' :: '-' :: rest => ("<<-", rest)
  | '<' :: '<' :: rest => ("<<", rest)
  | '<' :: '&' :: rest => ("<&", rest)
  | '<' :: '>' :: rest => ("<>", rest)
  | '<' :: rest => ("<", rest)
  | rest => ("", rest)

def redirectionOf (number : Option Nat) (operator : String) (target : Word) : Redirection :=
  let output := number.getD 1
  let input := number.getD 0
  if operator = ">" then .file output .write target
  else if operator = ">>" then .file output .append target
  else if operator = ">|" then .file output .overwrite target
  else if operator = ">&" then .duplicate output number.isNone target
  else if operator = "<&" then .duplicate input false target
  else if operator = "<<<" then .string input target
  else if operator = "&>" then .both false target
  else if operator = "&>>" then .both true target
  else if operator = "<>" then .file input .readWrite target
  else .file input .read target

/-- The text up to a closing grave accent, and what follows it. -/
def backquoted (inQuotes : Bool) : List Char → List Char → Option (List Char × List Char)
  | _, [] => none
  | read, '\\' :: '\n' :: rest => backquoted inQuotes read rest
  | read, '\\' :: c :: rest =>
    let escaped := c == '\\' || c == '$' || c.toNat == 96 || (inQuotes && c == '"')
    backquoted inQuotes (if escaped then c :: read else c :: '\\' :: read) rest
  | read, c :: rest => if c.toNat = 96 then some (read.reverse, rest) else backquoted inQuotes (c :: read) rest

/-- The lines of a document up to the one that ends it, the text after that line, and whether it came. A line end
    after a backslash does not end a line of a document with expansions. -/
def documentLines (d : AwaitedDocument) :
    (fuel : Nat) → (continued : Bool) → List Char → List Char × List Char × Bool
  | 0, _, cs => ([], cs, false)
  | fuel + 1, continued, cs =>
    if cs.isEmpty then ([], [], false)
    else
      let line := cs.takeWhile (· != '\n')
      let ended := line.length < cs.length
      let rest := cs.drop (line.length + 1)
      let line := if d.dropTabs && !continued then line.dropWhile (· == '\t') else line
      if !continued && String.ofList line = d.mark then ([], rest, true)
      else
        let open' := !d.quoted && (line.reverse.takeWhile (· == '\\')).length % 2 == 1
        let (others, rest, isEnded) := documentLines d fuel open' rest
        (line ++ (if ended then ['\n'] else []) ++ others, rest, isEnded)

/-- Puts the text of an alias in the place of its name. -/
def replaceAlias (word : String) : Read Bool := do
  let s ← get
  let isBusy := s.replaced.any fun (name, left) => name == word && left ≤ s.rest.length
  match if isBusy then none else s.aliases.lookup word with
  | none => return false
  | some text =>
    let isOpen := text.toList.getLast?.any fun c => c == ' ' || c == '\t'
    set { s with
      rest := text.toList ++ s.rest
      replaced := (word, s.rest.length) :: s.replaced
      followed := if isOpen then some s.rest.length else s.followed }
    return true

/-! ### Helpers of the extended language -/

def quotedLetters : List (Char × Char) :=
  [('a', '\x07'), ('b', '\x08'), ('e', '\x1b'), ('E', '\x1b'), ('f', '\x0c'), ('n', '\n'), ('r', '\r'), ('t', '\t'),
    ('v', '\x0b'), ('\\', '\\'), ('\'', '\''), ('"', '"'), ('?', '?')]

def digitsNumber (base : Nat) (cs : List Char) : Nat := cs.foldl (fun n c => n * base + (Number.digit? base c).getD 0) 0

def digitRun (base most : Nat) (cs : List Char) : List Char :=
  (cs.take most).takeWhile fun c => (Number.digit? base c).isSome

def quotedEscape (cs : List Char) : List Char × List Char :=
  match cs with
  | [] => (['\\'], [])
  | c :: rest =>
    let numbered (most : Nat) : List Char × List Char :=
      let digits := digitRun 16 most rest
      if digits.isEmpty then (['\\', c], rest)
      else ((Text.ofBytes (String.singleton (Char.ofNat (digitsNumber 16 digits))).toUTF8).toList, rest.drop digits.length)
    match quotedLetters.lookup c with
    | some found => ([found], rest)
    | none =>
      if (Number.digit? 8 c).isSome then
        let digits := digitRun 8 3 cs
        ([Char.ofNat (digitsNumber 8 digits % 256)], cs.drop digits.length)
      else if c = 'x' then
        let digits := digitRun 16 2 rest
        if digits.isEmpty then (['\\', 'x'], rest) else ([Char.ofNat (digitsNumber 16 digits)], rest.drop digits.length)
      else if c = 'u' then numbered 4
      else if c = 'U' then numbered 8
      else if c = 'c' then
        match rest with
        | d :: rest => ([Char.ofNat (d.toUpper.toNat % 64 % 32)], rest)
        | [] => (['\\', 'c'], [])
      else (['\\', c], rest)

def quotedString? : (fuel : Nat) → List Char → Option (List Char × List Char)
  | 0, _ => none
  | _ + 1, [] => none
  | fuel + 1, c :: rest =>
    if c = '\'' then some ([], rest)
    else if c = '\\' then
      let (found, rest) := quotedEscape rest
      (quotedString? fuel rest).map fun (text, after) => (found ++ text, after)
    else (quotedString? fuel rest).map fun (text, after) => (c :: text, after)

/-- Whether the parentheses of a formula are closed together. -/
def closesAsFormula : (depth : Nat) → List Char → Bool
  | _, [] => false
  | depth, '\\' :: _ :: rest => closesAsFormula depth rest
  | depth, '(' :: rest => closesAsFormula (depth + 1) rest
  | 0, ')' :: rest => rest.head? == some ')'
  | depth + 1, ')' :: rest => closesAsFormula depth rest
  | depth, _ :: rest => closesAsFormula depth rest

def closesAsSubscript : (depth : Nat) → List Char → Bool
  | _, [] => false
  | _, '\n' :: _ => false
  | depth, '[' :: rest => closesAsSubscript (depth + 1) rest
  | 0, ']' :: rest => rest.head? == some '=' || rest.take 2 == ['+', '=']
  | depth + 1, ']' :: rest => closesAsSubscript depth rest
  | depth, _ :: rest => closesAsSubscript depth rest

def toClosingBrace : (depth : Nat) → List Char → Option (List Char × List Char)
  | _, [] => none
  | 0, '\x7d' :: rest => some ([], rest)
  | depth, c :: rest =>
    let depth := if c = '\x7b' then depth + 1 else if c = '\x7d' then depth - 1 else depth
    (toClosingBrace depth rest).map fun (text, after) => (c :: text, after)

def cutParts (stop : Char) : Word → List Word
  | [] => [[]]
  | .text quoted content :: rest =>
    let pieces := (Text.splitAt stop content.toList).map fun cs => if cs.isEmpty then [] else [Part.text quoted (String.ofList cs)]
    match cutParts stop rest with
    | first :: others => pieces.dropLast ++ ((pieces.getLast?.getD [] ++ first) :: others)
    | [] => pieces
  | part :: rest =>
    match cutParts stop rest with
    | first :: others => (part :: first) :: others
    | [] => [[part]]

def testUnary : List String :=
  ["-a", "-b", "-c", "-d", "-e", "-f", "-g", "-h", "-k", "-p", "-r", "-s", "-t", "-u", "-w", "-x", "-G", "-L", "-N", "-O",
    "-S", "-o", "-v", "-R", "-z", "-n"]

def testBinary : List String :=
  ["=", "==", "!=", "=~", "-eq", "-ne", "-lt", "-le", "-gt", "-ge", "-nt", "-ot", "-ef"]

def declaringCommands (d : Dialect) : List String :=
  if d = .extended then ["declare", "export", "local", "readonly", "typeset"] else ["export", "readonly", "local"]

/-- How far a list of commands goes. -/
inductive Extent
  | line
  /-- To a token that ends lists, with at least one command before it. -/
  | body
  | open
  deriving DecidableEq, Repr

end BenchKernel.Script
