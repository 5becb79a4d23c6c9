import BenchKernel.Host.Awk.Pattern

/-! # Reading programs on records

The state of reading a program. What is wrong is noted with its line, and reading goes on after the statement. A name
that was used for a table cannot be used for a variable, and the other way round. -/

namespace BenchKernel.Awk

inductive Kind
  | scalar
  | table
  deriving DecidableEq, Repr

/-- Where a statement stands. -/
inductive Region
  | rule
  | edge
  | function (name : String) (parameters : List String)
  deriving DecidableEq, Repr

/-- A call that has to be checked when all functions are known. -/
structure CallNote where
  function : String
  count : Nat
  line : Nat
  deriving DecidableEq, Repr

/-- What is left of a program, and what has been found. -/
structure Reading where
  rest : List Lexeme
  messages : List String := []
  isBroken : Bool := false
  program : Program := {}
  region : Region := .rule
  loops : Nat := 0
  kinds : List (String × Kind) := []
  parameterKinds : List (Nat × Kind) := []
  calls : List CallNote := []
  passings : List Passing := []

abbrev Read := ExceptT Unit (StateM Reading)

/-- The names that every program knows. -/
def ownKinds : List (String × Kind) :=
  let scalars := ["NR", "FNR", "NF", "FS", "OFS", "ORS", "RS", "RSTART", "RLENGTH", "SUBSEP", "FILENAME", "CONVFMT", "OFMT", "ARGC"]
  scalars.map (·, .scalar) ++ [("ARGV", .table), ("ENVIRON", .table)]

namespace Read

def lexeme : Read Lexeme := do return (← get).rest.head?.getD ⟨.finish, 0, 0, 0, []⟩

def token : Read Token := do return (← lexeme).token

def second : Read Token := do return (((← get).rest[1]?).map Lexeme.token).getD .finish

def note (message : String) : Read Unit := modify fun s => { s with messages := s.messages ++ [message] }

def noteHere (text : String) : Read Unit := do note (Scan.onLine (← lexeme).line text)

/-- Notes that a token cannot stand there. -/
def fail {α : Type} : Read α := do
  let l ← lexeme
  if !(← get).isBroken then
    match l.token with
    | .broken message =>
      note message
      modify fun s => { s with isBroken := true }
    | .finish =>
      noteHere (if 0 < l.braces then "missing \x7d near end of file" else "syntax error at or near end of file")
      modify fun s => { s with isBroken := true }
    | .separator text => noteHere ((if 0 < l.parens then "missing ) near " else "syntax error at or near ") ++ text)
    | found => noteHere s!"syntax error at or near {found.shown}"
  throw ()

def noteFaults : Read Unit := do
  for message in (← lexeme).faults do note message

def advance : Read Unit := do
  modify fun s => { s with rest := s.rest.drop 1 }
  noteFaults

def isMark (mark : String) : Read Bool := do
  match ← token with
  | .mark found => return found == mark
  | _ => return false

def isWord (word : String) : Read Bool := do
  match ← token with
  | .word found => return found == word
  | _ => return false

def takeMark (mark : String) : Read Bool := do
  if ← isMark mark then
    advance
    return true
  else return false

def expectMark (mark : String) : Read Unit := do
  if !(← takeMark mark) then fail

def expectWord (word : String) : Read Unit := do
  if ← isWord word then advance else fail

def expectSeparator : Read Unit := do
  match ← token with
  | .separator _ => advance
  | _ => fail

def isSeparator : Read Bool := do
  match ← token with
  | .separator _ => return true
  | _ => return false

def skipLines : (fuel : Nat) → Read Unit
  | 0 => return
  | fuel + 1 => do
    match ← token with
    | .separator "end of line" =>
      advance
      skipLines fuel
    | _ => return

/-! ### Names -/

/-- What a name stands for. -/
def resolve (name : String) : Read Name := do
  match (← get).region with
  | .function _ parameters =>
    match parameters.idxOf? name with
    | some index => return .parameter index
    | none => return .global name
  | _ => return .global name

/-- Uses a name as a variable or as a table. -/
def use (kind : Kind) (name : String) : Read Name := do
  let resolved ← resolve name
  let s ← get
  let known := match resolved with
    | .global name => s.kinds.lookup name
    | .parameter index => s.parameterKinds.lookup index
  let place := match resolved with
    | .global _ => ""
    | .parameter _ => "local "
  match known with
  | some found =>
    if found != kind then noteHere ("illegal reference to " ++ place ++ (if found = .table then "array " else "variable ") ++ name)
  | none =>
    match resolved with
    | .global name => set { s with kinds := (name, kind) :: s.kinds }
    | .parameter index =>
      let tables := match s.region, kind with
        | .function function _, .table => [(function, index)]
        | _, _ => []
      set { s with
        parameterKinds := (index, kind) :: s.parameterKinds
        program := { s.program with tables := tables ++ s.program.tables } }
  return resolved

def takeName : Read String := do
  match ← token with
  | .name name _ =>
    advance
    return name
  | _ => fail

def takeTable : Read Name := do
  let name ← takeName
  use .table name

def compile (text : String) : Read Regex := do
  match Pattern.compile text with
  | .ok r => return r
  | .error fault =>
    noteHere (Pattern.message fault text)
    return .empty

/-- Takes a text for a pattern. -/
def asPattern (e : Expr) : Read Expr := do
  match e with
  | .text content => return .pattern (← compile content)
  | _ => return e

end Read

end BenchKernel.Awk
