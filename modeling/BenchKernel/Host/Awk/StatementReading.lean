import BenchKernel.Host.Awk.ExprReading

/-! # Reading statements, rules and functions -/

namespace BenchKernel.Awk

namespace Grammar

open Read

variable (g : Grammar)

def output : Read (Option (Sink × Expr)) := do
  match ← token with
  | .output sink =>
    advance
    return some (sink, ← g.expression)
  | _ => return none

def endsPrint : Token → Bool
  | .output _ | .separator _ | .finish | .broken _ => true
  | _ => false

/-- What is printed. Parentheses may stand around all of it. -/
def printed : Read (List Expr) := do
  if endsPrint (← token) then return []
  else
    let before ← get
    let isAll : Bool ←
      if ← isMark "(" then
        try
          advance
          let _ ← g.listUpTo ")"
          pure (endsPrint (← token))
        catch _ => pure false
      else pure false
    set before
    if isAll then
      advance
      g.listUpTo ")"
    else g.expressions before.rest.length

def loopBody : Read Statement := do
  skipLines (← get).rest.length
  modify fun s => { s with loops := s.loops + 1 }
  let body ← g.statement
  modify fun s => { s with loops := s.loops - 1 }
  return body

def condition : Read Expr := do
  expectMark "("
  let test ← g.expression
  expectMark ")"
  return test

def branch : Read Statement := do
  advance
  let test ← g.condition
  skipLines (← get).rest.length
  let yes ← g.statement
  if ← isWord "else" then
    advance
    return .branch test yes (← g.statement)
  else return .branch test yes (.block [])

def headPart : Read (Option Expr) := do
  if ← isSeparator then
    advance
    return none
  else
    let e ← g.expression
    expectSeparator
    return some e

/-- A loop over a table, or one with a head of three parts. -/
def forLoop : Read Statement := do
  advance
  expectMark "("
  match ← token, ← second with
  | .name name false, .word "in" =>
    let entry ← use .scalar name
    advance
    advance
    let table ← takeTable
    expectMark ")"
    return .forEach entry table (← g.loopBody)
  | _, _ =>
    let first ← g.headPart
    let test ← g.headPart
    let next ← if ← isMark ")" then pure none else pure (some (← g.expression))
    expectMark ")"
    let body ← g.loopBody
    return .block (first.toList.map .value ++ [.loop test next body])

/-- Passes over a word, and notes that it cannot stand there. -/
def takeWord (isAllowed : Bool) (text : String) : Read Unit := do
  advance
  if !isAllowed && (← isSeparator) then noteHere text

def valueAfter : Read (Option Expr) := do
  advance
  if ← isSeparator then return none else return some (← g.expression)

def simple : Read Statement := do
  let s ← get
  let isFunction := match s.region with
    | .function _ _ => true
    | _ => false
  match ← token with
  | .word "print" =>
    advance
    let list ← g.printed
    return .print list (← g.output)
  | .word "printf" =>
    advance
    let list ← g.printed
    if list.isEmpty then noteHere "no arguments in call to printf"
    return .printf list (← g.output)
  | .word "break" =>
    takeWord (0 < s.loops) "break statement outside of loop"
    return .leave
  | .word "continue" =>
    takeWord (0 < s.loops) "continue statement outside of loop"
    return .again
  | .word "next" =>
    takeWord (s.region = .rule) "improper use of next"
    return .next
  | .word "nextfile" =>
    takeWord (s.region = .rule) "improper use of nextfile"
    return .nextFile
  | .word "exit" => return .exit (← g.valueAfter)
  | .word "return" =>
    let value ← g.valueAfter
    if !isFunction then noteHere "return outside function body"
    return .back value
  | .word "delete" =>
    advance
    let table ← takeTable
    if ← takeMark "[" then return .delete table (some (← g.listUpTo "]")) else return .delete table none
  | _ => return .value (← g.expression)

/-- Goes on after a statement that cannot be read. -/
def recover : Read Unit := do
  let s ← get
  if s.isBroken then throw ()
  let rest := s.rest.dropWhile fun l =>
    match l.token with
    | .separator _ | .finish | .broken _ => false
    | _ => true
  set { s with rest, loops := 0 }
  if ← isSeparator then advance else fail

def statements : (fuel : Nat) → Read (List Statement)
  | 0 => fail
  | fuel + 1 => do
    if ← takeMark "\x7d" then return []
    else
      let first ← try g.statement catch _ => do
        recover
        pure (.block [])
      return first :: (← statements fuel)

def block : Read Statement := do
  expectMark "\x7b"
  return .block (← g.statements (← get).rest.length)

def anyStatement : Read Statement := do
  match ← token with
  | .mark "\x7b" => g.block
  | .separator _ =>
    advance
    return .block []
  | .word "if" => g.branch
  | .word "while" =>
    advance
    let test ← g.condition
    return .loop (some test) none (← g.loopBody)
  | .word "do" =>
    advance
    let body ← g.loopBody
    skipLines (← get).rest.length
    expectWord "while"
    let test ← g.condition
    expectSeparator
    return .repeated body test
  | .word "for" => g.forLoop
  | _ =>
    let s ← g.simple
    expectSeparator
    return s

/-- The grammar whose forms stand in one another at most so deep. -/
def bounded : Nat → Grammar
  | 0 => { expression := fail, statement := fail }
  | n + 1 => { expression := (bounded n).choice, statement := (bounded n).anyStatement }

/-! ### Programs -/

/-- Reads something in a region. -/
def within {α : Type} (region : Region) (work : Read α) : Read α := do
  modify fun s => { s with region, loops := 0, parameterKinds := [] }
  let result ← work
  modify fun s => { s with region := .rule }
  return result

def changeProgram (change : Program → Program) : Read Unit := modify fun s => { s with program := change s.program }

def parameters (function : String) : (fuel : Nat) → (before : List String) → Read (List String)
  | 0, _ => fail
  | fuel + 1, before => do
    match ← token with
    | .name name _ =>
      if name = function then
        noteHere "function parameter cannot be the function"
        fail
      if before.contains name then noteHere s!"{name} is duplicated in argument list"
      advance
      if ← takeMark "," then parameters function fuel (before ++ [name])
      else
        expectMark ")"
        return before ++ [name]
    | _ => fail

def definition : Read Unit := do
  advance
  let name ← takeName
  let s ← get
  if (s.program.procedure? name).isSome then noteHere s!"redefinition of {name}"
  match s.kinds.lookup name with
  | some kind => noteHere ("illegal reference to " ++ (if kind = .table then "array " else "variable ") ++ name)
  | none => pure ()
  expectMark "("
  let list ← if ← takeMark ")" then pure [] else parameters name (← get).rest.length []
  skipLines (← get).rest.length
  changeProgram fun p => { p with procedures := p.procedures ++ [⟨name, list.length, .block []⟩] }
  let body ← within (.function name list) g.block
  changeProgram fun p =>
    { p with procedures := p.procedures.map fun f => if f.name == name then { f with body } else f }

def rule : Read Unit := do
  let test ←
    if ← isMark "\x7b" then pure Test.always
    else
      let first ← g.expression
      if ← takeMark "," then pure (Test.range first (← g.expression)) else pure (Test.holds first)
  let body ←
    if ← isMark "\x7b" then pure (some (← g.block))
    else
      expectSeparator
      pure none
  changeProgram fun p => { p with rules := p.rules ++ [⟨test, body⟩] }

def part : Read Unit := do
  match ← token with
  | .word "BEGIN" =>
    advance
    let body ← within .edge g.block
    changeProgram fun p => { p with start := p.start ++ [body] }
  | .word "END" =>
    advance
    let body ← within .edge g.block
    changeProgram fun p => { p with finish := p.finish ++ [body] }
  | .word "function" => g.definition
  | _ => within .rule g.rule

def recoverPart : Read Unit := do
  let s ← get
  if s.isBroken then throw ()
  let rest := s.rest.dropWhile fun l =>
    match l.token with
    | .mark "\x7b" | .finish | .broken _ => false
    | _ => true
  set { s with rest, region := .rule, loops := 0 }
  match ← token with
  | .finish => return
  | _ =>
    let _ ← g.block
    return

def parts : (fuel : Nat) → Read Unit
  | 0 => return
  | fuel + 1 => do
    match ← token with
    | .finish => return
    | _ =>
      try g.part catch _ => g.recoverPart
      parts fuel

end Grammar

/-- What is wrong with calls. -/
def callFaults (p : Program) (line : Nat) (calls : List CallNote) : List String :=
  let missing := ((calls.map CallNote.function).filter fun name => (p.procedure? name).isNone).eraseDups
  let crowded := calls.filter fun c => (p.procedure? c.function).any fun f => f.parameters < c.count
  crowded.map (fun c => Scan.onLine c.line s!"too many arguments in call to {c.function}") ++
    missing.map fun name => Scan.onLine line s!"function {name} never defined"

/-- The program of a text, or what is wrong with it. -/
def Program.parse (text : String) : Except (List String) Program :=
  let tokens := lexemesOf text
  let read : Read Unit := do
    Read.noteFaults
    (Grammar.bounded (tokens.length + 8)).parts tokens.length
  let (_, s) := (read.run).run { rest := tokens, kinds := ownKinds }
  let last := (tokens.getLast?.map Lexeme.line).getD 1
  let messages := if s.messages.isEmpty then callFaults s.program last s.calls else s.messages
  if messages.isEmpty then
    .ok { s.program with tables := spreadTables s.passings s.passings.length s.program.tables }
  else .error messages

end BenchKernel.Awk
