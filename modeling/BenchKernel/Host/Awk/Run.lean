import BenchKernel.Host.Awk.Evaluate
import BenchKernel.Host.Awk.StatementReading

/-! # Running programs on records

Statements, rules and whole programs, and the program `awk` that runs them. -/

namespace BenchKernel.Awk

namespace Engine

open Run

def shown (v : Value) : Run String := do
  match v with
  | .number n => return numberText (← textOf "OFMT") n
  | _ => return v.toText ""

variable (e : Engine)

def emit (output : Option (Sink × Expr)) (text : String) : Run Unit := do
  match output with
  | none => print text
  | some (sink, expr) => printTo sink (← e.text expr) text

def printLine (arguments : List Expr) (output : Option (Sink × Expr)) : Run Unit := do
  let texts ←
    if arguments.isEmpty then pure [← toText (← field 0)]
    else do
      let values ← arguments.mapM e.value
      values.mapM shown
  e.emit output ((← textOf "OFS").intercalate texts ++ (← textOf "ORS"))

def printFormat (arguments : List Expr) (output : Option (Sink × Expr)) : Run Unit := do
  let values ← arguments.mapM e.value
  let format ← toText (values.head?.getD .unset)
  let (text, why) ← filled "printf" format values.tail
  e.emit output text
  match why with
  | none => return
  | some message => fault message

/-- Runs the body of a loop, and says whether the loop goes on. -/
def body (s : Statement) : Run Bool := do
  breathe
  try
    e.run s
    return true
  catch
    | .leave => return false
    | .again => return true
    | stop => throw stop

def eachOf (place : Spot) (s : Statement) : List String → Run Unit
  | [] => return
  | name :: rest => do
    write place (.text name)
    if ← e.body s then eachOf place s rest

def step (s : Statement) : Run Unit := do
  match s with
  | .block list => list.forM e.run
  | .value expr =>
    let _ ← e.value expr
    return
  | .print arguments output => e.printLine arguments output
  | .printf arguments output => e.printFormat arguments output
  | .branch test yes no => if (← e.value test).holds then e.run yes else e.run no
  | .loop test next inner =>
    let holds ← match test with
      | some test => pure (← e.value test).holds
      | none => pure true
    if holds then
      if ← e.body inner then
        match next with
        | some next =>
          let _ ← e.value next
          e.run s
        | none => e.run s
  | .repeated inner test =>
    if ← e.body inner then
      if (← e.value test).holds then e.run s
  | .forEach name target inner =>
    let index ← tableOf target
    changeTable index Table.withNames
    e.eachOf (← e.spot (.named name)) inner (← table index).names
  | .leave => throw .leave
  | .again => throw .again
  | .next => throw .next
  | .nextFile => throw .nextFile
  | .exit status =>
    match status with
    | some expr =>
      let n ← e.number expr
      modify fun s => { s with status := (wholeOf n % 256).toNat }
    | none => pure ()
    throw .exit
  | .back value =>
    match value with
    | some expr => throw (.back (← e.value expr))
    | none => throw (.back .unset)
  | .delete name index =>
    let number ← tableOf name
    match index with
    | none => setTable number {}
    | some index =>
      let key ← e.key index
      changeTable number (·.erase key)

def bounded : Nat → Engine
  | 0 => { value := fun _ => throw .exit, run := fun _ => throw .exit }
  | n + 1 => { value := fun expr => (bounded n).evaluate expr, run := fun s => (bounded n).step s }

/-! ### Programs -/

/-- Whether a rule applies. A range goes on until its last test holds. -/
def applies (index : Nat) (test : Test) : Run Bool := do
  match test with
  | .always => return true
  | .holds expr => return (← e.value expr).holds
  | .range first last =>
    let isStarted := (← get).started.contains index
    let isIn ← if isStarted then pure true else pure (← e.value first).holds
    if isIn then
      let isOver := (← e.value last).holds
      modify fun s =>
        let others := s.started.filter (· != index)
        { s with started := if isOver then others else index :: others }
    return isIn

def rules : (index : Nat) → List Rule → Run Unit
  | _, [] => return
  | index, rule :: rest => do
    if ← e.applies index rule.test then
      match rule.body with
      | some body => e.run body
      | none => e.printLine [] none
    rules (index + 1) rest

/-- Tries the rules on every record. -/
def records (list : List Rule) : (most : Nat) → Run Unit
  | 0 => return
  | most + 1 => do
    match ← inputRecord with
    | none => return
    | some record =>
      setRecord record
      breathe
      try e.rules 0 list catch
        | .next => pure ()
        | .nextFile => modify fun s => { s with source := none }
        | stop => throw stop
      records list most

def bound : Nat := 10000000

def main (p : Program) : Run Unit := do
  p.start.forM e.run
  if !p.rules.isEmpty || !p.finish.isEmpty then e.records p.rules bound

/-- Runs a program, and says what has gone wrong. -/
def whole (p : Program) : Run (Option String) := do
  let ending (work : Run Unit) : Run (Option (Option String)) := do
    try
      work
      return none
    catch
      | .fault message => return some (some message)
      | _ => return some none
  match ← ending (e.main p) with
  | some (some message) => return some message
  | _ =>
    match ← ending (p.finish.forM e.run) with
    | some (some message) => return some message
    | _ => return none

end Engine

/-! ### The program -/

/-- What the options say. -/
structure Settings where
  separator : Option String := none
  assignments : List (String × String) := []
  files : List String := []
  rest : List String := []

def readOptions : (fuel : Nat) → List String → Settings → Except String Settings
  | 0, arguments, s => .ok { s with rest := arguments }
  | fuel + 1, arguments, s =>
    match arguments with
    | [] => .ok s
    | "--" :: rest => .ok { s with rest }
    | "-" :: _ => .ok { s with rest := arguments }
    | argument :: rest =>
      match argument.toList with
      | '-' :: letter :: cs =>
        if !(['F', 'v', 'f'].contains letter) then .error s!"not an option: {argument}"
        else
          let value? : Option (String × List String) :=
            match cs, rest with
            | [], [] => none
            | [], value :: rest => some (value, rest)
            | _, _ => some (String.ofList cs, rest)
          match value? with
          | none => .error s!"option -{letter} lacks argument"
          | some (value, rest) =>
            match letter with
            | 'F' => readOptions fuel rest { s with separator := some (plainText value) }
            | 'f' => readOptions fuel rest { s with files := s.files ++ [value] }
            | _ =>
              match Run.assignment? value with
              | some entry => readOptions fuel rest { s with assignments := s.assignments ++ [entry] }
              | none => .error s!"improper assignment: -v {value}"
      | _ => .ok { s with rest := arguments }

def firstValues : List (String × Value) :=
  [("FS", .text " "), ("OFS", .text " "), ("ORS", .text "\n"), ("RS", .text "\n"), ("SUBSEP", .text "\x1c"), ("CONVFMT", .text "%.6g"),
    ("OFMT", .text "%.6g"), ("NR", .number 0), ("FNR", .number 0), ("RSTART", .number 0), ("RLENGTH", .number (-1))]

/-- Sets the variables that a program starts with. -/
def prepare (call : Call) (settings : Settings) (operands : List String) : Run Unit := do
  firstValues.forM fun (name, v) => Run.setVariable name v
  let arguments := "awk" :: operands
  Run.setVariable "ARGC" (.number (ofInt arguments.length))
  let numbered := arguments.zip (List.range arguments.length)
  let argumentTable := numbered.foldl (fun (t : Table) (text, index) => t.set (.number index) (.input text)) {}
  let environment := call.environment.foldl (fun (t : Table) (name, value) => t.set (.name name) (.input value)) {}
  Run.setTable (← Run.tableOf (.global "ARGV")) argumentTable
  Run.setTable (← Run.tableOf (.global "ENVIRON")) environment
  match settings.separator with
  | some text => Run.setVariable "FS" (.text text)
  | none => pure ()
  settings.assignments.forM fun (name, value) => Run.setGlobal name (.input value)

def runText (settings : Settings) (text : String) (operands : List String) : Work Nat := do
  let called := (← read).name
  match Program.parse text with
  | .error messages =>
    messages.forM fun message => Utility.write 2 s!"{called}: {message}\n"
    return 2
  | .ok program =>
    let call ← read
    let engine := Engine.bounded Engine.bound
    let whole : Run (Option String) := do
      prepare call settings operands
      let message ← engine.whole program
      match message with
      | some message => Run.work (Utility.write 2 s!"{called}: {message}\n")
      | none => pure ()
      Run.closeAll
      return message
    let (outcome, s) ← (whole.run).run { program }
    match outcome with
    | .ok none => return s.status
    | _ => return 2

def filesText : List String → Work (Except String String)
  | [] => return .ok ""
  | path :: rest => do
    match ← Utility.content path with
    | .error why => return .error s!"cannot open \"{path}\" ({why.description})"
    | .ok text =>
      Utility.whenOk (filesText rest) fun more => return .ok (text ++ more)

def work : Work Nat := do
  let call ← read
  match readOptions (call.arguments.length + 1) call.arguments {} with
  | .error why => Utility.failWith 2 why
  | .ok settings =>
    if !settings.files.isEmpty then
      match ← filesText settings.files with
      | .error why => Utility.failWith 2 why
      | .ok text => runText settings text settings.rest
    else
      match settings.rest with
      | [] => return 0
      | text :: operands => runText settings text operands

end BenchKernel.Awk
