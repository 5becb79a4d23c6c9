import BenchKernel.Host.Awk.Source
import BenchKernel.Host.Awk.Table
import BenchKernel.Host.Utility.Starting

/-! # Running programs on records: the state

What a program knows while it runs: its variables and tables, the record and its fields, and the files and commands
that it reads from and prints to. What is printed is collected and written in parts. -/

namespace BenchKernel.Awk

/-- What a parameter of the running function holds. -/
inductive Slot
  | scalar (value : Value)
  | table (index : Nat)

/-- An open file or a command that is printed to. -/
structure Output where
  name : String
  isPipe : Bool
  index : Nat
  process : Option Nat := none
  waiting : String := ""

/-- An open file or a command that records are read from. -/
structure Supply where
  name : String
  isCommand : Bool
  source : Source

structure State where
  program : Program
  values : Std.HashMap String Value := {}
  tables : Std.HashMap Nat Table := {}
  tableNames : Std.HashMap String Nat := {}
  tableCount : Nat := 0
  frame : Array Slot := #[]
  record : String := ""
  fields : Option (Array Value) := some #[]
  gap : FieldGap × Bool := (.blanks, false)
  source : Option Source := none
  operand : Nat := 1
  hasFile : Bool := false
  waiting : String := ""
  outputs : List Output := []
  supplies : List Supply := []
  patterns : Std.HashMap String Regex := {}
  started : List Nat := []
  seed : Value := .number 0
  random : Nat := 1
  status : Nat := 0
  rounds : Nat := 0

/-- Why a statement ends early. -/
inductive Stop
  | next
  | nextFile
  | exit
  | leave
  | again
  | back (value : Value)
  | fault (message : String)

abbrev Run := ExceptT Stop (StateT State Work)

namespace Run

def work {α : Type} (a : Work α) : Run α := ExceptT.lift (StateT.lift a)

/-! ### Variables -/

variable (name : String)

def look : Run Value := do return (← get).values.getD name .unset

def textOf : Run String := do
  match ← look name with
  | .number n => return numberText "%.6g" n
  | v => return v.toText ""

def format : Run String := textOf "CONVFMT"

def toText (v : Value) : Run String := do
  match v with
  | .number n => return numberText (← format) n
  | _ => return v.toText ""

variable (v : Value)

def setVariable : Run Unit :=
  modify fun s => { s with values := s.values.insert name v }

/-- Ends a program, and says at which record. -/
def fault {α : Type} (message : String) : Run α := do
  let place := "\tFILENAME=\"" ++ (← textOf "FILENAME") ++ "\" FNR=" ++ (← textOf "FNR") ++ " NR=" ++ (← textOf "NR")
  throw (.fault s!"run time error: {message}\n{place}")

variable (text : String)

/-- The expression of a text, which is kept. -/
def compile : Run Regex := do
  match (← get).patterns[text]? with
  | some r => return r
  | none =>
    match Pattern.compile text with
    | .error why => fault (Pattern.message why text)
    | .ok r =>
      modify fun s => { s with patterns := s.patterns.insert text r }
      return r

/-- What separates fields, as a text says it. -/
def gapOf : Run FieldGap := do
  match text.toList with
  | [] => return .nothing
  | [' '] => return .blanks
  | [c] => return .char c
  | _ => return .pattern (← compile text)

def recordEnd : Run RecordEnd := do
  let text ← textOf "RS"
  match text.toList with
  | [] => return .gap
  | [c] => return .char c
  | _ => return .pattern (← compile text)

/-! ### Fields -/

/-- Sets the record. Its fields are found when they are asked for. -/
def setRecord : Run Unit := do
  let gap ← gapOf (← textOf "FS")
  let isWide := (← textOf "RS").isEmpty
  modify fun s => { s with record := text, fields := none, gap := (gap, isWide) }

def fields : Run (Array Value) := do
  let s ← get
  match s.fields with
  | some found => return found
  | none =>
    let found := ((s.gap.1.split s.gap.2 s.record).map Value.input).toArray
    set { s with fields := some found }
    return found

/-- Sets the fields, and the record from them. -/
def setFields (values : Array Value) : Run Unit := do
  let texts ← values.toList.mapM toText
  let record := (← textOf "OFS").intercalate texts
  modify fun s => { s with record, fields := some values }

def fieldNumber : Run Nat := do
  let n := wholeOf v.toNumber
  if n < 0 then fault s!"negative field index ${n}" else return n.toNat

def field (number : Nat) : Run Value := do
  match number with
  | 0 => return .input (← get).record
  | n + 1 => return ((← fields)[n]?).getD .unset

def widened (values : Array Value) (size : Nat) : Array Value :=
  values ++ Array.replicate (size - values.size) (.input "")

def setField (number : Nat) (v : Value) : Run Unit := do
  match number with
  | 0 => setRecord (← toText v)
  | n + 1 =>
    let values ← fields
    setFields ((widened values (n + 1)).modify n fun _ => v)

def setCount : Run Unit := do
  let count := (wholeOf v.toNumber).toNat
  let values ← fields
  setFields ((widened values count).extract 0 count)

def global : Run Value := do
  if name = "NF" then return .number (ofInt (← fields).size) else look name

def setGlobal : Run Unit := if name = "NF" then setCount v else setVariable name v

/-! ### Tables -/

def addTable (t : Table) : Run Nat := do
  let s ← get
  set { s with tables := s.tables.insert s.tableCount t, tableCount := s.tableCount + 1 }
  return s.tableCount

/-- The table that a name stands for. It may be new. -/
def tableOf (name : Name) : Run Nat := do
  match name with
  | .global text =>
    match (← get).tableNames[text]? with
    | some index => return index
    | none =>
      let index ← addTable {}
      modify fun s => { s with tableNames := s.tableNames.insert text index }
      return index
  | .parameter position =>
    match (← get).frame[position]? with
    | some (.table index) => return index
    | _ =>
      let index ← addTable {}
      modify fun s => { s with frame := s.frame.modify position fun _ => .table index }
      return index

variable (index : Nat)

def table : Run Table := do return (← get).tables.getD index {}

def setTable (t : Table) : Run Unit := modify fun s => { s with tables := s.tables.insert index t }

def changeTable (change : Table → Table) : Run Unit :=
  modify fun s => { s with tables := s.tables.modify index change }

/-! ### Output -/

def portion : Nat := 4096

def flush : Run Unit := do
  let s ← get
  if !s.waiting.isEmpty then
    set { s with waiting := "" }
    work (Utility.print s.waiting)

def flushOutput (o : Output) : Run Unit := do
  if !o.waiting.isEmpty then
    let _ ← work (Utility.writeTo o.index o.waiting)
    modify fun s => { s with outputs := s.outputs.map fun p => if p.index = o.index then { p with waiting := "" } else p }

def flushAll : Run Unit := do
  flush
  (← get).outputs.forM flushOutput

def print : Run Unit := do
  modify fun s => { s with waiting := s.waiting ++ text }
  if portion ≤ (← get).waiting.utf8ByteSize then flush

def hold : Run Unit := do
  let number := (← work read).process
  work (modify fun m => m.modifyProcess number fun p => { p with held := index :: p.held })

/-- Starts a command with a pipe to it or from it. -/
def startCommand (command : String) (isRead : Bool) : Run (Option (Nat × Nat)) := do
  flushAll
  let ((reading, writing), machine) := (← work get).addPipe
  work (set machine)
  let (own, other, number) := if isRead then (reading, writing, 1) else (writing, reading, 0)
  let change (l : Launch) : Launch := { l with numbers := (number, other) :: l.numbers.filter fun entry => entry.1 != number }
  match ← work (Utility.findProgram change "/bin/sh" ["-c", command]) with
  | .error _ => return none
  | .ok (launch, program) =>
    let process ← work (Utility.fork launch.held program)
    hold own
    return some (own, process)

def output? (isPipe : Bool) : Run (Option Output) := do
  let isMeant (o : Output) : Bool := o.name == name && o.isPipe == isPipe
  match (← get).outputs.find? isMeant with
  | none => return none
  | some o =>
    modify fun s => { s with outputs := o :: s.outputs.filter fun p => !isMeant p }
    return some o

def output (sink : Sink) (name : String) : Run Output := do
  let isPipe := sink = .pipe
  match ← output? name isPipe with
  | some o => return o
  | none =>
    let opened : Output ←
      if isPipe then
        match ← startCommand name false with
        | some (index, process) => pure { name, isPipe, index, process := some process }
        | none => throw (.fault s!"cannot open pipe \"{name}\" for output")
      else
        match ← work (Utility.openPath name (if sink = .append then .append else .write)) with
        | .ok index => pure { name, isPipe, index }
        | .error why => throw (.fault s!"cannot open \"{name}\" for output ({why.description})")
    modify fun s => { s with outputs := opened :: s.outputs }
    return opened

def printTo (sink : Sink) (name text : String) : Run Unit := do
  if sink != .pipe && name = "/dev/stdout" then print text
  else if sink != .pipe && name = "/dev/stderr" then work (Utility.write 2 text)
  else
    let o ← output sink name
    let added := { o with waiting := o.waiting ++ text }
    modify fun s => { s with outputs := s.outputs.map fun p => if p.index = o.index then added else p }
    if portion ≤ added.waiting.utf8ByteSize then flushOutput added

/-- The number that tells how a process has ended. -/
def statusNumber : Option ExitStatus → Int
  | some (.exited code) => code
  | some (.signaled signal) => 256 + signal
  | none => 0

def await (process : Option Nat) : Run Int := do
  match process with
  | none => return 0
  | some number => return statusNumber (← work (Utility.await number none))

def closeOutput (o : Output) : Run Int := do
  flushOutput o
  modify fun s => { s with outputs := s.outputs.filter fun p => p.index != o.index }
  work (Utility.closeFile o.index)
  await o.process

def closeSupply (supply : Supply) : Run Int := do
  modify fun s => { s with supplies := s.supplies.filter fun p => p.source.index != supply.source.index }
  work (Utility.closeFile supply.source.index)
  await supply.source.process

/-- Closes what has a name. The status of its process tells how that went. -/
def close : Run Int := do
  let s ← get
  let outputs := s.outputs.filter fun o => o.name == name
  let supplies := s.supplies.filter fun p => p.name == name
  let ends ← outputs.mapM closeOutput
  let others ← supplies.mapM closeSupply
  return (ends ++ others).getLast?.getD (-1)

def closeAll : Run Unit := do
  for o in (← get).outputs do
    let _ ← closeOutput o
  flush

/-! ### Input -/

def increase : Run Unit := do setVariable name (.number ((← look name).toNumber + 1))

def recordOf (source : Source) : Run (Option String × Source) := do
  match ← work (source.next (← recordEnd) Utility.patience) with
  | .ok found => return found
  | .error why => throw (.fault s!"read error ({why.description})")

/-- The assignment that an operand is. -/
def assignment? : Option (String × String) :=
  match Text.cutAt? '=' text.toList with
  | some (name, value) =>
    let isName := name.head?.any Scan.isNameStart && name.all fun c => Scan.isNameStart c || c.isDigit
    if isName then some (String.ofList name, plainText (String.ofList value)) else none
  | none => none

def openInput : Run Unit := do
  let opened : Except OsError Nat ← work (if name = "/dev/stdin" then Utility.openOperand "-" else Utility.openOperand name)
  match opened with
  | .error why => throw (.fault s!"cannot open \"{name}\" ({why.description})")
  | .ok index =>
    setVariable "FILENAME" (.input name)
    setVariable "FNR" (.number 0)
    modify fun s => { s with source := some { index }, hasFile := true }

/-- Opens the next operand that is a file, and says whether there is one. -/
def nextInput : (count : Nat) → Run Bool
  | 0 => do
    if (← get).hasFile then return false
    else
      openInput "-"
      return true
  | count + 1 => do
    let s ← get
    let last := (wholeOf (← look "ARGC").toNumber).toNat
    if last ≤ s.operand then nextInput 0
    else
      set { s with operand := s.operand + 1 }
      let arguments ← table (← tableOf (.global "ARGV"))
      let operand ← toText (arguments.value (.number s.operand))
      if operand.isEmpty then nextInput count
      else
        match assignment? operand with
        | some (name, value) =>
          setGlobal name (.input value)
          nextInput count
        | none =>
          openInput operand
          return true

/-- The next record of the operands. -/
def mainRecord : (tries : Nat) → Run (Option String)
  | 0 => return none
  | tries + 1 => do
    match (← get).source with
    | none =>
      let count := (wholeOf (← look "ARGC").toNumber).toNat
      if ← nextInput count then mainRecord tries else return none
    | some source =>
      match ← recordOf source with
      | (some record, source) =>
        modify fun s => { s with source := some source }
        increase "NR"
        increase "FNR"
        return some record
      | (none, _) =>
        modify fun s => { s with source := none }
        mainRecord tries

def inputRecord : Run (Option String) := do
  mainRecord (2 * (wholeOf (← look "ARGC").toNumber).toNat + 8)

/-- The file or command with a name, which is opened if it is not open. -/
def supply (isCommand : Bool) : Run (Option Supply) := do
  match (← get).supplies.find? fun p => p.name == name && p.isCommand == isCommand with
  | some found => return some found
  | none =>
    let source : Option Source ←
      if isCommand then do
        match ← startCommand name true with
        | some (index, process) => pure (some { index, process := some process })
        | none => pure none
      else do
        let isStandard := name = "-" || name = "/dev/stdin"
        match ← work (if isStandard then Utility.openOperand "-" else Utility.openPath name .read) with
        | .ok index => pure (some { index })
        | .error _ => pure none
    match source with
    | none => return none
    | some source =>
      let opened : Supply := { name, isCommand, source }
      modify fun s => { s with supplies := opened :: s.supplies }
      return some opened

def supplied (isCommand : Bool) : Run (Option (Option String)) := do
  match ← supply name isCommand with
  | none => return none
  | some found =>
    let (record, source) ← recordOf found.source
    modify fun s =>
      { s with supplies := s.supplies.map fun p => if p.source.index = source.index then { p with source } else p }
    return some record

def mostRounds : Nat := 100

def roundTime : Nat := 2000

/-- Hands the machine over after some rounds. -/
def breathe : Run Unit := do
  let s ← get
  if s.rounds < mostRounds then set { s with rounds := s.rounds + 1 }
  else
    set { s with rounds := 0 }
    work (modify fun m => m.after (mostRounds * roundTime))
    work (Utility.pause .turn)

end Run

end BenchKernel.Awk
