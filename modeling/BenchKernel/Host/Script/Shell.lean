import BenchKernel.Host.Flow
import BenchKernel.Host.Script.Tree
import BenchKernel.Text.Utf8

/-! # The state of a shell

What a running script has: its arguments and variables, what it has open, and the machine that it works on. What
it does is an action on this state, which may stop early. All texts of a shell have one character for each byte. -/

namespace BenchKernel.Script

/-- The elements of an array, by number or by key. -/
inductive Elements
  | indexed (items : List (Nat × String))
  | keyed (items : List (String × String))
  deriving DecidableEq, Repr

namespace Elements

/-- The bucket of a key. Keys are listed bucket by bucket. -/
def bucketOf (count : Nat) (key : String) : Nat :=
  (key.toList.foldl (fun h c => (h * 16777619 % 4294967296) ^^^ c.toNat) 2166136261) % count

def bucket (key : String) : Nat := bucketOf 1024 key

def values : Elements → List String
  | indexed items | keyed items => items.map Prod.snd

def keys : Elements → List String
  | indexed items => items.map fun entry => toString entry.1
  | keyed items => items.map Prod.fst

def isKeyed : Elements → Bool
  | keyed _ => true
  | indexed _ => false

def next : Elements → Nat
  | indexed items => (items.getLast?.map fun entry => entry.1 + 1).getD 0
  | keyed _ => 0

variable (e : Elements)

/-- The number that a key stands for. A negative one counts from the end. -/
def indexOf? (key : String) : Option Nat :=
  match key.toInt? with
  | some n => if 0 ≤ n then some n.toNat else if -(n : Int) ≤ e.next then some (e.next - n.natAbs) else none
  | none => none

def get? (key : String) : Option String :=
  match e with
  | indexed items => (e.indexOf? key).bind fun n => items.lookup n
  | keyed items => items.lookup key

def set? (key value : String) : Option Elements :=
  match e with
  | indexed items =>
    (e.indexOf? key).map fun n =>
      .indexed (items.filter (fun entry => entry.1 < n) ++ (n, value) :: items.filter fun entry => n < entry.1)
  | keyed items =>
    if (items.lookup key).isSome then
      some (.keyed (items.map fun entry => if entry.1 == key then (key, value) else entry))
    else
      let isBefore (entry : String × String) : Bool := bucket entry.1 < bucket key
      some (.keyed (items.takeWhile isBefore ++ (key, value) :: items.dropWhile isBefore))

def erase (key : String) : Elements :=
  match e with
  | indexed items =>
    match e.indexOf? key with
    | some n => .indexed (items.filter fun entry => entry.1 != n)
    | none => e
  | keyed items => .keyed (items.filter fun entry => entry.1 != key)

end Elements

structure Variable where
  value : Option String := none
  exported : Bool := false
  fixed : Bool := false
  array : Option Elements := none
  integer : Bool := false
  casing : Option Casing := none
  /-- Whether the value is the name of another variable, which is meant. -/
  reference : Bool := false
  deriving DecidableEq, Repr

def Variable.withElements (v : Variable) (elements : Elements) : Variable :=
  { v with array := some elements, value := elements.get? "0" }

def Variable.elements (v : Variable) : Elements :=
  v.array.getD (.indexed (v.value.toList.map fun text => (0, text)))

/-- What is left out after a command that leaves loops or functions. -/
inductive Skip
  | loops (count : Nat)
  /-- The rest of a round of a loop, after the rest of so many loops less one. -/
  | rounds (count : Nat)
  | function
  deriving DecidableEq, Repr

/-- Why an action ends early. -/
inductive Stop
  | exit
  | fault
  /-- A fault that has been reported, after which the rest of the line is left out. -/
  | discard
  | refused
  | replaced (status : ExitStatus)
  deriving DecidableEq, Repr

/-- Processes that were started together beside the shell. -/
structure Job where
  number : Nat
  processes : List Nat
  text : String
  ends : List (Nat × ExitStatus) := []
  waited : Bool := false
  changed : Bool := false
  deriving Repr

namespace Job

def last (j : Job) : Nat := j.processes.getLast?.getD 0

def isDone (j : Job) : Bool := j.processes.all fun number => (j.ends.lookup number).isSome

def status? (j : Job) : Option ExitStatus := j.ends.lookup j.last

end Job

structure Shell where
  name : String
  arguments : List String
  vars : List (String × Variable) := []
  functions : List (String × Command) := []
  options : List Char := []
  cwd : Place
  /-- The names by which the shell came to its working directory, which may be links. -/
  way : Place
  numbers : Numbers
  machine : Machine
  status : Nat := 0
  substituted : Nat := 0
  line : Nat := 0
  readLine : Nat := 1
  builtin : Option String := none
  loopDepth : Nat := 0
  functionDepth : Nat := 0
  skip : Option Skip := none
  /-- Commands by the number of the signal that runs them; zero stands for the end. -/
  traps : List (Nat × String) := []
  /-- For every function that runs, the variables to restore after it. -/
  saved : List (List (String × Option Variable)) := []
  /-- For every function that runs, the options to restore after it, if it has asked for that. -/
  savedOptions : List (Option (List Char)) := []
  documents : List (Nat × Word) := []
  process : Nat
  /-- The number of the process that runs, which may be a copy of that shell. -/
  own : Nat
  jobs : List Job := []
  known : List (Nat × ExitStatus) := []
  lastJob : Option Nat := none
  copies : Nat := 0
  kept : List Numbers := []
  /-- The signals that were ignored when the process was started, and that stay ignored. -/
  neverCaught : List Nat := []
  /-- Whether nothing comes after the current command, so that a program can take the place of the shell. -/
  isLast : Bool := false
  rounds : Nat := 0
  /-- In commands that are run at the end or at a signal, the status before them. -/
  leaving : Option Nat := none
  /-- How many letters of an argument `getopts` has read; zero if it goes on with the next one. -/
  optionOffset : Nat := 0
  aliases : List (String × String) := []
  executed : Bool := false
  mask : Nat := 18
  /-- The limits that have been set, by their letters: the one that counts, and the greatest that it can be. -/
  limits : List (Char × Option Nat × Option Nat) := []
  lostOutput : Option OsError := none
  dialect : Dialect := .plain
  modes : List String := []
  disabled : List String := []
  /-- The functions that run, innermost first, and the lines from which they were called. -/
  callers : List (String × Nat) := []
  file : Option String := none
  stack : List Place := []
  /-- The programs that were found: their names, their paths, and how often they were looked for. -/
  hashed : List (String × String × Nat) := []
  /-- The commands beside the shell: the variables that they belong to, their processes, and the numbers by which they
      are read and written. -/
  coprocesses : List (String × Nat × Nat × Nat) := []
  besides : List Nat := []
  temporary : List String := []
  statuses : List Nat := []
  level : Nat := 0
  /-- The elements that arguments of the current command give to arrays: whether they are added, and each with its key
      if it has one. -/
  lists : List (String × Bool × List (Option String × String)) := []

/-- An action of a shell. It may stop early and keeps what it has done, and it may wait. -/
abbrev Act := ExceptT Stop (StateT Shell Flow)

namespace Shell

def path (text : String) : String := Text.lossyText (Text.toBytes text)

def ofPath (path : String) : String := Text.ofBytes path.toUTF8

def placeText (place : Place) : String := "/" ++ "/".intercalate (place.map ofPath)

variable (s : Shell)

def has (option : Char) : Bool := s.options.contains option

def withTrap (signal : Nat) (action : Option String) : Shell :=
  let others := s.traps.filter fun entry => entry.1 != signal
  { s with traps := (action.map fun text => (signal, text) :: others).getD others }

def hasMode (mode : String) : Bool := s.modes.contains mode

variable (name : String)

def find? : Option Variable := s.vars.lookup name

def value? : Option String := (s.find? name).bind Variable.value

def setVariable (v : Variable) : Shell :=
  if (s.vars.lookup name).isSome then
    { s with vars := s.vars.map fun entry => if entry.1 = name then (name, v) else entry }
  else { s with vars := s.vars ++ [(name, v)] }

def dropVariable : Shell := { s with vars := s.vars.filter fun entry => entry.1 != name }

def plainBucket : Nat :=
  (name.toList.foldl (fun sum c => sum + c.toNat) ((name.toList.head?.getD ' ').toNat * 16)) % 39

def byBucket (bucket : String → Nat) (entries : List (String × String)) : List (String × String) :=
  entries.mergeSort fun a b => decide (bucket a.1 ≤ bucket b.1)

/-- The exported variables, in the order in which programs get them. -/
def environment : List (String × String) :=
  let exported := s.vars.filterMap fun (name, v) => if v.exported then v.value.map fun text => (name, text) else none
  if s.dialect = .extended then
    let (own, others) := exported.partition fun entry => s.temporary.contains entry.1
    byBucket (Elements.bucketOf 4) own.reverse ++ byBucket Elements.bucket others.reverse
  else byBucket plainBucket exported

def separators : List Char := ((s.value? "IFS").getD " \t\n").toList

/-- What stands between arguments that are joined. -/
def joint : String :=
  match s.value? "IFS" with
  | some text => String.ofList (text.toList.take 1)
  | none => " "

/-- Takes back what redirections have done to numbers. -/
def restored (before : Numbers) (redirections : List Redirection) : Shell :=
  let restore (numbers : Numbers) (number : Nat) : Numbers :=
    match before.lookup number with
    | some index => numbers.bind number index
    | none => numbers.close number
  { s with numbers := (redirections.flatMap Redirection.numbers).foldl restore s.numbers }

/-- Forgets the commands beside the shell that have ended. -/
def withoutCoprocesses (ended : List Nat) : Shell :=
  let (gone, others) := s.coprocesses.partition fun entry => ended.contains entry.2.1
  gone.foldl (fun s (name, _, reading, writing) =>
    { (s.dropVariable name).dropVariable (name ++ "_PID") with numbers := (s.numbers.close reading).close writing })
    { s with coprocesses := others }

def held : List Nat := (s.numbers :: s.kept).flatMap fun numbers => numbers.map Prod.snd

/-- The machine, told what the shell has open. -/
def settled : Machine := s.machine.setHeld s.own s.held

def extendedOptions : List (Char × String) :=
  [('a', "allexport"), ('B', "braceexpand"), ('Ā', "emacs"), ('e', "errexit"), ('E', "errtrace"), ('T', "functrace"),
    ('h', "hashall"), ('H', "histexpand"), ('ā', "history"), ('Ă', "ignoreeof"), ('ă', "interactive-comments"),
    ('k', "keyword"), ('m', "monitor"), ('C', "noclobber"), ('n', "noexec"), ('f', "noglob"), ('Ą', "nolog"),
    ('b', "notify"), ('u', "nounset"), ('t', "onecmd"), ('P', "physical"), ('ą', "pipefail"), ('Ć', "posix"),
    ('p', "privileged"), ('v', "verbose"), ('ć', "vi"), ('x', "xtrace")]

def optionNames : List (Char × String) :=
  [('e', "errexit"), ('f', "noglob"), ('I', "ignoreeof"), ('i', "interactive"), ('m', "monitor"), ('n', "noexec"),
    ('s', "stdin"), ('x', "xtrace"), ('v', "verbose"), ('V', "vi"), ('E', "emacs"), ('C', "noclobber"),
    ('a', "allexport"), ('b', "notify"), ('u', "nounset"), ('p', "privileged"), ('l', "nolog"), ('d', "debug")]

end Shell

/-- How long the start of a process takes, in nanoseconds. -/
def forkingTime : Nat := 500000

/-- How often an action that waits tries again. -/
def patience : Nat := 1000000

namespace Act

def settle : Act Unit := modify fun s => { s with machine := s.settled }

/-- Hands the machine over until something is so. -/
def pause (moment : Pause) : Act Unit :=
  ExceptT.mk fun s => .paused s.settled moment fun machine => .done (.ok (), { s with machine })

def turn : Act Unit := do
  let s ← get
  if s.machine.table.hasOthers s.own then pause .turn

/-- Starts a process beside the shell. -/
def start (numbers : Numbers) (program : Program) : Act Nat :=
  ExceptT.mk fun s =>
    let (number, machine) := s.settled.addProcess s.own (numbers.map Prod.snd)
    .forked (machine.after forkingTime) number (fun m => (program number m).toProcess number) fun machine =>
      .done (.ok number, { s with machine })

def reap : Act (List (Nat × ExitStatus)) := do
  let s ← get
  let ended := s.machine.table.endedChildren s.own
  if ended.isEmpty then return []
  else
    let table := ended.foldl (fun table entry => table.forget entry.1) s.machine.table
    let learn (j : Job) : Job :=
      let own := ended.filter fun entry => j.processes.contains entry.1
      if own.isEmpty then j else { j with ends := j.ends ++ own, changed := true }
    set ({ s with machine := { s.machine with table }, jobs := s.jobs.map learn }.withoutCoprocesses (ended.map Prod.fst))
    return ended

def awaitAll (numbers : List Nat) : (tries : Nat) → List (Nat × ExitStatus) → Act (List (Nat × ExitStatus))
  | 0, ended => return ended
  | tries + 1, ended => do
    let ended := ended ++ ((← reap).filter fun entry => numbers.contains entry.1)
    let table := (← get).machine.table
    let isOver (number : Nat) : Bool := (ended.lookup number).isSome || (table.find? number).isNone
    if numbers.all isOver then return ended
    else
      let own := (← get).own
      pause { ready := fun m => m.table.hasEndedChild own }
      awaitAll numbers tries ended

def die (signal : Nat) : Act Unit := do
  modify fun s => { s with machine := (s.machine.send s.own signal).toOption.getD s.machine }
  pause .turn

variable (index : Nat)

/-- Writes all bytes to an open file. When a pipe is full, this waits until someone has read from it. -/
def writeAll : (tries : Nat) → ByteArray → Act Unit
  | 0, _ => return
  | tries + 1, bytes => do
    let s ← get
    match s.machine.write index bytes with
    | .ok (count, machine) =>
      set { s with machine }
      if count < bytes.size then
        pause { ready := fun m => m.canWrite index }
        writeAll tries (bytes.extract count bytes.size)
    | .error .brokenPipe =>
      die 13
      modify fun s => { s with lostOutput := some .brokenPipe }
    | .error why => set { s with lostOutput := some why }

def write (number : Nat) (text : String) : Act Unit := do
  let s ← get
  match s.numbers.lookup number with
  | some index =>
    let bytes := Text.toBytes text
    settle
    writeAll index (bytes.size + 1) bytes
  | none => if !text.isEmpty then set { s with lostOutput := some .badNumber }

/-- What can be read now, or after waiting up to a time. -/
def availableTill (time : Option Nat) (index : Nat) : Act (Except OsError (ByteArray × Bool)) := do
  settle
  if !(← get).machine.canRead index then pause { ready := fun m => m.canRead index, time }
  return (← get).machine.available index

def available : Act (Except OsError (ByteArray × Bool)) := availableTill none index

def skip (index count : Nat) : Act Unit := modify fun s => { s with machine := s.machine.skip index count }

def readAll : (tries : Nat) → ByteArray → Act (Except OsError ByteArray)
  | 0, read => return .ok read
  | tries + 1, read => do
    match ← available index with
    | .error why => return .error why
    | .ok (bytes, isLast) =>
      skip index bytes.size
      let read := read ++ bytes
      if isLast then return .ok read else readAll tries read

def print (text : String) : Act Unit := write 1 text

def printError (text : String) : Act Unit := do
  let lost := (← get).lostOutput
  write 2 text
  modify fun s => { s with lostOutput := lost }

def reportAt (line : Nat) (text : String) : Act Unit := do
  let s ← get
  if s.dialect = .extended then printError (s.file.getD s.name ++ s!": line {line}: " ++ text ++ "\n")
  else printError (s.name ++ s!": {line}: " ++ text ++ "\n")

def report (text : String) : Act Unit := do
  let s ← get
  reportAt s.line ((s.builtin.map (· ++ ": ")).getD "" ++ text)

def setStatus (status : Nat) : Act Unit := modify fun s => { s with status := status }

/-- Reports a fault that ends a plain script. -/
def fail {α : Type} (text : String) : Act α := do
  report text
  setStatus 2
  throw .fault

def discard {α : Type} (text : String) : Act α := do
  report text
  setStatus 1
  throw .discard

/-- Reports a fault that ends the command with a status. -/
def refuse {α : Type} (status : Nat) (text : String) : Act α := do
  report text
  setStatus status
  throw .refused

def abort {α : Type} (text : String) : Act α := do
  reportAt (← get).line text
  setStatus 1
  throw .fault

/-- Carries an action out and says how it ended. -/
def outcome {α : Type} (a : Act α) : Act (Except Stop α) := ExceptT.lift (ExceptT.run a)

def failed (a : Act Unit) : Act Bool := do
  match ← outcome a with
  | .ok () => return false
  | .error .fault => return true
  | .error e => throw e

/-- Does something for each item. The greatest status counts. -/
def forEach {α : Type} (items : List α) (work : α → Act Nat) : Act Nat := do
  return (← items.mapM work).foldl max 0

def illegalNumber {α : Type} (text : String) : Act α := fail s!"Illegal number: {text}"

end Act

end BenchKernel.Script
