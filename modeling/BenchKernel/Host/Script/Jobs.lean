import BenchKernel.Host.Script.Shell

/-! # Jobs and signals

Commands that were started in the background are jobs. A shell learns how they have ended when it waits for something,
lists them, and names them by their numbers or by their texts. -/

namespace BenchKernel.Script

namespace Shell

variable (s : Shell)

def job? (number : Nat) : Option Job := s.jobs.find? fun j => j.number == number

def dropJob (number : Nat) : Shell := { s with jobs := s.jobs.filter fun j => j.number != number }

/-- The least number that no job needs. -/
def freeNumber : Nat :=
  let isFree (number : Nat) : Bool := (s.job? number).all fun j => j.isDone && j.waited
  (((List.range (s.jobs.length + 1)).map (· + 1)).find? isFree).getD (s.jobs.length + 1)

def nextNumber : Nat := s.jobs.foldl (fun greatest j => max greatest j.number) 0 + 1

def addJob (processes : List Nat) (text : String) : Shell :=
  let number := if s.dialect = .extended then s.nextNumber else s.freeNumber
  let s := s.dropJob number
  { s with jobs := { number, processes, text } :: s.jobs, lastJob := processes.getLast? }

/-- Forgets the jobs that have ended. -/
def withoutOver : Shell :=
  if s.dialect = .extended then
    let (gone, others) := s.jobs.partition Job.isDone
    let ends := gone.filterMap fun j => j.status?.map fun status => (j.last, status)
    { s with jobs := others, known := ends ++ s.known }
  else s.dropJob s.freeNumber

def currentJob? : Option Job := s.jobs.head?

def previousJob? : Option Job := s.jobs.tail.head?

/-- The mark of the current job and of the one before it. -/
def jobMark (j : Job) : Char :=
  if (s.currentJob?).any fun other => other.number == j.number then '+'
  else if (s.previousJob?).any fun other => other.number == j.number then '-'
  else ' '

end Shell

def reportSignal (status : ExitStatus) : Act Unit := do
  match status with
  | .exited _ => return
  | .signaled signal =>
    match ExitStatus.signalDescriptions.lookup signal with
    | some text => Act.printError s!"{text}\n"
    | none => return

/-- How a process has ended, in words. -/
def endText (exited : String × (Nat → String)) : ExitStatus → String
  | .exited 0 => exited.1
  | .exited code => exited.2 code
  | .signaled signal => (ExitStatus.signalDescriptions.lookup signal).getD ((ExitStatus.signalNames.lookup signal).getD "")

namespace Act

/-- Waits until `isOver` says of the shell that it need not, or until a signal comes that the shell handles: that signal.
    Of the given processes it is said which signals have ended them. -/
def awaitUntil (isOver : Shell → Bool) (reported : List Nat) : (tries : Nat) → Act (Option Nat)
  | 0 => return none
  | tries + 1 => do
    let ended ← reap
    ended.forM fun entry => if reported.contains entry.1 then reportSignal entry.2 else return
    let s ← get
    let own := s.own
    let isMinded (signal : Nat) : Bool := signal != 17 || s.dialect = .plain
    let arrived (m : Machine) : Option Nat := (m.table.find? own).bind fun p => p.arrived.find? isMinded
    if isOver s || !s.machine.table.hasChildren own then return none
    else
      match arrived s.machine with
      | some signal => return some signal
      | none =>
        pause { ready := fun m => m.table.hasEndedChild own || (arrived m).isSome }
        awaitUntil isOver reported tries

/-- Waits for processes and reports the signals that end them. -/
def awaitReported (numbers : List Nat) : Act (List ExitStatus) := do
  modify Shell.withoutOver
  let ended ← awaitAll numbers patience []
  ended.forM fun entry => reportSignal entry.2
  if (← get).dialect = .extended then modify Shell.withoutOver
  return numbers.map fun number => (ended.lookup number).getD (.exited 127)

/-- Tells the machine which signals the shell catches or ignores. -/
def settleTraps : Act Unit :=
  modify fun s =>
    let own := s.traps.filter fun entry => 0 < entry.1 && entry.1 ≤ 64 && !s.neverCaught.contains entry.1
    let (ignored, caught) := own.partition fun entry => entry.2.isEmpty
    let change (p : ProcessState) : ProcessState :=
      { p with caught := caught.map Prod.fst, ignored := ignored.map Prod.fst ++ s.neverCaught }
    { s with machine := s.machine.modifyProcess s.own change }

def send (number signal : Nat) : Act (Except OsError Unit) := do
  let s ← get
  match s.machine.send number signal with
  | .error why => return .error why
  | .ok machine =>
    set { s with machine }
    if number = s.own then pause .turn
    return .ok ()

end Act

/-! ### Jobs by their names -/

inductive JobFault
  | noCurrent
  | noPrevious
  | unknown
  | ambiguous
  deriving DecidableEq, Repr

/-- The job that a text names. -/
def Shell.findJob (s : Shell) (name : String) : Except JobFault Job :=
  let found (fault : JobFault) (job : Option Job) : Except JobFault Job := (job.map Except.ok).getD (.error fault)
  let only (isMeant : Job → Bool) : Except JobFault Job :=
    match s.jobs.filter isMeant with
    | [] => .error .unknown
    | [j] => .ok j
    | _ => .error .ambiguous
  match name.toList with
  | ['%'] | ['%', '%'] | ['%', '+'] => found .noCurrent s.currentJob?
  | ['%', '-'] =>
    if s.dialect = .extended then found .noPrevious (s.previousJob?.orElse fun _ => s.currentJob?)
    else found .noPrevious s.previousJob?
  | '%' :: rest =>
    if rest.all Char.isDigit then found .unknown (s.job? (rest.foldl (fun n c => n * 10 + (c.toNat - '0'.toNat)) 0))
    else if s.dialect = .plain then .error .unknown
    else
      match rest with
      | '?' :: part => only fun j => Text.occurs part j.text.toList
      | _ => only fun j => rest.isPrefixOf j.text.toList
  | _ => .error .unknown

end BenchKernel.Script
