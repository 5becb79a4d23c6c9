import BenchKernel.Host.Script.Shell

/-! # Redirections

Opening files for a command by their numbers, and closing them after it. -/

namespace BenchKernel.Script

inductive Opening
  | file (number : Nat) (access : FileAccess) (path : String)
  /-- Lets a number stand for what another one stands for, which messages name as it is written. -/
  | duplicate (number source : Nat) (written : String)
  | close (number : Nat)
  | text (number : Nat) (content : String)
  | both (append : Bool) (path : String)

def openReason (missing : String) : OsError → String
  | .notFound | .notDirectory => missing
  | e => e.description

/-- Reports that a redirection cannot be made. -/
def refuseOpening {α : Type} (text : String) : Act α := do
  let s ← get
  if s.dialect = .extended then
    Act.reportAt s.line text
    Act.setStatus 1
    throw .refused
  else Act.fail text

/-- Opens a file under a number. A pipe with a name waits for its other end. -/
def openFile (number : Nat) (access : FileAccess) (path : String) : Act Unit := do
  let s ← get
  let isFile := s.machine.files.find s.cwd (Shell.path path) matches .ok (.file _ _)
  let wide := s.dialect = .extended
  if access = .write && s.has 'C' && isFile then
    refuseOpening (if wide then path ++ ": cannot overwrite existing file" else s!"cannot create {path}: File exists")
  let kind : Access :=
    match access with
    | .read => .read
    | .write | .overwrite => .write
    | .append => .append
    | .readWrite => .readWrite
  match s.machine.openPath s.numbers s.mask s.cwd (Shell.path path) kind with
  | .ok (index, machine) =>
    set { s with machine := machine, numbers := s.numbers.bind number index }
    let before := machine.openingsOf index
    if machine.isAlone before index then Act.pause { ready := fun m => !m.isAlone before index }
  | .error e =>
    refuseOpening <|
      if wide then s!"{path}: {e.description}"
      else if access = .read then s!"cannot open {path}: " ++ openReason "No such file" e
      else s!"cannot create {path}: " ++ openReason "Directory nonexistent" e

def duplicateNumber (number source : Nat) (written : String) : Act Unit := do
  let s ← get
  match s.numbers.lookup source with
  | some index => set { s with numbers := s.numbers.bind number index }
  | none => refuseOpening s!"{written}: Bad file descriptor"

def Opening.carryOut : Opening → Act Unit
  | .file number access path => openFile number access path
  | .duplicate number source written => duplicateNumber number source written
  | .close number => modify fun s => { s with numbers := s.numbers.close number }
  | .text number content => do
    let s ← get
    let (index, machine) := s.machine.addText (Text.toBytes content)
    set { s with machine := machine, numbers := s.numbers.bind number index }
  | .both append path => do
    openFile 1 (if append then .append else .write) path
    duplicateNumber 2 1 "1"

/-- Carries an action out and takes back its redirections. -/
def keepingNumbers (redirections : List Redirection) (a : Act Unit) : Act Unit := do
  let before ← get
  set { before with kept := before.numbers :: before.kept }
  let result ← Act.outcome a
  modify fun s => { s.restored before.numbers redirections with kept := before.kept }
  match result with
  | .ok () => return
  | .error e => throw e

end BenchKernel.Script
