import BenchKernel.Host.Script.Compound
import BenchKernel.Host.Utility.Run

/-! # Running programs

Executing files: the programs of the host, of which the shell is one, and scripts, which their interpreters run. How
deep commands may stand in one another and how many rounds a loop may have is bounded by a number. -/

namespace BenchKernel.Script

variable (l : Launch)

/-- The names that lead to the directory a shell starts in. -/
def startingWay (files : FileStore) : Place :=
  match l.environment.lookup "PWD" with
  | some path =>
    let names := Path.names (Shell.path path)
    let isSound := Path.isAbsolute path && !names.contains "." && !names.contains ".."
    if isSound && (files.locate [] (Shell.path path)).toOption = some l.cwd then names else l.cwd
  | none => l.cwd

def Shell.withValues (s : Shell) (entries : List (String × String)) : Shell :=
  entries.foldl (fun s entry => s.setVariable entry.1 { value := some entry.2 }) s

/-- A shell with the environment that it was given. -/
def Shell.bare (number : Nat) (machine : Machine) (own : List (String × String)) : Shell :=
  let given := l.environment.filter fun entry => isName entry.1
  let s : Shell :=
    { name := l.name, arguments := [], cwd := l.cwd, way := startingWay l machine.files, numbers := l.numbers, machine,
      mask := l.mask, process := number, own := number
      neverCaught := ((machine.table.find? number).map ProcessState.ignored).getD [] }
  given.foldl (fun s entry => s.setVariable entry.1 { value := some entry.2, exported := true }) (s.withValues own)

def Shell.placed (s : Shell) : Shell :=
  s.setVariable "PWD" { value := some (Shell.placeText s.way), exported := true }

def Shell.parentText (s : Shell) : String := toString ((s.machine.table.find? s.own).map ProcessState.parent |>.getD ProcessState.adopter)

def Shell.startPlain (number : Nat) (machine : Machine) : Shell :=
  let preset := [("IFS", " \t\n"), ("PATH", ownSearchPath), ("PS1", "# "), ("PS2", "> "), ("PS4", "+ "), ("OPTIND", "1")]
  let s := Shell.bare l number machine preset
  (s.withValues [("IFS", " \t\n"), ("OPTIND", "1"), ("PPID", s.parentText)]).placed

def Shell.startExtended (number : Nat) (machine : Machine) : Shell :=
  let s := Shell.bare l number machine [("PATH", ownSearchPath)]
  let level := (((s.value? "SHLVL").bind fun text => number? text.toList).getD 0) + 1
  let own :=
    [("BASH", l.path), ("BASH_VERSION", "5.2.21(1)-release"), ("HOSTTYPE", "x86_64"), ("IFS", " \t\n"),
      ("MACHTYPE", "x86_64-pc-linux-gnu"), ("OPTERR", "1"), ("OPTIND", "1"), ("OSTYPE", "linux-gnu"), ("PS4", "+ ")]
  let given := [("SHELL", "/bin/bash"), ("TERM", "dumb"), ("HOSTNAME", "localhost")].filter fun entry => (s.value? entry.1).isNone
  let fixed := [("EUID", "0"), ("PPID", s.parentText), ("UID", "0")]
  let s := (s.withValues (own ++ given)).placed
  let s := fixed.foldl (fun s entry => s.setVariable entry.1 { value := some entry.2, fixed := true, integer := true }) s
  let s := s.setVariable "SHLVL" { value := some (toString level), exported := true }
  let s := s.setVariable "_" { value := some l.name }
  let s := if (s.find? "OLDPWD").isSome then s else s.setVariable "OLDPWD" { exported := true }
  { s with
    dialect := .extended, options := ['h', 'B', 'ă']
    modes := Extended.firstModes }

namespace Engine

def isLetters (argument : String) : Bool :=
  match argument.toList with
  | '-' :: c :: _ => c != '-'
  | _ => false

/-- Whether a text is to be run or the input, and the other arguments. -/
def commandOptions : List String → Bool × Bool × List String
  | [] => (false, false, [])
  | argument :: rest =>
    if isLetters argument then
      let letters := argument.toList.filter fun c => c != 'c' && c != 's'
      let (isText, isInput, rest) := commandOptions rest
      let isText := isText || argument.toList.contains 'c'
      let isInput := isInput || argument.toList.contains 's'
      (isText, isInput, if letters = ['-'] then rest else String.ofList letters :: rest)
    else (false, false, argument :: rest)

variable (e : Engine)

def input : Act Unit := do
  let s ← get
  match s.numbers.lookup 0 with
  | none => return
  | some index =>
    match ← Act.readAll index patience ByteArray.empty with
    | .error _ => return
    | .ok bytes => e.script { rest := (Text.ofBytes bytes).toList, isFile := true }

def scriptFile (path : String) (arguments : List String) : Act Unit := do
  let s ← get
  match commandText s path with
  | .error why =>
    if s.dialect = .extended then
      Act.printError s!"{s.name}: {path}: {why.description}\n"
      Act.setStatus (if why = .notFound then 127 else 126)
    else Act.fail (s!"cannot open {path}: " ++ openReason "No such file" why)
  | .ok content =>
    set { s with name := path, arguments := arguments }
    e.script { rest := content.toList, isFile := true }

def longOptions : List String := ["--login", "--noediting", "--noprofile", "--norc", "--posix", "--restricted"]

def startingOptions (given : List String) : Act (List String) := do
  if ← isWide then
    let given := given.dropWhile longOptions.contains
    match ← Act.outcome (Extended.optionSetting.read (given.length + 1) given) with
    | .ok (rest, _) => return rest
    | .error .refused => throw .exit
    | .error stop => throw stop
  else return (← Builtin.optionSetting.read (given.length + 1) given).1

/-- Does what the arguments of a shell ask for. -/
def arguments (e : Engine) (given : List String) : Act Unit := do
  let (isText, isInput, given) := commandOptions given
  let rest ← startingOptions given
  let wide ← isWide
  match rest with
  | first :: others =>
    if isText then
      modify fun s =>
        { s with
          name := others.head?.getD s.name, arguments := others.tail, isLast := true
          options := if wide then 'c' :: s.options else s.options }
      e.script { rest := first.toList, label := "-c: " }
    else if isInput then
      modify fun s => { s with arguments := rest }
      e.input
    else e.scriptFile first others
  | [] =>
    if !isText then e.input
    else if wide then
      Act.printError ((← get).name ++ ": -c: option requires an argument\n")
      Act.setStatus 2
    else Act.fail "-c requires an argument"

def shell (l : Launch) (start : Shell) : Flow (ExitStatus × Machine) := do
  return endOf (← (e.ended (e.arguments l.arguments)).run.run start)

def shells : List (String × (Launch → (number : Nat) → Machine → Shell)) :=
  [("bash", Shell.startExtended), ("dash", Shell.startPlain)]

def scriptDepth : Nat := 5

/-- Finds out what a file does that is executed. A script is handed to its interpreter. -/
def executeStep (depth : Nat) (l : Launch) (m : Machine) : Except OsError Program :=
  if scriptDepth < depth then .error .tooManyLinks
  else
    match m.files.find l.cwd (Shell.path l.path) with
    | .error why => .error why
    | .ok (.directory _) | .ok (.device _) | .ok (.link _) | .ok (.fifo _) => .error .permissionDenied
    | .ok (.program name) =>
      match shells.lookup name, Utility.program? name with
      | some start, _ => .ok fun number m => e.shell l (start l number m)
      | none, some work => .ok fun number m => (work.run { l with process := number, start := e.execute 0 }).run m
      | none, none => .error .execFormat
    | .ok (.file content marks) =>
      if !marks.isExecutable then .error .permissionDenied
      else
        match ScriptFile.interpreter? content with
        | none => .error .execFormat
        | some (interpreter, argument) =>
          let arguments := argument.toList ++ [l.path] ++ l.arguments
          e.execute (depth + 1) { l with path := interpreter, name := interpreter, arguments } m

/-- The engine whose functions call each other at most so often. -/
def bounded : Nat → Engine
  | 0 =>
    { command := fun _ _ => throw .exit
      loop := fun _ _ _ _ _ => throw .exit
      count := fun _ _ _ _ _ => throw .exit
      source := fun _ _ => throw .exit
      fields := fun _ _ _ _ => throw .exit
      execute := fun _ _ _ => .error .tooManyLinks }
  | n + 1 =>
    { command := fun tested c => (bounded n).step tested c
      loop := fun tested negated status test body => (bounded n).round tested negated status test body
      count := fun tested status test next body => (bounded n).countRound tested status test next body
      source := fun tested source => (bounded n).sourceStep tested source
      fields := fun tested special plain fields => (bounded n).namedCommand tested special plain fields
      execute := fun depth l m => (bounded n).executeStep depth l m }

end Engine

end BenchKernel.Script
