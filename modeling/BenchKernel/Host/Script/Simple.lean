import BenchKernel.Host.Script.Engine
import BenchKernel.Host.ScriptFile

/-! # Simple commands

A simple command names a function, a builtin command or a program. Its assignments and redirections hold for it
alone, unless it is special or there is nothing else. -/

namespace BenchKernel.Script

namespace Engine

/-! ### Programs -/

variable (e : Engine)

/-- Finds a program by its path or, without a slash, by its name: how it is started, and what it does. A file that
    names no interpreter is read as a script. -/
def findProgram (name : String) (arguments : List String) : Act (Except OsError (Launch × Program)) := do
  let before ← get
  let (found, s) : Except OsError String × Shell :=
    if name.toList.contains '/' then (.ok name, before) else before.lookFor name
  set s
  match found with
  | .error why => return .error why
  | .ok path =>
    let environment := s.environment.filter fun entry => !(s.dialect = .extended && entry.1 == "_")
    let l : Launch :=
      { path, name, arguments
        environment := if s.dialect = .extended then environment ++ [("_", path)] else environment
        cwd := s.cwd, mask := s.mask
        numbers := s.coprocesses.foldl (fun numbers (_, _, reading, writing) => (numbers.close reading).close writing) s.numbers }
    let reader := if s.dialect = .extended then "/bin/bash" else "/bin/sh"
    let script := { l with path := reader, name := reader, arguments := path :: arguments }
    match e.execute 0 l s.machine with
    | .error .execFormat => return (e.execute 0 script s.machine).map fun program => (script, program)
    | .error why => return .error why
    | .ok program => return .ok (l, program)

/-- Puts a program in the place of the shell. -/
def become {α : Type} (l : Launch) (program : Program) : Act α :=
  ExceptT.mk fun s => do
    let m := (s.machine.setHeld s.own l.held).modifyProcess s.own fun p => { p with caught := [] }
    let (status, machine) ← program s.own m
    return (.error (.replaced status), { s with machine })

/-- Reports why a program cannot be started. The status says it too. -/
def reportLaunch (name : String) (why : OsError) : Act Nat := do
  let s ← get
  let say (text : String) : Act Unit := Act.reportAt s.line s!"{name}: {text}"
  if !name.toList.contains '/' then
    match if name.isEmpty then .notFound else why with
    | .permissionDenied =>
      say why.description
      return 126
    | _ =>
      say "command not found"
      return 127
  else
    match s.machine.files.find s.cwd (Shell.path name) with
    | .ok (.directory _) =>
      say OsError.isDirectory.description
      return 126
    | .ok (.file content marks) =>
      match if marks.isExecutable then ScriptFile.interpreter? content else none with
      | some (interpreter, _) =>
        if why = .notFound then
          say "cannot execute: required file not found"
          return 127
        else
          Act.printError s!"{s.file.getD s.name}: {name}: {interpreter}: bad interpreter: {why.description}\n"
          return 126
      | none =>
        say why.description
        return 126
    | _ =>
      say why.description
      return if why = .notFound then 127 else 126

/-- Runs a program and waits for it: its status. When nothing comes after it, it takes the place of the shell. -/
def program (e : Engine) (name : String) (arguments : List String) : Act Nat := do
  match ← e.findProgram name arguments with
  | .ok (l, program) =>
    if ← isLeaving then become l program
    else
      let number ← Act.start l.numbers program
      return ((← Act.awaitReported [number]).head?.map ExitStatus.code).getD 127
  | .error why =>
    if ← isWide then reportLaunch ((((← get).hashed.lookup name).map Prod.fst).getD name) why
    else
      let (text, status) := launchFailure why
      Act.report s!"{name}: {text}"
      return if name.toList.contains '/' then status else 127

def fullPath (s : Shell) (path : String) : String :=
  match path.toList with
  | '/' :: _ => path
  | '.' :: '/' :: rest => s!"{Shell.placeText s.way}/{String.ofList rest}"
  | _ => s!"{Shell.placeText s.way}/{path}"

/-- Replaces the shell by a program. -/
def replacement (given : String) (arguments : List String) : Act Nat := do
  match ← e.findProgram given arguments with
  | .ok (l, program) => become l program
  | .error why =>
    if ← isWide then
      let s ← get
      let name := if given.toList.contains '/' then fullPath s given else given
      let status ←
        if name.toList.contains '/' then do
          let status ← reportLaunch name why
          let isOther := why != .notFound && status = 126
          if isOther then Act.report (name ++ ": cannot execute: " ++ (OsError.description <|
            match (← get).machine.files.find (← get).cwd (Shell.path name) with
            | .ok (.directory _) => .isDirectory
            | _ => why))
          pure status
        else do
          Act.report s!"{name}: not found"
          pure 127
      Act.setStatus status
      throw .exit
    else
      let (text, status) := launchFailure why
      Act.report s!"{given}: {text}"
      Act.setStatus status
      throw .exit

/-! ### Functions and files -/

def greatestDepth : Nat := 1000

/-- Runs a function with arguments of its own. -/
def function (e : Engine) (tested : Bool) (name : String) (body : Command) (arguments : List String) : Act Unit := do
  let before ← get
  if before.dialect = .plain && greatestDepth ≤ before.functionDepth then
    Act.fail s!"Maximum function recursion depth ({greatestDepth}) reached"
  set { before with
    isLast := false, arguments := arguments, optionOffset := 0, loopDepth := 0, functionDepth := before.functionDepth + 1,
    saved := [] :: before.saved, savedOptions := none :: before.savedOptions
    callers := (name, before.line) :: before.callers }
  let result ← Act.outcome (e.command tested body)
  let isTrapped := before.dialect = .extended && ((← get).traps.lookup Extended.returnTrap).isSome &&
    ((before.traps.lookup Extended.returnTrap).isNone || before.has 'T')
  if isTrapped then
    let s ← get
    set { s with skip := none, functionDepth := 0 }
    e.ownTrap Extended.returnTrap 'T'
    modify fun after => { after with skip := s.skip, status := s.status }
  let after ← get
  set { after with
    arguments := before.arguments, optionOffset := before.optionOffset, loopDepth := before.loopDepth,
    isLast := before.isLast, functionDepth := before.functionDepth, saved := after.saved.tail, savedOptions := after.savedOptions.tail,
    options := (after.savedOptions.head?.bind id).getD after.options, skip := if after.skip = some Skip.function then none else after.skip
    callers := before.callers }
  restoreVariables ((after.saved.head?).getD [])
  finish result

/-- The path of a file with commands. -/
def includedPath? (s : Shell) (name : String) : Option String :=
  let isThere (path : String) : Bool := s.machine.files.find s.cwd (Shell.path path) matches .ok (.file _ _)
  if name.toList.contains '/' then some name
  else
    ((candidates ((s.value? "PATH").getD "") name).find? isThere).orElse fun _ =>
      if s.dialect = .extended then some name else none

/-- Runs the commands of a file in this shell. -/
def included (arguments : List String) : Act Nat := do
  let wide ← isWide
  match arguments with
  | [] =>
    if wide then
      Act.report "filename argument required"
      Extended.misuse
    else return 0
  | name :: rest =>
    let s ← get
    match includedPath? s name with
    | none => Act.fail s!"{name}: not found"
    | some path =>
      match commandText s path with
      | .error why =>
        if wide then
          let report := if why = .isDirectory then Act.report else Act.reportAt s.line
          report s!"{path}: {why.description}"
          Act.setStatus 1
          throw .refused
        else Act.fail (s!"cannot open {path}: " ++ openReason "No such file" why)
      | .ok content =>
        if wide then
          set { s with
            builtin := none, file := some path, level := s.level + 1
            arguments := if rest.isEmpty then s.arguments else rest }
          let result ← Act.outcome (e.script { rest := content.toList, isFile := true })
          modify fun after =>
            { after with
              file := s.file, level := s.level, line := s.line
              arguments := if rest.isEmpty then after.arguments else s.arguments }
          finish result
        else
          modify fun s => { s with builtin := some path }
          e.script { rest := content.toList, isFile := true }
        return (← get).status

variable (tested : Bool)

def evaluated (content : String) : Act Nat := do
  let s ← get
  if s.dialect = .extended then
    set { s with builtin := none, level := s.level + 1 }
    let result ← Act.outcome (e.whole tested { rest := content.toList, line := s.line, label := "eval: " })
    modify fun after => { after with level := s.level, line := s.line }
    finish result
  else e.text tested content
  return (← get).status

/-! ### Builtin commands -/

def builtin (name : String) (arguments : List String) : Act Nat := do
  match name, arguments with
  | "eval", _ => e.evaluated tested (" ".intercalate arguments)
  | ".", _ => e.included arguments
  | "exec", name :: rest => e.replacement name rest
  | "type", _ => describeCommands true arguments
  | "hash", _ => hashCommands arguments
  | "exit", [] =>
    modify fun s => { s with status := s.leaving.getD s.status }
    throw .exit
  | _, _ => runPlainBuiltin name arguments

def builtinWide (name : String) (arguments : List String) : Act Nat := do
  match name with
  | "eval" =>
    let (_, words) ← Extended.options "" arguments
    e.evaluated tested (" ".intercalate words)
  | "." | "source" =>
    let (_, words) ← Extended.options "" arguments
    e.included words
  | "exec" =>
    let (_, words) ← Extended.options "cla:" arguments
    match words with
    | [] => return 0
    | name :: rest => e.replacement name rest
  | "type" => Extended.describe arguments
  | "hash" => Extended.hash arguments
  | "enable" =>
    let (given, names) ← Extended.options "adnpsf:" arguments
    if names.isEmpty then
      (extendedBuiltins.mergeSort fun a b => decide (a ≤ b)).forM fun name => Act.print s!"enable {name}\n"
      return 0
    else
      Extended.forNames names fun name => do
        if !extendedBuiltins.contains name then Act.refuse 1 s!"{name}: not a shell builtin"
        let isOff := Extended.isGiven given 'n'
        modify fun s =>
          let others := s.disabled.filter (· != name)
          { s with disabled := if isOff then name :: others else others }
  | _ => runExtendedBuiltin name arguments

/-- Runs a builtin command under its name. Its fault ends the script only if it is special. -/
def namedBuiltin (tested special : Bool) (name : String) (arguments : List String) : Act Unit := do
  let before := (← get).builtin
  let isLast := (← get).isLast
  let wide ← isWide
  let run : Act Unit := do
    modify fun s => { s with builtin := some name, lostOutput := none, isLast := false }
    let status ← if wide then e.builtinWide tested name arguments else e.builtin tested name arguments
    match (← get).lostOutput with
    | some why =>
      modify fun s => { s with builtin := some name }
      Act.report (if wide then "write error: " ++ why.description else name ++ ": I/O error")
      modify fun s => { s with status := 1, lostOutput := none }
    | none => Act.setStatus status
  let result ← Act.outcome run
  modify fun s => { s with builtin := before, isLast := isLast }
  match result with
  | .ok () => return
  | .error .refused => return
  | .error stop => if stop = .fault && !special && !wide then return else throw stop

/-- Runs a command without looking at functions, or says what it is. -/
def plainCommand (arguments : List String) : Act Unit := do
  let before := (← get).builtin
  modify fun s => { s with builtin := some "command" }
  let wide ← isWide
  let result ← Act.outcome (if wide then Extended.options "pvV" arguments else options "pvV" arguments)
  match result with
  | .error stop =>
    modify fun s => { s with builtin := before }
    if stop = .fault || stop = .refused then return else throw stop
  | .ok (given, rest) =>
    let kind := given.getLast?.map Prod.fst
    if wide && (kind = some 'v' || kind = some 'V') then
      let status ← Extended.describeShortly (kind = some 'V') rest
      modify fun s => { s with builtin := before, status := status }
    else
      modify fun s => { s with builtin := before }
      match kind with
      | some 'v' => Act.setStatus (← describeCommands false (rest.take 1))
      | some 'V' => Act.setStatus (← describeCommands true (rest.take 1))
      | _ => e.fields tested false true rest

def builtinCommand (arguments : List String) : Act Unit := do
  match arguments with
  | [] => Act.setStatus 0
  | name :: rest =>
    if extendedBuiltins.contains name then
      if name = "command" then e.plainCommand tested rest else e.namedBuiltin tested false name rest
    else
      Act.reportAt (← get).line s!"builtin: {name}: not a shell builtin"
      Act.setStatus 1

/-- Runs a function, a builtin command or a program. -/
def namedCommand (tested special plain : Bool) (fields : List String) : Act Unit := do
  match fields with
  | [] => Act.setStatus 0
  | name :: arguments =>
    let s ← get
    let wide := s.dialect = .extended
    match if plain then none else s.functions.lookup name with
    | some body => e.function tested name body arguments
    | none =>
      let isBuiltin := if wide then extendedBuiltins.contains name && !s.disabled.contains name else builtinNames.contains name
      if !isBuiltin then Act.setStatus (← e.program name arguments)
      else if name = "command" then e.plainCommand tested arguments
      else if wide && name = "builtin" then e.builtinCommand tested arguments
      else e.namedBuiltin tested special name arguments

/-! ### Assignments and redirections around a command -/

/-- Carries an action out and restores the variables that it keeps. -/
def withVariables (a : Act Unit) : Act Unit := do
  modify fun s => { s with saved := [] :: s.saved }
  let result ← Act.outcome a
  let s ← get
  set { s with saved := s.saved.tail }
  restoreVariables ((s.saved.head?).getD [])
  finish result

def simplePlain (assigned : List Assignment) (ws : List Word)
    (redirections : List Redirection) : Act Unit := do
  let fields ← e.words [] ws
  let openings ← redirections.mapM e.opening
  let isSpecial := specialBuiltins.contains (fields.head?.getD "")
  let before := (← get).numbers
  let kept := (← get).kept
  if !redirections.isEmpty then modify fun s => { s with kept := before :: kept }
  let traced (values : List (String × String)) : Act Unit :=
    e.trace before (" ".intercalate ((values.map fun (name, value) => s!"{name}={value}") ++ fields))
  if ← Act.failed (openings.forM id) then
    modify fun s => { s.restored before redirections with kept := kept, status := 2 }
    if isSpecial then throw .fault
  else if fields.isEmpty then
    let result ← Act.outcome (e.assignments false assigned)
    modify fun s => { s.restored before redirections with kept := kept }
    traced (← finish result)
    modify fun s => { s with status := s.substituted }
  else if fields = ["exec"] then
    modify fun s => { s with kept := kept }
    traced (← e.assignments false assigned)
    Act.setStatus 0
  else
    let isTemporary := !isSpecial && !assigned.isEmpty
    let run : Act Unit := do
      traced (← e.assignments isTemporary assigned)
      e.fields tested isSpecial false fields
    let result ← Act.outcome (if isTemporary then withVariables run else run)
    modify fun s => { s.restored before redirections with kept := kept }
    finish result

def simpleWide (assigned : List Assignment) (ws : List Word)
    (redirections : List Redirection) : Act Unit := do
  modify fun s => { s with lists := [] }
  e.ownTrap Extended.commandTrap 'T'
  let before := (← get).numbers
  let kept := (← get).kept
  let fields ← e.words [] ws
  if fields.isEmpty then
    let _ ← e.assignments false assigned
    let status := (← get).substituted
    let failed ← e.openAll redirections
    modify fun s => { s.restored before redirections with status := if failed then 1 else status }
  else if fields = ["exec"] then
    e.traceWide "exec"
    let failed ← e.openAll redirections
    modify fun s => { s with numbers := if failed then before else s.numbers, status := if failed then 1 else 0 }
  else
    if !redirections.isEmpty then modify fun s => { s with kept := before :: kept }
    let assignAll : Act Unit := assigned.forM fun one => do
      match ← Act.outcome (e.assignment true one) with
      | .ok _ => return
      | .error .discard => return
      | .error stop => throw stop
    let names := assigned.map Assignment.name
    let run : Act Unit := do
      assignAll
      let outer := (← get).temporary
      modify fun s => { s with temporary := names ++ outer }
      e.traceWide (" ".intercalate (fields.map tracedWord))
      if ← e.openAll redirections then Act.setStatus 1 else e.fields tested false false fields
      modify fun s => { s with temporary := outer }
    let result ← Act.outcome (if assigned.isEmpty then run else withVariables run)
    modify fun s => { s.restored before redirections with kept := kept }
    finish result
    modify fun s => s.setVariable "_" { value := fields.getLast? }

def simple (line : Nat) (assigned : List Assignment) (ws : List Word)
    (redirections : List Redirection) : Act Unit := do
  modify fun s => { s with line := line, substituted := 0 }
  if ← isWide then
    withBesides (e.simpleWide tested assigned ws redirections)
    modify fun s => { s with statuses := [s.status] }
  else e.simplePlain tested assigned ws redirections

end Engine

end BenchKernel.Script
