import BenchKernel.Host.Script.Brackets

/-! # Compound commands

Pipelines, loops, choices and the rest, and how a script is read and run line by line. -/

namespace BenchKernel.Script

namespace Engine

/-! ### Pipelines and jobs -/

/-- Looks for a program before its process is started. -/
def findEarly (c : Command) (s : Shell) : Shell :=
  match c with
  | .simple _ _ ([.text false name] :: _) _ => if isName name && isProgram s name then (s.lookFor name).2 else s
  | _ => s

variable (e : Engine) (tested : Bool)

/-- Starts the commands of a pipeline, each with the output of the one before it as its input: their processes. The
    signals of `ignored` do nothing to them. -/
def stages (ignored : List Nat) (input : Option Nat) : List Command → Act (List Nat)
  | [] => return []
  | c :: rest => do
    if (← get).dialect = .plain then modify (findEarly c)
    let s ← get
    let jobs := if s.dialect = .extended && c matches .simple .. then s.jobs else []
    let bindInput (numbers : Numbers) : Numbers := (input.map (numbers.bind 0)).getD numbers
    if rest.isEmpty then
      let number ← e.fork (fun s => { s with jobs, numbers := bindInput s.numbers }) ignored (e.command tested c)
      return [number]
    else
      let ((reading, writing), machine) := s.machine.addPipe
      set { s with machine := machine }
      let number ← e.fork (fun s => { s with jobs, numbers := (bindInput s.numbers).bind 1 writing }) ignored (e.command tested c)
      return number :: (← stages ignored (some reading) rest)

def pipeline (cs : List Command) : Act (List Nat) := do
  return (← Act.awaitReported (← e.stages tested [] none cs)).map ExitStatus.code

/-- The status of a pipeline from those of its commands. -/
def pipelineStatus (strict : Bool) (statuses : List Nat) : Nat :=
  if strict then (statuses.reverse.find? (· != 0)).getD 0 else statuses.getLast?.getD 0

def ignoredBehind : List Nat := [2, 3]

def background (c : Command) : Act Unit := do
  let s ← get
  let (index, machine) := s.machine.add { channel := .null }
  set { s with machine := machine }
  let processes ←
    match c with
    | .pipeline cs => e.stages false ignoredBehind (some index) cs
    | _ => e.stages false ignoredBehind (some index) [c]
  modify fun s => { s.addJob processes "" with status := 0 }

/-- Starts a command that the shell can write to and read from. The numbers for that are the elements of an array. -/
def coprocess (line : Nat) (name : String) (c : Command) : Act Unit := do
  let s ← get
  match s.coprocesses with
  | (other, process, _, _) :: _ =>
    Act.reportAt line s!"warning: execute_coproc: coproc [{process}:{other}] still exists"
  | [] => pure ()
  let s ← get
  let ((reading, writing), machine) := s.machine.addPipe
  let ((input, feeding), machine) := machine.addPipe
  set { s with machine := machine }
  let process ← e.fork (fun s => { s with numbers := (s.numbers.bind 0 input).bind 1 writing }) [] (e.command false c)
  let free := (List.range (firstPipeNumber + 1)).reverse.filter fun n => (s.numbers.lookup n).isNone
  let own := (free[0]?).getD firstPipeNumber
  let other := (free[3]?).getD firstPipeNumber
  let items := [(0, toString own), (1, toString other)]
  modify fun s =>
    let s := s.setVariable name (({} : Variable).withElements (.indexed items))
    let s := s.setVariable s!"{name}_PID" { value := some (toString process) }
    let s := s.addJob [process] s!"coproc {name}"
    { s with
      numbers := (s.numbers.bind own reading).bind other feeding, status := 0
      coprocesses := (name, process, own, other) :: s.coprocesses }

def redirected (c : Command) (redirections : List Redirection) : Act Unit := do
  if ← isWide then
    keepingNumbers redirections do
      withBesides do
        if ← e.openAll redirections then
          Act.setStatus 1
          e.checkFailure tested
        else e.command tested c
  else
    let openings ← redirections.mapM e.opening
    keepingNumbers redirections do
      if ← Act.failed (openings.forM id) then
        Act.setStatus 2
        e.checkFailure tested
      else e.command tested c

/-- Runs commands in a copy of the shell with redirections. When nothing comes after them, no copy is made. -/
def copied (body : List Command) (redirections : List Redirection) : Act Unit := do
  let isLeft ← isLeaving
  let work ←
    if ← isWide then
      pure do
        if ← e.openAll redirections then Act.setStatus 1 else withBesides (e.commands tested body)
    else do
      let openings ← redirections.mapM e.opening
      pure do
        openings.forM id
        e.commands tested body
  if isLeft then
    modify fun s => { s with copies := s.copies + 1 }
    work
    throw .exit
  else
    let status ← e.subshell id work
    modify fun s => { s with status := status, statuses := [status] }
    e.pending
    e.checkFailure tested

/-! ### Loops -/

def each (head name : String) (body : List Command) (status : Nat) : List String → Act Unit
  | [] => Act.setStatus status
  | value :: rest => do
    breathe
    e.traceWide head
    Act.assign name value
    e.commands tested body
    let status := (← get).status
    if ← loopGoesOn then each head name body status rest else Act.setStatus status

/-- One round of a loop with a test. -/
def round (tested negated : Bool) (status : Nat) (test body : List Command) : Act Unit := do
  breathe
  e.commands true test
  let s ← get
  if s.skip.isSome then
    let kept := if s.skip = some .function then s.status else status
    if ← loopGoesOn then e.loop tested negated kept test body else Act.setStatus kept
  else if (s.status == 0) == negated then Act.setStatus status
  else
    e.commands tested body
    let status := (← get).status
    if ← loopGoesOn then e.loop tested negated status test body else Act.setStatus status

/-- The value of a formula that is a command. -/
def formulaValue? (parts : Word) : Act (Option Int64) := do
  let text := Piece.text (← expandParts e.substitution wordBound false false parts)
  e.traceWide ("((" ++ (if text.startsWith " " then text else " " ++ text) ++ (if text.endsWith " " then "))" else " ))"))
  let before := (← get).builtin
  modify fun s => { s with builtin := some "((" }
  let result ← Act.outcome (Act.formula text)
  modify fun s => { s with builtin := before }
  match result with
  | .ok n => return some n
  | .error .discard => return none
  | .error stop => throw stop

def loopFormula? (parts : Word) : Act (Option Int64) :=
  if parts.isEmpty then return some 1 else e.formulaValue? parts

/-- One round of a loop with formulas. -/
def countRound (status : Nat) (test next : Word) (body : List Command) : Act Unit := do
  breathe
  match ← e.loopFormula? test with
  | none => Act.setStatus 1
  | some n =>
    if n = 0 then Act.setStatus status
    else
      e.commands tested body
      let status := (← get).status
      if ← loopGoesOn then
        match ← e.loopFormula? next with
        | none => Act.setStatus 1
        | some _ => e.count tested status test next body
      else Act.setStatus status

def inLoop (a : Act Unit) : Act Unit := do
  modify fun s => { s with loopDepth := s.loopDepth + 1 }
  withMore a
  modify fun s => { s with loopDepth := s.loopDepth - 1 }

def menu (words : List String) : String :=
  let width := (toString words.length).length
  String.join (words.zipIdx.map fun (text, i) =>
    let number := toString (i + 1)
    "".pushn ' ' (width - number.length) ++ number ++ ") " ++ text ++ "\n")

/-- Runs a loop's body for each word that the input chooses. Every round reads a line. -/
def select (name : String) (words : List String) (body : List Command) :
    (fuel : Nat) → (shows : Bool) → Act Unit
  | 0, _ => return
  | fuel + 1, shows => do
    if shows then Act.printError (menu words)
    Act.printError (((← get).value? "PS3").getD "#? ")
    let status ← Extended.read ["-r"]
    if status != 0 then
      Act.print "\n"
      Act.setStatus 1
    else
      let reply := ((← get).value? "REPLY").getD ""
      if reply.isEmpty then select name words body fuel true
      else
        let chosen := (number? reply.toList).bind fun n => if 0 < n then words[n - 1]? else none
        Act.assign name (chosen.getD "")
        e.commands tested body
        if ← loopGoesOn then select name words body fuel false

def loopWords (ws : Option (List Word)) : Act (List String) := do
  match ws with
  | none => return (← get).arguments
  | some ws => return (← ws.mapM (expandFields e.substitution)).flatten

def loopHead (keyword name : String) (ws : Option (List Word)) : String :=
  s!"{keyword} {name} in " ++ ((ws.map fun ws => " ".intercalate (ws.map writtenWord)).getD "\"$@\"")

/-! ### Choices -/

variable (text : String)

/-- Whether a text matches one of some patterns. -/
def anyMatches : List Word → Act Bool
  | [] => return false
  | pattern :: rest => do
    let s ← get
    let found ←
      if s.dialect = .extended then do
        let glyphs := Piece.glyphs (← expandParts e.substitution wordBound false false (s.homeWord pattern))
        pure ((← get).isLike glyphs text)
      else do pure ((← expandPattern e.substitution pattern).isMatch text.toList)
    if found then return true else anyMatches rest

/-- Runs the first case with a pattern that matches, and those after it that its end says. With `chosen` the next case
    is run whatever its patterns are; `ran` says whether one has been run. -/
def choice (chosen ran : Bool) :
    List (List Word × List Command × CaseEnd) → Act Unit
  | [] => if ran then return else Act.setStatus 0
  | (patterns, body, ending) :: rest => do
    let isChosen ← if chosen then pure true else e.anyMatches text patterns
    if isChosen then
      if body.isEmpty then Act.setStatus 0 else e.commands tested body
      if !(← isSkipping) then
        match ending with
        | .leave => return
        | .fallThrough => choice true true rest
        | .goOn => choice false true rest
    else choice false ran rest

/-! ### All commands -/

/-- Runs a command that only the extended language has. -/
def wideStep (c : Command) : Act Unit := do
  match c with
  | .count line start test next body =>
    setLine line
    match ← e.loopFormula? start with
    | none => Act.setStatus 1
    | some _ => inLoop (e.count tested 0 test next body)
  | .select line name ws body =>
    setLine line
    let words ← e.loopWords ws
    if !words.isEmpty then inLoop (e.select tested name words body patience true)
  | .formula line parts =>
    setLine line
    let value ← e.formulaValue? parts
    Act.setStatus (if (value.getD 0) = 0 then 1 else 0)
    e.checkFailure tested
  | .condition line test =>
    setLine line
    e.condition test
    e.checkFailure tested
  | .timed c =>
    withMore (e.command tested c)
    Act.printError "\nreal\t0m0.000s\nuser\t0m0.000s\nsys\t0m0.000s\n"
  | .coprocess line name c =>
    setLine line
    e.coprocess line name c
  | _ => return

/-- How long a simple command takes, in nanoseconds. -/
def commandTime : Nat := 2000

def step (c : Command) : Act Unit := do
  if !(← get).coprocesses.isEmpty then
    let _ ← Act.reap
  e.pending
  if (← get).has 'n' then return
  match c with
  | .simple line assigned ws redirections =>
    modify fun s => { s with machine := s.machine.after commandTime }
    e.simple tested line assigned ws redirections
    e.pending
    e.checkFailure tested
  | .group body => e.commands tested body
  | .redirected line c redirections =>
    setLine line
    withMore (e.redirected tested c redirections)
  | .subshell line body redirections =>
    setLine line
    e.copied tested body redirections
  | .pipeline cs =>
    let statuses ← e.pipeline tested cs
    modify fun s => { s with status := pipelineStatus (s.has 'ą') statuses, statuses := statuses }
    e.pending
    e.checkFailure tested
  | .background c => e.background c
  | .negate c =>
    withMore (e.command true c)
    if !(← isSkipping) then modify fun s => { s with status := if s.status = 0 then 1 else 0 }
  | .andThen a b =>
    withMore (e.command true a)
    if (← get).status == 0 && !(← isSkipping) then e.command tested b
  | .orElse a b =>
    withMore (e.command true a)
    if (← get).status != 0 && !(← isSkipping) then e.command tested b
  | .cond test body other =>
    withMore (e.commands true test)
    if !(← isSkipping) then
      if (← get).status == 0 then e.commands tested body
      else if other.isEmpty then Act.setStatus 0
      else e.commands tested other
  | .loop negated test body => inLoop (e.loop tested negated 0 test body)
  | .each line name ws body =>
    setLine line
    let values ← e.loopWords ws
    inLoop (e.each tested (loopHead "for" name ws) name body 0 values)
  | .choice line subject cases =>
    setLine line
    e.traceWide s!"case {writtenWord subject} in"
    let text ← expandText e.substitution subject
    e.choice tested text false false cases
  | .function _ name body => modify fun s =>
    { s with functions := (name, body) :: s.functions.filter (fun entry => entry.1 != name), status := 0 }
  | _ => e.wideStep tested c

/-! ### Sources -/

def firstLines : (count : Nat) → List Char → List Char
  | 0, _ => []
  | _ + 1, [] => []
  | count + 1, c :: cs => c :: firstLines (if c = '\n' then count else count + 1) cs

variable (source : Source)

/-- Shows the lines that were read, if the shell is set to. -/
def showRead (read : Unit → List Char) : Act Unit := do
  if source.isFile && (← get).has 'v' then Act.printError (String.ofList (read ()))

def reportRead (fault : ReadFault) : Act Unit := do
  let s ← get
  let start := s!"{s.file.getD s.name}: {source.label}line {fault.line}: "
  fault.texts.forM fun text => Act.printError s!"{start}{text}\n"
  if fault.shows then
    let lines := (Text.splitAt '\n' source.rest).drop (fault.line - source.line)
    Act.printError (start ++ ticked (String.ofList (lines.head?.getD [])) ++ "\n")
  modify fun s => { s with status := 2, executed := true }

/-- Runs the commands of a line. A fault may end the line only. -/
def lineCommands (cs : List Command) : Act Unit := do
  let before ← get
  match ← Act.outcome (e.commands tested cs) with
  | .error .discard =>
    let after ← get
    if 0 < after.copies || after.has 'e' then throw .exit
    modify fun s => { s with loopDepth := before.loopDepth, builtin := before.builtin, level := before.level }
  | result => finish result

/-- Reads a line of a script, runs it, and goes on. -/
def sourceStep : Act Unit := do
  let s ← get
  let readTo (after : Source) (_ : Unit) : List Char := source.rest.take (source.rest.length - after.rest.length)
  let wide := s.dialect = .extended
  let start :=
    { source with
      nextDocument := s.documents.length, documents := [], warnings := [], groups := s.hasMode "extglob"
      aliases := if wide && !s.hasMode "expand_aliases" then [] else s.aliases }
  match start.next with
  | .error fault =>
    showRead source fun _ => firstLines (fault.line - source.line + 1) source.rest
    if wide then reportRead source fault
    else
      setLine fault.line
      Act.fail (fault.texts.head?.getD "")
  | .ok (none, after) => showRead source (readTo after)
  | .ok (some cs, after) =>
    showRead source (readTo after)
    if wide then after.warnings.forM fun (line, text) => Act.reportAt line text
    let isFinal := s.isLast && after.rest.isEmpty && (wide || source.rest.getLast? != some '\n')
    let source := after
    modify fun s => { s with documents := source.documents ++ s.documents, readLine := source.line }
    if isFinal then e.lineCommands tested cs else withMore (e.lineCommands tested cs)
    if !cs.isEmpty then modify fun s => { s with executed := true }
    if !(← isSkipping) then e.source tested source

end Engine

end BenchKernel.Script
