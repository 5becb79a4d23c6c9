import BenchKernel.Host.Launch
import BenchKernel.Host.Script.Opening
import BenchKernel.Host.Script.Reading
import BenchKernel.Host.Script.Search

/-! # What runs commands

What runs the commands within a command is asked from an engine. It is tied together elsewhere, so that nothing here
calls itself but along a list. Here an engine runs lists and texts, copies of a shell, and what words stand for. -/

namespace BenchKernel.Script

/-- What runs commands. With `tested` something looks at the status of a command, so that its failure ends
    nothing. -/
structure Engine where
  command : (tested : Bool) → Command → Act Unit
  loop : (tested negated : Bool) → (status : Nat) → (test body : List Command) → Act Unit
  /-- Goes on with a loop that counts, and whose last round had a status. -/
  count : (tested : Bool) → (status : Nat) → (test next : Word) → (body : List Command) → Act Unit
  source : (tested : Bool) → Source → Act Unit
  /-- Runs a command that is given by its fields. With `plain` functions are not looked at. -/
  fields : (tested special plain : Bool) → List String → Act Unit
  /-- Finds out what a file does that is executed after so many interpreters. -/
  execute : (depth : Nat) → Launch → Machine → Except OsError Program

/-! ### The status of commands -/

def isSkipping : Act Bool := do return (← get).skip.isSome

/-- Whether a loop has another round. A jump has then left one loop. -/
def loopGoesOn : Act Bool := do
  let s ← get
  match s.skip with
  | none => return true
  | some .function => return false
  | some (.loops count) =>
    set { s with skip := if count ≤ 1 then none else some (.loops (count - 1)) }
    return false
  | some (.rounds count) =>
    set { s with skip := if count ≤ 1 then none else some (.rounds (count - 1)) }
    return count ≤ 1

/-- Gives variables back what they were. -/
def restoreVariables (saved : List (String × Option Variable)) : Act Unit :=
  modify fun s => saved.foldl (fun s (name, before) =>
    let s := { s with hashed := if name = "PATH" then [] else s.hashed }
    match before with
    | some v => s.setVariable name v
    | none => s.dropVariable name) s

def setLine (line : Nat) : Act Unit := modify fun s => { s with line := line }

def isWide : Act Bool := do return (← get).dialect = .extended

def finish {α : Type} : Except Stop α → Act α
  | .ok a => return a
  | .error stop => throw stop

def commandText (s : Shell) (path : String) : Except OsError String := do
  match ← s.machine.files.find s.cwd (Shell.path path) with
  | .file content _ => return Text.ofBytes content
  | .device (.stream number) =>
    match s.numbers.lookup number with
    | some index => return Text.ofBytes (← s.machine.available index).1
    | none => throw .notFound
  | .directory _ => if s.dialect = .extended then throw .isDirectory else return ""
  | _ => return ""

namespace Engine

/-- Carries out an action after which there is more to do. -/
def withMore (a : Act Unit) : Act Unit := do
  let before := (← get).isLast
  modify fun s => { s with isLast := false }
  a
  modify fun s => { s with isLast := before }

/-- Whether the shell has nothing to do afterwards. -/
def isLeaving : Act Bool := do
  let s ← get
  return s.isLast && s.traps.all fun entry => entry.2.isEmpty

def greatestRounds : Nat := 50

/-- Hands the machine over after some rounds of loops. -/
def breathe : Act Unit := do
  let s ← get
  if s.rounds < greatestRounds then set { s with rounds := s.rounds + 1 }
  else
    set { s with rounds := 0 }
    Act.turn

variable (e : Engine) (tested : Bool)

def commands : List Command → Act Unit
  | [] => return
  | [c] => e.command tested c
  | c :: rest => do
    withMore (e.command tested c)
    if !(← isSkipping) then commands rest

/-- A source whose last line is ended. -/
def inDialect (dialect : Dialect) (source : Source) : Source :=
  let isOpen := dialect = .extended && source.rest.getLast?.any (· != '\n')
  { source with dialect, rest := if isOpen then source.rest ++ ['\n'] else source.rest }

def whole (source : Source) : Act Unit := do
  let before ← get
  modify fun s => { s with executed := false }
  e.source tested (inDialect before.dialect source)
  modify fun s =>
    { s with status := if s.executed then s.status else 0, executed := before.executed, readLine := before.readLine }

def text (content : String) : Act Unit := e.whole tested { rest := content.toList }

def script (source : Source) : Act Unit := do
  e.whole false source
  modify fun s => { s with skip := if s.skip = some .function then none else s.skip }

/-! ### Ends and copies of a shell -/

/-- Runs an action and then the trap for the end. -/
def ended (a : Act Unit) : Act ExitStatus := do
  match ← Act.outcome a with
  | .error (.replaced status) => return status
  | _ =>
    let s ← get
    match s.traps.lookup 0 with
    | none => return .exited (s.status % 256)
    | some action =>
      set { s with
        traps := s.traps.filter (fun entry => entry.1 != 0), skip := none, leaving := some s.status, functionDepth := 0,
        loopDepth := 0, builtin := none, isLast := false }
      match ← Act.outcome (e.text false action) with
      | .error (.replaced status) => return status
      | .error _ => return .exited ((← get).status % 256)
      | .ok () => return .exited (s.status % 256)

/-- The copy that runs commands beside the shell. -/
def copyOf (s : Shell) : Shell :=
  let isKept (entry : Nat × String) : Bool := entry.2.isEmpty || (entry.1 == Extended.failureTrap && s.has 'E')
  { s with traps := s.traps.filter isKept, jobs := [], copies := s.copies + 1, isLast := true, lostOutput := none }

def endOf : Except Stop ExitStatus × Shell → ExitStatus × Machine
  | (.ok status, s) => (status, s.machine)
  | (.error _, s) => (.exited (s.status % 256), s.machine)

/-- Starts a process that is a copy of the shell. -/
def fork (change : Shell → Shell) (ignored : List Nat) (a : Act Unit) : Act Nat :=
  ExceptT.mk fun s =>
    let inner := change (copyOf s)
    let inner := { inner with neverCaught := inner.neverCaught ++ ignored }
    let (number, machine) := s.settled.addProcess s.own inner.held
    let machine := machine.modifyProcess number fun p => { p with ignored := p.ignored ++ ignored }
    let work (m : Machine) : Process :=
      ((endOf <$> (e.ended a).run.run { inner with machine := m, own := number }).toProcess number)
    .forked (machine.after forkingTime) number work fun machine => .done (.ok number, { s with machine })

/-- Runs an action in a copy and waits for it. -/
def subshell (change : Shell → Shell) (a : Act Unit) : Act Nat := do
  let number ← e.fork change [] a
  return ((← Act.awaitReported [number]).head?.map ExitStatus.code).getD 127

/-- What commands print, without the line ends at its end. -/
def output (cs : List Command) : Act String := do
  let s ← get
  let ((reading, writing), machine) := s.machine.addPipe
  set { s with machine := machine }
  let keepsFailures := s.dialect = .plain || s.hasMode "inherit_errexit"
  let change (s : Shell) : Shell :=
    { s with
      numbers := s.numbers.bind 1 writing, level := s.level + 1
      options := if keepsFailures then s.options else s.options.filter (· != 'e') }
  let number ← e.fork change [] (e.commands false cs)
  modify fun s => { s with kept := [(0, reading)] :: s.kept }
  let bytes := (← Act.readAll reading patience ByteArray.empty).toOption.getD ByteArray.empty
  modify fun s => { s with kept := s.kept.tail }
  let ends ← Act.awaitReported [number]
  modify fun s => { s with substituted := (ends.head?.map ExitStatus.code).getD 127 }
  let text := (Text.ofBytes bytes).toList
  let kept := text.filter (·.toNat != 0)
  if s.dialect = .extended && kept.length < text.length then
    Act.reportAt (← get).line "warning: command substitution: ignored null byte in input"
  return String.ofList (kept.reverse.dropWhile (· == '\n')).reverse

def firstPipeNumber : Nat := 63

/-- The path of a pipe to commands or from them. -/
def path (reads : Bool) (cs : List Command) : Act String := do
  let s ← get
  let ((reading, writing), machine) := s.machine.addPipe
  let number := ((List.range (firstPipeNumber + 1)).reverse.find? fun n => (s.numbers.lookup n).isNone).getD firstPipeNumber
  set { s with machine := machine }
  let (outer, inner, own) := if reads then (reading, writing, 1) else (writing, reading, 0)
  let process ← e.fork (fun s => { s with numbers := s.numbers.bind own inner }) [] (e.commands false cs)
  modify fun s =>
    { s with numbers := s.numbers.bind number outer, besides := number :: s.besides, lastJob := some process }
  return s!"/dev/fd/{number}"

def substitution : Substitution := { output := e.output, path := e.path }

/-- Carries an action out and closes the pipes that it has made. -/
def withBesides {α : Type} (a : Act α) : Act α := do
  let outer := (← get).besides
  modify fun s => { s with besides := [] }
  let result ← Act.outcome a
  let started := (← get).besides
  modify fun s => { s with besides := outer, numbers := started.foldl Numbers.close s.numbers }
  if !started.isEmpty then Act.turn
  finish result

def signal (e : Engine) (signal : Nat) : Act Unit := do
  let s ← get
  set { s with leaving := some s.status, isLast := false }
  e.text false ((s.traps.lookup signal).getD "")
  modify fun after => { after with status := s.status, leaving := s.leaving, line := s.line, isLast := s.isLast }

/-- Runs the traps of the signals that have come. -/
def pending : Act Unit := do
  let s ← get
  match s.machine.table.find? s.own with
  | some p =>
    if !p.arrived.isEmpty then
      set { s with machine := s.machine.modifyProcess s.own fun p => { p with arrived := [] } }
      p.arrived.forM e.signal
  | none => return

/-- Runs a trap that is not for a signal. -/
def ownTrap (kind : Nat) (inherits : Char) : Act Unit := do
  let s ← get
  match if s.functionDepth = 0 || s.has inherits then s.traps.lookup kind else none with
  | none => return
  | some action =>
    set { s with traps := s.traps.filter (fun entry => entry.1 != kind), isLast := false }
    e.whole false { rest := action.toList, line := s.line }
    modify fun after =>
      let isGone := (after.traps.lookup kind).isNone
      { after with
        traps := if isGone then (kind, action) :: after.traps else after.traps
        status := s.status, line := s.line, isLast := s.isLast }

/-- Ends a script whose command has failed, if it is set to. -/
def checkFailure : Act Unit := do
  let s ← get
  if s.status != 0 && !tested then
    if s.dialect = .extended && s.skip.isNone then e.ownTrap Extended.failureTrap 'E'
    if s.has 'e' then throw .exit

/-! ### Traces -/

/-- What stands before a traced command. -/
def traceStart : Act String := do
  let s ← get
  let parts := textParts s.dialect ((s.value? "PS4").getD "")
  set { s with options := s.options.filter (· != 'x') }
  let text := Piece.text (← expandParts e.substitution wordBound false false parts)
  modify fun after => { after with options := s.options, substituted := s.substituted }
  if s.dialect = .extended then
    return String.ofList (List.replicate s.level (text.toList.head?.getD '+')) ++ text
  else return text

def trace (numbers : Numbers) (text : String) : Act Unit := do
  let s ← get
  if s.has 'x' then
    set { s with numbers := numbers }
    let start ← e.traceStart
    Act.printError s!"{start}{text}\n"
    modify fun after => { after with numbers := s.numbers }

def traceWide (text : String) : Act Unit := do
  let s ← get
  if s.dialect = .extended then e.trace s.numbers text

/-! ### Words -/

def badNumber {α : Type} : Act α := do
  modify fun s => { s with line := s.readLine }
  Act.fail "Syntax error: Bad fd number"

def ambiguous {α : Type} (text : String) : Act α := do
  Act.reportAt (← get).line s!"{text}: ambiguous redirect"
  Act.setStatus 1
  throw .refused

def target (w : Word) : Act String := do
  match ← expandFields e.substitution w with
  | [text] => return text
  | _ => ambiguous (writtenWord w)

/-- What carries out a redirection to another number. -/
def duplicate (number : Nat) (implicit : Bool) (written text : String) : Act (Act Unit) := do
  match text.toList with
  | ['-'] => return Opening.carryOut (.close number)
  | cs =>
    if ← isWide then
      match number? cs, number? cs.dropLast with
      | some source, _ => return Opening.carryOut (.duplicate number source written)
      | none, some source =>
        if cs.getLast? = some '-' then
          return do
            Opening.carryOut (.duplicate number source written)
            Opening.carryOut (.close source)
        else return Opening.carryOut (.both false text)
      | none, none =>
        if implicit then return Opening.carryOut (.both false text) else ambiguous text
    else
      match cs with
      | [c] => if c.isDigit then return Opening.carryOut (.duplicate number (c.toNat - '0'.toNat) text) else badNumber
      | _ => badNumber

/-- Expands the target of a redirection: what carries it out. A document is expanded only then. -/
def openingAt (redirection : Redirection) : Act (Act Unit) := do
  let wide ← isWide
  let expand (w : Word) : Act String := if wide then e.target w else expandText e.substitution w
  match redirection with
  | .file number access w => return Opening.carryOut (.file number access (← expand w))
  | .duplicate number implicit source => duplicate number implicit (writtenWord source) (← expand source)
  | .document number index =>
    let parts := ((← get).documents.lookup index).getD []
    return do
      let text := Piece.text (← expandParts e.substitution wordBound false false parts)
      Opening.carryOut (.text number text)
  | .string number w => return Opening.carryOut (.text number ((← expandText e.substitution w) ++ "\n"))
  | .both append w => return Opening.carryOut (.both append (← expand w))
  | .named _ _ => return pure ()

def firstChosenNumber : Nat := 10

/-- What carries out a redirection of a number that is chosen. The variable gets the number, and the number stays. To
    close it, the variable is asked. -/
def namedOpening (name : String) (inner : Redirection) : Act (Act Unit) := do
  let s ← get
  let isClosing ←
    match inner with
    | .duplicate _ _ source => do pure ((← e.target source) == "-")
    | _ => pure false
  if isClosing then
    match (← Extended.slotValue? name).bind fun text => number? text.toList with
    | some number => return Opening.carryOut (.close number)
    | none => return ambiguous name
  else
    let free := ((List.range 246).map (· + firstChosenNumber)).find? fun n => (s.numbers.lookup n).isNone
    let number := free.getD firstChosenNumber
    let work ← e.openingAt (inner.withNumber number)
    return do
      work
      Extended.assignSlot name (toString number)

def opening (redirection : Redirection) : Act (Act Unit) :=
  match redirection with
  | .named name inner => e.namedOpening name inner
  | _ => e.openingAt redirection

def openAll (redirections : List Redirection) : Act Bool := do
  let work : Act Unit := redirections.forM fun redirection => do
    let work ← e.opening redirection
    work
  match ← Act.outcome work with
  | .ok () => return false
  | .error .refused => return true
  | .error stop => throw stop

/-- The elements that a script lists, with their keys. -/
def listItems (isKeyed : Bool) : List (Option Word × Word) → Act (List (Option String × String))
  | [] => return []
  | (key, value) :: rest => do
    let own ←
      match key with
      | some key => do
        let text ← expandText e.substitution key
        pure [(some text, ← expandValue e.substitution value)]
      | none =>
        if isKeyed then do pure [(none, ← expandValue e.substitution value)]
        else do pure ((← expandFields e.substitution value).map fun text => (none, text))
    return own ++ (← listItems isKeyed rest)

/-- The field of an argument that is an assignment. The elements of an array are kept beside it. -/
def assigningField (assigned : Assignment) : Act String := do
  match assigned with
  | .text name index append value =>
    let key ←
      match index with
      | none => pure ""
      | some index => do pure ("[" ++ (← expandText e.substitution index) ++ "]")
    return name ++ key ++ (if append then "+=" else "=") ++ (← expandValue e.substitution value)
  | .list name append items =>
    let items ← e.listItems ((← get).isKeyed name) items
    modify fun s => { s with lists := s.lists ++ [(name, append, items)] }
    return name

/-- The fields of words. Assignments to a declaring command are not cut. -/
def words (fields : List String) : List Word → Act (List String)
  | [] => return fields
  | w :: rest => do
    let dialect := (← get).dialect
    let first := (fields.dropWhile fun field => field == "command" || (dialect = .extended && field == "builtin")).head?
    let isDeclaring := (declaringCommands dialect).contains (first.getD "")
    match if isDeclaring then assignment? dialect w else none with
    | some assigned =>
      let field ← e.assigningField assigned
      words (fields ++ [field]) rest
    | none =>
      let more ← expandFields e.substitution w
      words (fields ++ more) rest

def tracedValue (text : String) : String := if text.isEmpty then "" else tracedWord text

/-- Carries out an assignment: what it is called, and the value. With `temporary` the variable is exported, and kept to
    be restored. -/
def assignment (temporary : Bool) (assigned : Assignment) : Act (String × String) := do
  match assigned with
  | .text name index append value =>
    let text ← expandValue e.substitution value
    if temporary then Builtin.keepVariable name
    match index with
    | some index =>
      let key ← expandKey e.substitution wordBound name index
      if (← isWide) then e.traceWide (s!"{name}[{writtenWord index}]" ++ (if append then "+=" else "=") ++ tracedValue text)
      Act.assignTo name (some key) append text
    | none =>
      e.traceWide (name ++ (if append then "+=" else "=") ++ tracedValue text)
      if append then Act.assignTo name none append text else Act.assign name text
    if temporary then modify fun s => s.setVariable name { (s.find? name).getD {} with exported := true }
    return (name, text)
  | .list name append items =>
    let shown := items.map fun (key, value) =>
      ((key.map fun key => s!"[{writtenWord key}]=").getD "") ++ writtenWord value
    let items ← e.listItems ((← get).isKeyed name) items
    e.traceWide (name ++ (if append then "+=(" else "=(") ++ " ".intercalate shown ++ ")")
    if !temporary then Act.assignList name append items
    return (name, "")

def assignments (temporary : Bool) : List Assignment → Act (List (String × String))
  | [] => return []
  | assigned :: rest => do
    let first ← e.assignment temporary assigned
    return first :: (← assignments temporary rest)

end Engine

end BenchKernel.Script
