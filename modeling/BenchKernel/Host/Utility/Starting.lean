import BenchKernel.Host.Script.Search
import BenchKernel.Host.Utility.Parts

/-! # Programs that start programs

Programs that run another program: in a changed environment, for every word of their input, or just so. -/

namespace BenchKernel

namespace Utility

/-- A program that may let another one take its place. -/
abbrev Handover := Work ExitStatus

def ending (work : Work Nat) : Handover := do return .exited (← work)

variable (change : Launch → Launch) (program : String) (arguments : List String)

/-- What a program does that is known by its path or by its name. A file that is no program is handed to the shell. -/
def findProgram :
    Work (Except OsError (Launch × Program)) := do
  let call ← read
  let changed := change call.toLaunch
  let searchPath := (changed.environment.lookup "PATH").getD "/bin:/usr/bin"
  let m ← get
  let path : Except OsError String :=
    if program.toList.contains '/' then .ok program
    else if program.isEmpty then .error .notFound
    else Script.searchIn m.files changed.cwd searchPath program
  match path with
  | .error why => return .error why
  | .ok path =>
    let launch := { changed with path, name := program, arguments }
    let script := { launch with path := "/bin/sh", name := "/bin/sh", arguments := path :: arguments }
    match call.start launch m with
    | .ok work => return .ok (launch, work)
    | .error .execFormat => return (call.start script m).map fun work => (script, work)
    | .error why => return .error why

/-- Lets a program take the place of this one. -/
def become (launch : Launch) (program : Program) : Work ExitStatus := fun call m =>
  program call.process ((m.setHeld call.process launch.held).modifyProcess call.process fun p => { p with caught := [] })

def fork (held : List Nat) (program : Program) : Work Nat := fun call m =>
  let (number, m) := m.addProcess call.process held
  .forked (m.after Script.forkingTime) number (fun m => (program number m).toProcess number) fun m => .done (number, m)

/-- Waits for a process, but not beyond a time. -/
def await (number : Nat) (time : Option Nat) : Work (Option ExitStatus) := do
  if ((← get).table.status? number).isNone then pause { ready := fun m => (m.table.status? number).isSome, time }
  let m ← get
  match m.table.status? number with
  | none => return none
  | some status =>
    set { m with table := m.table.forget number }
    return some status

def runProgram :
    Work (Except OsError ExitStatus) := do
  whenOk (findProgram change program arguments) fun (launch, work) => do
    let number ← fork launch.held work
    return .ok ((← await number none).getD (.exited 127))

def handOver : Handover := do
  match ← findProgram change program arguments with
  | .ok (launch, work) => become launch work
  | .error why =>
    let status := if why = .notFound then 127 else 126
    let _ ← complain s!"{shown program}: {why.description}"
    return .exited status

/-! ### Changed environments -/

def withVariable (environment : List (String × String)) (name value : String) : List (String × String) :=
  if (environment.lookup name).isSome then environment.map fun entry => if entry.1 == name then (name, value) else entry
  else environment ++ [(name, value)]

namespace SplitText

structure State where
  words : List String := []
  word : Option String := none

def State.add (s : State) (text : String) : State := { s with word := some (s.word.getD "" ++ text) }

def State.finish (s : State) : State :=
  match s.word with
  | some word => { words := s.words ++ [word] }
  | none => s

def escapes : List (Char × String) :=
  [('f', "\x0c"), ('n', "\n"), ('r', "\r"), ('t', "\t"), ('v', "\x0b"), ('#', "#"), ('$', "$"), ('"', "\""), ('\'', "'"),
    ('\\', "\\"), (' ', " ")]

/-- Splits a text into words. Quotes keep blanks together, and `${name}` stands for a variable. -/
def split (environment : List (String × String)) :
    (fuel : Nat) → (quote : Option Char) → State → List Char → Except String (List String)
  | 0, _, s, _ => .ok s.finish.words
  | _ + 1, none, s, [] => .ok s.finish.words
  | _ + 1, some _, _, [] => .error "no terminating quote in -S string"
  | fuel + 1, quote, s, c :: rest =>
    let isBlank := [' ', '\t', '\n', '\r', '\x0b', '\x0c'].contains c
    if quote = some c then split environment fuel none s rest
    else if quote.isNone && (c = '\'' || c = '"') then split environment fuel (some c) (s.add "") rest
    else if quote.isNone && isBlank then split environment fuel none s.finish rest
    else if quote.isNone && c = '#' && s.word.isNone then .ok s.finish.words
    else if c = '\\' && quote != some '\'' then
      match rest with
      | [] => .error "invalid backslash at end of string in -S"
      | 'c' :: _ => if quote.isSome then .error "'\\c' must not appear in double-quoted -S string" else .ok s.finish.words
      | '_' :: rest => split environment fuel quote (if quote.isSome then s.add " " else s.finish) rest
      | e :: rest =>
        match escapes.lookup e with
        | some text => split environment fuel quote (s.add text) rest
        | none => .error s!"invalid sequence '\\{e}' in -S"
    else if c = '\\' && (rest.head? = some '\\' || rest.head? = some '\'') then
      split environment fuel quote (s.add (String.ofList (rest.take 1))) (rest.drop 1)
    else if c = '$' && quote != some '\'' then
      match rest with
      | '\x7b' :: rest =>
        let name := String.ofList (rest.takeWhile (· != '\x7d'))
        if Script.isName name then
          split environment fuel quote (s.add ((environment.lookup name).getD "")) (rest.drop (name.length + 1))
        else .error ("only $\x7bVARNAME\x7d expansion is supported, error at: $\x7b" ++ String.ofList rest)
      | _ => .error ("only $\x7bVARNAME\x7d expansion is supported, error at: $" ++ String.ofList rest)
    else split environment fuel quote (s.add (String.singleton c)) rest

end SplitText

def splitArguments (environment : List (String × String)) : (fuel : Nat) → List String → Except String (List String)
  | 0, arguments => .ok arguments
  | _ + 1, [] => .ok []
  | fuel + 1, argument :: rest =>
    let splitText (text : String) (rest : List String) : Except String (List String) := do
      let words ← SplitText.split environment (2 * text.length + 2) none {} text.toList
      splitArguments environment fuel (words ++ rest)
    match argument.toList with
    | '-' :: 'S' :: text =>
      match text, rest with
      | [], [] => .ok [argument]
      | [], text :: rest => splitText text rest
      | _, _ => splitText (String.ofList text) rest
    | '-' :: 'v' :: 'S' :: text => splitText (String.ofList text) rest
    | '-' :: '-' :: name =>
      if "split-string=".toList.isPrefixOf name then splitText (String.ofList (name.drop 13)) rest
      else if name.isEmpty then .ok (argument :: rest)
      else (splitArguments environment fuel rest).map (argument :: ·)
    | ['-', 'u'] | ['-', 'C'] =>
      (splitArguments environment fuel (rest.drop 1)).map fun others => argument :: (rest.take 1 ++ others)
    | '-' :: _ => (splitArguments environment fuel rest).map (argument :: ·)
    | _ => .ok (argument :: rest)

def environment : Handover := do
  let call ← read
  let long := [("ignore-environment", 'i'), ("null", '0'), ("unset", 'u'), ("chdir", 'C'), ("debug", 'v'), ("split-string", 'S')]
  let o : OptionSet := { letters := "iu:0C:vS:", long, ordered := true }
  let length := (" ".intercalate call.arguments).length + call.arguments.length + 2
  match splitArguments call.environment length call.arguments with
  | .error why => ending (failWith 125 why)
  | .ok arguments =>
    match o.read arguments with
    | .error why =>
      let hint := call.name ++ ": use -[v]S to pass options in shebang lines"
      ending (misuseWith 125 (if why = "invalid option -- ' '" then s!"{why}\n{hint}" else why))
    | .ok (given, operands) =>
      let isEmpty := given.has 'i' || operands.head? = some "-"
      let operands := if operands.head? = some "-" then operands.drop 1 else operands
      let dropped := given.values 'u'
      let kept := (if isEmpty then [] else call.environment).filter fun entry => !dropped.contains entry.1
      let assignments := operands.takeWhile fun operand => operand.toList.contains '='
      let environment := assignments.foldl (fun environment operand =>
        let (name, value) := Script.nameAndValue operand
        withVariable environment name (value.getD "")) kept
      let cwd : Except OsError Place ←
        match given.value? 'C' with
        | none => pure (.ok call.cwd)
        | some path => do
          match ← find path, ← place? path with
          | .ok (.directory _), some place => pure (.ok place)
          | .error e, _ => pure (.error e)
          | _, _ => pure (.error .notDirectory)
      match cwd, operands.drop assignments.length with
      | .error e, _ => ending (failWith 125 ("cannot change directory to " ++ shown ((given.value? 'C').getD "") ++ ": " ++ e.description))
      | .ok _, [] =>
        let last := if given.has '0' then "\x00" else "\n"
        environment.forM fun (name, value) => print s!"{name}={value}{last}"
        return .exited 0
      | .ok cwd, program :: arguments =>
        match ← findProgram (fun l => { l with environment, cwd }) program arguments with
        | .ok (launch, work) => become launch work
        | .error why =>
          let _ ← complain s!"{shown program}: {why.description}"
          if why = .notFound && program.toList.contains ' ' then
            let _ ← complain "use -[v]S to pass options in shebang lines"
          return .exited (if why = .notFound then 127 else 126)

/-! ### Programs for the words of the input -/

inductive WordForm
  /-- Blanks and line ends separate words, or only line ends. Quotes and backslashes keep characters together. -/
  | quoted (atBlanks : Bool)
  | separated (separator : Char)
  deriving DecidableEq, Repr

structure WordState where
  quote : Option Char := none
  isEscaped : Bool := false
  word : Option (List Char) := none

structure InputWord where
  text : String
  endsLine : Bool := false

namespace WordState

def fault (quote : Char) : String :=
  let kind := if quote = '\'' then "single" else "double"
  s!"unmatched {kind} quote; by default quotes are special to xargs unless you use the -0 option"

def step (atBlanks : Bool) (s : WordState) (c : Char) : Except String (Option InputWord × WordState) :=
  let add (c : Char) : WordState := { s with word := some (c :: s.word.getD []), isEscaped := false }
  match s.quote with
  | some quote =>
    if c = quote then .ok (none, { s with quote := none })
    else if c = '\n' then .error (fault quote)
    else .ok (none, add c)
  | none =>
    if s.isEscaped then .ok (none, add c)
    else if c = '\'' || c = '"' then .ok (none, { s with quote := some c, word := some (s.word.getD []) })
    else if c = '\\' then .ok (none, { s with isEscaped := true })
    else if c = '\n' || ((c = ' ' || c = '\t') && (atBlanks || s.word.isNone)) then
      .ok (s.word.map fun word => ⟨String.ofList word.reverse, c = '\n'⟩, {})
    else .ok (none, add c)

def steps (atBlanks : Bool) (s : WordState) (cs : List Char) : List InputWord × WordState × Option String :=
  let (words, s, fault) := cs.foldl (fun (words, s, fault) c =>
    match fault with
    | some _ => (words, s, fault)
    | none =>
      match step atBlanks s c with
      | .error why => (words, s, some why)
      | .ok (word, s) => (word.toList ++ words, s, none)) ([], s, (none : Option String))
  (words.reverse, s, fault)

def last (s : WordState) : List InputWord × Option String :=
  match s.quote with
  | some quote => ([], some (fault quote))
  | none => ((s.word.map fun word => InputWord.mk (String.ofList word.reverse) false).toList, none)

end WordState

def replaceAll (old new : List Char) : (fuel : Nat) → List Char → List Char
  | 0, cs => cs
  | _ + 1, [] => []
  | fuel + 1, c :: cs =>
    if !old.isEmpty && old.isPrefixOf (c :: cs) then new ++ replaceAll old new fuel ((c :: cs).drop old.length)
    else c :: replaceAll old new fuel cs

/-- Runs a command for words. An error ends everything. -/
def runWords (shows : Bool) (command : List String) : Work (Except Nat Nat) := do
  if shows then write 2 (" ".intercalate command ++ "\n")
  match command with
  | [] => return .ok 0
  | program :: arguments =>
    let (index, m) := (← get).add { channel := .null }
    set m
    match ← runProgram (fun l => { l with numbers := l.numbers.bind 0 index }) program arguments with
    | .error why =>
      let status ← failWith (if why = .notFound then 127 else 126) s!"{program}: {why.description}"
      return .error status
    | .ok (.signaled signal) =>
      let _ ← complain s!"{program}: terminated by signal {signal}"
      return .error 125
    | .ok (.exited 255) =>
      let _ ← complain s!"{program}: exited with status 255; aborting"
      return .error 124
    | .ok (.exited code) => return .ok (if code = 0 then 0 else 123)

structure Gathering where
  command : List String
  mostWords : Option Nat := none
  mostLines : Option Nat := none
  size : Nat := 131072
  isStrict : Bool := false
  mark : Option String := none
  ending : Option String := none
  shows : Bool := false

structure Gathered where
  words : List String := []
  count : Nat := 0
  size : Nat := 0
  lines : Nat := 0
  status : Nat := 0
  hasRun : Bool := false

namespace Gathering

def sizeOf (words : List String) : Nat := words.foldl (fun size word => size + word.length + 1) 0

variable (g : Gathering)

def commandFor (words : List String) : List String :=
  match g.mark, words with
  | some mark, [text] =>
    g.command.zipIdx.map fun (argument, i) =>
      if i = 0 then argument
      else String.ofList (replaceAll mark.toList text.toList (argument.length + 1) argument.toList)
  | _, _ => g.command ++ words

def run (s : Gathered) : Work (Except Nat Gathered) := do
  whenOk (runWords g.shows (g.commandFor s.words.reverse)) fun code =>
    return .ok { status := max s.status code, hasRun := true }

/-- Adds a word. A command that is full is run. -/
def push (s : Gathered) (word : InputWord) : Work (Except Nat Gathered) := do
  let isLong (s : Gathered) : Bool := g.size < sizeOf g.command + s.size + word.text.length + 1
  let started ←
    if isLong s && !s.words.isEmpty then
      if g.isStrict then pure (.error (← complain "argument list too long")) else g.run s
    else pure (.ok s)
  match started with
  | .error final => return .error final
  | .ok s =>
    if isLong s then return .error (← complain "argument line too long")
    else
      let s := { s with
        words := word.text :: s.words, count := s.count + 1, size := s.size + word.text.length + 1
        lines := if word.endsLine then s.lines + 1 else s.lines }
      let isFull := g.mark.isSome || g.mostWords.any (· ≤ s.count) || g.mostLines.any (· ≤ s.lines)
      if isFull then g.run s else return .ok s

def pushAll : Gathered → List InputWord → Work (Except Nat (Bool × Gathered))
  | s, [] => return .ok (false, s)
  | s, word :: rest => do
    if g.ending = some word.text then return .ok (true, s)
    else
      whenOk (g.push s word) fun s => pushAll s rest

def finish (runsEmpty : Bool) (s : Gathered) : Work Nat := do
  if !s.words.isEmpty || (runsEmpty && !s.hasRun && g.mark.isNone) then
    match ← g.run s with
    | .error final => return final
    | .ok s => return s.status
  else return s.status

/-- Adds words, of which the last comes before a fault. -/
def pushFaulty (s : Gathered) (words : List InputWord) (fault : Option String) : Work (Except Nat (Bool × Gathered)) := do
  match fault with
  | none => g.pushAll s words
  | some why =>
    match ← g.pushAll s words.dropLast with
    | .ok (false, s) =>
      let status ← complain why
      match ← g.pushAll s words.getLast?.toList with
      | .ok (_, s) =>
        let _ ← g.finish false s
        return .error status
      | .error final => return .error final
    | result => return result

def gather (form : WordForm) (runsEmpty : Bool) (index : Nat) : Work Nat := do
  let separator := match form with
    | .quoted _ => '\n'
    | .separated separator => separator
  let result ← ({ index, ending := separator } : Feed).forEach (fun (state : WordState × Bool × Except Nat Gathered) line => do
    match state with
    | (reading, _, .ok s) =>
      let (words, reading, fault) := match form with
        | .separated _ => ([⟨line.1, true⟩], reading, none)
        | .quoted atBlanks => reading.steps atBlanks (if line.2 then line.1.toList ++ ['\n'] else line.1.toList)
      match ← g.pushFaulty s words fault with
      | .error final => return .done (reading, true, .error final)
      | .ok (true, s) => return .done ({}, true, .ok s)
      | .ok (false, s) => return .yield (reading, false, .ok s)
    | (reading, isOver, .error final) => return .done (reading, isOver, .error final)) patience ({}, false, .ok {})
  match result with
  | .error e => complain s!"read error: {e.description}"
  | .ok (_, _, .error final) => return final
  | .ok (reading, isOver, .ok s) =>
    let (words, fault) := if isOver then ([], none) else reading.last
    match ← ({ g with ending := none } : Gathering).pushFaulty s words fault with
    | .error final => return final
    | .ok (_, s) => g.finish runsEmpty s

end Gathering

def readCount (letter : Char) (text : String) : Except String Nat :=
  match Script.number? text.toList with
  | none => .error s!"invalid number \"{text}\" for -{letter} option"
  | some 0 => .error s!"value 0 for -{letter} option should be >= 1"
  | some n => .ok n

def startForWords : Work Nat :=
  let long := [("null", '0'), ("arg-file", 'a'), ("delimiter", 'd'), ("max-args", 'n'), ("max-lines", 'L'), ("max-procs", 'P'),
    ("no-run-if-empty", 'r'), ("replace", 'i'), ("max-chars", 's'), ("verbose", 't'), ("exit", 'x'), ("eof", 'E')]
  withOptionSet { letters := "0a:d:E:I:i::L:n:P:rs:tx", long, ordered := true } 1 fun given operands => do
    let count (letter : Char) : Except String (Option Nat) := (given.value? letter).mapM (readCount letter)
    match count 'n', count 'L', count 's' with
    | .error why, _, _ | _, .error why, _ | _, _, .error why => misuse why
    | .ok words, .ok lines, .ok size =>
      let mark := ((given.value? 'I').orElse fun _ => given.value? 'i').map fun mark => if mark.isEmpty then "\x7b\x7d" else mark
      let chosen := given.last? ['n', 'L', 'I', 'i']
      let isMarked := mark.isSome && chosen != some 'L' && (chosen != some 'n' || words = some 1)
      if isMarked && words.any (· != 1) then
        let _ ← complain "warning: options --max-args and --replace/-I/-i are mutually exclusive, ignoring previous --max-args value"
      let g : Gathering :=
        { command := if operands.isEmpty then ["echo"] else operands
          mostWords := if chosen = some 'n' && !isMarked then words else none
          mostLines := if chosen = some 'L' then lines else none
          size := min 131072 (size.getD 131072), isStrict := given.has 'x', shows := given.has 't'
          mark := if isMarked then mark else none, ending := given.value? 'E' }
      let form : WordForm :=
        match given.last? ['0', 'd'] with
        | some '0' => .separated '\x00'
        | some _ =>
          let separator := (Script.unescaped printStyle ((given.value? 'd').getD "").toList).1
          .separated (separator.head?.getD '\n')
        | none => .quoted !isMarked
      match ← openOperand ((given.value? 'a').getD "-") with
      | .error e => complain ("Cannot open input file " ++ shown ((given.value? 'a').getD "") ++ ": " ++ e.description)
      | .ok index => g.gather form (!given.has 'r') index

/-! ### Programs that change nothing for another one -/

def startOperands (status : Nat) (operands : List String) : Handover := do
  match operands with
  | [] => ending (misuseWith status "missing operand")
  | program :: arguments => handOver id program arguments

def startAfter (letters : String) (long : List (String × Char)) (own status : Nat) : Handover := do
  let call ← read
  let o : OptionSet := { letters, long, ordered := true }
  match o.read call.arguments with
  | .error why => ending (misuseWith status why)
  | .ok (_, operands) =>
    if operands.length < own then ending (misuseWith status "missing operand") else startOperands status (operands.drop own)

def signalText (text : String) : String :=
  let upper := text.map Char.toUpper
  if upper.startsWith "SIG" then String.ofList (upper.toList.drop 3) else upper

def signalOffspring (signal : Nat) : Work Unit := do
  let number := (← read).process
  modify fun m => (m.table.offspring number).foldl (fun m child => (m.send child signal).toOption.getD m) m

/-- Waits for a process, which signals end when it is late. -/
def awaitLimited (number limit signal : Nat) (lastLimit : Option Nat) : Work (ExitStatus × Bool) := do
  let time (limit : Nat) : Work (Option Nat) := do
    let clock := (← get).clock
    return if limit = 0 then none else some (clock + limit)
  match ← await number (← time limit) with
  | some status => return (status, false)
  | none =>
    signalOffspring signal
    match ← await number (← time (lastLimit.getD 0)) with
    | some status => return (status, true)
    | none =>
      signalOffspring 9
      return ((← await number none).getD (.exited 127), true)

def withTimeLimit : Handover := do
  let call ← read
  let long := [("foreground", 'f'), ("kill-after", 'k'), ("preserve-status", 'p'), ("signal", 's'), ("verbose", 'v')]
  let o : OptionSet := { letters := "fk:ps:v", long, ordered := true }
  match o.read call.arguments with
  | .error why => ending (misuseWith 125 why)
  | .ok (given, operands) =>
    match operands, Script.Builtin.signal? (signalText ((given.value? 's').getD "TERM")) with
    | _, none => ending (misuseWith 125 (shown ((given.value? 's').getD "") ++ ": invalid signal"))
    | [], _ | [_], _ => ending (misuseWith 125 "missing operand")
    | time :: program :: arguments, some signal =>
      match interval? time, (given.value? 'k').map interval? with
      | none, _ => ending (misuseWith 125 s!"invalid time interval {shown time}")
      | _, some none => ending (misuseWith 125 ("invalid time interval " ++ shown ((given.value? 'k').getD "")))
      | some limit, lastLimit =>
        match ← findProgram id program arguments with
        | .error why =>
          let _ ← complain s!"failed to run command {shown program}: {why.description}"
          return .exited (if why = .notFound then 127 else 126)
        | .ok (launch, work) =>
          let number ← fork launch.held work
          let (status, isLate) ← awaitLimited number limit signal (lastLimit.bind id)
          let isForced := status = .signaled 9
          if isLate && isForced then
            die 9
            return .exited 137
          else if isLate && !given.has 'p' then return .exited 124
          else return .exited status.code

def withPriority : Handover := do
  let call ← read
  if call.arguments.isEmpty then
    print "0\n"
    return .exited 0
  else startAfter "n:0:1:2:3:4:5:6:7:8:9:" [("adjustment", 'n')] 0 125

def which : Work Nat := withOptions "as" fun given operands => do
  let call ← read
  let searchPath := (call.environment.lookup "PATH").getD Script.ownSearchPath
  if operands.isEmpty then return 1
  else
    forEach operands fun name => do
      let found (path : String) : Work Bool := do return (← get).files.isExecutable call.cwd (Script.Shell.path path)
      let candidates :=
        if name.toList.contains '/' then [name]
        else (Text.splitAt ':' searchPath.toList).map fun directory =>
          Script.inDirectory (if directory.isEmpty then "." else String.ofList directory) name
      let paths ← candidates.filterM found
      let shownPaths := if given.has 'a' then paths else paths.take 1
      shownPaths.forM fun path => print s!"{path}\n"
      return if paths.isEmpty then 1 else 0

end Utility

end BenchKernel
