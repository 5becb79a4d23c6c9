import BenchKernel.Host.Mode
import BenchKernel.Host.Script.Condition
import BenchKernel.Host.Script.Expansion
import BenchKernel.Host.Script.Jobs
import BenchKernel.Host.Script.Output

/-! # Builtin commands

The commands that a shell carries out by itself and that run no other commands. Each is an action that gives back
a status. -/

namespace BenchKernel.Script

/-- Letters with their signs and arguments. -/
abbrev SignedOptions := List (Bool × Char × String)

/-- Reads the options of a builtin command. A letter before a colon takes an argument. With a plus sign an option is
    switched off. A letter that is not known or whose argument is missing is a fault. -/
def readOptions (known : List Char) (plus : Bool)
    (fault : (isMissing : Bool) → (sign letter : Char) → Act (SignedOptions × List String)) :
    (fuel : Nat) → List String → Act (SignedOptions × List String)
  | 0, arguments => return ([], arguments)
  | fuel + 1, arguments => do
    match arguments with
    | [] => return ([], [])
    | argument :: rest =>
      match argument.toList with
      | ['-', '-'] => return ([], rest)
      | sign :: c :: cs =>
        let add (value : String) (left : List String) : Act (SignedOptions × List String) := do
          let (given, left) ← readOptions known plus fault fuel left
          return ((sign == '-', c, value) :: given, left)
        if sign = '-' || (plus && sign = '+') then
          match if c = ':' then [] else known.dropWhile (· != c) with
          | [] => fault false sign c
          | _ :: ':' :: _ =>
            match cs, rest with
            | [], [] => fault true sign c
            | [], next :: rest => add next rest
            | _, _ => add (String.ofList cs) rest
          | _ => add "" (if cs.isEmpty then rest else String.ofList (sign :: cs) :: rest)
        else return ([], arguments)
      | _ => return ([], arguments)

/-- No command has more options than this. -/
def optionBound (arguments : List String) : Nat := (" ".intercalate arguments).length + arguments.length + 1

/-- The options of a plain builtin command. A fault in them ends the script. -/
def options (known : String) (arguments : List String) : Act (List (Char × String) × List String) := do
  let fault (isMissing : Bool) (_ c : Char) : Act (SignedOptions × List String) :=
    Act.fail (if isMissing then s!"No arg for -{c} option" else s!"Illegal option -{c}")
  let (given, rest) ← readOptions known.toList false fault (optionBound arguments) arguments
  return (given.map Prod.snd, rest)

def greatestCount : Int := 2147483647

def countOf (text : String) : Act Nat := do
  match wholeNumber? false text with
  | some n => if 0 ≤ n && n ≤ greatestCount then return n.toNat else Act.illegalNumber text
  | none => Act.illegalNumber text

def quotedRuns : (fuel : Nat) → List Char → String
  | 0, _ => ""
  | fuel + 1, cs =>
    let plain := cs.takeWhile (· != '\'')
    let quotes := (cs.drop plain.length).takeWhile (· == '\'')
    let rest := cs.drop (plain.length + quotes.length)
    s!"'{String.ofList plain}'" ++
      (if quotes.isEmpty then "" else s!"\"{String.ofList quotes}\"") ++
      (if rest.isEmpty then "" else quotedRuns fuel rest)

/-- A text between quotes, as a script would write it. -/
def quotedText (text : String) : String := quotedRuns (text.length + 1) text.toList

def checkName (name : String) : Act Unit := do
  if !isName name then Act.fail s!"{name}: bad variable name"

/-- The name before an equals sign and the value after it. -/
def nameAndValue (argument : String) : String × Option String :=
  match Text.cutAt? '=' argument.toList with
  | some (name, value) => (String.ofList name, some (String.ofList value))
  | none => (argument, none)

namespace Builtin

variable (arguments : List String)

def echo : Act Nat := do
  Act.print (echoText arguments)
  return 0

def printf (arguments : List String) : Act Nat := do
  let (_, arguments) ← options "" arguments
  match arguments with
  | [] => Act.fail "usage: printf format [arg ...]"
  | format :: rest =>
    let (ended, s) := printed {} format rest
    s.warnings.forM fun (text, why) => Act.report s!"{text}: {why.message}"
    Act.print s.text
    match ended with
    | some (.bad text isCut) => Act.fail (if isCut then "missing format character" else text ++ ": invalid directive")
    | _ => return if s.warnings.isEmpty then 0 else 1

/-! ### Conditions -/

/-- The marks of a node. Those that keep none have fixed ones. -/
def marksOf : Node → Marks
  | .directory marks | .file _ marks | .fifo marks => marks
  | .program _ => .plain true
  | .link _ => { mode := 511 }
  | .device _ => { mode := 438 }

def nodeHolds (operator : String) (node : Node) : Bool :=
  let mode := (marksOf node).mode
  match operator with
  | "-e" | "-r" | "-w" | "-O" | "-G" => true
  | "-x" => node.isDirectory || (marksOf node).isExecutable
  | "-d" => node.isDirectory
  | "-f" => (node matches .file _ _ | .program _)
  | "-c" => (node matches .device _)
  | "-p" => (node matches .fifo _)
  | "-u" => mode / 2048 % 2 == 1
  | "-g" => mode / 1024 % 2 == 1
  | "-k" => mode / 512 % 2 == 1
  | "-s" =>
    match node with
    | .file content _ => !content.isEmpty
    | .device _ => false
    | _ => true
  | _ => false

/-- What a number of the process stands for, if a node is such a number. -/
def openNode? (m : Machine) (numbers : Numbers) (node : Node) : Option Node :=
  match node with
  | .device (.stream number) =>
    match (numbers.lookup number).bind fun index => m.openFiles[index]? with
    | none => none
    | some { channel := .pipe _, .. } => some (.fifo { mode := 384 })
    | some { channel := .file place, .. } => m.files.get? place
    | some { channel := .nameless index, .. } => (m.nameless[index]?).map fun content => .plainFile content false
    | some { channel := .directory, .. } => some (.directory .open)
    | some _ => some (.device .null)
  | other => some other

/-- How the files of a machine answer conditions. With `lenient` a file that is there is newer than one that is
    not. -/
def fileFacts (lenient : Bool) (m : Machine) (numbers : Numbers) (cwd : Place) : FileFacts :=
  let find (path : String) := ((m.files.find cwd (Shell.path path)).toOption).bind (openNode? m numbers)
  let place (path : String) := (m.files.locate cwd (Shell.path path)).toOption
  let isNewer (first second : String) : Bool :=
    match find first, find second with
    | some a, some b => (marksOf b).modified < (marksOf a).modified
    | some _, none => lenient
    | none, _ => false
  { holds := fun operator path =>
      if operator = "-L" || operator = "-h" then m.files.findName cwd (Shell.path path) matches .ok (.link _)
      else (find path).any (nodeHolds operator)
    relates := fun operator first second =>
      match operator with
      | "-ef" =>
        match (find first).bind fun _ => place first, place second with
        | some a, some b => (m.namesOf a).contains b
        | _, _ => false
      | "-nt" => isNewer first second
      | "-ot" => isNewer second first
      | _ => false }

def test : Act Nat := do
  let s ← get
  match Condition.evaluate (fileFacts false s.machine s.numbers s.cwd) (arguments.length + 1) arguments with
  | .ok holds => return if holds then 0 else 1
  | .error why => Act.fail why

def bracket : Act Nat :=
  if arguments.getLast? = some "]" then test arguments.dropLast else Act.fail "missing ]"

/-! ### Variables -/

/-- Lists variables as commands that would set them. -/
def listed (start : String) (isListed : Variable → Bool) : Act Unit := do
  let entries := ((← get).vars.filter fun entry => isListed entry.2).mergeSort fun a b => decide (a.1 ≤ b.1)
  entries.forM fun (name, v) =>
    Act.print (start ++ name ++ ((v.value.map fun text => "=" ++ quotedText text).getD "") ++ "\n")

def mark (start : String) (isListed : Variable → Bool) (change : Variable → Variable) (arguments : List String) :
    Act Nat := do
  let (given, names) ← options "p" arguments
  if names.isEmpty || !given.isEmpty then listed start isListed
  else
    names.forM fun argument => do
      let (name, value) := nameAndValue argument
      checkName name
      if let some text := value then Act.assign name text
      modify fun s => s.setVariable name (change ((s.find? name).getD {}))
  return 0

def exportVariables : Act Nat :=
  mark "export " Variable.exported (fun v => { v with exported := true }) arguments

def fixVariables : Act Nat :=
  mark "readonly " Variable.fixed (fun v => { v with fixed := true }) arguments

/-- Keeps a variable, to be restored when the function ends. -/
def keepVariable (name : String) : Act Unit := do
  let s ← get
  match s.saved with
  | [] => return
  | frame :: others =>
    if (frame.lookup name).isNone then set { s with saved := ((name, s.find? name) :: frame) :: others }

def keepOptions : Act Unit := modify fun s =>
  match s.savedOptions with
  | none :: others => { s with savedOptions := some s.options :: others }
  | _ => s

def localVariables : Act Nat := do
  let s ← get
  if s.functionDepth = 0 then Act.fail "not in a function"
  let (_, names) ← options "" arguments
  if names.contains "-" then keepOptions
  (names.filter (· != "-")).forM fun argument => do
    let (name, value) := nameAndValue argument
    checkName name
    keepVariable name
    if let some text := value then Act.assign name text
  return 0

def unset : Act Nat := do
  let (given, names) ← options "vf" arguments
  let functions := given.getLast?.any fun option => option.1 == 'f'
  names.forM fun name => do
    if functions then modify fun s => { s with functions := s.functions.filter fun entry => entry.1 != name }
    else
      let (name, _) := nameAndValue name
      checkName name
      Act.unassign name
  return 0

/-! ### Options and arguments -/

def switch (on : Bool) (letter : Char) : Act Unit := modify fun s =>
  let others := s.options.filter (· != letter)
  { s with options := if on then letter :: others else others }

/-- How a language sets options: by their letters and by their names, and how it lists them. -/
structure OptionSetting where
  letter : (on : Bool) → Char → Act Unit
  named : (on : Bool) → String → Act Unit
  list : (on : Bool) → Act Unit

variable (o : OptionSetting)

/-- Sets the options of a group of letters. A letter `o` takes its name from the arguments that follow. -/
def OptionSetting.letters (on : Bool) : List Char → List String → Act (List String)
  | [], rest => return rest
  | 'o' :: letters, [] => do
    o.list on
    OptionSetting.letters on letters []
  | 'o' :: letters, name :: rest => do
    o.named on name
    OptionSetting.letters on letters rest
  | letter :: letters, rest => do
    o.letter on letter
    OptionSetting.letters on letters rest

/-- Reads options, and gives back the arguments after them, and whether an end of the options was marked. -/
def OptionSetting.read : (fuel : Nat) → List String → Act (List String × Bool)
  | 0, arguments => return (arguments, false)
  | fuel + 1, arguments => do
    match arguments with
    | [] => return ([], false)
    | argument :: rest =>
      match argument.toList with
      | ['-'] =>
        modify fun s => { s with options := s.options.filter fun letter => letter != 'x' && letter != 'v' }
        return (rest, false)
      | ['-', '-'] => return (rest, true)
      | '-' :: letters => OptionSetting.read fuel (← o.letters true letters rest)
      | '+' :: letters => OptionSetting.read fuel (← o.letters false letters rest)
      | _ => return (arguments, false)

def OptionSetting.setShell (listing : Act Unit) (arguments : List String) : Act Nat := do
  if arguments.isEmpty then listing
  else
    let (left, isMarked) ← o.read (arguments.length + 1) arguments
    if isMarked || !left.isEmpty then modify fun s => { s with arguments := left }
  return 0

def setOption (on : Bool) (letter : Char) : Act Unit := do
  if (Shell.optionNames.lookup letter).isNone || letter = 'l' || letter = 'd' then
    Act.fail ("Illegal option " ++ (if on then "-" else "+") ++ String.singleton letter)
  switch on letter

def setNamedOption (on : Bool) (name : String) : Act Unit := do
  match Shell.optionNames.find? fun entry => entry.2 == name with
  | some (letter, _) => switch on letter
  | none => Act.fail ("Illegal option " ++ (if on then "-o " else "+o ") ++ name)

def listOptions (on : Bool) : Act Unit := do
  let s ← get
  if on then
    Act.print "Current option settings\n"
    Shell.optionNames.forM fun (letter, name) =>
      Act.print (name ++ "".pushn ' ' (16 - name.length) ++ (if s.has letter then "on" else "off") ++ "\n")
  else
    Shell.optionNames.forM fun (letter, name) =>
      Act.print ("set " ++ (if s.has letter then "-o " else "+o ") ++ name ++ "\n")

def optionSetting : OptionSetting := ⟨setOption, setNamedOption, listOptions⟩

def shift (arguments : List String) : Act Nat := do
  let count ← (arguments.head?.map countOf).getD (pure 1)
  let s ← get
  if s.arguments.length < count then Act.fail "can't shift that many"
  set { s with arguments := s.arguments.drop count }
  return 0

/-! ### Leaving -/

def leaveLoops (make : Nat → Skip) (arguments : List String) : Act Nat := do
  let count ←
    match arguments.head? with
    | none => pure 1
    | some text => do
      let count ← countOf text
      if count = 0 then Act.illegalNumber text
      pure count
  let depth := (← get).loopDepth
  if 0 < depth then modify fun s => { s with skip := some (make (min count depth)) }
  return 0

def leaveFunction : Act Nat := do
  let status ← (arguments.head?.map countOf).getD (do return (← get).status)
  modify fun s => { s with skip := some .function }
  return status

def exit : Act Nat := do
  if let some text := arguments.head? then Act.setStatus (← countOf text)
  throw .exit

/-! ### Directories -/

variable (s : Shell)

def workingDirectory : String := Shell.placeText s.way

def placeByNames (cwd : Place) (path : String) : Place :=
  (Path.names path).foldl (fun place name =>
    if name = "." then place else if name = ".." then place.dropLast else place ++ [name])
    (if Path.isAbsolute path then [] else cwd)

/-- The place of a directory, and the names that lead to it. -/
def directory? (physical : Bool) (path : String) : Option (Place × Place) :=
  let fs := s.machine.files
  let path := Shell.path path
  let found : Option (Place × Place) :=
    if physical then (fs.locate s.cwd path).toOption.map fun place => (place, place)
    else
      let way := placeByNames s.way path
      (fs.locate [] ("/" ++ "/".intercalate way)).toOption.map fun place => (place, way)
  found.filter fun (place, _) => (fs.get? place).any Node.isDirectory

/-- The paths to try for a directory, and whether to show the one that is taken. -/
def directoryPaths (target : String) : List (String × Bool) :=
  let first := String.ofList (target.toList.takeWhile (· != '/'))
  if first = "" || first = "." || first = ".." then [(target, false)]
  else
    let dirs := (((s.value? "CDPATH").filter (!·.isEmpty)).map fun text => Text.splitAt ':' text.toList).getD []
    dirs.map (fun dir => if dir.isEmpty then (target, false) else (s!"{String.ofList dir}/{target}", true)) ++
      [(target, false)]

/-- Goes to a directory, and says whether it has to be shown. -/
def goTo (missing : Act Bool) (physical : Bool) (target : String) : Act Bool := do
  let s ← get
  let found (entry : String × Bool) : Option ((Place × Place) × Bool) :=
    (directory? s (physical && !entry.1.isEmpty) entry.1).map fun places => (places, entry.2)
  match (directoryPaths s target).findSome? found with
  | none => missing
  | some ((place, way), isShown) =>
    Act.assign "OLDPWD" (workingDirectory s)
    modify fun s => { s with cwd := place, way := way }
    Act.assign "PWD" (Shell.placeText way)
    return isShown

def cd (arguments : List String) : Act Nat := do
  let (given, arguments) ← options "LP" arguments
  let s ← get
  let target := (arguments.head?).getD ((s.value? "HOME").getD "")
  let back := target = "-"
  let target := if back then (s.value? "OLDPWD").getD "" else target
  let physical := given.getLast?.any fun option => option.1 == 'P'
  let isShown ← goTo (Act.fail s!"can't cd to {target}") physical target
  if back || isShown then Act.print (workingDirectory (← get) ++ "\n")
  return 0

def pwd (given : List (Char × String)) : Act Nat := do
  let s ← get
  let physical := given.getLast?.any fun option => option.1 == 'P'
  Act.print ((if physical then Shell.placeText s.cwd else workingDirectory s) ++ "\n")
  return 0

/-! ### Input -/

/-- A line as `read` takes it: its characters, whether a line end came, and how many bytes it is. A backslash quotes
    the next character, and takes a line end away. -/
def readLine (raw : Bool) : List Char → List Glyph × Bool × Nat
  | [] => ([], false, 0)
  | '\n' :: _ => ([], true, 1)
  | '\\' :: c :: rest =>
    if raw then
      let (glyphs, ended, count) := readLine raw (c :: rest)
      (⟨'\\', false⟩ :: glyphs, ended, count + 1)
    else
      let (glyphs, ended, count) := readLine raw rest
      (if c = '\n' then glyphs else ⟨c, true⟩ :: glyphs, ended, count + 2)
  | '\\' :: [] => (if raw then [⟨'\\', false⟩] else [], false, 1)
  | c :: rest =>
    let (glyphs, ended, count) := readLine raw rest
    (⟨c, false⟩ :: glyphs, ended, count + 1)

/-- Cuts a line into at most so many fields. The last one takes what is left, without the separators at its end
    that are spaces; a single separator that ends it is left out too. Quoted characters after such separators do not
    keep them: they are left out with them. -/
def cutLine (separators : List Char) : (count : Nat) → List Glyph → List String
  | 0, _ => []
  | count + 1, line =>
    let isSeparator (g : Glyph) : Bool := !g.quoted && separators.contains g.char
    let isBlank (g : Glyph) : Bool := isSeparator g && isMildSeparator g.char
    let line := line.dropWhile isBlank
    let text (gs : List Glyph) : String := String.ofList (gs.map Glyph.char)
    let field := line.takeWhile fun g => !isSeparator g
    let rest := (line.dropWhile fun g => !isSeparator g).dropWhile isBlank
    let rest := if rest.head?.any isSeparator then (rest.drop 1).dropWhile isBlank else rest
    if count = 0 then
      let (tail, kept) := line.reverse.span fun g => g.quoted || isBlank g
      if rest.all Glyph.quoted then [text field]
      else [text (kept.reverse ++ tail.reverse.takeWhile Glyph.quoted)]
    else text field :: cutLine separators count rest

/-- Takes from an open file what `cut` cuts off from the text before it: what that is, whether it is complete, and how
    many characters it takes. While it is not complete, this waits for more, but not beyond a time. -/
def takeInput {β : Type} (index : Nat) (time : Option Nat) (cut : List Char → β × Bool × Nat) :
    (tries : Nat) → (before : List Char) → Act (Except OsError (β × Bool))
  | 0, before => return .ok ((cut before).1, false)
  | tries + 1, before => do
    match ← Act.availableTill time index with
    | .error why => return .error why
    | .ok (bytes, isLast) =>
      let text := before ++ (Text.ofBytes bytes).toList
      let (result, isComplete, count) := cut text
      let clock := (← get).machine.clock
      let isLate := bytes.isEmpty && time.any fun time => time ≤ clock
      if isComplete || isLast || isLate then
        Act.skip index (count - before.length)
        return .ok (result, isComplete)
      else
        Act.skip index bytes.size
        takeInput index time cut tries text

def read : Act Nat := do
  let (given, names) ← options "p:r" arguments
  if names.isEmpty then Act.fail "arg count"
  let s ← get
  let raw := given.any fun option => option.1 == 'r'
  let (line, ended) ←
    match s.numbers.lookup 0 with
    | none => pure ([], false)
    | some index => do
      match ← takeInput index none (readLine raw) patience [] with
      | .error _ => pure ([], false)
      | .ok (line, ended) => pure (line.filter fun g => g.char.toNat != 0, ended)
  let fields := cutLine s.separators names.length line
  (names.zipIdx).forM fun (argument, i) => do
    let (name, _) := nameAndValue argument
    checkName name
    Act.assign name ((fields[i]?).getD "")
  return if ended then 0 else 1

/-- Takes the next option from arguments. The number of the next argument is a variable; how far the letters of an
    argument have been read belongs to the shell. The variable counts an argument from its first letter on, in the
    extended language from its last. -/
def getopts (misuse : Act Nat) (arguments : List String) : Act Nat := do
  match arguments with
  | known :: name :: rest =>
    let s ← get
    let wide := s.dialect = .extended
    let given := if rest.isEmpty then s.arguments else rest
    let wordAt (number : Nat) : List Char := ((given[number - 1]?).map String.toList).getD []
    let next := max 1 (((s.value? "OPTIND").bind fun text => number? text.toList).getD 1)
    let begun := if wide then next else next - 1
    let inside := 0 < s.optionOffset && s.optionOffset < (wordAt begun).length
    let current := if inside then begun else next
    let word := wordAt current
    let offset := if inside then s.optionOffset else 1
    let quiet := known.toList.head? = some ':'
    let finish (next offset : Nat) : Act Unit := do
      Act.assign "OPTIND" (toString next)
      modify fun s => { s with optionOffset := offset }
    let choose (text : String) : Act Nat := do
      Act.assign name text
      return 0
    let say (plainText text : String) : Act Unit := do
      if !wide then Act.printError s!"{plainText}\n"
      else if (s.value? "OPTERR") != some "0" then Act.printError s!"{s.name}: {text}\n"
      Act.unassign "OPTARG"
    let stop (next : Nat) : Act Nat := do
      finish next 0
      if wide then Act.unassign "OPTARG"
      Act.assign name "?"
      return 1
    match word with
    | '-' :: _ :: _ =>
      if !inside && word = ['-', '-'] then stop (current + 1)
      else
        let letter := (word[offset]?).getD '?'
        let after := word.drop (offset + 1)
        let own := String.singleton letter
        let step : Act Unit :=
          if after.isEmpty then finish (current + 1) 0 else finish (if wide then current else current + 1) (offset + 1)
        match if letter = ':' && (wide || !quiet) then [] else known.toList.dropWhile (· != letter) with
        | [] =>
          step
          if quiet then Act.assign "OPTARG" own else say s!"Illegal option -{own}" s!"illegal option -- {own}"
          choose "?"
        | _ :: ':' :: _ =>
          match if after.isEmpty then given[current]? else some (String.ofList after) with
          | some value =>
            finish (if after.isEmpty then current + 2 else current + 1) 0
            Act.assign "OPTARG" value
            choose own
          | none =>
            finish (current + 1) 0
            if quiet then
              Act.assign "OPTARG" own
              choose ":"
            else
              say s!"No arg for -{own} option" s!"option requires an argument -- {own}"
              choose "?"
        | _ =>
          step
          if wide then Act.unassign "OPTARG" else Act.assign "OPTARG" ""
          choose own
    | _ => stop current
  | _ => misuse

/-! ### Aliases -/

def defineAliases (entry : (name value : String) → String) (missing : String → Act Unit) (arguments : List String) :
    Act Nat := do
  let s ← get
  if arguments.isEmpty then
    (s.aliases.mergeSort fun a b => decide (a.1 ≤ b.1)).forM fun (name, value) => Act.print (entry name value)
    return 0
  else
    Act.forEach arguments fun argument => do
      match nameAndValue argument with
      | (name, some value) =>
        modify fun s => { s with aliases := (name, value) :: s.aliases.filter fun entry => entry.1 != name }
        return 0
      | (name, none) =>
        match s.aliases.lookup name with
        | some value =>
          Act.print (entry name value)
          return 0
        | none =>
          missing name
          return 1

def dropAliases (missing : String → Act Unit) (isAll : Bool) (names : List String) : Act Nat := do
  if isAll then
    modify fun s => { s with aliases := [] }
    return 0
  else
    Act.forEach names fun name => do
      let s ← get
      if (s.aliases.lookup name).isSome then
        set { s with aliases := s.aliases.filter fun entry => entry.1 != name }
        return 0
      else
        missing name
        return 1

/-! ### Signals and jobs -/

def signal? (text : String) : Option Nat :=
  match number? text.toList with
  | some n => if n ≤ 64 then some n else none
  | none =>
    let name := "SIG" ++ text.map Char.toUpper
    if name = "SIGEXIT" then some 0 else (ExitStatus.signalNames.find? fun entry => entry.2 == name).map Prod.fst

def signalName (signal : Nat) : String :=
  if signal = 0 then "EXIT"
  else if signal = 34 then "RTMIN"
  else if signal = 64 then "RTMAX"
  else if 34 < signal && signal < 50 then s!"RTMIN+{signal - 34}"
  else if 50 ≤ signal && signal < 64 then s!"RTMAX-{64 - signal}"
  else ((ExitStatus.signalNames.lookup signal).map fun name => String.ofList (name.toList.drop 3)).getD (toString signal)

def killUsage : String :=
  "Usage: kill [-s sigspec | -signum | -sigspec] [pid | job]... or\nkill -l [exitstatus]"

def jobOf (name : String) : Act Job := do
  match (← get).findJob name with
  | .ok j => return j
  | .error .noCurrent => Act.fail "No current job"
  | .error .noPrevious => Act.fail "No previous job"
  | .error _ => Act.fail s!"No such job: {name}"

/-- Sends a signal to processes. A job is no group of its own that could be reached, and neither is another process. -/
def sendTo (signal : Nat) (targets : List String) : Act Nat := do
  if targets.isEmpty then Act.fail killUsage
  Act.forEach targets fun target => do
    let missing : Act Nat := do
      Act.report "No such process\n"
      return 1
    match target.toList with
    | '%' :: _ => do
      let _ ← jobOf target
      missing
    | '-' :: digits =>
      let _ ← countOf (String.ofList digits)
      missing
    | _ =>
      let n ← countOf target
      match ← Act.send n signal with
      | .ok () => return 0
      | .error _ => missing

def kill : Act Nat := do
  match arguments with
  | [] => Act.fail killUsage
  | "-l" :: [] =>
    (List.range 65).forM fun n => Act.print ((if n = 0 || n = 16 then toString n else signalName n) ++ "\n")
    return 0
  | "-l" :: text :: _ =>
    let n ← countOf text
    let signal := if 128 < n then n - 128 else n
    if signal = 0 || 64 < signal then Act.fail s!"invalid signal number or exit status: {text}"
    Act.print s!"{signalName signal}\n"
    return 0
  | "-s" :: text :: targets =>
    match signal? text with
    | some signal => sendTo signal targets
    | none => Act.fail s!"invalid signal number or name: {text}"
  | "--" :: targets => sendTo 15 targets
  | argument :: targets =>
    match argument.toList with
    | '-' :: c :: cs =>
      match signal? (String.ofList (c :: cs)) with
      | some signal => sendTo signal (if targets.head? = some "--" then targets.tail else targets)
      | none => Act.fail s!"Illegal option -{c}"
    | _ => sendTo 15 arguments

def trap (arguments : List String) : Act Nat := do
  let (_, arguments) ← options "" arguments
  let s ← get
  match arguments with
  | [] =>
    (s.traps.mergeSort fun a b => decide (a.1 ≤ b.1)).forM fun (signal, action) =>
      Act.print s!"trap -- {quotedText action} {signalName signal}\n"
    return 0
  | first :: rest =>
    let isSignal := rest.isEmpty || (number? first.toList).isSome
    let action := if isSignal || first = "-" then none else some first
    let signals := if isSignal then arguments else rest
    let results ← signals.mapM fun text => do
      match signal? text with
      | none =>
        Act.printError s!"trap: {text}: bad trap\n"
        return 1
      | some signal =>
        modify fun s => s.withTrap signal action
        return 0
    Act.settleTraps
    return results.foldl max 0

/-- Waits for processes and jobs in order, unless a signal comes. -/
def waitFor (status : Nat) : List String → Act Nat
  | [] => return status
  | name :: rest => do
    let job ←
      if name.toList.head? = some '%' then do pure (some (← jobOf name))
      else do
        let n ← countOf name
        pure ((← get).jobs.find? fun j => j.last == n)
    match job with
    | none => waitFor status rest
    | some job =>
      let isOver (s : Shell) : Bool := (s.job? job.number).all Job.isDone
      match ← Act.awaitUntil isOver (if job.isDone then [] else job.processes) patience with
      | some signal => return 128 + signal
      | none =>
        modify fun s => { s with jobs := s.jobs.map fun j => if j.number == job.number then { j with waited := true } else j }
        waitFor ((((← get).job? job.number).bind Job.status?).getD (.exited status)).code rest

def wait : Act Nat := do
  let (_, names) ← options "" arguments
  if names.isEmpty then
    match ← Act.awaitUntil (fun s => s.jobs.all Job.isDone) [] patience with
    | some signal => return 128 + signal
    | none =>
      modify fun s => { s with jobs := s.jobs.map fun j => { j with waited := true } }
      return 0
  else waitFor 127 names

/-- A job as it is listed. The texts of commands are not kept. -/
def jobText (withProcess : Bool) (j : Job) : String :=
  let exited := ("Done", fun code => s!"Done({code})")
  let state :=
    match if j.isDone then j.status? else none with
    | none => "Running"
    | some status => endText exited status
  let process := if withProcess then s!"{j.processes.head?.getD 0} " else ""
  let start := s!"[{j.number}] {String.singleton (s.jobMark j)} "
  let line (text : String) : String := text ++ "".pushn ' ' (max 1 (33 - text.length))
  let others := j.processes.drop 1
  if withProcess then
    let next (number : Nat) : String := " |\n" ++ line ("".pushn ' ' start.length ++ s!"{number} ")
    line (start ++ process ++ state) ++ String.join (others.map next) ++ "\n"
  else line (start ++ state) ++ String.join (others.map fun _ => " | ") ++ "\n"

def jobs : Act Nat := do
  let (given, names) ← options "lp" arguments
  let _ ← Act.reap
  let chosen ← if names.isEmpty then do pure (← get).jobs else names.mapM jobOf
  chosen.forM fun j => do
    if (given.getLast?.map Prod.fst) = some 'p' then Act.print s!"{j.processes.head?.getD 0}\n"
    else
      Act.print (jobText (← get) (!given.isEmpty) j)
      if j.isDone then modify fun s => s.dropJob j.number
  return 0

def moveJob : Act Nat := do
  let (_, names) ← options "" arguments
  let name := names.head?
  let _ ← jobOf (name.getD "%%")
  Act.fail ("job " ++ name.getD "(null)" ++ " not created under job control")

/-! ### The rest -/

def maskText (symbolic : Bool) (mask : Nat) : String :=
  let rights (who : String) (bits : Nat) : String :=
    who ++ "=" ++ (if bits / 4 % 2 = 0 then "r" else "") ++ (if bits / 2 % 2 = 0 then "w" else "") ++
      (if bits % 2 = 0 then "x" else "")
  if symbolic then rights "u" (mask / 64) ++ "," ++ rights "g" (mask / 8) ++ "," ++ rights "o" mask
  else Number.padded 8 4 mask

/-- Sets the mask by octal digits or by clauses for the modes that it leaves. -/
def changeMask (badNumber badMode : Act Nat) (text : String) : Act Nat := do
  let mask := (← get).mask
  if (text.toList.head?.map Char.isDigit).getD false then
    if text.toList.all fun c => (Number.digit? 8 c).isSome then
      modify fun s => { s with mask := digitsValue 8 text.toList % 512 }
      return 0
    else badNumber
  else
    match Mode.change? mask false text (511 - mask % 512) with
    | some mode =>
      modify fun s => { s with mask := 511 - mode % 512 }
      return 0
    | none => badMode

def umask : Act Nat := do
  let (given, rest) ← options "S" arguments
  match rest with
  | [] =>
    Act.print (maskText (!given.isEmpty) (← get).mask ++ "\n")
    return 0
  | text :: _ => changeMask (Act.illegalNumber text) (Act.fail s!"Illegal mode: {text}") text

/-- A limit with its letter, its name, its unit and its value at first. -/
structure Limit where
  letter : Char
  name : String
  unit : Nat
  value : Option Nat

def limitTable : List Limit :=
  [⟨'t', "time(seconds)", 1, none⟩, ⟨'f', "file(blocks)", 512, none⟩, ⟨'d', "data(kbytes)", 1024, none⟩,
    ⟨'s', "stack(kbytes)", 1024, some 8388608⟩, ⟨'c', "coredump(blocks)", 512, some 0⟩,
    ⟨'m', "memory(kbytes)", 1024, none⟩, ⟨'l', "locked memory(kbytes)", 1024, some 8388608⟩,
    ⟨'p', "process", 1, none⟩, ⟨'n', "nofiles", 1, some 1048576⟩, ⟨'v', "vmemory(kbytes)", 1024, none⟩,
    ⟨'w', "locks", 1, none⟩, ⟨'r', "rtprio", 1, some 0⟩]

def withinLimit (value : Option Nat) (greatest : Option Nat) : Bool :=
  match value, greatest with
  | _, none => true
  | none, some _ => false
  | some a, some b => a ≤ b

def Limit.current (l : Limit) (s : Shell) : Option Nat × Option Nat :=
  (s.limits.lookup l.letter).getD (l.value, if l.letter = 's' || l.letter = 'c' then none else l.value)

def Limit.shown (l : Limit) (value : Option Nat) : String :=
  (value.map fun n => toString (n / l.unit)).getD "unlimited"

def ulimit : Act Nat := do
  let (given, rest) ← options "HSatfdscmlpnvwr" arguments
  let letters := given.map Prod.fst
  let side := (letters.filter fun c => c == 'H' || c == 'S').getLast?
  let letter := ((letters.filter fun c => !(['H', 'S', 'a'].contains c)).getLast?).getD 'f'
  let s ← get
  let shownValue (l : Limit) : String := l.shown (if side = some 'H' then (l.current s).2 else (l.current s).1)
  match rest with
  | [] =>
    if letters.contains 'a' then
      limitTable.forM fun l =>
        Act.print (l.name ++ "".pushn ' ' (20 - l.name.length) ++ s!" {shownValue l}\n")
    else (limitTable.filter fun l => l.letter == letter).forM fun l => Act.print s!"{shownValue l}\n"
    return 0
  | text :: more =>
    if letters.contains 'a' || !more.isEmpty then Act.fail "too many arguments"
    let isNumber := text.toList.all Char.isDigit
    if !isNumber && text != "unlimited" then Act.fail "bad number"
    match limitTable.find? fun l => l.letter == letter with
    | none => return 0
    | some l =>
      let value := if isNumber then some ((number? text.toList).getD 0 * l.unit) else none
      let (soft, hard) := l.current s
      let newHard := if side = some 'S' then hard else value
      let newSoft := if side = some 'H' then soft else value
      if !withinLimit newSoft newHard then Act.fail "error setting limit (Invalid argument)"
      if !withinLimit newHard hard then Act.fail "error setting limit (Operation not permitted)"
      set { s with limits := (letter, newSoft, newHard) :: s.limits.filter fun entry => entry.1 != letter }
      return 0

def times (_ : List String) : Act Nat := do
  Act.print "0m0.000000s 0m0.000000s\n0m0.000000s 0m0.000000s\n"
  return 0

def plainBuiltins : List (String × (List String → Act Nat)) :=
  [("echo", echo), ("printf", printf), ("test", test), ("[", bracket), ("export", exportVariables),
    ("readonly", fixVariables), ("local", localVariables), ("unset", unset),
    ("set", optionSetting.setShell (listed "" fun v => v.value.isSome)), ("shift", shift), ("break", leaveLoops .loops),
    ("continue", leaveLoops .rounds), ("return", leaveFunction), ("exit", exit), ("cd", cd), ("chdir", cd),
    ("pwd", fun arguments => do pwd (← options "LP" arguments).1), ("read", read),
    ("getopts", getopts (Act.fail "Usage: getopts optstring var [arg...]")), ("kill", kill), ("trap", trap), ("wait", wait),
    ("umask", umask), ("times", times),
    ("alias", defineAliases (fun name value => s!"{name}={quotedText value}\n") fun name =>
      Act.printError s!"alias: {name} not found\n"),
    ("unalias", fun arguments => do
      let (given, names) ← options "a" arguments
      dropAliases (fun name => Act.printError s!"unalias: {name} not found\n") (!given.isEmpty) names),
    ("ulimit", ulimit), ("jobs", jobs), ("bg", moveJob), ("fg", moveJob), ("false", fun _ => return 1)]

end Builtin

def builtinNames : List String :=
  specialBuiltins ++
    ["[", "alias", "bg", "cd", "chdir", "command", "echo", "false", "fg", "getopts", "hash", "jobs", "kill",
      "printf", "pwd", "read", "test", "true", "type", "ulimit", "umask", "unalias", "wait"]

def runPlainBuiltin (name : String) : List String → Act Nat :=
  (Builtin.plainBuiltins.lookup name).getD fun _ => return 0

end BenchKernel.Script
