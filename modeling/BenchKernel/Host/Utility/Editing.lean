import BenchKernel.Host.Utility.EditScript
import BenchKernel.Host.Utility.Parts

/-! # The line editor

A stream editor runs the commands of a script for every line of its input. It has a text to work on, which starts as
the line, and a text that it holds. -/

namespace BenchKernel

namespace Editor

open Utility

structure InputLine where
  text : String
  ended : Bool
  file : String

/-- What is printed after the commands of a line. -/
inductive Queued
  | text (content : String)
  | file (path : String)

structure State where
  space : String := ""
  held : String := ""
  heldEnded : Bool := true
  number : Nat := 0
  ended : Bool := true
  file : String := "-"
  operands : List String
  feed : Option (String × Feed) := none
  ahead : Option InputLine := none
  ending : Char := '\n'
  status : Nat := 0
  queue : List Queued := []
  /-- The commands that count up to some line, and those that count up to a match. -/
  ranges : List (Nat × Option Nat) := []
  replaced : Bool := false
  last : Option Regex := none
  unended : Bool := false
  output : Nat
  files : List (String × Nat) := []
  sources : List (String × List String) := []

structure Options where
  quiet : Bool := false
  ending : Char := '\n'

abbrev Run := StateT State Work

/-- How the commands of a line ended. -/
inductive Outcome
  | finished
  | deleted
  | again
  | quit (status : Nat) (prints : Bool)
  deriving DecidableEq

/-! ### Output -/

def emit (text : String) : Run Unit := do
  let s ← get
  let text := if s.unended then "\n" ++ text else text
  let _ ← Utility.writeTo s.output text
  modify fun s => { s with unended := false }

variable (o : Options)

/-- Prints a line, with its end if it had one. -/
def emitLine (text : String) : Run Unit := do
  let s ← get
  if s.ended then emit (text.push o.ending)
  else
    emit text
    modify fun s => { s with unended := true }

def emitQueue : Run Unit := do
  let queue := (← get).queue
  modify fun s => { s with queue := [] }
  queue.forM fun
    | .text content => emit content
    | .file path => do
      match ← fileText path with
      | .ok text => if !text.isEmpty then emit text
      | .error _ => return

def writeTo (path line : String) (hasEnd : Bool) : Run Unit := do
  let text := if hasEnd then line.push o.ending else line
  if path = "/dev/stdout" then emit text
  else
    match (← get).files.lookup path with
    | none => return
    | some index =>
      let _ ← Utility.writeTo index text
      return

/-! ### Lines -/

/-- Takes a line of the operand that is open. A fault ends the input. -/
def openLine? : Run (Option InputLine) := do
  match (← get).feed with
  | none => return none
  | some (file, feed) =>
    match ← feed.next with
    | .ok (some (text, ended), feed) =>
      modify fun s => { s with feed := some (file, feed) }
      return some ⟨text, ended, file⟩
    | .ok (none, _) =>
      modify fun s => { s with feed := none }
      return none
    | .error why =>
      let _ ← complain s!"read error on {file}: {why.description}"
      modify fun s => { s with operands := [], feed := none, status := 4 }
      return none

/-- The next line of the input. Files that cannot be read are passed over. -/
def lineOf? : List String → Run (Option InputLine)
  | [] => openLine?
  | path :: rest => do
    match ← openLine? with
    | some line => return some line
    | none =>
      if (← get).status = 4 then return none
      else
        modify fun s => { s with operands := rest }
        match ← openOperand path with
        | .ok index => modify fun s => { s with feed := some (path, { index, ending := s.ending }) }
        | .error why =>
          let _ ← complain s!"can't read {path}: {why.description}"
          modify fun s => { s with status := 2 }
        lineOf? rest

/-- Reads the line after the present one. -/
def lookAhead : Run Unit := do
  let s ← get
  if s.ahead.isNone then
    let line ← lineOf? s.operands
    modify fun s => { s with ahead := line }

def nextLine? : Run (Option String) := do
  lookAhead
  let s ← get
  match s.ahead with
  | none => return none
  | some line =>
    set { s with ahead := none, number := s.number + 1, ended := line.ended, file := line.file }
    return some line.text

def isLast : Run Bool := do
  lookAhead
  return (← get).ahead.isNone

/-! ### Addresses -/

/-- Whether an expression is found, which is kept in mind. -/
def isFound (sample : Sample) : Run Bool := do
  let s ← get
  match sample.regex.orElse fun _ => s.last with
  | none => return false
  | some r =>
    set { s with last := some r }
    return (Regex.find? { folded := sample.folded, lines := sample.lines } r s.space.toList.toArray 0).isSome

def starts (address : Address) : Run Bool := do
  let s ← get
  match address with
  | .line n => return s.number == n
  | .last => isLast
  | .every first step => return if step = 0 then s.number == first else first ≤ s.number && (s.number - first) % step == 0
  | .found sample => isFound sample

def ends (stretch : Stretch) : Run Bool := do
  let s ← get
  match stretch with
  | .line n => return n ≤ s.number
  | .last => isLast
  | .found sample => isFound sample
  | .more _ | .multiple _ => return false

def rangeEnd (number : Nat) : Stretch → Option Nat
  | .line n => some n
  | .more count => some (number + count)
  | .multiple factor => some (if factor = 0 then number else (number + factor - 1) / factor * factor)
  | .last | .found _ => none

/-- Whether a line lies in a stretch, which may begin with it. -/
def inRange (index : Nat) (first : Address) (second : Stretch) : Run Bool := do
  let s ← get
  let others := s.ranges.filter fun entry => entry.1 != index
  let started : Run Bool := do
    match rangeEnd s.number second with
    | some stop =>
      if s.number < stop then modify fun s => { s with ranges := (index, some stop) :: others }
    | none =>
      let isOver ← match second with
        | .last => isLast
        | _ => pure false
      if !isOver then modify fun s => { s with ranges := (index, none) :: others }
    return true
  match s.ranges.lookup index with
  | some (some stop) =>
    if stop ≤ s.number then modify fun s => { s with ranges := others }
    if s.number ≤ stop then return true
    else if ← starts first then started
    else return false
  | some none =>
    if ← ends second then modify fun s => { s with ranges := others }
    return true
  | none =>
    let isZero := match first with
      | .line 0 => true
      | _ => false
    if isZero && s.number == 1 then
      let isOver ← ends second
      if !isOver then modify fun s => { s with ranges := (index, none) :: others }
      return true
    else if ← starts first then started
    else return false

/-- Whether a command is meant for the line. -/
def counts (index : Nat) (c : Command) : Run Bool := do
  let holds ←
    match c.first, c.second with
    | none, _ => pure true
    | some first, none => starts first
    | some first, some second => inRange index first second
  return holds != c.negated

/-! ### Replacing -/

/-- A change of the case of letters: one that lasts, and one for the next character. -/
structure CaseState where
  lasting : Option Char := none
  once : Option Char := none

def CaseState.apply (s : CaseState) (c : Char) : Char :=
  match s.once.orElse fun _ => s.lasting with
  | some 'U' | some 'u' => c.toUpper
  | some 'L' | some 'l' => c.toLower
  | _ => c

def addCased (s : CaseState) (cs : List Char) : CaseState × List Char :=
  match cs with
  | [] => (s, [])
  | c :: rest => ({ s with once := none }, s.apply c :: rest.map ({ s with once := none } : CaseState).apply)

def replacementText (pieces : List Piece) (text : Array Char) (m : Regex.Match) : List Char :=
  (pieces.foldl (fun (state, done) piece =>
    match piece with
    | .casing 'E' => (({} : CaseState), done)
    | .casing letter =>
      if letter.isUpper then ({ state with lasting := some letter }, done) else ({ state with once := some letter }, done)
    | .text content =>
      let (state, cs) := addCased state content.toList
      (state, done ++ cs)
    | .group index =>
      let (state, cs) := addCased state (m.group text index)
      (state, done ++ cs)) (({} : CaseState), [])).2

/-- A text with matches replaced from a position on, last character first, and whether something was replaced. `count` is
    the number of matches so far, and `before` the end of the last one. -/
def replaceFrom (r : Replacement) (find : Nat → Option Regex.Match) (text : Array Char) :
    (fuel : Nat) → (position count : Nat) → (before : Option Nat) → (done : List Char) → List Char × Bool
  | 0, _, _, _, done => (done, false)
  | fuel + 1, position, count, before, done =>
    let rest (from' : Nat) (done : List Char) : List Char := (Regex.textBetween text from' text.size).reverse ++ done
    match if text.size < position then none else find position with
    | none => (rest position done, false)
    | some m =>
      let done := (Regex.textBetween text position m.start).reverse ++ done
      let isEmpty := m.stop = m.start
      let isNear := isEmpty && before = some m.start
      let number := if isNear then count else count + 1
      let isMeant := !isNear && r.nth ≤ number
      let own := if isMeant then replacementText r.pieces text m else Regex.textBetween text m.start m.stop
      let done := own.reverse ++ done
      if isMeant && !r.every then (rest m.stop done, true)
      else
        let (done, next) :=
          if isEmpty then
            ((text[m.stop]?).toList ++ done, m.stop + 1)
          else (done, m.stop)
        let (result, more) := replaceFrom r find text fuel next number (some m.stop) done
        (result, isMeant || more)

def replace (r : Replacement) : Run Unit := do
  let s ← get
  match r.sample.regex.orElse fun _ => s.last with
  | none => return
  | some regex =>
    let text := s.space.toList.toArray
    let find := Regex.find? { folded := r.sample.folded, lines := r.sample.lines } regex text
    let (done, replaced) := replaceFrom r find text (text.size + 2) 0 0 none []
    set { s with last := some regex }
    if replaced then
      let space := String.ofList done.reverse
      modify fun s => { s with space := space, replaced := true }
      if r.prints then emitLine o space
      match r.file with
      | some path => writeTo o path space s.ended
      | none => return

/-! ### Showing -/

def shownChar (c : Char) : String :=
  match [('\\', "\\\\"), ('\x07', "\\a"), ('\x08', "\\b"), ('\x0c', "\\f"), ('\n', "\\n"), ('\r', "\\r"), ('\t', "\\t"), ('\x0b', "\\v")].lookup c with
  | some text => text
  | none =>
    if 32 ≤ c.toNat && c.toNat < 127 then String.singleton c
    else "\\" ++ Number.padded 8 3 c.toNat

def shownText (width : Nat) (text : String) : String :=
  let (done, _) := text.toList.foldl (fun (done, used) c =>
    let shown := shownChar c
    if 1 < width && width < used + shown.length + 1 then (s!"{done}\\\n{shown}", shown.length)
    else (done ++ shown, used + shown.length)) ("", 0)
  done ++ "$\n"

def firstPart? (text : String) : Option String :=
  if text.toList.contains o.ending then some (String.ofList (text.toList.takeWhile (· != o.ending))) else none

/-! ### Running -/

def perform (c : Command) : Run Unit := do
  let s ← get
  match c.action with
  | .append text => set { s with queue := s.queue ++ [Queued.text text] }
  | .insert text => emit text
  | .print => emitLine o s.space
  | .printFirst =>
    match firstPart? o s.space with
    | some text => emit (text.push o.ending)
    | none => emitLine o s.space
  | .get => set { s with space := s.held, ended := s.heldEnded }
  | .getAppended =>
    set { s with space := s.space ++ String.singleton o.ending ++ s.held, ended := s.heldEnded }
  | .hold => set { s with held := s.space, heldEnded := s.ended }
  | .holdAppended =>
    set { s with held := s.held ++ String.singleton o.ending ++ s.space, heldEnded := s.ended }
  | .exchange => set { s with space := s.held, held := s.space, ended := s.heldEnded, heldEnded := s.ended }
  | .clear => set { s with space := "" }
  | .replace r => replace o r
  | .replaceChars table => set { s with space := s.space.map fun c => (table.lookup c).getD c }
  | .number => emit s!"{s.number}\n"
  | .show width => emit (shownText (width.getD 70) s.space)
  | .readFile path => set { s with queue := s.queue ++ [Queued.file path] }
  | .readLine path =>
    let lines ← match s.sources.lookup path with
      | some lines => pure lines
      | none => do
        match ← fileText path with
        | .ok text => pure (linesOf '\n' text)
        | .error _ => pure []
    modify fun s =>
      { s with
        queue := s.queue ++ (lines.head?.map fun line => Queued.text s!"{line}\n").toList
        sources := (path, lines.tail) :: s.sources.filter fun entry => entry.1 != path }
  | .writeFile path => writeTo o path s.space s.ended
  | .writeFirst path =>
    match firstPart? o s.space with
    | some text => writeTo o path text true
    | none => writeTo o path s.space s.ended
  | .fileName => emit s!"{s.file}\n"
  | _ => return

variable (commands : Array Command)

/-- Runs commands from a position on. -/
def execute : (fuel : Nat) → (position : Nat) → Run Outcome
  | 0, _ => return .quit 0 false
  | fuel + 1, position => do
    match commands[position]? with
    | none => return .finished
    | some c =>
      if !(← counts position c) then
        match c.action with
        | .block after => execute fuel after
        | _ => execute fuel (position + 1)
      else
        let goTo (target : Option Nat) : Run Outcome :=
          match target with
          | none => return .finished
          | some target => execute fuel target
        match c.action with
        | .delete => return .deleted
        | .deleteFirst =>
          let s ← get
          if s.space.toList.contains o.ending then
            set { s with space := String.ofList ((s.space.toList.dropWhile (· != o.ending)).drop 1) }
            return .again
          else return .deleted
        | .change text =>
          let isInside := !c.negated && c.second.isSome && ((← get).ranges.lookup position).isSome
          if !isInside then emit text
          return .deleted
        | .next | .nextAppended =>
          let appends := c.action matches .nextAppended
          if ← isLast then return .finished
          else
            if !o.quiet && !appends then emitLine o (← get).space
            emitQueue
            let line := (← nextLine?).getD ""
            modify fun s => { s with space := if appends then s.space ++ String.singleton o.ending ++ line else line }
            execute fuel (position + 1)
        | .quit status => return .quit status true
        | .quitSilently status => return .quit status false
        | .jump target => goTo target
        | .jumpIf target | .jumpUnless target =>
          let replaced := (← get).replaced
          modify fun s => { s with replaced := false }
          if replaced == (c.action matches .jumpIf _) then goTo target else execute fuel (position + 1)
        | _ =>
          perform o c
          execute fuel (position + 1)

def mostSteps : Nat := 10000000

/-- Runs the commands for all lines: the status. With `again` the text is what a command has left. -/
def lines : (fuel : Nat) → (again : Bool) → Run Nat
  | 0, _ => return 0
  | fuel + 1, again => do
    if !again then
      match ← nextLine? with
      | some line => modify fun s => { s with space := line, replaced := false }
      | none => return 0
    match ← execute o commands mostSteps 0 with
    | .finished =>
      if !o.quiet then emitLine o (← get).space
      emitQueue
      lines fuel false
    | .deleted =>
      emitQueue
      lines fuel false
    | .again =>
      emitQueue
      lines fuel true
    | .quit status prints =>
      if prints then
        if !o.quiet then emitLine o (← get).space
        emitQueue
      return status

/-! ### The program -/

def writtenFiles (commands : List Command) : List String :=
  (commands.filterMap fun c =>
    match c.action with
    | .writeFile path | .writeFirst path => some path
    | .replace r => r.file
    | _ => none).filter (· != "/dev/stdout")

def lacksExpression (commands : List Command) : Bool :=
  let isEmpty (s : Sample) : Bool := s.regex.isNone
  let uses (c : Command) : List Bool :=
    (match c.first with
      | some (.found s) => [isEmpty s]
      | _ => []) ++
    (match c.action with
      | .replace r => [isEmpty r.sample]
      | _ => [])
  (commands.flatMap uses).head? = some true

def openWritten : List String → Work (List (String × Nat))
  | [] => return []
  | path :: rest => do
    let others ← openWritten rest
    if path = "/dev/stderr" then return (path, (((← read).numbers.lookup 2).getD 0)) :: others
    else
      match ← openPath path .write with
      | .ok index => return (path, index) :: others
      | .error _ => return others

def scriptParts : (count : Nat) → Given → Work (Except String (List (String × Bool × String)))
  | _, [] => return .ok []
  | count, (letter, value) :: rest => do
    if letter = 'e' then
      match ← scriptParts (count + 1) rest with
      | .ok others => return .ok ((s!"-e expression #{count}", false, value) :: others)
      | .error why => return .error why
    else if letter = 'f' then
      match ← content value, ← scriptParts count rest with
      | .error e, _ => return .error s!"couldn't open file {value}: {e.description}"
      | _, .error why => return .error why
      | .ok text, .ok others =>
        let text := if text.endsWith "\n" then String.ofList text.toList.dropLast else text
        return .ok (("file " ++ value, true, text) :: others)
    else scriptParts count rest

/-- Which part of the script a position lies in. -/
def faultPlace : (position : Nat) → List (String × Bool × String) → String
  | _, [] => ""
  | position, (label, isFile, text) :: rest =>
    if position ≤ text.length || rest.isEmpty then
      if isFile then label ++ " line " ++ toString ((text.toList.take (position - 1)).count '\n' + 1) ++ ": "
      else s!"{label}, char {position}: "
    else faultPlace (position - text.length - 1) rest

def runOn (commands : List Command) (operands : List String) (output : Nat) (files : List (String × Nat)) :
    Work Nat := do
  let start : State := { operands, output, files, ending := o.ending }
  let (status, s) ← (lines o commands.toArray patience false).run start
  match s.feed with
  | some ("-", feed) =>
    let line := s.ahead.toList.map fun line => line.text
    { feed with ready := line ++ feed.ready }.giveBack
  | _ => pure ()
  return if status = 0 then s.status else status

/-- Replaces a file by what becomes of it. -/
def runInPlace (commands : List Command) (files : List (String × Nat)) (suffix path : String) : Work Nat := do
  match ← find path with
  | .error e =>
    let _ ← complain s!"can't read {path}: {e.description}"
    return 4
  | .ok (.file before marks) =>
    let text := Text.ofBytes before
    let (writing, m) := (← get).addScratch
    set m
    let status ← runOn o commands [path] writing files
    let done := (← get).scratch writing
    let place := (← place? path).getD []
    if !suffix.isEmpty then
      let kept := if suffix.toList.contains '*' then
          String.join ((Text.splitAt '*' suffix.toList).map String.ofList |>.intersperse path)
        else path ++ suffix
      let _ ← writeFile kept text
    changeFiles fun fs => fs.put place (.file done marks)
    return status
  | .ok _ =>
    let _ ← complain s!"couldn't edit {path}: not a regular file"
    return 4

def longOptions : List (String × Char) :=
  [("quiet", 'n'), ("silent", 'n'), ("expression", 'e'), ("file", 'f'), ("regexp-extended", 'E'), ("in-place", 'i'),
    ("separate", 's'), ("null-data", 'z'), ("unbuffered", 'u'), ("line-length", 'l'), ("posix", 'Ā'), ("debug", 'ā'),
    ("sandbox", 'Ă'), ("follow-symlinks", 'ă')]

def edit : Work Nat :=
  withOptionSet { letters := "ne:f:Eri::szul:", long := longOptions } 1 fun given operands => do
    let hasScript := given.any fun entry => entry.1 == 'e' || entry.1 == 'f'
    match if hasScript then some (given, operands) else operands.head?.map fun text => (('e', text) :: given, operands.tail) with
    | none => misuse "no script specified"
    | some (given, operands) =>
      match ← scriptParts 1 given with
      | .error why => complain why
      | .ok parts =>
        let script := "\n".intercalate (parts.map fun part => part.2.2)
        match parse (given.has 'E' || given.has 'r') script with
        | .error ⟨some position, why⟩ =>
          if why.startsWith "character class" then failWith 4 why else
          let place := if position = 0 then ((parts.head?.map Prod.fst).getD "") ++ ", char 0: " else faultPlace position parts
          complain (place ++ why)
        | .error ⟨none, why⟩ => complain why
        | .ok commands =>
          if lacksExpression commands then
            complain (((parts.head?.map Prod.fst).getD "") ++ ", char 0: no previous regular expression")
          else
            let isQuiet := given.has 'n' || script.toList.take 3 = ['#', 'n', '\n'] || script = "#n"
            let o : Options := { quiet := isQuiet, ending := lineEnding given }
            let files ← openWritten (writtenFiles commands)
            let output := ((← read).numbers.lookup 1).getD 0
            match given.value? 'i' with
            | some suffix => forEach operands (runInPlace o commands files suffix)
            | none =>
              if given.has 's' then
                let (status, _) ← (inputs operands).foldlM (fun (status, isOver) path => do
                  if isOver then return (status, isOver)
                  else
                    let own ← runOn o commands [path] output files
                    return (max status own, own != 0 && own != 2)) (0, false)
                return status
              else runOn o commands (inputs operands) output files

end Editor

end BenchKernel
