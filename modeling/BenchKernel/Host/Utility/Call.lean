import BenchKernel.Host.Launch
import BenchKernel.Host.Script.Builtin

/-! # Calls of programs

The host has small programs that scripts call. A program works on a machine with the open files of its caller, and
ends with a status. Texts have one character for each byte. -/

namespace BenchKernel

abbrev Work := ReaderT Call (StateT Machine Flow)

namespace Utility

def pause (moment : Pause) : Work Unit := fun _ machine => .paused machine moment fun machine => .done ((), machine)

/-- Goes on with what an action has found, unless it has failed. -/
def whenOk {ε α β : Type} (work : Work (Except ε α)) (next : α → Work (Except ε β)) : Work (Except ε β) := do
  match ← work with
  | .error why => return .error why
  | .ok found => next found

/-- Ends the program by a signal. -/
def die (signal : Nat) : Work Unit := do
  let number := (← read).process
  modify fun m => (m.send number signal).toOption.getD m
  pause .turn

variable (index : Nat)

/-- Writes all bytes to an open file. When a pipe is full, this waits until someone has read from it. -/
def writeAll : (tries : Nat) → ByteArray → Work (Except OsError Unit)
  | 0, _ => return .ok ()
  | tries + 1, bytes => do
    match (← get).write index bytes with
    | .ok (count, machine) =>
      set machine
      if count < bytes.size then
        pause { ready := fun m => m.canWrite index }
        writeAll tries (bytes.extract count bytes.size)
      else return .ok ()
    | .error .brokenPipe =>
      die 13
      return .error .brokenPipe
    | .error why => return .error why

variable (text : String)

def writeTo : Work (Except OsError Unit) :=
  let bytes := Text.toBytes text
  writeAll index (bytes.size + 1) bytes

def write (number : Nat) (text : String) : Work Unit := do
  match (← read).numbers.lookup number with
  | none => return
  | some index =>
    let _ ← writeTo index text
    return

def print : Work Unit := write 1 text

/-- Complains, and gives a status back. -/
def failWith (status : Nat) (text : String) : Work Nat := do
  write 2 ((← read).name ++ s!": {text}\n")
  return status

def complain : Work Nat := failWith 1 text

/-- Complains about how the program was called. -/
def misuseWith (status : Nat) (text : String) : Work Nat := do
  let name := (← read).name
  write 2 s!"{name}: {text}\nTry '{name} --help' for more information.\n"
  return status

def misuse : Work Nat := misuseWith 1 text

def misuseComparing : Work Nat := do
  let name := (← read).name
  write 2 s!"{name}: {text}\n{name}: Try '{name} --help' for more information.\n"
  return 2

/-- Why a program refuses to work, and whether its help is mentioned. -/
inductive Refusal
  | hinted (why : String)
  | plain (why : String)

def refuse (status : Nat) : Refusal → Work Nat
  | .hinted why => misuseWith status why
  | .plain why => failWith status why

/-! ### Paths in messages -/

def isMild (c : Char) : Bool :=
  c.isAlphanum || [' ', '%', '\'', '+', ',', '-', '.', '/', ':', '@', ']', '_'].contains c

variable (path : String)

/-- A path as messages show it: between quotes, with the bytes that cannot be shown in octal. Double quotes stand
    around single ones if nothing else asks for quotes. -/
def shown : String :=
  let cs := path.toList
  let isPlain (c : Char) : Bool := 32 ≤ c.toNat && c.toNat < 127
  if cs.all isPlain then
    let rest := if cs.head? == some '#' || cs.head? == some '~' then cs.drop 1 else cs
    if cs.contains '\'' && rest.all isMild then s!"\"{path}\""
    else "'" ++ "'\\''".intercalate ((Text.splitAt '\'' cs).map String.ofList) ++ "'"
  else
    let escaped (c : Char) : String :=
      match c with
      | '\n' => "\\n"
      | '\t' => "\\t"
      | '\r' => "\\r"
      | _ => "\\" ++ Number.padded 8 3 c.toNat
    let (text, _) := cs.foldl (fun (text, escaping) c =>
      if isPlain c then (text ++ (if escaping then "''" else "") ++ String.singleton c, false)
      else (text ++ (if escaping then "" else "'$'") ++ escaped c, true)) ("'", false)
    text ++ "'"

/-- A path at the start of a message, which has quotes only if it needs them. -/
def shownFirst : String :=
  let isBare (c : Char) : Bool :=
    (isMild c && c != ' ' && c != '\'' && c != ':') || ['#', '~', '\x7b', '\x7d'].contains c
  let cs := path.toList
  let isSpecial := cs.isEmpty || cs.head? == some '#' || cs.head? == some '~' || cs == ['\x7b'] || cs == ['\x7d']
  if cs.all isBare && !isSpecial then path else shown path

/-- Complains that something cannot be done to a path. -/
def cannot (action path : String) (why : OsError) : Work Nat :=
  complain s!"cannot {action} {shown path}: {why.description}"

def complainOf (why : OsError) : Work Nat := complain s!"{shownFirst path}: {why.description}"

def missingOperand : Work Nat := misuse "missing operand"

variable (operand : String)

def extraOperand : Work Nat := misuse s!"extra operand {shown operand}"

def plainlyShown : String := s!"'{text}'"

/-! ### Options -/

structure OptionSet where
  /-- The letters. One before a colon takes an argument, one before two colons may have one right after it. -/
  letters : String
  /-- The long names, with the letters that they stand for. Letters outside of the first 256 characters have no
      short form. -/
  long : List (String × Char) := []
  ordered : Bool := false

inductive Takes
  | nothing
  | argument
  | maybe
  deriving DecidableEq, Repr

variable (o : OptionSet)

def OptionSet.takes? (letter : Char) : Option Takes :=
  match o.letters.toList.dropWhile (· != letter) with
  | [] => none
  | _ :: ':' :: ':' :: _ => some .maybe
  | _ :: ':' :: _ => some .argument
  | _ => if letter = ':' then none else some .nothing

/-- The option with a long name, which may be cut short. -/
def OptionSet.find (name : String) : Except String (String × Char) :=
  let unknown := Except.error s!"unrecognized option '--{name}'"
  match o.long.find? fun entry => entry.1 == name with
  | some entry => .ok entry
  | none =>
    match o.long.filter fun entry => name.toList.isPrefixOf entry.1.toList with
    | [] => unknown
    | entry :: others =>
      if others.all fun other => other.2 == entry.2 then .ok entry
      else
        let names := (entry :: others).map fun other => s!" '--{other.1}'"
        .error s!"option '--{name}' is ambiguous; possibilities:{String.join names}"

abbrev Given := List (Char × String)

/-- The options among arguments, and the operands. -/
def OptionSet.split : (fuel : Nat) → List String → Except String (Given × List String)
  | 0, arguments => .ok ([], arguments)
  | fuel + 1, arguments =>
    let add (letter : Char) (value : String) (rest : List String) : Except String (Given × List String) :=
      (OptionSet.split fuel rest).map fun (given, operands) => ((letter, value) :: given, operands)
    match arguments with
    | [] => .ok ([], [])
    | "--" :: rest => .ok ([], rest)
    | argument :: rest =>
      match argument.toList with
      | '-' :: '-' :: name =>
        let (name, value) :=
          match Text.cutAt? '=' name with
          | some (name, value) => (String.ofList name, some (String.ofList value))
          | none => (String.ofList name, none)
        match o.find name with
        | .error why => .error why
        | .ok (name, letter) =>
          match o.takes? letter, value with
          | some .argument, some value | some .maybe, some value => add letter value rest
          | some .argument, none =>
            match rest with
            | [] => .error s!"option '--{name}' requires an argument"
            | value :: rest => add letter value rest
          | _, some _ => .error s!"option '--{name}' doesn't allow an argument"
          | _, none => add letter "" rest
      | '-' :: c :: cs =>
        match o.takes? c with
        | none => .error s!"invalid option -- '{c}'"
        | some .argument =>
          match cs, rest with
          | [], [] => .error s!"option requires an argument -- '{c}'"
          | [], value :: rest => add c value rest
          | _, _ => add c (String.ofList cs) rest
        | some .maybe => add c (String.ofList cs) rest
        | some .nothing => add c "" (if cs.isEmpty then rest else String.ofList ('-' :: cs) :: rest)
      | _ =>
        if o.ordered then .ok ([], arguments)
        else (OptionSet.split fuel rest).map fun (given, operands) => (given, argument :: operands)

def OptionSet.read (arguments : List String) : Except String (Given × List String) :=
  o.split (Script.optionBound arguments) arguments

/-- Reads the options and goes on. A fault in them ends the program. -/
def withOptionSet (status : Nat) (work : Given → List String → Work Nat) : Work Nat := do
  let arguments := (← read).arguments
  match o.read arguments with
  | .error why => misuseWith status why
  | .ok (given, operands) => work given operands

def withOptions (letters : String) (work : Given → List String → Work Nat) : Work Nat :=
  withOptionSet { letters } 1 work

variable (given : Given)

namespace Given

def has (letter : Char) : Bool := (given.lookup letter).isSome

/-- The last argument that an option has got. -/
def value? (letter : Char) : Option String := given.reverse.lookup letter

/-- The last one of some options. It overrides the others. -/
def last? (letters : List Char) : Option Char := ((given.map Prod.fst).filter letters.contains).getLast?

/-- All arguments that an option has got. -/
def values (letter : Char) : List String := (given.filter fun option => option.1 == letter).map Prod.snd

end Given

def lineEnding : Char := if given.has 'z' then '\x00' else '\n'

/-- Works with other arguments. -/
def withArguments (change : List String → List String) : Work Nat → Work Nat :=
  withReader fun call => { call with arguments := change call.arguments }

def isLike (pattern text : String) : Bool :=
  (Script.Pattern.ofGlyphs {} (pattern.toList.map fun c => ⟨c, false⟩)).isMatch text.toList

/-! ### Files -/

def find : Work (Except OsError Node) := do
  return (← get).files.find (← read).cwd (Script.Shell.path path)

def findName : Work (Except OsError Node) := do
  return (← get).files.findName (← read).cwd (Script.Shell.path path)

def place? : Work (Option Place) := do
  return ((← get).files.locate (← read).cwd (Script.Shell.path path)).toOption

def namePlace? : Work (Option Place) := do
  return ((← get).files.locateName (← read).cwd (Script.Shell.path path)).toOption

def entriesOf (place : Place) : Work (List String) := do
  return ((← get).files.entries place).map Script.Shell.ofPath

/-- Opens a file. A pipe with a name waits for its other end. -/
def openPath (access : Access) : Work (Except OsError Nat) := do
  let call ← read
  match (← get).openPath call.numbers call.mask call.cwd (Script.Shell.path path) access with
  | .error e => return .error e
  | .ok (index, m) =>
    set (m.modifyProcess call.process fun p => { p with held := index :: p.held })
    let before := m.openingsOf index
    if (← get).isAlone before index then pause { ready := fun m => !m.isAlone before index }
    return .ok index

def closeFile : Work Unit := do
  let number := (← read).process
  modify fun m => m.modifyProcess number fun p => { p with held := p.held.erase index }

def changeFiles (change : FileStore → FileStore) : Work Unit := modify fun m => { m with files := change m.files }

def writeFile (path text : String) : Work (Except OsError Unit) := do
  whenOk (openPath path .write) fun index => do
    let written ← writeTo index text
    closeFile index
    return written

def available : Work (Except OsError (ByteArray × Bool)) := do
  if !(← get).canRead index then pause { ready := fun m => m.canRead index }
  return (← get).available index

def readSome : Work (Except OsError ByteArray) := do
  whenOk (available index) fun (bytes, _) => do
    modify fun m => m.skip index bytes.size
    return .ok bytes

def patience : Nat := 1000000

def readAll : (tries : Nat) → ByteArray → Work (Except OsError ByteArray)
  | 0, read => return .ok read
  | tries + 1, read => do
    whenOk (readSome index) fun bytes => if bytes.isEmpty then return .ok read else readAll tries (read ++ bytes)

def readIndex : Work (Except OsError String) := do
  whenOk (readAll index patience ByteArray.empty) fun bytes => return .ok (Text.ofBytes bytes)

def readPart (index size : Nat) : Work (Except OsError ByteArray) := do
  if !(← get).canRead index then pause { ready := fun m => m.canRead index }
  match (← get).peek index size with
  | .error why => return .error why
  | .ok (bytes, _) =>
    modify fun m => m.skip index bytes.size
    return .ok bytes

/-- Reads parts until there is enough. -/
def readUntil (index size : Nat) (isEnough : ByteArray → Bool) : (tries : Nat) → ByteArray → Work (Except OsError ByteArray)
  | 0, read => return .ok read
  | tries + 1, read => do
    if isEnough read then return .ok read
    else
      whenOk (readPart index size) fun part =>
        if part.isEmpty then return .ok read else readUntil index size isEnough tries (read ++ part)

def forEachPart (work : String → Work Unit) : (tries : Nat) → Work (Except OsError Unit)
  | 0 => return .ok ()
  | tries + 1 => do
    whenOk (readSome index) fun bytes => do
      if bytes.isEmpty then return .ok ()
      else
        work (Text.ofBytes bytes)
        forEachPart work tries

/-- Opens an operand. A dash stands for the standard input. -/
def openOperand : Work (Except OsError Nat) := do
  if operand = "-" then
    match (← read).numbers.lookup 0 with
    | none => return .error .badNumber
    | some index => return .ok index
  else openPath operand .read

def standardInput : Work (Except OsError String) := do
  match (← read).numbers.lookup 0 with
  | none => return .error .badNumber
  | some index => readIndex index

def fileText : Work (Except OsError String) := do
  whenOk (openPath path .read) fun index => do
    let text ← readIndex index
    closeFile index
    return text

def content : Work (Except OsError String) :=
  if operand = "-" then standardInput else fileText operand

/-- Asks whether something may be done. The answer is a line of the standard input. -/
def agrees (question : String) : Work Bool := do
  let call ← read
  write 2 s!"{call.name}: {question}? "
  match call.numbers.lookup 0 with
  | none => return false
  | some index =>
    match ← available index with
    | .error _ => return false
    | .ok (bytes, _) =>
      let line := (Text.ofBytes bytes).toList.takeWhile (· != '\n')
      modify fun m => m.skip index (min bytes.size (line.length + 1))
      return line.head? == some 'y' || line.head? == some 'Y'

def isAllowed (asks : Bool) (question : String) : Work Bool := if asks then agrees question else return true

variable (operands : List String)

def forEach (work : String → Work Nat) : Work Nat := do
  let results ← operands.mapM work
  return results.foldl max 0

def inputs : List String := if operands.isEmpty then ["-"] else operands

def forEachText (work : String → String → Work Nat) : Work Nat :=
  forEach (inputs operands) fun operand => do
    match ← content operand with
    | .error e => complainOf operand e
    | .ok text => work operand text

/-! ### Lines -/

/-- Pieces of a length. The last one may be shorter. -/
def chunks {α : Type} (length : Nat) : (fuel : Nat) → List α → List (List α)
  | 0, _ => []
  | _ + 1, [] => []
  | fuel + 1, items => items.take length :: chunks length fuel (items.drop length)

def linesOf (ending : Char) (text : String) : List String :=
  let pieces := (Text.splitAt ending text.toList).map String.ofList
  if pieces.getLast? = some "" then pieces.dropLast else pieces

def isEnded (ending : Char) (text : String) : Bool := text.isEmpty || text.toList.getLast? == some ending

def joinEnded (ending : Char) (lines : List String) : String := String.join (lines.map fun line => line.push ending)

def padLeft (width : Nat) (text : String) : String := "".pushn ' ' (width - text.length) ++ text

def padRight (width : Nat) (text : String) : String := text ++ "".pushn ' ' (width - text.length)

/-- The lines of an open file, which are read when they are asked for. -/
structure Feed where
  index : Nat
  ending : Char := '\n'
  ready : List String := []
  part : List Char := []
  isOver : Bool := false

namespace Feed

def size : Nat := 4096

def filled (f : Feed) (bytes : ByteArray) : Feed :=
  if bytes.isEmpty then { f with isOver := true }
  else
    let pieces := Text.splitAt f.ending (f.part ++ (Text.ofBytes bytes).toList)
    { f with ready := f.ready ++ pieces.dropLast.map String.ofList, part := pieces.getLast?.getD [] }

def fill : (tries : Nat) → Feed → Work (Except OsError Feed)
  | 0, f => return .ok f
  | tries + 1, f => do
    if !f.ready.isEmpty || f.isOver then return .ok f
    else
      whenOk (readPart f.index size) fun bytes => fill tries (f.filled bytes)

/-- The next line, and whether its end came. -/
def next (f : Feed) : Work (Except OsError (Option (String × Bool) × Feed)) := do
  whenOk (f.fill patience) fun f => do
    match f.ready with
    | line :: rest => return .ok (some (line, true), { f with ready := rest })
    | [] =>
      if f.part.isEmpty then return .ok (none, f)
      else return .ok (some (String.ofList f.part, false), { f with part := [] })

def forEach {σ : Type} (work : σ → String × Bool → Work (ForInStep σ)) : (tries : Nat) → Feed → σ → Work (Except OsError σ)
  | 0, _, state => return .ok state
  | tries + 1, f, state => do
    match ← f.next with
    | .error why => return .error why
    | .ok (none, _) => return .ok state
    | .ok (some line, f) =>
      match ← work state line with
      | .done state => return .ok state
      | .yield state => forEach work tries f state

/-- Gives back what was read too much. -/
def giveBack (f : Feed) : Work Unit :=
  let count := f.ready.foldl (fun count line => count + line.length + 1) f.part.length
  modify fun m => m.giveBack f.index count

end Feed

/-! ### Numbers -/

def sizeFactors : List (String × Nat) :=
  [("b", 512), ("kB", 1000), ("K", 1024), ("k", 1024), ("KiB", 1024), ("MB", 1000000), ("M", 1048576), ("m", 1048576),
    ("MiB", 1048576), ("GB", 1000000000), ("G", 1073741824), ("GiB", 1073741824), ("T", 1099511627776)]

/-- A size with its unit. -/
def sizeOf? : Option Nat :=
  let cs := text.toList
  let digits := cs.takeWhile Char.isDigit
  let unit := String.ofList (cs.drop digits.length)
  match Script.number? digits with
  | none => if digits.isEmpty then sizeFactors.lookup unit else none
  | some n => if unit.isEmpty then some n else (sizeFactors.lookup unit).map (n * ·)

end Utility

end BenchKernel
