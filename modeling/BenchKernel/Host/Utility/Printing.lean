import BenchKernel.Host.Utility.Filter

/-! # Programs that print

Programs that print files, their arguments, or parts of paths. -/

namespace BenchKernel

namespace Utility

/-- Whether a file is the one that is written to. -/
def isOwnOutput (operand : String) : Work Bool := do
  let place ← place? operand
  let index := (← read).numbers.lookup 1
  let m ← get
  match index.bind fun index => m.openFiles[index]? with
  | some { channel := .file target, .. } =>
    match m.files.get? target with
    | some (.file content _) => return place = some target && !content.isEmpty
    | _ => return false
  | _ => return false

/-! ### Files one after the other -/

/-- How `cat` shows lines. -/
structure Display where
  numbered : Bool := false
  numbersFilled : Bool := false
  ends : Bool := false
  squeezed : Bool := false
  tabs : Bool := false
  unprinted : Bool := false

def Display.ofOptions (given : Given) : Display :=
  let has (letters : List Char) : Bool := letters.any given.has
  { numbered := has ['n'] && !has ['b'], numbersFilled := has ['b'], ends := has ['A', 'e', 'E'], squeezed := has ['s'],
    tabs := has ['A', 't', 'T'], unprinted := has ['A', 'e', 't', 'v'] }

variable (d : Display)

/-- A character, shown with a caret if it has no form. -/
def Display.shownChar (c : Char) : String :=
  let control (n : Nat) : String :=
    if n < 32 then "^" ++ String.singleton (Char.ofNat (n + 64)) else if n = 127 then "^?" else String.singleton (Char.ofNat n)
  if c = '\t' then if d.tabs then "^I" else "\t"
  else if !d.unprinted then String.singleton c
  else if c.toNat < 128 then control c.toNat
  else "M-" ++ control (c.toNat - 128)

def Display.shownLine (isEnded : Bool) (line : String) : String :=
  let cs := line.toList
  if d.ends && !d.unprinted && isEnded && cs.getLast? = some '\r' then String.join (cs.dropLast.map d.shownChar) ++ "^M"
  else String.join (cs.map d.shownChar)

/-- Shows a line, unless it is one of many empty ones. -/
def Display.step (number : Nat) (afterEmpty : Bool) (line : String) : String × Nat × Bool :=
  let (text, hasEnd) := TextFilter.bare '\n' line
  let isEmpty := text.isEmpty && hasEnd
  if d.squeezed && afterEmpty && isEmpty then ("", number, afterEmpty)
  else
    let counts := d.numbered || (d.numbersFilled && !isEmpty)
    let number := if counts then number + 1 else number
    let start := if counts then padLeft 6 (toString number) ++ "\t" else ""
    let shown := start ++ d.shownLine hasEnd text
    (if hasEnd then shown ++ (if d.ends then "$" else "") ++ "\n" else shown, number, isEmpty)

def Display.filter : TextFilter ((Nat × Bool) × String) :=
  { TextFilter.ofLines '\n' (fun state lines =>
      let (texts, state) := TextFilter.each (fun (number, afterEmpty) => d.step number afterEmpty) state lines
      (String.join texts, state)) with
    close := fun state => ("", state) }

def Display.rest : (Nat × Bool) × String → String
  | ((number, afterEmpty), part) => if part.isEmpty then "" else (d.step number afterEmpty part).1

/-- Prints files one after the other. Lines are numbered through all of them. -/
def concatenate : Work Nat :=
  let long := [("show-all", 'A'), ("number-nonblank", 'b'), ("show-ends", 'E'), ("number", 'n'), ("squeeze-blank", 's'),
    ("show-tabs", 'T'), ("show-nonprinting", 'v')]
  withOptionSet { letters := "AbeEnstTuv", long } 1 fun given operands => do
    let d := Display.ofOptions given
    let isPlain := given.all fun option => option.1 == 'u'
    let (results, state) ← (inputs operands).foldlM (fun (results, state) operand => do
      let isRefused ← isOwnOutput operand
      if isRefused then return ((← complain s!"{shownFirst operand}: input file is output file") :: results, state)
      else if isPlain then
        match ← openOperand operand with
        | .error e => return ((← complainOf operand e) :: results, state)
        | .ok index =>
          match ← forEachPart index print patience with
          | .error e => return ((← complainOf operand e) :: results, state)
          | .ok () => return (0 :: results, state)
      else
        let (status, state) ← d.filter.overEach complainOf [operand] state ""
        return (status :: results, state)) ([], (0, false), "")
    print (d.rest state)
    return results.foldl max 0

def tee : Work Nat :=
  withOptionSet { letters := "aip", long := [("append", 'a'), ("ignore-interrupts", 'i')] } 1 fun given operands => do
    let access : Access := if given.has 'a' then .append else .write
    let targets ← operands.mapM fun operand => do
      match ← openPath operand access with
      | .error e =>
        let _ ← complainOf operand e
        return none
      | .ok index => return some index
    let spread (text : String) : Work Unit := do
      print text
      (targets.filterMap id).forM fun index => do
        let _ ← writeTo index text
        return
    match (← read).numbers.lookup 0 with
    | none => complain s!"read error: {OsError.badNumber.description}"
    | some index =>
      match ← forEachPart index spread patience with
      | .error e => complain s!"read error: {e.description}"
      | .ok () => return if targets.all Option.isSome then 0 else 1

/-! ### Arguments -/

def echo : Work Nat := do
  let (bare, escapes, words) := Script.echoOptions false false (← read).arguments
  let text := " ".intercalate words
  let (text, ends) := if escapes then Script.unescaped { hex := true } text.toList else (text.toList, false)
  print (String.ofList (if bare || ends then text else text ++ ['\n']))
  return 0

def numberMessage : Script.NumberFault → String
  | .missing => "expected a numeric value"
  | .trailing => "value not completely converted"
  | .range => "Numerical result out of range"

variable (text : String)

def shellWord : String :=
  let isBare (c : Char) : Bool := (isMild c && c != ' ' && c != '\'') || ['\x7b', '\x7d'].contains c
  if !text.isEmpty && text.toList.all isBare && text != "\x7b" && text != "\x7d" then text else shown text

def printStyle : Script.PrintStyle :=
  { float := Number.binary80, hex := true, quotes := ['"'], formatsEnd := true, quoted := some shellWord }

def printf : Work Nat := do
  match (← read).arguments with
  | [] => missingOperand
  | "--" :: [] => missingOperand
  | arguments =>
    let arguments := if arguments.head? = some "--" then arguments.tail else arguments
    let (ended, s) := Script.printed printStyle (arguments.head?.getD "") arguments.tail
    print s.text
    s.warnings.forM fun (text, why) => do
      let _ ← complain s!"{shown text}: {numberMessage why}"
      return
    match ended with
    | some (.bad text _) => complain s!"{text}: invalid conversion specification"
    | some .stopped => return if s.warnings.isEmpty then 0 else 1
    | none =>
      if let some excess := s.arguments.head? then
        let _ ← complain s!"warning: ignoring excess arguments, starting with {shown excess}"
      return if s.warnings.isEmpty then 0 else 1

/-! ### Names of files -/

def lastName (path ending : String) : String :=
  if path.isEmpty then ""
  else
    match (Path.names path).getLast? with
    | none => "/"
    | some name =>
      let cs := name.toList
      let end' := ending.toList
      if cs != end' && end'.isSuffixOf cs then String.ofList (cs.take (cs.length - end'.length)) else name

def baseName : Work Nat := withOptions "as:z" fun given operands => do
  match operands with
  | [] => missingOperand
  | _ =>
    if given.has 'a' || given.has 's' then
      operands.forM fun operand => print (lastName operand ((given.lookup 's').getD "") ++ "\n")
      return 0
    else
      match operands with
      | _ :: _ :: extra :: _ => extraOperand extra
      | path :: rest =>
        print (lastName path (rest.head?.getD "") ++ "\n")
        return 0
      | [] => return 1

/-- A path without its last name. -/
def parentPath (path : String) : String :=
  let dropSlashes (cs : List Char) : List Char := cs.dropWhile (· == '/')
  let before := dropSlashes ((dropSlashes path.toList.reverse).dropWhile (· != '/'))
  if !before.isEmpty then String.ofList before.reverse else if Path.isAbsolute path then "/" else "."

/-- The path from a directory to a place. -/
def relativePath (directory place : Place) : String :=
  let common := ((directory.zip place).takeWhile fun entry => entry.1 == entry.2).length
  let names := List.replicate (directory.length - common) ".." ++ place.drop common
  if names.isEmpty then "." else "/".intercalate names

def directoryName : Work Nat := withOptions "z" fun _ operands => do
  if operands.isEmpty then missingOperand
  else
    operands.forM fun operand => print s!"{parentPath operand}\n"
    return 0

def workingDirectory : Work Nat := withOptions "LP" fun _ operands => do
  if !operands.isEmpty then
    let _ ← complain "ignoring non-option arguments"
  print (Script.Shell.placeText (← read).cwd ++ "\n")
  return 0

/-- Prints a text until nobody reads it any more. -/
def printWithoutEnd : (times : Nat) → Work Nat
  | 0 => return 1
  | times + 1 => do
    match (← read).numbers.lookup 1 with
    | none => complain s!"standard output: {OsError.badNumber.description}"
    | some index =>
      match ← writeTo index text with
      | .error why => complain s!"standard output: {why.description}"
      | .ok () => printWithoutEnd times

def printedAtOnce : Nat := 8192

def yes : Work Nat := do
  let arguments := (← read).arguments
  let words := if arguments.head? = some "--" then arguments.tail else arguments
  let line := if words.isEmpty then "y\n" else " ".intercalate words ++ "\n"
  printWithoutEnd (String.join (List.replicate (printedAtOnce / line.length + 1) line)) patience

/-! ### The host -/

def timeUnits : List (List Char × Nat) := [([], 1), (['s'], 1), (['m'], 60), (['h'], 3600), (['d'], 86400)]

def longestInterval : Nat := 1000000000000000000000

/-- A time in billionths of a second. -/
def interval? : Option Nat :=
  match Number.binary64.read? text.toList with
  | none => none
  | some (value, rest) =>
    match timeUnits.lookup rest, value with
    | some unit, .finite negative significand exponent =>
      let scale := unit * 1000000000
      let size :=
        if 0 ≤ exponent then significand * Number.twoPow exponent.toNat * scale
        else significand * scale / Number.twoPow exponent.natAbs
      if negative && 0 < significand then none else some (min size longestInterval)
    | some _, .infinite negative => if negative then none else some longestInterval
    | _, _ => none

def isInterval : Bool := (interval? text).isSome

def sleep : Work Nat := withOptions "" fun _ operands => do
  if operands.isEmpty then missingOperand
  else
    match operands.filter fun text => !isInterval text with
    | [] =>
      let duration := (operands.filterMap interval?).foldl (· + ·) 0
      let clock := (← get).clock
      pause (.till (clock + duration))
      return 0
    | bad =>
      let _ ← forEach bad.dropLast fun text => complain s!"invalid time interval {shown text}"
      misuse ("invalid time interval " ++ shown (bad.getLast?.getD ""))

def printEnvironment : Work Nat :=
  withOptionSet { letters := "0", long := [("null", '0')] } 2 fun given operands => do
    let ending := if given.has '0' then "\x00" else "\n"
    let environment := (← read).environment
    if operands.isEmpty then
      environment.forM fun (name, value) => print s!"{name}={value}{ending}"
      return 0
    else
      forEach operands fun name => do
        match environment.lookup name with
        | some value =>
          print (value ++ ending)
          return 0
        | none => return 1

def systemFacts : List (Char × String) :=
  [('s', "Linux"), ('n', "localhost"), ('r', "6.1.0"), ('v', "#1 SMP"), ('m', "x86_64"), ('p', "x86_64"), ('i', "x86_64"),
    ('o', "GNU/Linux")]

def systemName : Work Nat :=
  let long := [("all", 'a'), ("kernel-name", 's'), ("nodename", 'n'), ("kernel-release", 'r'), ("kernel-version", 'v'),
    ("machine", 'm'), ("processor", 'p'), ("hardware-platform", 'i'), ("operating-system", 'o')]
  withOptionSet { letters := "asnrvmpio", long } 1 fun given operands => do
    if let extra :: _ := operands then extraOperand extra
    else
      let given : Given := if given.isEmpty then [('s', "")] else given
      let facts := systemFacts.filter fun (letter, _) => given.has 'a' || given.has letter
      print (" ".intercalate (facts.map Prod.snd) ++ "\n")
      return 0

def constantLine (line : String) : Work Nat := withOptions "" fun _ operands => do
  if let extra :: _ := operands then extraOperand extra
  else
    print s!"{line}\n"
    return 0

def identity : Work Nat :=
  let long := [("group", 'g'), ("groups", 'G'), ("name", 'n'), ("real", 'r'), ("user", 'u'), ("zero", 'z')]
  withOptionSet { letters := "agGnruzZ", long } 1 fun given operands => do
    match operands.find? (fun user => user != "root" && user != "0") with
    | some user => complain s!"{shown user}: no such user"
    | none =>
      let chosen := given.last? ['u', 'g', 'G']
      if chosen.isNone && given.has 'n' then complain "cannot print only names or real IDs in default format"
      else
        let line := if chosen.isNone then "uid=0(root) gid=0(root) groups=0(root)" else if given.has 'n' then "root" else "0"
        print s!"{line}\n"
        return 0

def groups : Work Nat := withOptions "" fun _ operands => do
  if operands.isEmpty then
    print "root\n"
    return 0
  else
    forEach operands fun user =>
      if user = "root" then do
        print "root : root\n"
        return 0
      else complain s!"{shown user}: no such user"

def loginName : Work Nat := withOptions "" fun _ operands =>
  if let extra :: _ := operands then extraOperand extra else complain "no login name"

def terminalName : Work Nat := withOptionSet { letters := "s", long := [("silent", 's'), ("quiet", 's')] } 2 fun given _ => do
  if !given.has 's' then print "not a tty\n"
  return 1

end Utility

end BenchKernel
