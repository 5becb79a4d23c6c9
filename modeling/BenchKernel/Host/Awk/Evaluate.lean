import BenchKernel.Host.Awk.State

/-! # Running programs on records: expressions

The value of every form of expression. Parts of an expression are evaluated through an engine that is given. -/

namespace BenchKernel.Awk

/-- How expressions are evaluated and statements run. -/
structure Engine where
  value : Expr → Run Value
  run : Statement → Run Unit

/-! ### Texts -/

/-- The position of a part in a text, or zero. -/
def indexOf (part : List Char) : (position : Nat) → List Char → Nat
  | position, [] => if part.isEmpty then position else 0
  | position, c :: cs => if part.isPrefixOf (c :: cs) then position else indexOf part (position + 1) cs

/-- A part of a text. What lies before its start shortens it. -/
def substring (text : String) (start : Float) (length : Option Float) : String :=
  let cs := text.toList
  let first := wholeOf start
  let skipped := (max 1 first - 1).toNat
  match length with
  | none => String.ofList (cs.drop skipped)
  | some length =>
    let count := if first ≤ 0 then wholeOf length - first else wholeOf length
    String.ofList ((cs.drop skipped).take count.toNat)

/-- What is put in the place of a match. -/
def replacement (found : List Char) : (fuel : Nat) → List Char → List Char
  | 0, cs => cs
  | _ + 1, [] => []
  | fuel + 1, '&' :: rest => found ++ replacement found fuel rest
  | fuel + 1, '\\' :: rest =>
    let count := (rest.takeWhile (· = '\\')).length + 1
    match rest.drop (count - 1) with
    | '&' :: after =>
      List.replicate (count / 2) '\\' ++ (if count % 2 = 0 then found else ['&']) ++ replacement found fuel after
    | after => List.replicate count '\\' ++ replacement found fuel after
  | fuel + 1, c :: rest => c :: replacement found fuel rest

/-- Replaces the matches of an expression, from a position on: the text and how many were replaced. `last` is the end
    of the match before, at which nothing is matched again that is empty. -/
def substituted (r : Regex) (isGlobal : Bool) (text : Array Char) (new : List Char) :
    (fuel : Nat) → (position : Nat) → (last : Option Nat) → List Char × Nat
  | 0, position, _ => (Regex.textBetween text position text.size, 0)
  | fuel + 1, position, last =>
    match Regex.find? {} r text position with
    | none => (Regex.textBetween text position text.size, 0)
    | some m =>
      let before := Regex.textBetween text position m.start
      let step := Regex.textBetween text m.stop (m.stop + 1)
      if m.start = m.stop && last = some m.start then
        if m.stop < text.size then
          let (rest, count) := substituted r isGlobal text new fuel (m.stop + 1) none
          (before ++ step ++ rest, count)
        else (before, 0)
      else
        let written := replacement (Regex.textBetween text m.start m.stop) (new.length + 1) new
        if !isGlobal then (before ++ written ++ Regex.textBetween text m.stop text.size, 1)
        else if m.start = m.stop then
          if m.stop < text.size then
            let (rest, count) := substituted r isGlobal text new fuel (m.stop + 1) none
            (before ++ written ++ step ++ rest, count + 1)
          else (before ++ written, 1)
        else
          let (rest, count) := substituted r isGlobal text new fuel m.stop (some m.stop)
          (before ++ written ++ rest, count + 1)

/-- The seconds of a moment that is given by its parts. -/
def timeOf (text : String) : Int :=
  match (splitBlanks (text.length + 1) text.toList).map fun word => wholeOf (numberOf (String.ofList word)) with
  | year :: month :: day :: hour :: minute :: second :: _ =>
    let date : Moment := { year, month := month.toNat, day := day.toNat, hour := 0, minute := 0, second := 0 }
    date.toSeconds + hour * 3600 + minute * 60 + second
  | _ => -1

namespace Engine

open Run

variable (e : Engine) (expr : Expr)

def text : Run String := do toText (← e.value expr)

def number : Run Float := do return (← e.value expr).toNumber

def pattern : Run Regex := do
  match expr with
  | .pattern r => return r
  | _ => compile (← e.text expr)

def key (index : List Expr) : Run Key := do
  match index with
  | [one] => return (← e.value one).key (← format)
  | _ =>
    let texts ← index.mapM e.text
    return .name ((← textOf "SUBSEP").intercalate texts)

/-- A place that can be assigned to, with its index evaluated. -/
inductive Spot
  | global (name : String)
  | parameter (index : Nat)
  | field (number : Nat)
  | entry (table : Nat) (key : Key)

def spot : Run Spot := do
  match expr with
  | .named (.global name) => return .global name
  | .named (.parameter index) => return .parameter index
  | .field index => return .field (← fieldNumber (← e.value index))
  | .element table index =>
    let key ← e.key index
    return .entry (← tableOf table) key
  | _ => return .global ""

/-- What stands at a place. An entry that is not there is made. -/
def read (s : Spot) : Run Value := do
  match s with
  | .global name => global name
  | .parameter index =>
    match (← get).frame[index]? with
    | some (.scalar v) => return v
    | _ => return .unset
  | .field number => field number
  | .entry index key =>
    changeTable index (·.find key true)
    return (← table index).value key

def write (s : Spot) (v : Value) : Run Unit := do
  match s with
  | .global name => setGlobal name v
  | .parameter index => modify fun s => { s with frame := s.frame.modify index fun _ => .scalar v }
  | .field number => setField number v
  | .entry index key => changeTable index (·.set key v)

/-- Puts a record in its place. The value says whether there was one. -/
def deliver (target : Option Expr) (record : Option (Option String)) : Run Value := do
  match record with
  | none => return .number (-1)
  | some none => return .number 0
  | some (some text) =>
    match target with
    | none => setRecord text
    | some place => write (← e.spot place) (.input text)
    return .number 1

variable (function : String)

/-- The arguments of a call. Tables are handed over by themselves. -/
def slots : (position : Nat) → List Expr → Run (List Slot)
  | _, [] => return []
  | position, a :: rest => do
    let isTable := (← get).program.isTable function position
    let first ← match isTable, a with
      | true, .named name => pure (Slot.table (← tableOf name))
      | _, _ => pure (Slot.scalar (← e.value a))
    return first :: (← slots (position + 1) rest)

def moreSlots (start : Nat) : (count : Nat) → Run (List Slot)
  | 0 => return []
  | count + 1 => do
    let isTable := (← get).program.isTable function start
    let first ← if isTable then pure (Slot.table (← addTable {})) else pure (Slot.scalar .unset)
    return first :: (← moreSlots (start + 1) count)

def dropTables (slots : List Slot) : Run Unit :=
  slots.forM fun
    | .table index => modify fun s => { s with tables := s.tables.erase index }
    | .scalar _ => return

def call (arguments : List Expr) : Run Value := do
  match (← get).program.procedure? function with
  | none => return .unset
  | some procedure =>
    let given ← e.slots function 0 arguments
    let more ← moreSlots function given.length (procedure.parameters - given.length)
    let before := (← get).frame
    modify fun s => { s with frame := (given ++ more).toArray }
    breathe
    let outcome : Except Stop Unit ← try pure (.ok (← e.run procedure.body)) catch stop => pure (.error stop)
    modify fun s => { s with frame := before }
    dropTables more
    match outcome with
    | .ok () => return .unset
    | .error (.back v) => return v
    | .error stop => throw stop

/-- A format with its values filled in, and what is wrong with it. -/
def filled (function format : String) (values : List Value) : Run (String × Option String) := do
  let (text, why) := formatted (← Run.format) format values
  let called := s!"{function}(\"{format}\")"
  match why with
  | none => return (text, none)
  | some .missingArgument => return (text, some s!"not enough arguments passed to {called}")
  | some (.improper position) => return (text, some s!"improper conversion(number {position}) in {called}")

def randomNumber : Run Float := do
  let next := ((← get).random * 6364136223846793005 + 1442695040888963407) % Number.twoPow 64
  modify fun s => { s with random := next }
  return ofInt (next / Number.twoPow 11 : Nat) / ofInt (Number.twoPow 53 : Nat)

def setSeed (v : Value) : Run Value := do
  let before := (← get).seed
  modify fun s => { s with seed := v, random := (wholeOf v.toNumber).natAbs + 1 }
  return before

def system (command : String) : Run Int := do
  flushAll
  match ← work (Utility.runProgram id "/bin/sh" ["-c", command]) with
  | .ok status => return statusNumber (some status)
  | .error _ => return 127

def flushNamed (name : String) : Run Bool := do
  if name = "/dev/stdout" then
    flush
    return true
  else
    let outputs := (← get).outputs.filter fun o => o.name == name
    outputs.forM flushOutput
    return !outputs.isEmpty

def timeText (values : List Value) : Run String := do
  let present := (← work get).seconds
  let shown ← (values.take 1).mapM toText
  let time := (values[1]?.map fun v => wholeOf v.toNumber).getD present
  return String.ofList ((Moment.ofSeconds time).formatted ((shown.head?.getD "%c").toList))

def builtin (function : Builtin) (arguments : List Expr) : Run Value := do
  let values ← arguments.mapM e.value
  let first := values.head?.getD .unset
  let second := (values[1]?).getD .unset
  let n := first.toNumber
  match function with
  | .length => return .number (ofInt (← if values.isEmpty then toText (← field 0) else toText first).length)
  | .index => return .number (ofInt (indexOf (← toText second).toList 1 (← toText first).toList))
  | .substr => return .text (substring (← toText first) second.toNumber ((values[2]?).map Value.toNumber))
  | .sprintf =>
    match ← filled "sprintf" (← toText first) values.tail with
    | (_, some why) => fault why
    | (text, none) => return .text text
  | .sin => return .number n.sin
  | .cos => return .number n.cos
  | .atan2 => return .number (Float.atan2 n second.toNumber)
  | .exp => return .number n.exp
  | .log => return .number n.log
  | .int => return .number (if n < 0 then n.ceil else n.floor)
  | .sqrt => return .number n.sqrt
  | .rand => return .number (← randomNumber)
  | .srand =>
    let present := (← work get).seconds
    setSeed (if values.isEmpty then .number (ofInt present) else first)
  | .close => return .number (ofInt (← close (← toText first)))
  | .system => return .number (ofInt (← system (← toText first)))
  | .toupper => return .text (String.ofList ((← toText first).toList.map Char.toUpper))
  | .tolower => return .text (String.ofList ((← toText first).toList.map Char.toLower))
  | .fflush =>
    if values.isEmpty then
      flush
      return .number 0
    else return .number (if ← flushNamed (← toText first) then 0 else -1)
  | .systime => return .number (ofInt (← work get).seconds)
  | .strftime => return .text (← timeText values)
  | .mktime => return .number (ofInt (timeOf (← toText first)))

def matchPlace (subject pattern : Expr) : Run Value := do
  let text ← e.text subject
  let r ← e.pattern pattern
  let (start, length) : Int × Int :=
    match Regex.find? {} r text.toList.toArray 0 with
    | some m => (m.start + 1, m.stop - m.start)
    | none => (0, -1)
  setVariable "RSTART" (.number (ofInt start))
  setVariable "RLENGTH" (.number (ofInt length))
  return .number (ofInt start)

def split (subject : Expr) (target : Name) (separator : Option Expr) : Run Value := do
  let text ← e.text subject
  let gap ← match separator with
    | none => gapOf (← textOf "FS")
    | some (.pattern r) => pure (.pattern r)
    | some expr => gapOf (← e.text expr)
  let parts := gap.split false text
  setTable (← tableOf target) (Table.ofList (parts.map Value.input))
  return .number (ofInt parts.length)

def substitute (isGlobal : Bool) (pattern new target : Expr) : Run Value := do
  let r ← e.pattern pattern
  let written ← e.text new
  let place ← e.spot target
  let text := (← toText (← read place)).toList.toArray
  let (changed, count) := substituted r isGlobal text written.toList (2 * text.size + 2) 0 none
  if 0 < count then write place (.text (String.ofList changed))
  return .number (ofInt count)

def sizeOf (name : Name) : Run Value := do
  let s ← get
  let index : Option Nat := match name with
    | .global text => s.tableNames[text]?
    | .parameter position =>
      match s.frame[position]? with
      | some (.table index) => some index
      | _ => none
  match index with
  | some index => return .number (ofInt (← table index).size)
  | none =>
    let v ← read (match name with
      | .global text => .global text
      | .parameter position => .parameter position)
    return .number (ofInt (← toText v).length)

def evaluate (expr : Expr) : Run Value := do
  match expr with
  | .number n => return .number n
  | .text content => return .text content
  | .pattern r => return ofBool (Regex.isFound {} r (← get).record)
  | .named _ | .field _ | .element _ _ => read (← e.spot expr)
  | .grouped inner => e.value inner
  | .assign place value =>
    let target ← e.spot place
    let v ← e.value value
    write target v
    return v
  | .update operator place value =>
    let target ← e.spot place
    let right ← e.number value
    let left := (← read target).toNumber
    let v := Value.number (operator.apply left right)
    write target v
    return v
  | .step amount isNew place =>
    let target ← e.spot place
    let old := (← read target).toNumber
    write target (.number (old + amount))
    return .number (if isNew then old + amount else old)
  | .operation operator left right =>
    let a ← e.number left
    let b ← e.number right
    return .number (operator.apply a b)
  | .comparison c left right =>
    let a ← e.value left
    let b ← e.value right
    return ofBool (a.compare (← format) c b)
  | .joined left right =>
    let a ← e.text left
    let b ← e.text right
    return .text (a ++ b)
  | .found isWanted subject pattern =>
    let text ← e.text subject
    let r ← e.pattern pattern
    return ofBool (Regex.isFound {} r text == isWanted)
  | .member index name =>
    let key ← e.key index
    let number ← tableOf name
    changeTable number (·.find key false)
    return ofBool ((← table number).has key)
  | .both left right =>
    if !(← e.value left).holds then return ofBool false
    else return ofBool (← e.value right).holds
  | .either left right =>
    if (← e.value left).holds then return ofBool true
    else return ofBool (← e.value right).holds
  | .choice test yes no => if (← e.value test).holds then e.value yes else e.value no
  | .opposite inner => return ofBool !(← e.value inner).holds
  | .negative inner => return .number (-(← e.number inner))
  | .positive inner => return .number (← e.number inner)
  | .call function arguments => e.call function arguments
  | .builtin function arguments => e.builtin function arguments
  | .sizeOf name => sizeOf name
  | .matchPlace subject pattern => e.matchPlace subject pattern
  | .split subject target separator => e.split subject target separator
  | .substitute isGlobal pattern new target => e.substitute isGlobal pattern new target
  | .nextRecord target => e.deliver target (some (← inputRecord))
  | .fileRecord path target => do
    let name ← e.text path
    e.deliver target (← supplied name false)
  | .commandRecord command target => do
    let name ← e.text command
    e.deliver target (← supplied name true)

end Engine

end BenchKernel.Awk
