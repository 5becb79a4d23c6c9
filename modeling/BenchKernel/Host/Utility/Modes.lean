import BenchKernel.Host.Utility.Printing

/-! # Marks of files

Programs that change who may read, write and run a file, and when it was changed, and that print times. -/

namespace BenchKernel

namespace Utility

def marksOf : Node → Marks
  | .directory marks | .file _ marks | .fifo marks => marks
  | .link _ => { mode := 511 }
  | .device _ => { mode := 438 }
  | .program _ => .plain true

/-- Changes the marks of a file, but not those of the root. -/
def setMarks (place : Place) (change : Marks → Marks) : Work Unit := do
  match (← get).files.get? place with
  | some (.file content marks) => modify fun m => m.putFile place content (change marks)
  | some (.directory marks) =>
    if !place.isEmpty then changeFiles fun fs => fs.put place (.directory (change marks))
  | some (.fifo marks) => changeFiles fun fs => fs.put place (.fifo (change marks))
  | _ => return

def modeText (mode : Nat) : String := s!"{Number.padded 8 4 mode} ({Mode.letters mode})"

/-- Changes the mode of a file and, with `tree`, of everything below it. -/
def changeModeOf (given : Given) (change : Bool → Nat → Nat) : (fuel : Nat) → String → Work Nat
  | 0, _ => return 0
  | fuel + 1, path => do
    match ← find path with
    | .error e =>
      let isDangling := (← findName path) matches .ok _
      if given.has 'f' then return 1
      else if isDangling then complain s!"cannot operate on dangling symlink {shown path}"
      else cannot "access" path e
    | .ok node =>
      let place := (← place? path).getD []
      let before := (marksOf node).mode
      let after := change node.isDirectory before
      setMarks place fun marks => { marks with mode := after }
      if given.has 'v' || (given.has 'c' && before != after) then
        if before = after then print s!"mode of {shown path} retained as {modeText before}\n"
        else print s!"mode of {shown path} changed from {modeText before} to {modeText after}\n"
      if given.has 'R' && node.isDirectory then
        forEach (← entriesOf place) fun name => changeModeOf given change fuel (Path.join path name)
      else return 0

def isModeArgument (argument : String) : Bool :=
  match argument.toList with
  | '-' :: c :: cs => (c :: cs).all fun c => c.isDigit || ['r', 'w', 'x', 'X', 's', 't', 'u', 'g', 'o', 'a', ',', '+', '=', '-'].contains c
  | _ => false

def changeMode : Work Nat := do
  let call ← read
  let long := [("changes", 'c'), ("quiet", 'f'), ("silent", 'f'), ("recursive", 'R'), ("reference", 'Ā'), ("verbose", 'v'),
    ("preserve-root", 'ā'), ("no-preserve-root", 'Ă')]
  let o : OptionSet := { letters := "cfRvĀ:āĂ", long }
  let mode? := call.arguments.find? isModeArgument
  let arguments := call.arguments.filter fun argument => !isModeArgument argument
  match o.read arguments with
  | .error why => misuse why
  | .ok (given, operands) =>
    let operands := mode?.toList ++ operands
    let run (change : Bool → Nat → Nat) (paths : List String) : Work Nat := do
      forEach paths (changeModeOf given change ((← get).files.nodes.length + 1))
    match given.value? 'Ā', operands with
    | _, [] => missingOperand
    | some source, paths =>
      match ← find source with
      | .error e => complain s!"failed to get attributes of {shown source}: {e.description}"
      | .ok node => run (fun _ _ => (marksOf node).mode) paths
    | none, [mode] => misuse s!"missing operand after {shown mode}"
    | none, mode :: paths =>
      if (Mode.change? 0 false mode 0).isNone then misuse s!"invalid mode: {shown mode}"
      else run (fun isDirectory before => (Mode.change? call.mask isDirectory mode before).getD before) paths

def touch : Work Nat :=
  let long := [("no-create", 'c'), ("date", 'd'), ("no-dereference", 'h'), ("reference", 'r'), ("time", 'Ā')]
  withOptionSet { letters := "acd:fhmr:t:Ā:", long } 1 fun given operands => do
    let now := (← get).seconds
    let dated (seconds : Option Int) (text : String) : Except String (Option Int) :=
      seconds.elim (.error s!"invalid date format {shown text}") fun seconds => .ok (some (seconds * 1000000000))
    let time : Except String (Option Int) ←
      match given.value? 'd', given.value? 't', given.value? 'r' with
      | some text, _, _ => pure (dated (Moment.read? now text) text)
      | none, some text, _ => pure (dated (Moment.readStamp? now text) text)
      | none, none, some path => do
        match ← find path with
        | .ok node => pure (.ok (some (marksOf node).modified))
        | .error e => pure (.error s!"failed to get attributes of {shown path}: {e.description}")
      | none, none, none => pure (.ok none)
    match time with
    | .error why => complain why
    | .ok time =>
      let stamp (path : String) : Work Nat := do
        match ← place? path with
        | some place =>
          let own := (← get).fileTime
          setMarks place fun marks => { marks with modified := time.getD own }
        | none => return 0
        return 0
      if operands.isEmpty then misuse "missing file operand"
      else
        forEach operands fun path => do
          if path = "-" then return 0
          match ← find path with
          | .ok _ => stamp path
          | .error e =>
            if given.has 'c' && e = .notFound then return 0
            else if FileStore.namesDirectory path then complain s!"setting times of {shown path}: {e.description}"
            else
              match ← openPath path .append with
              | .ok _ => stamp path
              | .error e => cannot "touch" path e

def date : Work Nat :=
  let long := [("date", 'd'), ("iso-8601", 'I'), ("rfc-email", 'R'), ("reference", 'r'), ("utc", 'u'), ("universal", 'u')]
  withOptionSet { letters := "d:I::Rr:u", long } 1 fun given operands => do
    let now := (← get).seconds
    let format? := operands.head?.filter fun operand => operand.toList.head? == some '+'
    match operands.drop 1, operands.head? with
    | extra :: _, _ => extraOperand extra
    | [], operand =>
      if operand.isSome && format?.isNone then complain ("invalid date " ++ shown (operand.getD ""))
      else
        let time : Except String Int ←
          match given.value? 'd', given.value? 'r' with
          | some text, _ => pure ((Moment.read? now text).elim (.error s!"invalid date {shown text}") .ok)
          | none, some path => do
            match ← find path with
            | .ok node => pure (.ok (marksOf node).seconds)
            | .error e => pure (.error s!"{shownFirst path}: {e.description}")
          | none, none => pure (.ok now)
        match time with
        | .error why => complain why
        | .ok seconds =>
          let format :=
            match format?, given.value? 'I' with
            | some format, _ => format.toList.drop 1
            | none, some "seconds" => "%Y-%m-%dT%H:%M:%S%:z".toList
            | none, some "minutes" => "%Y-%m-%dT%H:%M%:z".toList
            | none, some "hours" => "%Y-%m-%dT%H%:z".toList
            | none, some _ => "%Y-%m-%d".toList
            | none, none => (if given.has 'R' then "%a, %d %b %Y %H:%M:%S %z" else "%a %b %e %H:%M:%S %Z %Y").toList
          print s!"{String.ofList ((Moment.ofSeconds seconds).formatted format)}\n"
          return 0

end Utility

end BenchKernel
