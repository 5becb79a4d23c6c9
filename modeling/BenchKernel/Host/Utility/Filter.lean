import BenchKernel.Host.Utility.Call

/-! # Filters

A filter makes a text of another as it comes, part by part, so that it works on what never ends. What it prints is held
back until there is enough of it, or nothing more to read. -/

namespace BenchKernel

namespace Utility

/-- A way to make a text of another, with what is kept in mind between its parts. -/
structure TextFilter (σ : Type) where
  take : σ → String → String × σ
  close : σ → String × σ := fun s => ("", s)
  isOver : σ → Bool := fun _ => false
  most : σ → Option Nat := fun _ => none

namespace TextFilter

variable {σ : Type}

def enough : Nat := 4096

/-- Prints what is held back as soon as it is enough. -/
def release (held : String) : Work String := do
  if held.utf8ByteSize < enough then return held
  else
    print held
    return ""

def finish (held : String) : Work Unit := if held.isEmpty then return else print held

variable (f : TextFilter σ)

/-- Reads an open file to its end, or until the filter is over. -/
def drain (index : Nat) : (tries : Nat) → σ → (held : String) → Work (Except OsError Unit × σ × String)
  | 0, state, held => return (.ok (), state, held)
  | tries + 1, state, held => do
    if f.isOver state then return (.ok (), state, held)
    else
      let part ← match f.most state with
        | none => readSome index
        | some most => readPart index most
      match part with
      | .error why => return (.error why, state, held)
      | .ok bytes =>
        if bytes.isEmpty then
          let (text, state) := f.close state
          return (.ok (), state, held ++ text)
        else
          let (text, state) := f.take state (Text.ofBytes bytes)
          drain index tries state (← release (held ++ text))

def overOperand (operand : String) (state : σ) (held : String) : Work (Except OsError Unit × σ × String) := do
  match ← openOperand operand with
  | .error why => return (.error why, state, held)
  | .ok index =>
    let result ← f.drain index patience state held
    if operand != "-" then closeFile index
    return result

/-- Hands files to a filter one after the other: the greatest status, and what is kept in mind. A file that cannot be
    read is reported, after everything is printed that came before it. -/
def overEach (report : String → OsError → Work Nat) : List String → σ → (held : String) → Work (Nat × σ)
  | [], state, held => do
    finish held
    return (0, state)
  | operand :: rest, state, held => do
    if f.isOver state then
      finish held
      return (0, state)
    else
      match ← f.overOperand operand state held with
      | (.ok (), state, held) => overEach report rest state held
      | (.error why, state, held) =>
        finish held
        let status ← report operand why
        let (others, state) ← overEach report rest state ""
        return (max status others, state)

def onOperands (start : σ) (operands : List String) (report : String → OsError → Work Nat := complainOf) : Work Nat := do
  return (← f.overEach report (inputs operands) start "").1

/-- Goes through items: what is made of each, and what is kept in mind after them. -/
def each {α β : Type} (step : σ → α → β × σ) (state : σ) (items : List α) : List β × σ :=
  let (made, state) := items.foldl (fun (made, state) item =>
    let (next, state) := step state item
    (next :: made, state)) ([], state)
  (made.reverse, state)

/-! ### Lines -/

variable (ending : Char)

/-- The lines that have their ends, and what is left. -/
def cutLines (text : String) : List String × String :=
  let pieces := (Text.splitAt ending text.toList).map String.ofList
  (pieces.dropLast.map fun line => line.push ending, pieces.getLast?.getD "")

/-- The filter that makes something of whole lines, and something more at the end of a file. Lines have their ends, but
    the last one need not. -/
def ofLines (take : σ → List String → String × σ) (last : σ → String × σ := fun s => ("", s))
    (isOver : σ → Bool := fun _ => false) : TextFilter (σ × String) :=
  { take := fun (state, part) text =>
      let (lines, part) := cutLines ending (part ++ text)
      let (printed, state) := if lines.isEmpty then ("", state) else take state lines
      (printed, state, part)
    close := fun (state, part) =>
      let (printed, state) := if part.isEmpty then ("", state) else take state [part]
      let (more, state) := last state
      (printed ++ more, state, "")
    isOver := fun (state, _) => isOver state }

/-- A line without its end, and whether it had one. -/
def bare (line : String) : String × Bool :=
  if isEnded ending line then (String.ofList line.toList.dropLast, true) else (line, false)

/-- Changes lines and leaves their ends. -/
def eachLine (change : String → String) : TextFilter (Unit × String) :=
  ofLines '\n' fun _ lines =>
    (String.join (lines.map fun line =>
      let (text, hasEnd) := bare '\n' line
      if hasEnd then (change text).push '\n' else change text), ())

/-- Makes lines of each line, which all get an end. -/
def eachWhole (change : String → List String) : TextFilter (Unit × String) :=
  ofLines ending fun _ lines => (joinEnded ending (lines.flatMap fun line => change (bare ending line).1), ())

/-- Goes over characters. What is written comes last character first. -/
def eachChar (step : σ × List Char → Char → σ × List Char) (close : σ → List Char × σ := fun s => ([], s)) : TextFilter σ :=
  { take := fun state text =>
      let (state, written) := text.toList.foldl step (state, [])
      (String.ofList written.reverse, state)
    close := fun state =>
      let (text, state) := close state
      (String.ofList text, state) }

end TextFilter

end Utility

end BenchKernel
