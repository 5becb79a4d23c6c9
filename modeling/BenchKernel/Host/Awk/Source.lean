import BenchKernel.Host.Awk.Value
import BenchKernel.Host.Utility.Call

/-! # Records and fields

An open file is cut into records, and a record into fields. What stands between them is a character, blanks, or
whatever an expression matches. -/

namespace BenchKernel.Awk

/-- What stands between records. -/
inductive RecordEnd
  | char (c : Char)
  | gap
  | pattern (r : Regex)

/-- What stands between fields. -/
inductive FieldGap
  | blanks
  | nothing
  | char (c : Char)
  | pattern (r : Regex)

/-- An open file, and what has been read of it. -/
structure Source where
  index : Nat
  rest : List Char := []
  isOver : Bool := false
  process : Option Nat := none

namespace Source

def portion : Nat := 4096

/-- Cuts the first record off, if it is complete. -/
def cut (stop : RecordEnd) (isOver : Bool) (cs : List Char) : Option (Option (List Char) × List Char) :=
  let last : Option (Option (List Char) × List Char) :=
    if !isOver then none else if cs.isEmpty then some (none, []) else some (some cs, [])
  match stop with
  | .char c =>
    let record := cs.takeWhile (· != c)
    if record.length < cs.length then some (some record, cs.drop (record.length + 1)) else last
  | .gap =>
    let cs := cs.dropWhile (· = '\n')
    match Regex.find? {} (.repeated (.char '\n') 2 none) cs.toArray 0 with
    | some m => some (some (cs.take m.start), cs.drop m.stop)
    | none =>
      if !isOver then none
      else if cs.isEmpty then some (none, [])
      else some (some (if cs.getLast? = some '\n' then cs.dropLast else cs), [])
  | .pattern r =>
    match Regex.find? {} r cs.toArray 0 with
    | some m =>
      if m.start < m.stop && (m.stop < cs.length || isOver) then some (some (cs.take m.start), cs.drop m.stop) else last
    | none => last

def next (stop : RecordEnd) : (tries : Nat) → Source → Work (Except OsError (Option String × Source))
  | 0, s => return .ok (none, s)
  | tries + 1, s => do
    match cut stop s.isOver s.rest with
    | some (record, rest) => return .ok (record.map String.ofList, { s with rest })
    | none =>
      Utility.whenOk (Utility.readPart s.index portion) fun bytes => do
        if bytes.isEmpty then next stop tries { s with isOver := true }
        else next stop tries { s with rest := s.rest ++ (Text.ofBytes bytes).toList }

end Source

def splitBlanks : (fuel : Nat) → List Char → List (List Char)
  | 0, _ => []
  | fuel + 1, cs =>
    let isGap (c : Char) : Bool := c = ' ' || c = '\t' || c = '\n'
    let start := cs.dropWhile isGap
    let word := start.takeWhile fun c => !isGap c
    if word.isEmpty then [] else word :: splitBlanks fuel (start.drop word.length)

def splitPattern (r : Regex) (text : Array Char) : (fuel : Nat) → (start position : Nat) → List (List Char)
  | 0, start, _ => [Regex.textBetween text start text.size]
  | fuel + 1, start, position =>
    match Regex.find? {} r text position with
    | none => [Regex.textBetween text start text.size]
    | some m =>
      if m.start = m.stop then
        if m.stop < text.size then splitPattern r text fuel start (m.stop + 1) else [Regex.textBetween text start text.size]
      else Regex.textBetween text start m.start :: splitPattern r text fuel m.stop m.stop

/-- The fields of a text. In a wide gap lines separate them too. -/
def FieldGap.split (gap : FieldGap) (isWide : Bool) (text : String) : List String :=
  let cs := text.toList
  let lines := if isWide then Text.splitAt '\n' cs else [cs]
  if cs.isEmpty then []
  else
    let parts := match gap with
      | .blanks => splitBlanks (cs.length + 1) cs
      | .nothing => cs.map fun c => [c]
      | .char c => lines.flatMap fun line => Text.splitAt c line
      | .pattern r => lines.flatMap fun (line : List Char) => splitPattern r line.toArray (line.length + 1) 0 0
    parts.map String.ofList

end BenchKernel.Awk
