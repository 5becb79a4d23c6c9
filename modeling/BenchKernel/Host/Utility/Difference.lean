import BenchKernel.Host.Utility.Listing

/-! # Differences of files

A program that says which lines have to be changed to make one file of another. -/

namespace BenchKernel

namespace Difference

open Utility

/-- A stretch of lines that differ: where it starts and ends in both files. -/
structure Change where
  fromStart : Nat
  fromEnd : Nat
  toStart : Nat
  toEnd : Nat
  deriving DecidableEq, Repr

variable (a b : Array String)

/-- The lengths of the longest common parts of the ends of two lists, by where they start. The first row belongs to the
    whole first list. -/
def lengths : Array (Array Nat) :=
  let start : Array (Array Nat) := #[Array.replicate (b.size + 1) 0]
  let rows := (List.range a.size).foldl (fun (rows : Array (Array Nat)) k =>
    let i := a.size - 1 - k
    let below := (rows[k]?).getD #[]
    let row := (List.range b.size).foldl (fun (row : Array Nat) l =>
      let j := b.size - 1 - l
      let value :=
        if (a[i]?).getD "" == (b[j]?).getD "" then (below[l]?).getD 0 + 1 else max ((below[l + 1]?).getD 0) ((row[l]?).getD 0)
      row.push value) #[0]
    rows.push row) start
  rows

/-- The lines that both files have in common, by position. -/
def pairs (table : Array (Array Nat)) : (fuel : Nat) → (i j : Nat) → List (Nat × Nat)
  | 0, _, _ => []
  | fuel + 1, i, j =>
    if a.size ≤ i || b.size ≤ j then []
    else
      let length (i j : Nat) : Nat := (((table[a.size - i]?).getD #[])[b.size - j]?).getD 0
      if (a[i]?).getD "" == (b[j]?).getD "" then (i, j) :: pairs table fuel (i + 1) (j + 1)
      else if length i (j + 1) < length (i + 1) j then pairs table fuel (i + 1) j
      else if length (i + 1) j < length i (j + 1) then pairs table fuel i (j + 1)
      else pairs table fuel (i + 1) j

/-- What lies between the common lines. -/
def stretches : (i j : Nat) → (sizes : Nat × Nat) → List (Nat × Nat) → List Change
  | i, j, (m, n), [] => if i < m || j < n then [⟨i, m, j, n⟩] else []
  | i, j, sizes, (k, l) :: rest =>
    let others := stretches (k + 1) (l + 1) sizes rest
    if i < k || j < l then ⟨i, k, j, l⟩ :: others else others

/-- The changes. What both files start and end with is left aside. -/
def changes (a b : List String) : List Change :=
  let start := ((a.zip b).takeWhile fun (x, y) => x == y).length
  let restA := a.drop start
  let restB := b.drop start
  let final := ((restA.reverse.zip restB.reverse).takeWhile fun (x, y) => x == y).length
  let x := (restA.take (restA.length - final)).toArray
  let y := (restB.take (restB.length - final)).toArray
  let found := pairs x y (lengths x y) (x.size + y.size + 1) 0 0
  (stretches 0 0 (x.size, y.size) found).map fun c =>
    ⟨c.fromStart + start, c.fromEnd + start, c.toStart + start, c.toEnd + start⟩

/-! ### Printing -/

def range (low high : Nat) : String := if high ≤ low + 1 then toString (if high = low then low else low + 1) else
  s!"{low + 1},{high}"

def marked (mark : String) (lines : List (String × Bool)) (low high : Nat) : String :=
  String.join (((lines.take high).drop low).map fun (text, ended) =>
    mark ++ text ++ "\n" ++ (if ended then "" else "\\ No newline at end of file\n"))

def Change.plain (a b : List (String × Bool)) (c : Change) : String :=
  let letter := if c.fromStart = c.fromEnd then "a" else if c.toStart = c.toEnd then "d" else "c"
  let between := if letter = "c" then "---\n" else ""
  s!"{range c.fromStart c.fromEnd}{letter}{range c.toStart c.toEnd}\n" ++ marked "< " a c.fromStart c.fromEnd ++ between ++
    marked "> " b c.toStart c.toEnd

/-- Changes that have no more lines between them than are shown. -/
def groups (context : Nat) : List Change → List (List Change)
  | [] => []
  | c :: rest =>
    match groups context rest with
    | (next :: others) :: more =>
      if next.fromStart ≤ c.fromEnd + 2 * context then (c :: next :: others) :: more else [c] :: (next :: others) :: more
    | more => [c] :: more

def groupRange (low high : Nat) : String :=
  if high = low + 1 then toString high
  else toString (if high = low then low else low + 1) ++ s!",{high - low}"

def unifiedGroup (context : Nat) (a b : List (String × Bool)) (cs : List Change) : String :=
  match cs.head?, cs.getLast? with
  | some first, some last =>
    let low := first.fromStart - context
    let lowTo := first.toStart - (first.fromStart - low)
    let high := min a.length (last.fromEnd + context)
    let highTo := last.toEnd + (high - last.fromEnd)
    let (text, at') := cs.foldl (fun (text, at') c =>
      (text ++ marked " " a at' c.fromStart ++ marked "-" a c.fromStart c.fromEnd ++ marked "+" b c.toStart c.toEnd, c.fromEnd))
      ("", low)
    s!"@@ -{groupRange low high} +{groupRange lowTo highTo} @@\n{text}" ++ marked " " a at' high
  | _, _ => ""

/-! ### The program -/

/-- What does not count when lines are compared. -/
structure Ignored where
  blankAmount : Bool := false
  allBlanks : Bool := false
  case : Bool := false
  trailing : Bool := false
  emptyLines : Bool := false

def Ignored.key (i : Ignored) (line : String) : String :=
  let isSpace (c : Char) : Bool := c == ' ' || c == '\t' || c == '\r' || c == '\x0b' || c == '\x0c'
  let cs := line.toList
  let cs := if i.allBlanks then cs.filter fun c => !isSpace c else cs
  let cs := if i.trailing || i.blankAmount then (cs.reverse.dropWhile isSpace).reverse else cs
  let cs := if i.blankAmount then ((cs.zip (none :: cs.map some)).filter fun (c, before) => !(isSpace c && before.any isSpace)).map fun (c, _) =>
    if isSpace c then ' ' else c else cs
  let cs := if i.case then cs.map Char.toLower else cs
  String.ofList cs

structure Style where
  ignored : Ignored := {}
  brief : Bool := false
  same : Bool := false
  context : Option Nat := none
  labels : List String := []
  recursive : Bool := false
  newFiles : Bool := false
  repeated : String := ""

def endedOnes (text : String) : List (String × Bool) :=
  let lines := linesOf '\n' text
  lines.zipIdx.map fun (line, i) => (line, i + 1 < lines.length || isEnded '\n' text)

def timeText (path : String) : Work String := do
  let modified := match ← find path with
    | .ok node => (marksOf node).seconds
    | .error _ => 0
  return String.ofList ((Moment.ofSeconds modified).formatted "%Y-%m-%d %H:%M:%S.000000000 +0000".toList)

variable (style : Style)

def compareTexts (said : Bool) (pathA pathB textA textB : String) : Work Nat := do
  let a := endedOnes textA
  let b := endedOnes textB
  let key (entry : String × Bool) : String := style.ignored.key entry.1 ++ (if entry.2 then "\n" else "")
  let found := changes (a.map key) (b.map key)
  let isBlank (lines : List (String × Bool)) (low high : Nat) : Bool := ((lines.take high).drop low).all fun line => line.1.isEmpty
  let found :=
    if style.ignored.emptyLines then
      found.filter fun c => !(isBlank a c.fromStart c.fromEnd && isBlank b c.toStart c.toEnd)
    else found
  let isBinary (text : String) : Bool := text.toList.any fun c => c.toNat == 0
  if found.isEmpty then
    if style.same then print s!"Files {pathA} and {pathB} are identical\n"
    return 0
  else if style.brief then
    print s!"Files {pathA} and {pathB} differ\n"
    return 1
  else if isBinary textA || isBinary textB then
    print s!"Binary files {pathA} and {pathB} differ\n"
    return 2
  else
    if said then print s!"diff{style.repeated} {pathA} {pathB}\n"
    match style.context with
    | none => print (String.join (found.map (Change.plain a b)))
    | some context =>
      let head (path : String) (index : Nat) : Work String := do
        match style.labels[index]? with
        | some label => return label
        | none => return path ++ "\t" ++ (← timeText path)
      print ("--- " ++ (← head pathA 0) ++ "\n+++ " ++ (← head pathB 1) ++ "\n")
      print (String.join ((groups context found).map (unifiedGroup context a b)))
    return 1

def compareFiles (said : Bool) (pathA pathB : String) : Work Nat := do
  match ← content pathA, ← content pathB with
  | .ok a, .ok b => compareTexts style said pathA pathB a b
  | .error e, other =>
    let _ ← complain s!"{pathA}: {e.description}"
    match other with
    | .error e => failWith 2 s!"{pathB}: {e.description}"
    | .ok _ => return 2
  | .ok _, .error e => failWith 2 s!"{pathB}: {e.description}"

def compareDirectories : (fuel : Nat) → (pathA pathB : String) → Work Nat
  | 0, _, _ => return 0
  | fuel + 1, pathA, pathB => do
    let namesOf (path : String) : Work (List String) := do entriesOf ((← place? path).getD [])
    let a ← namesOf pathA
    let b ← namesOf pathB
    let all := ((a ++ b).eraseDups).mergeSort fun x y => decide (x ≤ y)
    forEach all fun name => do
      let x := Path.join pathA name
      let y := Path.join pathB name
      if !b.contains name then
        print s!"Only in {pathA}: {name}\n"
        return 1
      else if !a.contains name then
        print s!"Only in {pathB}: {name}\n"
        return 1
      else
        match ← find x, ← find y with
        | .ok (.directory _), .ok (.directory _) =>
          if style.recursive then compareDirectories fuel x y
          else
            print s!"Common subdirectories: {x} and {y}\n"
            return 0
        | _, _ => compareFiles style true x y

def longOptions : List (String × Char) :=
  [("brief", 'q'), ("report-identical-files", 's'), ("unified", 'U'), ("recursive", 'r'), ("new-file", 'N'), ("ignore-case", 'i'),
    ("ignore-all-space", 'w'), ("ignore-space-change", 'b'), ("ignore-trailing-space", 'Z'), ("ignore-blank-lines", 'B'),
    ("label", 'L'), ("text", 'a'), ("normal", 'Ā'), ("color", 'ā'), ("minimal", 'd'), ("strip-trailing-cr", 'Ă')]

def compare : Work Nat :=
  withOptionSet { letters := "qsuU::rNiwbZBL:adĀā::Ăe", long := longOptions } 2 fun given operands => do
    let has := given.has
    let number := ((given.value? 'U').bind fun text => Script.number? text.toList)
    let repeated := String.join ((given.filter fun entry => ['r', 'u', 'q', 'N', 'w', 'b', 'i', 's', 'B'].contains entry.1).map fun entry =>
      " -" ++ String.singleton entry.1)
    let style : Style :=
      { ignored :=
          { blankAmount := has 'b', allBlanks := has 'w', case := has 'i', trailing := has 'Z', emptyLines := has 'B' }
        brief := has 'q', same := has 's', context := if has 'U' then some (number.getD 3) else if has 'u' then some 3 else none
        labels := given.values 'L', recursive := has 'r', newFiles := has 'N', repeated }
    match operands with
    | [a, b] =>
      let isDirectory (path : String) : Work Bool := do
        if path = "-" then return false else return (← find path) matches .ok (.directory _)
      match ← isDirectory a, ← isDirectory b with
      | true, true => compareDirectories style 1000 a b
      | true, false => compareFiles style false (Path.join a (lastName b "")) b
      | false, true => compareFiles style false a (Path.join b (lastName a ""))
      | false, false => compareFiles style false a b
    | [] => misuseComparing ("missing operand after " ++ plainlyShown (← read).name)
    | [a] => misuseComparing s!"missing operand after {plainlyShown a}"
    | _ :: _ :: extra :: _ => misuseComparing s!"extra operand {plainlyShown extra}"

end Difference

end BenchKernel
