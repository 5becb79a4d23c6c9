import BenchKernel.Host.Regex
import BenchKernel.Host.Utility.Parts

/-! # Lines that match

Programs that print the lines of files in which an expression is found. -/

namespace BenchKernel

namespace Utility

/-- What is looked for in lines. -/
structure Wanted where
  expressions : List Regex
  folded : Bool := false
  words : Bool := false
  whole : Bool := false
  inverted : Bool := false

namespace Wanted

variable (w : Wanted) (line : Array Char)

/-- The end of the longest match that starts at a position. -/
def endAt? (position : Nat) : Option Nat :=
  let ends := w.expressions.flatMap fun r =>
    (Regex.run { folded := w.folded, exact := r.asksAgain } line r { position }).map Regex.Spot.position
  let isFit (stop : Nat) : Bool :=
    (!w.whole || (position = 0 && stop = line.size)) &&
      (!w.words || (!Regex.isWordBefore line position && !Regex.isWordAt line stop))
  (ends.filter isFit).foldl (fun best stop => some (max stop (best.getD 0))) none

def find? : (fuel : Nat) → (position : Nat) → Option (Nat × Nat)
  | 0, _ => none
  | fuel + 1, position =>
    match w.endAt? line position with
    | some stop => some (position, stop)
    | none => if w.whole then none else find? fuel (position + 1)

def next? (position : Nat) : Option (Nat × Nat) :=
  w.find? line (line.size + 1 - position) position

def isMeant (line : String) : Bool := (w.next? line.toList.toArray 0).isSome != w.inverted

def matchesFrom : (fuel : Nat) → (position : Nat) → List (Nat × Nat)
  | 0, _ => []
  | fuel + 1, position =>
    match w.next? line position with
    | none => []
    | some (start, stop) =>
      if stop = start then matchesFrom fuel (start + 1) else (start, stop) :: matchesFrom fuel stop

def allMatches : List (Nat × Nat) := w.matchesFrom line (line.size + 1) 0

end Wanted

structure MatchStyle where
  named : Bool := false
  numbered : Bool := false
  offsets : Bool := false
  onlyMatches : Bool := false
  before : Nat := 0
  after : Nat := 0
  most : Option Nat := none
  ending : Char := '\n'

/-- A line with its number and the number of bytes before it. -/
structure PlacedLine where
  text : String
  number : Nat
  offset : Nat
  meant : Bool

def matchStart (style : MatchStyle) (name : String) (line : PlacedLine) (offset : Nat) : String :=
  let mark := if line.meant then ":" else "-"
  (if style.named then name ++ mark else "") ++ (if style.numbered then toString line.number ++ mark else "") ++
    (if style.offsets then toString offset ++ mark else "")

def shownLine (w : Wanted) (style : MatchStyle) (name : String) (line : PlacedLine) : String :=
  if style.onlyMatches then
    if w.inverted || !line.meant then ""
    else
      let cs := line.text.toList.toArray
      String.join ((w.allMatches cs).map fun (start, stop) =>
        matchStart style name line (line.offset + start) ++ String.ofList (Regex.textBetween cs start stop) ++ "\n")
  else (matchStart style name line line.offset ++ line.text).push style.ending

def plainRegex (text : String) : Regex :=
  text.toList.foldl (fun r c => if r matches .empty then .char c else .sequence r (.char c)) .empty

structure MatchRun where
  wanted : Wanted
  style : MatchStyle
  counts : Bool
  /-- Whether the names of files are shown that have lines, or of those that have none. -/
  lists : Option Bool
  quiet : Bool
  silent : Bool
  asText : Bool
  recursive : Bool
  only : List String
  leftOut : List String
  leftOutDirectories : List String

def MatchRun.isWantedName (r : MatchRun) (name : String) : Bool :=
  (r.only.isEmpty || r.only.any (isLike · name)) && !r.leftOut.any (isLike · name)

/-- Where the reading of a file stands, and the lines around a match. -/
structure MatchState where
  number : Nat := 1
  offset : Nat := 0
  count : Nat := 0
  before : List PlacedLine := []
  after : Nat := 0
  shown : Option Nat := none
  foundEnd : Nat := 0
  isBinary : Bool := false
  isOver : Bool := false

namespace MatchRun

variable (r : MatchRun)

def showsLines : Bool := !r.quiet && r.lists.isNone && !r.counts

def hasEnough (count : Nat) : Bool := r.style.most.any fun most => most ≤ count

variable (name : String) (s : MatchState)

/-- Lines that are shown together, apart from those before. -/
def group (lines : List PlacedLine) : String :=
  let hasContext := 0 < r.style.before || 0 < r.style.after
  let isApart := hasContext && s.shown.any fun n => lines.head?.any fun line => n + 1 < line.number
  (if isApart then "--\n" else "") ++ String.join (lines.map (shownLine r.wanted r.style name))

/-- Goes over a line that is meant. -/
def found (line : PlacedLine) (size : Nat) : String × MatchState :=
  let count := s.count + 1
  let next := { s with number := s.number + 1, offset := s.offset + size, count, foundEnd := s.offset + size, before := [] }
  if r.quiet || r.lists.isSome || (s.isBinary && !r.counts) then ("", { next with isOver := true })
  else if r.counts then ("", { next with isOver := r.hasEnough count })
  else
    (r.group name s (s.before.reverse ++ [line]),
      { next with after := r.style.after, shown := some s.number, isOver := r.hasEnough count && r.style.after = 0 })

def passed (line : PlacedLine) (size : Nat) : String × MatchState :=
  let next := { s with number := s.number + 1, offset := s.offset + size }
  if !r.showsLines then ("", next)
  else if 0 < s.after then
    (r.group name s [line],
      { next with after := s.after - 1, shown := some s.number, before := [], isOver := s.after = 1 && r.hasEnough s.count })
  else ("", { next with before := (line :: s.before).take r.style.before })

def step (line : String) : String × MatchState :=
  if s.isOver then ("", s)
  else
    let (text, _) := TextFilter.bare r.style.ending line
    let meant := r.wanted.isMeant text
    let placed : PlacedLine := ⟨text, s.number, s.offset, meant⟩
    if meant && r.hasEnough s.count then ("", { s with isOver := true })
    else if meant then r.found name s placed line.length
    else r.passed name s placed line.length

def filter : TextFilter (MatchState × String) :=
  TextFilter.ofLines r.style.ending
    (fun s lines =>
      let isBinary := s.isBinary || (!r.asText && r.style.ending == '\n' && lines.any fun line => line.toList.any fun c => c.toNat == 0)
      let (texts, s) := TextFilter.each (r.step name) { s with isBinary } lines
      (String.join texts, s))
    (fun s => ("", s)) MatchState.isOver

/-- Looks into an open file: the status, which is 0 if lines were found. The standard input is left after the last of as many
    lines as are looked for. -/
def inOpen (index : Nat) (isInput : Bool) : Work (Except OsError Nat) := do
  let start := ((← get).openFiles[index]?).map OpenFile.position
  let (ended, (s, _), held) ← (r.filter name).drain index patience ({ isOver := r.style.most = some 0 }, "") ""
  TextFilter.finish held
  match ended with
  | .error e => return .error e
  | .ok () =>
    if isInput && r.hasEnough s.count then
      let position := ((← get).openFiles[index]?).map OpenFile.position
      modify fun m => m.giveBack index (position.getD 0 - (start.getD 0 + s.foundEnd))
    let isFound := 0 < s.count
    let status := if isFound then 0 else 1
    if r.quiet then return .ok status
    else
      match r.lists with
      | some wanted =>
        if isFound == wanted then print s!"{name}\n"
        return .ok status
      | none =>
        if r.counts then print ((if r.style.named then name ++ ":" else "") ++ s!"{s.count}\n")
        else if s.isBinary && isFound then write 2 ((← read).name ++ s!": {name}: binary file matches\n")
        return .ok status

end MatchRun

def MatchRun.inPath (r : MatchRun) : (fuel : Nat) → (isOperand : Bool) → String → Work (List Nat)
  | 0, _, _ => return []
  | fuel + 1, isOperand, path => do
    let name := if path = "-" then "(standard input)" else path
    let fail (e : OsError) : Work (List Nat) := do
      if !r.silent then
        let _ ← complain s!"{name}: {e.description}"
      return [2]
    let isDirectory := (path.isEmpty && r.recursive) || ((← find path) matches .ok (.directory _))
    if path != "-" && isDirectory then
      if r.recursive then
        let last := (Path.names path).getLast?.getD ""
        if !isOperand && r.leftOutDirectories.contains last then return []
        else
          let entries ← entriesOf ((← place? (if path.isEmpty then "." else path)).getD [])
          let inside (entry : String) : String := if path.isEmpty then entry else Path.join path entry
          let results ← entries.mapM fun entry => r.inPath fuel false (inside entry)
          return results.flatten
      else fail .isDirectory
    else if !isOperand && !r.isWantedName ((Path.names path).getLast?.getD "") then return []
    else
      match ← openOperand path with
      | .error e => fail e
      | .ok index =>
        let result ← r.inOpen name index (path = "-")
        if path != "-" then closeFile index
        match result with
        | .error e => fail e
        | .ok status => return [status]

def expressionsOf (fixed extended : Bool) (patterns : List String) : Except String (List (Regex × List String)) :=
  let lines := patterns.flatMap fun text => (Text.splitAt '\n' text.toList).map String.ofList
  if fixed then .ok (lines.map fun line => (plainRegex line, []))
  else lines.mapM (Regex.parseWarned { extended, bare := .skipped, strictNames := true })

def matchLongOptions : List (String × Char) :=
  [("extended-regexp", 'E'), ("fixed-strings", 'F'), ("basic-regexp", 'G'), ("regexp", 'e'), ("file", 'f'), ("ignore-case", 'i'),
    ("invert-match", 'v'), ("word-regexp", 'w'), ("line-regexp", 'x'), ("count", 'c'), ("files-with-matches", 'l'),
    ("files-without-match", 'L'), ("quiet", 'q'), ("silent", 'q'), ("no-messages", 's'), ("line-number", 'n'),
    ("with-filename", 'H'), ("no-filename", 'h'), ("only-matching", 'o'), ("byte-offset", 'b'), ("max-count", 'm'),
    ("after-context", 'A'), ("before-context", 'B'), ("context", 'C'), ("recursive", 'r'), ("dereference-recursive", 'R'),
    ("null-data", 'z'), ("text", 'a'), ("include", 'Ā'), ("exclude", 'ā'), ("exclude-dir", 'Ă'), ("color", 'ă'),
    ("colour", 'ă'), ("line-buffered", 'Ą')]

def misuseOfMatch (why : Option String) : Work Nat := do
  let name := (← read).name
  let start := (why.map fun text => s!"{name}: {text}\n").getD ""
  write 2 s!"{start}Usage: {name} [OPTION]... PATTERNS [FILE]...\nTry '{name} --help' for more information.\n"
  return 2

def givenPatterns : Given → Work (Except String (List String))
  | [] => return .ok []
  | ('e', text) :: rest => do
    match ← givenPatterns rest with
    | .ok others => return .ok (text :: others)
    | .error why => return .error why
  | ('f', path) :: rest => do
    match ← content path, ← givenPatterns rest with
    | .error e, _ => return .error s!"{path}: {e.description}"
    | _, .error why => return .error why
    | .ok text, .ok others => return .ok (linesOf '\n' text ++ others)
  | _ :: rest => givenPatterns rest

def matchingLines (kind : Option Char) : Work Nat := do
  let letters := "EFGPe:f:ivwxclLqsnHhobm:A:B:C:rRzayĀ:ā:Ă:ă::Ą0123456789"
  let arguments := (← read).arguments
  match ({ letters, long := matchLongOptions } : OptionSet).read arguments with
  | .error why => misuseOfMatch (some why)
  | .ok (given, operands) =>
    let number (letter : Char) : Except String (Option Nat) :=
      match given.value? letter with
      | none => .ok none
      | some text =>
        match Script.number? text.toList with
        | some n => .ok (some n)
        | none => .error text
    let chosen := (given.last? ['E', 'F', 'G', 'P']).orElse fun _ => kind
    let isPattern := given.any fun entry => entry.1 == 'e' || entry.1 == 'f'
    match ← givenPatterns given with
    | .error why => failWith 2 why
    | .ok fromOptions =>
      match if isPattern then some (fromOptions, operands) else operands.head?.map fun text => ([text], operands.tail) with
      | none => misuseOfMatch none
      | some (patterns, files) =>
        match number 'm', number 'A', number 'B', number 'C' with
        | .error _, _, _, _ => failWith 2 "invalid max count"
        | _, .error text, _, _ | _, _, .error text, _ | _, _, _, .error text =>
          failWith 2 s!"{text}: invalid context length argument"
        | .ok most, .ok after, .ok before, .ok around =>
          match expressionsOf (chosen = some 'F') (chosen = some 'E') patterns with
          | .error why => failWith 2 why
          | .ok found =>
            (found.flatMap Prod.snd).forM fun text => do
              let _ ← complain s!"warning: {text}"
            let expressions := found.map Prod.fst
            let recursive := given.has 'r' || given.has 'R'
            let files := if files.isEmpty then (if recursive then [""] else ["-"]) else files
            let isMany := 1 < files.length || recursive
            let digits := ((given.map Prod.fst).filter Char.isDigit)
            let around := if digits.isEmpty then around else Script.number? digits
            let r : MatchRun :=
              { wanted :=
                  { expressions, folded := given.has 'i' || given.has 'y', words := given.has 'w'
                    whole := given.has 'x', inverted := given.has 'v' }
                style :=
                  { named := (given.last? ['H', 'h']).map (· == 'H') |>.getD isMany, numbered := given.has 'n'
                    offsets := given.has 'b', onlyMatches := given.has 'o'
                    before := (before.orElse fun _ => around).getD 0, after := (after.orElse fun _ => around).getD 0
                    most, ending := lineEnding given }
                counts := given.has 'c'
                lists := (given.last? ['l', 'L']).map (· == 'l')
                quiet := given.has 'q', silent := given.has 's', asText := given.has 'a', recursive
                only := given.values 'Ā'
                leftOut := given.values 'ā'
                leftOutDirectories := given.values 'Ă' }
            let statuses := (← files.mapM fun path => r.inPath 100 true path).flatten
            if statuses.contains 0 && (r.quiet || !statuses.contains 2) then return 0
            else if statuses.contains 2 then return 2
            else return 1

end Utility

end BenchKernel
