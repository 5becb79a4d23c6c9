import BenchKernel.Host.Utility.Printing

/-! # Programs that print parts of files

The first or last lines of files, parts of their lines, and pieces of a width. -/

namespace BenchKernel

namespace Utility

/-! ### The start and the end of files -/

/-- Which lines or bytes are asked for: so many, counted from one end, or all but so many. -/
structure Portion where
  count : Nat
  excluded : Bool := false
  bytes : Bool := false
  deriving DecidableEq, Repr

/-- Reads a count. The sign turns its meaning around. -/
def portion? (bytes : Bool) (sign : Char) (text : String) : Option Portion :=
  match text.toList with
  | c :: cs =>
    if c = sign then (sizeOf? (String.ofList cs)).map fun count => ⟨count, true, bytes⟩
    else (sizeOf? (if c = '-' || c = '+' then String.ofList cs else text)).map fun count => ⟨count, false, bytes⟩
  | [] => none

def endedLines (ending : Char) (text : String) : List String :=
  let (lines, last) := TextFilter.cutLines ending text
  if last.isEmpty then lines else lines ++ [last]

variable (p : Portion)

/-- A part of the bytes or of the lines of a text. -/
def Portion.ofText (part : {α : Type} → List α → List α) (ending : Char) (text : String) : String :=
  if p.bytes then String.ofList (part text.toList) else String.join (part (endedLines ending text))

def Portion.first : (ending : Char) → (text : String) → String :=
  p.ofText fun items => items.take (if p.excluded then items.length - p.count else p.count)

def Portion.hasFirst (ending : Char) (bytes : ByteArray) : Bool :=
  if p.excluded then false
  else if p.bytes then p.count ≤ bytes.size
  else p.count ≤ bytes.foldl (fun n b => if b.toNat = ending.toNat then n + 1 else n) 0

def Portion.last : (ending : Char) → (text : String) → String :=
  p.ofText fun items => items.drop (if p.excluded then p.count - 1 else items.length - p.count)

def unread (count : Nat) : Work Unit := do
  match (← read).numbers.lookup 0 with
  | none => return
  | some index =>
    modify fun m =>
      { m with openFiles := m.openFiles.modify index fun f =>
          match f.channel with
          | .file _ | .nameless _ => { f with position := f.position - count }
          | _ => f }

def readAtOnce : Nat := 8192

def contentUntil (isEnough : ByteArray → Bool) (operand : String) : Work (Except OsError String) := do
  whenOk (openOperand operand) fun index => do
    let isPipe := ((← get).openFiles[index]?).any fun file => file.channel matches .pipe _
    let read ← readUntil index (if isPipe then readAtOnce else patience * 1000) isEnough patience ByteArray.empty
    if operand != "-" then closeFile index
    return read.map Text.ofBytes

/-- Prints something of every operand, with a title between opening it and printing; `first` says whether nothing has been
    printed yet. -/
def portionOf (titled : Bool) (copy : (title : Work Unit) → String → Work (Except OsError Unit)) : (first : Bool) → List String → Work Nat
  | _, [] => return 0
  | first, operand :: rest => do
    let title : Work Unit := do
      let name := if operand = "-" then "standard input" else operand
      if titled then print ((if first then "" else "\n") ++ s!"==> {name} <==\n")
    match ← copy title operand with
    | .error .isDirectory =>
      let _ ← complain s!"error reading {shown operand}: Is a directory"
      let _ ← portionOf titled copy false rest
      return 1
    | .error e =>
      let _ ← complain s!"cannot open {shown operand} for reading: {e.description}"
      let _ ← portionOf titled copy first rest
      return 1
    | .ok () => portionOf titled copy false rest

def printPart (rewinds : Bool) (isEnough : ByteArray → Bool) (part : String → String) (title : Work Unit) (operand : String) :
    Work (Except OsError Unit) := do
  match ← contentUntil isEnough operand with
  | .error e =>
    if e = .isDirectory then title
    return .error e
  | .ok text =>
    title
    let printed := part text
    print printed
    if rewinds && operand = "-" then unread (text.length - printed.length)
    return .ok ()

/-- Leaves out the start of a text. -/
def Portion.dropping (ending : Char) : TextFilter Nat :=
  { take := fun left text =>
      if left = 0 then (text, 0)
      else if p.bytes then
        let cs := text.toList
        (String.ofList (cs.drop left), left - cs.length)
      else
        let lines := endedLines ending text
        let ended := lines.filter (isEnded ending)
        (String.join (lines.drop left), left - ended.length) }

def Portion.printLast (ending : Char) (title : Work Unit) (operand : String) : Work (Except OsError Unit) := do
  if p.excluded then
    whenOk (openOperand operand) fun index => do
      title
      let (ended, _, held) ← (p.dropping ending).drain index patience (p.count - 1) ""
      TextFilter.finish held
      if operand != "-" then closeFile index
      return ended
  else printPart false (fun _ => false) (p.last ending) title operand

variable (arguments : List String)

/-- The arguments of `head` with an old form of its first option replaced: a number, with letters after it. -/
def headArguments : List String :=
  match arguments with
  | first :: rest =>
    match first.toList with
    | '-' :: c :: cs =>
      if c.isDigit then
        let digits := (c :: cs).takeWhile Char.isDigit
        let letters := (c :: cs).drop digits.length
        let unit := letters.filter fun d => d == 'k' || d == 'm' || d == 'b'
        let bytes := letters.any fun d => ['c', 'k', 'm', 'b'].contains d
        let others := letters.filter fun d => !(['c', 'k', 'm', 'b', 'l'].contains d)
        [if bytes then "-c" else "-n", String.ofList (digits ++ unit.take 1)] ++
          (if others.isEmpty then [] else [String.ofList ('-' :: others)]) ++ rest
      else arguments
    | _ => arguments
  | [] => []

def portionOptions (letters : String) : OptionSet :=
  { letters
    long := [("bytes", 'c'), ("lines", 'n'), ("quiet", 'q'), ("silent", 'q'), ("verbose", 'v'), ("zero-terminated", 'z'),
      ("follow", 'f')] }

def printPortion (sign : Char) (copy : Portion → (ending : Char) → (title : Work Unit) → String → Work (Except OsError Unit))
    (given : Given) (operands : List String) : Work Nat := do
  let chosen := ((given.filter fun option => option.1 == 'c' || option.1 == 'n').getLast?).getD ('n', "10")
  let bytes := chosen.1 == 'c'
  match portion? bytes sign chosen.2 with
  | none => complain ("invalid number of " ++ (if bytes then "bytes" else "lines") ++ ": " ++ shown chosen.2)
  | some p =>
    let operands := inputs operands
    let ending := lineEnding given
    let titled := given.last? ['q', 'v'] = some 'v' || (1 < operands.length && !given.has 'q')
    portionOf titled (copy p ending) true operands

def Portion.printFirst (ending : Char) : (title : Work Unit) → String → Work (Except OsError Unit) :=
  printPart true (p.hasFirst ending) (p.first ending)

def head : Work Nat :=
  withArguments headArguments (withOptionSet (portionOptions "n:c:qvz") 1 (printPortion '-' Portion.printFirst))

/-- The arguments of `tail` with an old form of its first option replaced, which stands with one operand at most. -/
def tailArguments : List String :=
  match arguments with
  | first :: rest =>
    match first.toList with
    | sign :: cs =>
      let digits := cs.takeWhile Char.isDigit
      let letters := (cs.drop digits.length).filter (· != 'f')
      let isOld := (sign = '-' || sign = '+') && !digits.isEmpty && [[], ['c'], ['l'], ['b']].contains letters
      if isOld && rest.length ≤ 1 then
        let count := String.ofList ((if sign = '+' then ['+'] else []) ++ digits ++ (if letters = ['b'] then ['b'] else []))
        [if letters = [] || letters = ['l'] then "-n" else "-c", count] ++ rest
      else arguments
    | [] => arguments
  | [] => []

def tail : Work Nat := do
  let arguments := tailArguments (← read).arguments
  let digit := arguments.findSome? fun argument =>
    match argument.toList with
    | '-' :: c :: _ => if c.isDigit then some c else none
    | _ => none
  let isCount := (arguments.head?.map fun first => first == "-n" || first == "-c").getD false
  match if isCount then none else digit with
  | some c => complain s!"option used in invalid context -- {c}"
  | none =>
    withArguments tailArguments (withOptionSet (portionOptions "n:c:fFqvz") 1 (printPortion '+' Portion.printLast))

/-! ### Parts of lines -/

/-- Positions from one on: a first one, and a last one if there is one. -/
abbrev Ranges := List (Nat × Option Nat)

def Ranges.holds (r : Ranges) (position : Nat) : Bool :=
  r.any fun (low, high) => low ≤ position && (high.map fun h => decide (position ≤ h)).getD true

structure PositionWords where
  one : String
  many : String
  range : String
  number : String

def fieldWords : PositionWords := ⟨"invalid field value ", "fields are numbered from 1", "invalid field range", "field number "⟩

def byteWords : PositionWords :=
  ⟨"invalid byte/character position ", "byte/character positions are numbered from 1", "invalid byte or character range",
    "byte/character offset "⟩

/-- Reads positions, as one number or as two with a dash. -/
def readRange (words : PositionWords) (text : List Char) : Except String (Nat × Option Nat) :=
  let position (cs : List Char) : Except String Nat :=
    match Script.number? cs with
    | none => .error (words.one ++ shown (String.ofList (cs.dropWhile Char.isDigit)))
    | some n =>
      if n = 0 then .error words.many
      else if Number.wordMax ≤ n then .error s!"{words.number}{shown (String.ofList cs)} is too large"
      else .ok n
  match Text.splitAt '-' text with
  | [only] => if only.isEmpty then .error words.many else (position only).map fun n => (n, some n)
  | [[], []] => .error "invalid range with no endpoint: -"
  | [low, []] => (position low).map fun n => (n, none)
  | [[], high] => (position high).map fun n => (1, some n)
  | [low, high] => do
    let a ← position low
    let b ← position high
    if b < a then throw "invalid decreasing range" else return (a, some b)
  | _ => .error words.range

def readRanges (words : PositionWords) (text : String) : Except String Ranges :=
  (Text.pieces (fun c => c != ',' && c != ' ' && c != '\t') text.toList).mapM (readRange words)

/-- Ranges in order, with those that meet made one. -/
def Ranges.merged (r : Ranges) : Ranges :=
  let sorted := r.mergeSort fun a b => decide (a.1 ≤ b.1)
  (sorted.foldl (fun (done : Ranges) (low, high) =>
    match done with
    | (l, none) :: rest => (l, none) :: rest
    | (l, some h) :: rest =>
      if low ≤ h then (l, high.map fun b => max h b) :: rest else (low, high) :: (l, some h) :: rest
    | [] => [(low, high)]) []).reverse

def Ranges.complement (r : Ranges) : Ranges :=
  let (done, next) := r.foldl (fun (state : Ranges × Option Nat) (low, high) =>
    match state with
    | (done, none) => (done, none)
    | (done, some next) =>
      (if next < low then (next, some (low - 1)) :: done else done, high.map (· + 1))) ([], some 1)
  (match next with
    | some n => (n, none) :: done
    | none => done).reverse

def Ranges.select {α : Type} (r : Ranges) (items : List α) : List (List α) :=
  (r.map fun (low, high) => (items.take (high.getD items.length)).drop (low - 1)).filter fun part => !part.isEmpty

/-- What `cut` does with a line. `none` leaves it out. -/
structure Cutting where
  ranges : Ranges
  fields : Bool
  delimiter : Char
  onlyDelimited : Bool
  joint : Option String

def Cutting.line (c : Cutting) (line : String) : Option String :=
  if c.fields then
    let parts := Text.splitAt c.delimiter line.toList
    if parts.length ≤ 1 then if c.onlyDelimited then none else some line
    else
      let chosen := (c.ranges.select parts).flatten.map String.ofList
      some ((c.joint.getD (String.singleton c.delimiter)).intercalate chosen)
  else some ((c.joint.getD "").intercalate ((c.ranges.select line.toList).map String.ofList))

def cut : Work Nat :=
  let long := [("bytes", 'b'), ("characters", 'c'), ("fields", 'f'), ("delimiter", 'd'), ("only-delimited", 's'),
    ("complement", 'Ā'), ("output-delimiter", 'ā'), ("zero-terminated", 'z')]
  withOptionSet { letters := "b:c:d:f:nszĀā:", long } 1 fun given operands => do
    let lists := given.filter fun option => ['b', 'c', 'f'].contains option.1
    match lists with
    | [] => misuse "you must specify a list of bytes, characters, or fields"
    | _ :: _ :: _ => misuse "only one list may be specified"
    | [(kind, text)] =>
      let fields := kind == 'f'
      let delimiter := (given.value? 'd').getD "\t"
      if 1 < delimiter.length then misuse "the delimiter must be a single character"
      else
        match readRanges (if fields then fieldWords else byteWords) text with
        | .error why => misuse why
        | .ok ranges =>
          if !fields && given.has 'd' then
            misuse "an input delimiter may be specified only when operating on fields"
          else if !fields && given.has 's' then
            misuse "suppressing non-delimited lines makes sense\n\tonly when operating on fields"
          else
            let ranges := Ranges.merged ranges
            let ending := lineEnding given
            let c : Cutting :=
              { ranges := if given.has 'Ā' then Ranges.complement ranges else ranges, fields
                delimiter := delimiter.toList.head?.getD (Char.ofNat 0), onlyDelimited := given.has 's'
                joint := given.value? 'ā' }
            (TextFilter.eachWhole ending fun line => (c.line line).toList).onOperands ((), "") operands

/-! ### Pieces of a width -/

def nextColumn (bytes : Bool) (column : Nat) (c : Char) : Nat :=
  if bytes then column + 1
  else if c = '\x08' then column - 1
  else if c = '\r' then 0
  else if c = '\t' then column + 8 - column % 8
  else column + 1

structure Folding where
  bytes : Bool
  atBlanks : Bool
  width : Nat

/-- Goes over one character. The piece that is being read is held last character first, with its width. -/
def Folding.step (f : Folding) : (List Char × Nat) × List Char → Char → (List Char × Nat) × List Char
  | ((piece, column), written), c =>
    if c = '\n' then (([], 0), '\n' :: (piece ++ written))
    else
      let next := nextColumn f.bytes column c
      if f.width < next && !piece.isEmpty then
        let (tail, kept) := piece.span fun d => d != ' ' && d != '\t'
        if f.atBlanks && !kept.isEmpty then
          let column := tail.reverse.foldl (nextColumn f.bytes) 0
          let written := '\n' :: (kept ++ written)
          let next := nextColumn f.bytes column c
          if f.width < next && !tail.isEmpty then (([c], nextColumn f.bytes 0 c), '\n' :: (tail ++ written))
          else ((c :: tail, next), written)
        else (([c], nextColumn f.bytes 0 c), '\n' :: (piece ++ written))
      else ((c :: piece, next), written)

def Folding.filter (f : Folding) : TextFilter (List Char × Nat) :=
  TextFilter.eachChar f.step fun (piece, _) => (piece.reverse, [], 0)

/-- The arguments of `fold`, in which a number alone is a width. -/
def foldArguments : List String :=
  arguments.map fun argument =>
    match argument.toList with
    | '-' :: c :: cs => if (c :: cs).all Char.isDigit then "-w" ++ String.ofList (c :: cs) else argument
    | _ => argument

def fold : Work Nat :=
  withArguments foldArguments
    (withOptionSet { letters := "bsw:", long := [("bytes", 'b'), ("spaces", 's'), ("width", 'w')] } 1 fun given operands => do
      let text := (given.value? 'w').getD "80"
      match Script.number? text.toList with
      | none => complain s!"invalid number of columns: {shown text}"
      | some 0 => complain s!"invalid number of columns: {shown text}: Numerical result out of range"
      | some width =>
        let f : Folding := { bytes := given.has 'b', atBlanks := given.has 's', width }
        f.filter.onOperands ([], 0) operands)

/-! ### Pieces in files -/

/-- The letters or digits that number a piece. -/
def pieceEnding (digits : Bool) : (length : Nat) → (number : Nat) → List Char
  | 0, _ => []
  | length + 1, number =>
    let base := if digits then 10 else 26
    pieceEnding digits length (number / base) ++ [Char.ofNat ((if digits then 48 else 97) + number % base)]

def splitFile : Work Nat :=
  let long := [("lines", 'l'), ("bytes", 'b'), ("numeric-suffixes", 'd'), ("suffix-length", 'a'), ("additional-suffix", 'Ā')]
  withOptionSet { letters := "l:b:da:Ā:", long } 1 fun given operands => do
    match operands with
    | _ :: _ :: extra :: _ => extraOperand extra
    | _ =>
      let size := (given.value? 'l').getD "1000"
      match ← content (operands.head?.getD "-") with
      | .error e => complain ("cannot open " ++ shown (operands.head?.getD "-") ++ " for reading: " ++ e.description)
      | .ok text =>
        let parts :=
          match given.value? 'b' with
          | some bytes => (chunks ((sizeOf? bytes).getD 1) (text.length + 1) text.toList).map String.ofList
          | none => (chunks ((sizeOf? size).getD 1) (text.length + 1) (endedLines '\n' text)).map String.join
        let start := (operands[1]?).getD "x"
        let length := ((given.value? 'a').bind fun n => Script.number? n.toList).getD 2
        let results ← parts.zipIdx.mapM fun (part, i) => do
          let path := start ++ String.ofList (pieceEnding (given.has 'd') length i) ++ (given.value? 'Ā').getD ""
          match ← writeFile path part with
          | .ok () => return 0
          | .error e => complain s!"{path}: {e.description}"
        return results.foldl max 0

end Utility

end BenchKernel
