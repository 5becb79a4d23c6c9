import BenchKernel.Host.Utility.Numbers

/-! # Programs that change characters

Programs that replace and remove characters, and that put numbers, tabs and columns into lines. -/

namespace BenchKernel

namespace Utility

/-! ### Replacing characters -/

namespace CharSet

/-- A part of a set of characters. -/
inductive Part
  | chars (cs : List Char)
  | named (name : String)
  /-- A character as often as a number says, or as often as is needed. -/
  | filled (c : Char) (count : Option Nat)
  deriving DecidableEq, Repr

def bytes (holds : Char → Bool) : List Char := ((List.range 256).map Char.ofNat).filter holds

/-- A character of a set, perhaps as an escape, and the text after it. The flag says whether it was one. -/
def readChar? (cs : List Char) : Option (Char × Bool × List Char) :=
  match cs with
  | [] => none
  | '\\' :: [] => some ('\\', false, [])
  | '\\' :: c :: rest =>
    match [('a', '\x07'), ('b', '\x08'), ('f', '\x0c'), ('n', '\n'), ('r', '\r'), ('t', '\t'), ('v', '\x0b')].lookup c with
    | some found => some (found, true, rest)
    | none =>
      match Script.octalDigits 3 (c :: rest) with
      | ([], _) => some (c, true, rest)
      | (digits, after) => some (Script.octalChar digits, true, after)
  | c :: rest => some (c, false, rest)

/-- A class, or a character with a count, between brackets. -/
def readBrackets? (cs : List Char) : Except String (Option (Part × List Char)) :=
  match cs with
  | '[' :: ':' :: rest =>
    let name := rest.takeWhile (· != ':')
    match rest.drop name.length with
    | ':' :: ']' :: after =>
      let name := String.ofList name
      match Script.characterSets.lookup name with
      | none => .error s!"invalid character class {shown name}"
      | some _ => .ok (some (.named name, after))
    | _ => .ok none
  | '[' :: '=' :: c :: '=' :: ']' :: after => .ok (some (.chars [c], after))
  | '[' :: rest =>
    match readChar? rest with
    | some (c, _, '*' :: after) =>
      let digits := after.takeWhile Char.isDigit
      match after.drop digits.length with
      | ']' :: left =>
        let base := if digits.head? = some '0' then 8 else 10
        let count := Script.digitsValue base digits
        .ok (some (.filled c (if digits.isEmpty || count = 0 then none else some count), left))
      | _ => .ok none
    | _ => .ok none
  | _ => .ok none

def read : (fuel : Nat) → List Char → Except String (List Part)
  | 0, _ => .ok []
  | _ + 1, [] => .ok []
  | fuel + 1, cs => do
    match ← readBrackets? cs with
    | some (part, after) => return part :: (← read fuel after)
    | none =>
      match readChar? cs with
      | none => return []
      | some (low, _, '-' :: after) =>
        match readChar? after with
        | none => return .chars [low] :: .chars ['-'] :: []
        | some (high, _, rest) =>
          if high < low then
            throw ("range-endpoints of " ++ shown (String.ofList [low, '-', high]) ++ " are in reverse collating sequence order")
          else
            let range := (List.range (high.toNat - low.toNat + 1)).map fun i => Char.ofNat (low.toNat + i)
            return .chars range :: (← read fuel rest)
      | some (c, _, rest) => return .chars [c] :: (← read fuel rest)

def ofName (name : String) : List Char := bytes ((Script.characterSets.lookup name).getD fun _ => false)

def Part.size : Part → Nat
  | chars cs => cs.length
  | named name => (ofName name).length
  | filled _ count => count.getD 0

/-- Where the classes of letters stand in a set. -/
def letterSets : (offset : Nat) → List Part → List Nat
  | _, [] => []
  | offset, part :: rest =>
    let others := letterSets (offset + part.size) rest
    if part = .named "lower" || part = .named "upper" then offset :: others else others

def expand (needed : Nat) (parts : List Part) : List Char :=
  let fixed := (parts.map Part.size).foldl (· + ·) 0
  parts.flatMap fun
    | .chars cs => cs
    | .named name => ofName name
    | .filled c count => List.replicate (count.getD (needed - fixed)) c

def parse (text : String) : Except String (List Part) := read (text.length + 1) text.toList

end CharSet

/-- What becomes of each byte, and which of them are not repeated. -/
structure Replacement where
  table : Array (Option Char)
  squeezed : Array Bool

namespace Replacement

def forBytes {α : Type} (answer : Char → α) : Array α := ((List.range 256).map fun n => answer (Char.ofNat n)).toArray

def unchanged : Array (Option Char) := forBytes some

def without (set : List Char) : Array (Option Char) := forBytes fun c => if set.contains c then none else some c

/-- Replaces by position. The last character stands for those that lack. -/
def replacing (set others : List Char) : Array (Option Char) :=
  let last := others.getLast?.getD ' '
  let pairs := (set.zipIdx.map fun (c, i) => (c, (others[i]?).getD last)).reverse
  forBytes fun c => some ((pairs.lookup c).getD c)

def none : Array Bool := forBytes fun _ => false

def of (set : List Char) : Array Bool := forBytes set.contains

def step (r : Replacement) : Option Char × List Char → Char → Option Char × List Char
  | (before, written), c =>
    match (r.table[c.toNat]?).getD (some c) with
    | .none => (before, written)
    | some c => if before = some c && (r.squeezed[c.toNat]?).getD false then (before, written) else (some c, c :: written)

end Replacement

/-- Reads two sets of characters and what is to be done with them. -/
def replacement (given : Given) (first : String) (second : Option String) : Except String Replacement := do
  let deletes := given.has 'd'
  let squeezes := given.has 's'
  let complemented := given.has 'c' || given.has 'C'
  let parts ← CharSet.parse first
  let own := CharSet.expand 0 parts
  let set1 := if complemented then CharSet.bytes fun c => !own.contains c else own
  match second with
  | none => return if deletes then ⟨Replacement.without set1, Replacement.none⟩ else ⟨Replacement.unchanged, Replacement.of set1⟩
  | some text =>
    let parts2 ← CharSet.parse text
    let set2 := CharSet.expand set1.length parts2
    if deletes then return ⟨Replacement.without set1, Replacement.of set2⟩
    else
      let isTruncated := given.has 't'
      if set2.isEmpty && !isTruncated then throw "when not truncating set1, string2 must be non-empty"
      let isLetters (part : CharSet.Part) : Bool := part = .named "lower" || part = .named "upper"
      let allowed := parts2.all fun
        | .named name => isLetters (.named name)
        | _ => true
      if !allowed then
        throw "when translating, the only character classes that may appear in\nstring2 are 'upper' and 'lower'"
      let places := CharSet.letterSets 0 parts
      if !complemented && (CharSet.letterSets 0 parts2).any fun place => !places.contains place then
        throw "misaligned [:upper:] and/or [:lower:] construct"
      if !isTruncated && set2.length < set1.length && parts2.getLast?.any isLetters then
        throw "when translating with string1 longer than string2,\nthe latter string must not end with a character class"
      let set1 := if isTruncated then set1.take set2.length else set1
      return ⟨Replacement.replacing set1 set2, if squeezes then Replacement.of set2 else Replacement.none⟩

def replaceChars : Work Nat :=
  let long := [("complement", 'c'), ("delete", 'd'), ("squeeze-repeats", 's'), ("truncate-set1", 't')]
  withOptionSet { letters := "cCdst", long, ordered := true } 1 fun given operands => do
    let deletes := given.has 'd'
    let squeezes := given.has 's'
    let two := deletes == squeezes
    match operands with
    | [] => missingOperand
    | first :: rest =>
      if two && rest.isEmpty then
        let why := if squeezes then "Two strings must be given when both deleting and squeezing repeats."
          else "Two strings must be given when translating."
        misuse s!"missing operand after {shown first}\n{why}"
      else
        let most := if deletes && !squeezes then 0 else 1
        match rest[most]? with
        | some extra =>
          let why := if most = 0 then "\nOnly one string may be given when deleting without squeezing repeats." else ""
          misuse s!"extra operand {shown extra}{why}"
        | none =>
          match replacement given first rest.head? with
          | .error why => complain why
          | .ok r =>
            (TextFilter.eachChar r.step).onOperands none [] fun _ e => complain s!"read error: {e.description}"

/-! ### Numbers before lines -/

/-- Which lines get a number. -/
inductive Numbered
  | all
  | filled
  | none
  | matching (r : Regex)

def Numbered.holds (n : Numbered) (line : String) : Bool :=
  match n with
  | .all => true
  | .filled => !line.isEmpty
  | .none => false
  | .matching r => Regex.isFound {} r line

def Numbered.parse? (text : String) : Option Numbered :=
  match text.toList with
  | ['a'] => some .all
  | ['t'] => some .filled
  | ['n'] => some .none
  | 'p' :: pattern => (Regex.parse {} (String.ofList pattern)).toOption.map .matching
  | _ => Option.none

/-- How lines are numbered: the sections of a page have rules of their own. -/
structure Numbering where
  header : Numbered := .none
  body : Numbered := .filled
  footer : Numbered := .none
  start : Int := 1
  increment : Int := 1
  width : Nat := 6
  separator : String := "\t"
  /-- The letters of the form: to the left, to the right, or filled with zeros. -/
  form : String := "rn"
  continues : Bool := false
  mark : String := "\\:"
  joined : Nat := 1

/-- Where the numbering of lines stands: the rule and the number that hold, and how many empty lines came without a
    number. -/
structure NumberingState where
  rule : Numbered
  number : Int
  empty : Nat := 0

variable (n : Numbering)

def Numbering.text (number : Int) : String :=
  let digits := toString number.natAbs
  let sign := if number < 0 then "-" else ""
  if n.form = "ln" then padRight n.width (sign ++ digits)
  else if n.form = "rz" then sign ++ "".pushn '0' (n.width - sign.length - digits.length) ++ digits
  else padLeft n.width (sign ++ digits)

/-- The rule of the section that a line opens. -/
def Numbering.section? (line : String) : Option Numbered :=
  if n.mark.isEmpty then Option.none
  else if line = n.mark ++ n.mark ++ n.mark then some n.header
  else if line = n.mark ++ n.mark then some n.body
  else if line = n.mark then some n.footer
  else Option.none

def Numbering.step (s : NumberingState) (line : String) : String × NumberingState :=
  match n.section? line with
  | some rule => ("", { s with rule, number := if n.continues then s.number else n.start })
  | Option.none =>
    let isJoined := n.joined ≠ 1 && line.isEmpty && (s.rule matches .all)
    let empty := if isJoined then s.empty + 1 else s.empty
    if s.rule.holds line && (!isJoined || empty = n.joined) then
      (n.text s.number ++ n.separator ++ line, { s with number := s.number + n.increment, empty := 0 })
    else ("".pushn ' ' (n.width + n.separator.length) ++ line, { s with empty })

def Numbering.filter : TextFilter (NumberingState × String) :=
  TextFilter.ofLines '\n' fun s lines =>
    let (texts, s) := TextFilter.each (fun s line => n.step s (TextFilter.bare '\n' line).1) s lines
    (joinEnded '\n' texts, s)

def numberLines : Work Nat :=
  let long := [("body-numbering", 'b'), ("header-numbering", 'h'), ("footer-numbering", 'f'), ("line-increment", 'i'),
    ("number-format", 'n'), ("no-renumber", 'p'), ("number-separator", 's'), ("starting-line-number", 'v'), ("number-width", 'w'),
    ("join-blank-lines", 'l'), ("section-delimiter", 'd')]
  withOptionSet { letters := "b:d:f:h:i:l:n:ps:v:w:", long } 1 fun given operands => do
    let rule (letter : Char) (usual : Numbered) : Option Numbered :=
      ((given.value? letter).map Numbered.parse?).getD (some usual)
    let integer (letter : Char) (usual : Int) : Option Int :=
      ((given.value? letter).map fun text => Script.wholeNumber? false text).getD (some usual)
    let text (letter : Char) : String := shown ((given.value? letter).getD "")
    match rule 'h' .none, rule 'b' .filled, rule 'f' .none with
    | none, _, _ => misuse ("invalid header numbering style: " ++ text 'h')
    | _, none, _ => misuse ("invalid body numbering style: " ++ text 'b')
    | _, _, none => misuse ("invalid footer numbering style: " ++ text 'f')
    | some header, some body, some footer =>
      match integer 'v' 1, integer 'i' 1, integer 'l' 1, integer 'w' 6 with
      | none, _, _, _ => complain ("invalid starting line number: " ++ text 'v')
      | _, none, _, _ => complain ("invalid line number increment: " ++ text 'i')
      | _, _, none, _ => complain ("invalid line number of blank lines: " ++ text 'l')
      | _, _, _, none => complain ("invalid line number field width: " ++ text 'w')
      | some start, some step, some joined, some width =>
        let form := (given.value? 'n').getD "rn"
        if width ≤ 0 then complain ("invalid line number field width: " ++ text 'w' ++ ": Numerical result out of range")
        else if !(["ln", "rn", "rz"].contains form) then misuse s!"invalid line numbering format: {shown form}"
        else
          let n : Numbering :=
            { header, body, footer, start, increment := step, width := width.toNat, separator := (given.value? 's').getD "\t", form
              continues := given.has 'p', joined := joined.toNat
              mark := match given.value? 'd' with
                | none => "\\:"
                | some mark => if mark.length = 1 then mark ++ ":" else mark }
          n.filter.onOperands ({ rule := n.body, number := n.start }, "") operands

/-! ### Lines side by side -/

def readSeparators : List Char → List String
  | [] => []
  | '\\' :: '0' :: rest => "" :: readSeparators rest
  | '\\' :: c :: rest => String.singleton ((Regex.controlEscape? c).getD c) :: readSeparators rest
  | c :: rest => String.singleton c :: readSeparators rest

variable (separators : List String)

/-- Texts with separators between them, which are used in turn. -/
def joinWith : (turn : Nat) → List String → String
  | _, [] => ""
  | _, [last] => last
  | turn, text :: rest =>
    let separator := if separators.isEmpty then "" else (separators[turn % separators.length]?).getD ""
    text ++ separator ++ joinWith (turn + 1) rest

variable (ending : Char)

/-- Opens files. All dashes share the standard input. -/
def openFeeds : (feeds : Array Feed) → (input : Option Nat) → List String → Work (Except (String × OsError) (Array Feed × List Nat))
  | feeds, _, [] => return .ok (feeds, [])
  | feeds, input, operand :: rest => do
    match if operand = "-" then input else none with
    | some index =>
      whenOk (openFeeds feeds input rest) fun (feeds, columns) => return .ok (feeds, index :: columns)
    | none =>
      match ← openOperand operand with
      | .error why => return .error (operand, why)
      | .ok index =>
        let input := if operand = "-" then some feeds.size else input
        whenOk (openFeeds (feeds.push { index, ending }) input rest) fun (all, columns) =>
          return .ok (all, feeds.size :: columns)

def nextRow : (feeds : Array Feed) → List Nat → Work (Except OsError (List (Option String) × Array Feed))
  | feeds, [] => return .ok ([], feeds)
  | feeds, column :: rest => do
    match feeds[column]? with
    | none => return .ok ([], feeds)
    | some feed =>
      whenOk feed.next fun (line, feed) =>
        whenOk (nextRow (feeds.set! column feed) rest) fun (lines, feeds) =>
          return .ok (line.map Prod.fst :: lines, feeds)

def pasteRows (columns : List Nat) :
    (tries : Nat) → (feeds : Array Feed) → (held : String) → Work (Except OsError Unit)
  | 0, _, held => do
    TextFilter.finish held
    return .ok ()
  | tries + 1, feeds, held => do
    match ← nextRow feeds columns with
    | .error why =>
      TextFilter.finish held
      return .error why
    | .ok (lines, feeds) =>
      if lines.all Option.isNone then
        TextFilter.finish held
        return .ok ()
      else
        let row := (joinWith separators 0 (lines.map fun line => line.getD "")).push ending
        pasteRows columns tries feeds (← TextFilter.release (held ++ row))

def paste : Work Nat :=
  let long := [("delimiters", 'd'), ("serial", 's'), ("zero-terminated", 'z')]
  withOptionSet { letters := "d:sz", long } 1 fun given operands => do
    let ending := lineEnding given
    let separators := readSeparators ((given.value? 'd').getD "\t").toList
    let operands := inputs operands
    if given.has 's' then
      forEachText operands fun _ text => do
        print ((joinWith separators 0 (linesOf ending text)).push ending)
        return 0
    else
      match ← openFeeds ending #[] none operands with
      | .error (operand, e) => complainOf operand e
      | .ok (feeds, columns) =>
        match ← pasteRows separators ending columns patience feeds "" with
        | .ok () => return 0
        | .error e => complain (shownFirst (operands.head?.getD "-") ++ ": " ++ e.description)

/-! ### Tabs -/

/-- Where tabs lead: to the multiples of a width, or to the columns of a list. -/
inductive TabStops
  | every (width : Nat)
  | listed (columns : List Nat)

/-- The stop after a column, and whether there is one. -/
def TabStops.next (t : TabStops) (column : Nat) : Nat × Bool :=
  match t with
  | .every width => (column + width - column % width, true)
  | .listed columns =>
    match columns.find? (column < ·) with
    | some stop => (stop, true)
    | none => (column + 1, false)

def TabStops.parse (text : String) : Except String TabStops :=
  let parts := Text.runs (fun c => c != ',' && c != ' ') text.toList
  match parts.mapM Script.number? with
  | none => .error s!"tab size contains invalid character(s): {shown text}"
  | some numbers =>
    if numbers.contains 0 then .error "tab size cannot be 0"
    else
      match numbers with
      | [] => .ok (.every 8)
      | [n] => .ok (.every n)
      | _ => .ok (.listed numbers)

def expandStep (t : TabStops) (leading : Bool) : (Nat × Bool) × List Char → Char → (Nat × Bool) × List Char
  | ((column, atStart), written), c =>
    if c = '\n' then ((0, true), c :: written)
    else if c = '\t' && (!leading || atStart) then
      let stop := (t.next column).1
      ((stop, atStart), List.replicate (stop - column) ' ' ++ written)
    else
      let column := if c = '\x08' then column - 1 else column + 1
      ((column, atStart && (c == ' ' || c == '\t')), c :: written)

def tabArguments (arguments : List String) : List String :=
  arguments.map fun argument =>
    match argument.toList with
    | '-' :: c :: cs => if c.isDigit then "-t" ++ String.ofList (c :: cs) else argument
    | _ => argument

def withTabs (long : List (String × Char)) (letters : String) (work : TabStops → Given → List String → Work Nat) : Work Nat :=
  withArguments tabArguments
    (withOptionSet { letters, long } 1 fun given operands => do
      match TabStops.parse ((given.value? 't').getD "8") with
      | .error why => complain why
      | .ok stops => work stops given operands)

def expandTabs : Work Nat :=
  withTabs [("initial", 'i'), ("tabs", 't')] "it:" fun stops given operands =>
    (TextFilter.eachChar (expandStep stops (given.has 'i'))).onOperands (0, true) operands

/-- A line whose blanks are being replaced by tabs: the blanks that are not written yet, whether one of them stands
    alone before a stop, and whether blanks are still replaced. -/
structure Tabbing where
  column : Nat := 0
  pending : List Char := []
  single : Bool := false
  afterBlank : Bool := true
  replaces : Bool := true
  written : List Char := []

/-- The blanks that are left at the end of a line. -/
def Tabbing.rest (s : Tabbing) : List Char :=
  if 1 < s.pending.length && s.single then '\t' :: s.pending.drop 1 else s.pending

/-- Goes over a character. Blanks up to a stop become a tab. -/
def Tabbing.step (s : Tabbing) (t : TabStops) (whole : Bool) (c : Char) : Tabbing :=
  if !s.replaces then { s with written := c :: s.written }
  else
    let flush (s : Tabbing) (c : Char) (isBlank : Bool) : Tabbing :=
      { s with
        written := c :: (s.rest.reverse ++ s.written), pending := [], single := false, afterBlank := isBlank
        replaces := whole || isBlank }
    if c = ' ' || c = '\t' then
      let (stop, isStop) := t.next s.column
      if !isStop then flush { s with replaces := false } c true |> fun s => { s with replaces := false }
      else if c = '\t' then
        let pending := if s.pending.isEmpty then [] else if s.single then ['\t'] else []
        flush { s with column := stop, pending := pending, single := false } '\t' true
      else
        let column := s.column + 1
        if s.afterBlank && column = stop then
          flush { s with column := column, pending := if s.single then ['\t'] else [], single := false } '\t' true
        else
          { s with column := column, pending := s.pending ++ [' '], single := s.single || column = stop, afterBlank := true }
    else flush { s with column := if c = '\x08' then s.column - 1 else s.column + 1 } c false

def unexpandStep (t : TabStops) (whole : Bool) : Tabbing × List Char → Char → Tabbing × List Char
  | (s, written), c =>
    if c = '\n' then ({}, c :: (s.rest.reverse ++ written))
    else
      let s := s.step t whole c
      ({ s with written := [] }, s.written ++ written)

def unexpandTabs : Work Nat :=
  withTabs [("all", 'a'), ("tabs", 't'), ("first-only", 'Ā')] "at:Ā" fun stops given operands =>
    let whole := given.has 'a' || (given.has 't' && !given.has 'Ā')
    (TextFilter.eachChar (unexpandStep stops whole) fun s => (s.rest, {})).onOperands {} operands

end Utility

end BenchKernel
