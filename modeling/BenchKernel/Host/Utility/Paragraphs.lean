import BenchKernel.Host.Utility.Parts

/-! # Filling paragraphs

Paragraphs are filled so that all their lines together are as good as possible. Lines that start with the same indent
make a paragraph. Where a line is broken has a cost: how far the line is from the length that is aimed at, how much the
next one differs from it, and whether it comes at a good place of a sentence. -/

namespace BenchKernel

namespace Utility

namespace Fill

structure Settings where
  width : Nat := 75
  goal : Nat := 70
  /-- Whether the first two lines may have indents of their own, and whether they must. -/
  crown : Bool := false
  tagged : Bool := false
  split : Bool := false
  /-- Whether there is one blank between words and two after sentences. -/
  uniform : Bool := false
  start : List Char := []
  lead : Nat := 0
  full : Nat := 0

/-- A word, the blanks after it, and how it stands in a sentence. -/
structure Word where
  text : List Char
  space : Nat
  opens : Bool
  period : Bool
  final : Bool
  punct : Bool

/-- A line without its blanks: the indents of its start and of its text, and its words. -/
structure Line where
  lead : Nat
  indent : Nat
  words : List Word
  text : List Char
  ended : Bool
  /-- Whether a tab stands before the text, and whether one stands anywhere. -/
  tabbed : Bool × Bool

/-- Passes over blanks: the column, and the text after them. -/
def skipSpace : (column : Nat) → List Char → Nat × List Char
  | column, ' ' :: rest => skipSpace (column + 1) rest
  | column, '\t' :: rest => skipSpace ((column / 8 + 1) * 8) rest
  | column, cs => (column, cs)

def isOpening (c : Char) : Bool := ['(', '[', '\'', '"'].contains c || c.toNat = 96

def isClosing (c : Char) : Bool := [')', ']', '\'', '"'].contains c

def isPunct (c : Char) : Bool := 33 ≤ c.toNat && c.toNat < 127 && !c.isAlphanum

variable (s : Settings)

/-- The words of a line from a column on. `isLast` says whether the line has no end. -/
def readWords (isLast : Bool) : (fuel : Nat) → (column : Nat) → List Char → List Word
  | 0, _, _ => []
  | fuel + 1, column, cs =>
    let isSpace (c : Char) : Bool := [' ', '\t', '\x0b', '\x0c', '\r'].contains c
    let text := (cs.take 1) ++ (cs.drop 1).takeWhile fun c => !isSpace c
    if text.isEmpty then []
    else
      let column := column + text.length
      let (next, rest) := skipSpace column (cs.drop text.length)
      let core := (text.reverse.dropWhile isClosing).headD (text.headD ' ')
      let period := ['.', '?', '!'].contains core
      let isEnd := rest.isEmpty
      let final := (isEnd && isLast) || (period && (isEnd || 1 < next - column))
      let space := if isEnd || s.uniform then (if final then 2 else 1) else next - column
      let word : Word := {
        text, space, period, final, opens := isOpening (text.headD ' '), punct := isPunct (text.getLast?.getD ' ') }
      word :: readWords isLast fuel next rest

def readLine (ended : Bool) (cs : List Char) : Line :=
  let (column, rest) := skipSpace 0 cs
  let tabbed := ((cs.take (cs.length - rest.length)).contains '\t', cs.contains '\t')
  if s.start.isEmpty then
    { lead := min s.lead column, indent := column, text := rest, ended, tabbed
      words := readWords s (!ended) (rest.length + 1) column rest }
  else
    let common := (s.start.zip rest).takeWhile fun (a, b) => a == b
    let isWhole := common.length = s.start.length
    let after := column + common.length
    let (indent, text) := if isWhole then skipSpace after (rest.drop common.length) else (after, rest.drop common.length)
    { lead := column, indent, text, ended, tabbed
      words := readWords s (!ended) (text.length + 1) indent text }

/-- Whether a line belongs to a paragraph. -/
def isFilled (l : Line) : Bool := !l.text.isEmpty && s.lead ≤ l.lead && l.lead + s.full ≤ l.indent

variable (tabs : Bool)

def spaces (column target : Nat) : List Char :=
  let stop := target / 8 * 8
  if tabs && column + 1 < stop then
    List.replicate (stop / 8 - column / 8) '\t' ++ List.replicate (target - stop) ' '
  else List.replicate (target - column) ' '

def copied (l : Line) : List Char :=
  let isBlank := l.text.isEmpty
  let start :=
    if l.lead < l.indent || !isBlank then
      let before := spaces tabs 0 l.lead
      let mark := s.start.take (l.indent - l.lead)
      let more := if isBlank then [] else spaces tabs (l.lead + mark.length) l.indent
      let last := if isBlank && !l.ended && l.lead + s.start.length ≤ l.indent then ['\n'] else []
      before ++ mark ++ more ++ last
    else []
  start ++ l.text

/-! ### Costs -/

def square (n : Int) : Int := n * n

def shortCost (n : Int) : Int := square (n * 10)

def raggedCost (n : Int) : Int := shortCost n / 2

def startCost (before : Option Word × Option Word) (w : Word) : Int :=
  let base := square 70
  let base := match before with
    | (_, none) => base
    | (earlier, some last) =>
      if last.period then (if last.final then base - square 50 else base + square 600)
      else if last.punct then base - square 40
      else if earlier.any Word.final then base + square 200 / (last.text.length + 2)
      else base
  if w.opens then base - square 40 else if w.final then base + square 150 / (w.text.length + 2) else base

/-- What is known of the best lines from a word on: their cost, how many words are in the first one, and its length. -/
structure Plan where
  cost : Int := 0
  count : Nat := 0
  length : Nat := 0

/-- The best first line from a word on. `plans` are those of the words after it, and `length` is the length of a line
    that has `count` words. -/
def choose : (best : Option Plan) → (count length : Nat) → List Word → List Plan → Plan
  | best, count, length, words, plans =>
    let next := plans.headD {}
    let isLast := words.tail.isEmpty
    let cost : Int :=
      if isLast then 0
      else
        let ragged := if (plans.drop next.count).isEmpty then 0 else raggedCost ((length : Int) - next.length)
        shortCost ((s.goal : Int) - length) + ragged
    let plan : Plan := ⟨cost + next.cost, count, length⟩
    let best := if best.all fun b => plan.cost < b.cost then plan else best.getD plan
    match words with
    | w :: v :: rest =>
      let length := length + w.space + v.text.length
      if length < s.width then choose (some best) (count + 1) length (v :: rest) plans.tail else best
    | _ => best

/-- The best lines from each word on. -/
def plan (other : Nat) : (indent : Nat) → (before : Option Word × Option Word) → List Word → List Plan
  | _, _, [] => []
  | indent, before, w :: rest =>
    let plans := plan other other (before.2, some w) rest
    let best := choose s none 1 (indent + w.text.length) (w :: rest) plans
    { best with cost := best.cost + startCost before w } :: plans

def breakLines : (fuel : Nat) → List Word → List Plan → List (List Word)
  | 0, _, _ => []
  | fuel + 1, words, plans =>
    match plans with
    | [] => []
    | first :: _ => words.take first.count :: breakLines fuel (words.drop first.count) (plans.drop first.count)

def lineText (lead indent : Nat) (words : List Word) : List Char :=
  let start := spaces tabs 0 lead ++ s.start
  let column := lead + s.start.length
  let blanks := spaces tabs column indent
  let (text, _) := (words.dropLast).foldl (fun (text, column) w =>
    let column := column + w.text.length
    (text ++ w.text ++ spaces tabs column (column + w.space), column + w.space)) ([], max column indent)
  start ++ blanks ++ text ++ ((words.getLast?.map Word.text).getD [])

def paragraph (lead first other : Nat) (words : List Word) : String :=
  let closed := words.dropLast ++ (words.getLast?.map fun w => { w with period := true, final := true }).toList
  let plans := plan s other first (none, none) closed
  let lines := breakLines (closed.length + 1) closed plans
  let indents := first :: List.replicate lines.length other
  joinEnded '\n' ((lines.zip indents).map fun (words, indent) => String.ofList (lineText s tabs lead indent words))

/-- How many lines follow in the paragraph, and their indent. -/
def extent (otherBefore : Nat) (first : Line) (rest : List Line) : Nat × Nat :=
  let isSame (l : Line) : Bool := isFilled s l && l.lead = first.lead
  let following (indent : Nat) (lines : List Line) : Nat := (lines.takeWhile fun l => isSame l && l.indent = indent).length
  let second := rest.head?.filter isSame
  if s.split then (0, first.indent)
  else if s.crown then
    match second with
    | some l => (1 + following l.indent (rest.drop 1), l.indent)
    | none => (0, first.indent)
  else if s.tagged then
    match second.filter fun l => l.indent != first.indent with
    | some l => (1 + following l.indent (rest.drop 1), l.indent)
    | none => (0, if otherBefore = first.indent then (if first.indent = 0 then 3 else 0) else otherBefore)
  else (following first.indent rest, first.indent)

/-- Fills the paragraphs of lines. Tabs are used for blanks from the first one on that was read. -/
def fillLines : (fuel : Nat) → (tabs : Bool) → (other : Nat) → List Line → String
  | 0, _, _, _ => ""
  | _ + 1, _, _, [] => ""
  | fuel + 1, tabs, other, l :: rest =>
    if !isFilled s l then
      let tabs := tabs || l.tabbed.1
      let text := String.ofList (copied s tabs l)
      (if l.ended then text ++ "\n" else text) ++ fillLines fuel tabs other rest
    else
      let (count, other) := extent s other l rest
      let lines := l :: rest.take count
      let after := rest.drop count
      let tabs := tabs || (lines.any fun l => l.tabbed.2) || after.head?.any fun l => l.tabbed.1
      paragraph s tabs l.lead l.indent other (lines.flatMap Line.words) ++ fillLines fuel tabs other after

def fillText (text : String) : String :=
  let lines := (endedLines '\n' text).map fun line =>
    let cs := line.toList
    if cs.getLast? = some '\n' then readLine s true cs.dropLast else readLine s false cs
  fillLines s (lines.length + 1) false 0 lines

def withSizes (width goal : Option Nat) : Settings :=
  match width, goal with
  | some width, some goal => { s with width, goal }
  | some width, none => { s with width, goal := width * 187 / 200 }
  | none, some goal => { s with width := goal + 10, goal }
  | none, none => s

/-- Lines count only if they start with a text. -/
def withStart (text : String) : Settings :=
  let cs := text.toList
  let body := cs.dropWhile (· = ' ')
  { s with lead := cs.length - body.length, full := body.length, start := (body.reverse.dropWhile (· = ' ')).reverse }

def greatestWidth : Nat := 2500

def readSize (what : String) (most : Nat) (text : String) : Except String Nat :=
  match Script.number? text.toList with
  | some n => if n ≤ most then .ok n else .error s!"invalid {what}: {shown text}: Numerical result out of range"
  | none => .error s!"invalid {what}: {shown text}"

def options : OptionSet :=
  { letters := "cstuw:g:p:"
    long := [("crown-margin", 'c'), ("goal", 'g'), ("prefix", 'p'), ("split-only", 's'), ("tagged-paragraph", 't'),
      ("uniform-spacing", 'u'), ("width", 'w')] }

def ofOptions (given : Given) : Except String Settings := do
  let width ← (given.value? 'w').mapM (readSize "width" greatestWidth)
  let goal ← (given.value? 'g').mapM (readSize "width" (width.getD 75))
  let s := withSizes {} width goal
  let s := { s with
    crown := given.has 'c', tagged := given.has 't', split := given.has 's', uniform := given.has 'u' }
  return ((given.value? 'p').map (withStart s)).getD s

def fullArguments (arguments : List String) : List String :=
  match arguments with
  | first :: rest =>
    match first.toList with
    | '-' :: c :: cs => if c.isDigit then "-w" :: String.ofList (c :: cs) :: rest else arguments
    | _ => arguments
  | [] => []

end Fill

def fillParagraphs : Work Nat := do
  let arguments := Fill.fullArguments (← read).arguments
  match Fill.options.read arguments with
  | .error why => misuse why
  | .ok (given, operands) =>
    match Fill.ofOptions given with
    | .error why => complain why
    | .ok s =>
      forEach (inputs operands) fun operand => do
        match ← content operand with
        | .error e => complain s!"cannot open {shown operand} for reading: {e.description}"
        | .ok text =>
          print (Fill.fillText s text)
          return 0

end Utility

end BenchKernel
