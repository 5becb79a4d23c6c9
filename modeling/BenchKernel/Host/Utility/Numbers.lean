import BenchKernel.Host.Regex
import BenchKernel.Host.Utility.Order

/-! # Programs that compute

Expressions, sequences of numbers, factors, and the counts of what is in files. -/

namespace BenchKernel

namespace Utility

/-! ### Expressions -/

namespace Expression

def unsigned (text : String) : List Char := if text.startsWith "-" then text.toList.drop 1 else text.toList

def isInteger (text : String) : Bool := !(unsigned text).isEmpty && (unsigned text).all Char.isDigit

def integer (text : String) : Except String Int :=
  if !isInteger text then .error "non-integer argument"
  else
    let n : Int := (Script.number? (unsigned text)).getD 0
    .ok (if text.startsWith "-" then -n else n)

/-- Whether a value counts as false: nothing, or a zero. -/
def isNull (text : String) : Bool :=
  text.isEmpty || (!(unsigned text).isEmpty && (unsigned text).all (· == '0'))

structure Reading where
  before : String := ""
  rest : List String

abbrev Read := StateT Reading (Except String)

def syntaxFault {α : Type} (why : String) : Read α := throw s!"syntax error: {why}"

/-- Takes the next argument if it is one of some texts. -/
def accept (texts : List String) : Read (Option String) := do
  let s ← get
  match s.rest with
  | text :: rest =>
    if texts.contains text then
      set { before := text, rest := rest : Reading }
      return some text
    else return none
  | [] => return none

def take : Read String := do
  let s ← get
  let text := s.rest.head?.getD ""
  set { before := text, rest := s.rest.tail : Reading }
  return text

def requireMore : Read Unit := do
  let s ← get
  if s.rest.isEmpty then syntaxFault s!"missing argument after {plainlyShown s.before}"

/-- Matches a text at its start: the group, or how long the match is. -/
def matchStart (text pattern : String) : Except String String := do
  let r ← (Regex.parse {} pattern).mapError fun _ => "Invalid regular expression"
  let cs := text.toList.toArray
  match Regex.matchAt? { exact := Regex.asksAgain r } r cs 0 with
  | some m => return if 0 < Regex.groupCount r then String.ofList (m.group cs 1) else toString m.stop
  | none => return if 0 < Regex.groupCount r then "" else "0"

def part (text position length : String) : String :=
  match integer position, integer length with
  | .ok from', .ok count =>
    if from' ≤ 0 || count ≤ 0 then "" else String.ofList ((text.toList.drop (from'.toNat - 1)).take count.toNat)
  | _, _ => ""

def arithmetic (operator : String) (a b : String) : Except String String := do
  let x ← integer a
  let y ← integer b
  match operator with
  | "+" => return toString (x + y)
  | "-" => return toString (x - y)
  | "*" => return toString (x * y)
  | _ =>
    if y = 0 then throw "division by zero"
    else return toString (if operator = "/" then x.tdiv y else x.tmod y)

/-- Compares numbers as such, and other texts as texts. -/
def comparison (operator : String) (a b : String) : Bool :=
  let order :=
    match integer a, integer b with
    | .ok x, .ok y => compare x y
    | _, _ => compare a b
  match operator with
  | "<" => order == .lt
  | "<=" => order != .gt
  | "=" | "==" => order == .eq
  | "!=" => order != .eq
  | ">=" => order != .lt
  | _ => order == .gt

/-- The operators, from the weakest on. -/
def levels : List (List String) :=
  [["|"], ["&"], ["<", "<=", "=", "==", "!=", ">=", ">"], ["+", "-"], ["*", "/", "%"], [":"]]

def join (needed : Bool) (operator a b : String) : Except String String :=
  match operator with
  | "|" => .ok (if isNull a then (if isNull b then "0" else b) else a)
  | "&" => .ok (if isNull a || isNull b then "0" else a)
  | ":" => if needed then matchStart a b else .ok a
  | "+" | "-" | "*" | "/" | "%" => if needed then arithmetic operator a b else .ok a
  | _ => .ok (if comparison operator a b then "1" else "0")

mutual

/-- Reads operators of a level. What is not needed is read, but not computed. -/
def readLevel : Nat → (needed : Bool) → List (List String) → Read String
  | 0, _, _ => throw "too deep"
  | n + 1, needed, [] => readWord n needed
  | n + 1, needed, operators :: levels => do
    let first ← readLevel n needed levels
    readMore n needed operators levels first

def readMore : Nat → (needed : Bool) → List String → List (List String) → String → Read String
  | 0, _, _, _, _ => throw "too deep"
  | n + 1, needed, operators, levels, first => do
    match ← accept operators with
    | none => return first
    | some operator =>
      let isSettled := (operator = "|" && !isNull first) || (operator = "&" && isNull first)
      let second ← readLevel n (needed && !isSettled) levels
      readMore n needed operators levels (← join needed operator first second)

def readWord : Nat → (needed : Bool) → Read String
  | 0, _ => throw "too deep"
  | n + 1, needed => do
    match ← accept ["+", "length", "match", "index", "substr"] with
    | some "+" =>
      requireMore
      take
    | some "length" => return toString (← readWord n needed).length
    | some "match" =>
      let text ← readWord n needed
      let pattern ← readWord n needed
      if needed then matchStart text pattern else return text
    | some "index" =>
      let text ← readWord n needed
      let set ← readWord n needed
      return toString (((text.toList.findIdx? set.toList.contains).map (· + 1)).getD 0)
    | some _ =>
      let text ← readWord n needed
      let position ← readWord n needed
      let length ← readWord n needed
      return part text position length
    | none => readSingle n needed

def readSingle : Nat → (needed : Bool) → Read String
  | 0, _ => throw "too deep"
  | n + 1, needed => do
    requireMore
    match ← accept ["(", ")"] with
    | some "(" =>
      let value ← readLevel n needed levels
      let s ← get
      match s.rest with
      | [] => syntaxFault s!"expecting ')' after {plainlyShown s.before}"
      | text :: _ =>
        if text != ")" then syntaxFault s!"expecting ')' instead of {plainlyShown text}"
        let _ ← accept [")"]
        return value
    | some _ => syntaxFault "unexpected ')'"
    | none => take

end

def value (arguments : List String) : Except String String := do
  let (result, left) ← (readLevel (16 * arguments.length + 16) true levels).run { rest := arguments }
  match left.rest with
  | [] => return result
  | text :: _ => throw s!"syntax error: unexpected argument {plainlyShown text}"

end Expression

def expression : Work Nat := do
  let arguments := (← read).arguments
  match if arguments.head? = some "--" then arguments.tail else arguments with
  | [] => misuseWith 2 "missing operand"
  | arguments =>
    match Expression.value arguments with
    | .error why => failWith 2 why
    | .ok result =>
      print s!"{result}\n"
      return if Expression.isNull result then 1 else 0

/-! ### Sequences -/

namespace Sequence

/-- A number with how it was written: its value as a quotient, the digits after its point, and its width. -/
structure Operand where
  value : Int × Nat
  places : Nat
  width : Int

/-- Reads a number and how it is written. -/
def operand? (text : String) : Option Operand := do
  let cs := text.toList.dropWhile Script.isSpace
  let cs := if cs.head? = some '+' then cs.drop 1 else cs
  let negative := cs.head? = some '-'
  let body := if negative then cs.drop 1 else cs
  if Number.startsWithWord "0x" body then
    let (v, rest) ← Number.binary80.read? cs
    guard rest.isEmpty
    let .finite _ significand exponent := v | none
    let (n, d) := Number.fractionOf significand exponent
    return ⟨(if negative then -n else n, d), 0, cs.length⟩
  else
    let (digits, places, rest) ← Number.readPointed? 10 body
    let (exponent, left) := Number.readExponent 'e' rest
    guard left.isEmpty
    guard (exponent.natAbs < 5000)
    let shift := exponent - Int.ofNat places
    let n : Int := if negative then -digits else digits
    let value := if 0 ≤ shift then (n * Number.tenPow shift.toNat, 1) else (n, Number.tenPow (-shift).toNat)
    let hasPoint := body.contains '.'
    let bare := body.head? = some '.'
    let pointWidth : Int := if hasPoint then (if places = 0 then -1 else if bare then 1 else 0) else 0
    let mantissa : Int := cs.length - rest.length
    let left := (places : Int) - exponent
    let width :=
      if exponent < 0 then mantissa + pointWidth - exponent
      else if exponent = 0 then mantissa + pointWidth
      else mantissa + pointWidth + max 0 (exponent - places) - (if hasPoint && (places : Int) ≤ exponent && 0 < places then 1 else 0)
    return ⟨value, left.toNat, width⟩

def plus (a b : Int × Nat) : Int × Nat := if a.2 = b.2 then (a.1 + b.1, a.2) else (a.1 * b.2 + b.1 * a.2, a.2 * b.2)

def bound : Nat := 1000000000000000

def count (first step last : Int × Nat) : Nat :=
  let distance := plus last (-first.1, first.2)
  let n := distance.1 * step.2
  let d := step.1 * distance.2
  if d = 0 then 0
  else
    let quotient := n.fdiv d
    if quotient < 0 then 0 else min bound (quotient.toNat + 1)

def text (places : Nat) (width : Nat) (v : Int × Nat) : String :=
  let digits := Number.fixedDigits places v.1.natAbs v.2
  let sign := if v.1 < 0 then "-" else ""
  sign ++ "".pushn '0' (width - sign.length - digits.length) ++ digits

/-- A format with one directive: what stands before it, and after it. -/
def readFormat (format : String) : Except String (String × Script.Directive × String) :=
  let pieces := Script.readFormat { hex := true } (format.length + 1) format.toList
  let directives := pieces.filterMap fun
    | .directive d => some d
    | _ => none
  let isBad := pieces.findSome? fun
    | .bad text _ => some text
    | _ => none
  let chars (ps : List Script.FormatPiece) : String := String.ofList (ps.filterMap fun
    | .char c => some c
    | _ => none)
  let isDirective (p : Script.FormatPiece) : Bool := p matches .directive _
  let unknown (letter : Char) : String := s!"format {shown format} has unknown %{letter} directive"
  match isBad, directives with
  | some text, _ =>
    .error (if text = "%" then s!"format {shown format} ends in %" else unknown (text.toList.getLast?.getD '%'))
  | none, [] => .error s!"format {shown format} has no % directive"
  | none, [d] =>
    if Script.floatKinds.contains d.kind then
      .ok (chars (pieces.takeWhile (!isDirective ·)), d, chars (pieces.dropWhile (!isDirective ·)))
    else .error (unknown d.kind)
  | none, d :: _ =>
    if Script.floatKinds.contains d.kind then .error s!"format {shown format} has too many % directives"
    else .error (unknown d.kind)

def formatted (before : String) (d : Script.Directive) (after : String) (v : Int × Nat) : String :=
  let size : Option Script.Size → Option Nat
    | some (.fixed n) => some n
    | _ => none
  let value := Number.binary80.ofFraction (v.1 < 0) v.1.natAbs v.2
  let text := Script.writeFloat Number.binary80 d.flags (d.flags.contains '-') ((size d.width).getD 0) (size d.precision) d.kind value
  before ++ String.ofList text ++ after

def isEndless (text : String) : Bool :=
  let cs := text.toList.map Char.toLower
  ["inf", "+inf", "infinity", "+infinity"].contains (String.ofList cs)

def atOnce : Nat := 500

/-- Prints numbers in parts, for a sequence may have no end. -/
def printFrom (text : Nat → String) (separator : String) : (parts : Nat) → (first count : Nat) → Work Unit
  | 0, _, _ => return
  | parts + 1, first, count => do
    let lines := (List.range' first (min atOnce count)).map text
    let isLast := count ≤ atOnce
    print (separator.intercalate lines ++ (if isLast then "\n" else separator))
    if !isLast then printFrom text separator parts (first + atOnce) (count - atOnce)

end Sequence

def isSignedNumber (text : String) : Bool :=
  match text.toList with
  | '-' :: c :: _ => c.isDigit || c == '.'
  | _ => false

/-- Arguments with a mark before the first negative number. -/
def sequenceArguments : List String → List String
  | [] => []
  | [text] => if isSignedNumber text then ["--", text] else [text]
  | text :: next :: rest =>
    if isSignedNumber text then "--" :: text :: next :: rest
    else if ["-f", "-s", "--format", "--separator"].contains text then text :: next :: sequenceArguments rest
    else if text != "-" && text != "--" && text.toList.head? = some '-' then text :: sequenceArguments (next :: rest)
    else text :: next :: rest

def sequence : Work Nat := do
  let long := [("format", 'f'), ("separator", 's'), ("equal-width", 'w')]
  withArguments sequenceArguments
    (withOptionSet { letters := "f:s:w", long, ordered := true } 1 fun given operands => do
      match operands with
      | [] => missingOperand
      | _ :: _ :: _ :: extra :: _ => extraOperand extra
      | _ =>
        let texts :=
          match operands with
          | [last] => ["1", "1", last]
          | [first, last] => [first, "1", last]
          | _ => operands
        let isEndless := (texts.getLast?.map Sequence.isEndless).getD false
        let texts := if isEndless then texts.dropLast ++ ["0"] else texts
        match texts.find? fun text => (Sequence.operand? text).isNone with
        | some text =>
          if Number.startsWithWord "nan" text.toList then misuse s!"invalid 'not-a-number' argument: {shown text}"
          else if Number.startsWithWord "inf" text.toList then return 0
          else misuse s!"invalid floating point argument: {shown text}"
        | none =>
          match texts.filterMap Sequence.operand? with
          | [first, step, last] =>
            if step.value.1 = 0 then misuse ("invalid Zero increment value: " ++ shown ((texts[1]?).getD ""))
            else
              let places := max first.places step.places
              let width (o : Sequence.Operand) : Int := o.width + ((places : Int) - o.places)
              let firstWidth := width first + (if first.places = 0 && 0 < places then 1 else 0)
              let lastWidth :=
                width last + (if last.places = 0 && 0 < places then 1 else 0) - (if 0 < last.places && places = 0 then 1 else 0)
              let shownWidth := if given.has 'w' then (max firstWidth lastWidth).toNat else 0
              let value (i : Nat) : Int × Nat := Sequence.plus first.value (step.value.1 * i, step.value.2)
              let count := if isEndless && 0 < step.value.1 then Sequence.bound else Sequence.count first.value step.value last.value
              let finish (text : Int × Nat → String) : Work Nat := do
                if 0 < count then
                  Sequence.printFrom (fun i => text (value i)) ((given.value? 's').getD "\n") (count / Sequence.atOnce + 1) 0 count
                return 0
              match given.value? 'f' with
              | none => finish (Sequence.text places shownWidth)
              | some format =>
                match Sequence.readFormat format with
                | .error why => complain why
                | .ok (before, d, after) => finish (Sequence.formatted before d after)
          | _ => return 0)

/-! ### Factors -/

/-- The prime factors of a number from a divisor on. -/
def factorsFrom : (fuel : Nat) → (divisor n : Nat) → List Nat
  | 0, _, n => if 1 < n then [n] else []
  | fuel + 1, divisor, n =>
    if n ≤ 1 then []
    else if n < divisor * divisor then [n]
    else if n % divisor = 0 then divisor :: factorsFrom fuel divisor (n / divisor)
    else factorsFrom fuel (divisor + (if divisor = 2 then 1 else 2)) n

def printFactors (word : String) : Work Nat := do
  let digits := (word.toList.dropWhile (· == ' ')).dropWhile (· == '+')
  match Script.number? digits with
  | none => complain s!"{shown word} is not a valid positive integer"
  | some n =>
    print (s!"{n}:" ++ String.join ((factorsFrom 2000000 2 n).map fun f => s!" {f}") ++ "\n")
    return 0

def factor : Work Nat := withOptionSet { letters := "h", long := [("exponents", 'h')] } 1 fun _ operands => do
  if !operands.isEmpty then forEach operands printFactors
  else
    match (← read).numbers.lookup 0 with
    | none => return 0
    | some index =>
      let result ← ({ index } : Feed).forEach (fun status line => do
        return .yield (max status (← forEach (Text.words line.1) printFactors))) patience 0
      return result.toOption.getD 1

/-! ### Counts -/

/-- What `wc` counts. -/
structure Counts where
  lines : Nat := 0
  words : Nat := 0
  chars : Nat := 0
  bytes : Nat := 0
  longest : Nat := 0

namespace Counts

def add (a b : Counts) : Counts :=
  ⟨a.lines + b.lines, a.words + b.words, a.chars + b.chars, a.bytes + b.bytes, max a.longest b.longest⟩

def countWords (cs : List Char) : Nat :=
  (cs.foldl (fun (state : Nat × Bool) c =>
    if Script.isSpace c then (state.1, false)
    else if 32 < c.toNat && c.toNat < 127 && !state.2 then (state.1 + 1, true)
    else state) (0, false)).1

def longestLine (cs : List Char) : Nat :=
  (cs.foldl (fun (state : Nat × Nat) c =>
    if c = '\n' || c = '\r' || c = '\x0c' then (max state.1 state.2, 0)
    else if c = '\t' then (state.1, state.2 + 8 - state.2 % 8)
    else if 32 ≤ c.toNat && c.toNat < 127 then (state.1, state.2 + 1)
    else state) (0, 0)) |> fun state => max state.1 state.2

def ofText (text : String) : Counts :=
  let cs := text.toList
  { lines := cs.count '\n', words := countWords cs, chars := cs.length, bytes := cs.length, longest := longestLine cs }

def chosen (c : Counts) (given : Given) : List Nat :=
  let letters := given.map Prod.fst
  if letters.isEmpty then [c.lines, c.words, c.bytes]
  else
    [('l', c.lines), ('w', c.words), ('m', c.chars), ('c', c.bytes), ('L', c.longest)].filterMap fun (letter, n) =>
      if letters.contains letter then some n else none

end Counts

/-- The size of a file, if it is there and has one. -/
def fileSize? (operand : String) : Work (Option (Option Nat)) := do
  let call ← read
  let m ← get
  let ofNode (node : Node) : Option Nat :=
    match node with
    | .file content _ => some content.size
    | .program _ => some 0
    | _ => none
  if operand = "-" then
    match (call.numbers.lookup 0).bind fun index => m.openFiles[index]? with
    | some { channel := .file place, .. } => return some ((m.files.get? place).bind ofNode)
    | some { channel := .nameless index, .. } => return some ((m.nameless[index]?).map ByteArray.size)
    | _ => return some none
  else
    match ← find operand with
    | .ok node => return some (ofNode node)
    | .error _ => return none

/-- The width of all columns, which is guessed from sizes. -/
def countsWidth (sizes : List (Option (Option Nat))) : Nat :=
  let found := sizes.filterMap id
  let total := (found.filterMap id).foldl (· + ·) 0
  let least := if found.any Option.isNone then 7 else 1
  max least (toString total).length

def countAll : Work Nat :=
  let long := [("bytes", 'c'), ("chars", 'm'), ("lines", 'l'), ("max-line-length", 'L'), ("words", 'w')]
  withOptionSet { letters := "clLmw", long } 1 fun given operands => do
    let names := inputs operands
    let sizes ← names.mapM fileSize?
    let single := names.length = 1 && ((({} : Counts).chosen given).length = 1)
    let width := if single then 1 else countsWidth sizes
    let line (c : Counts) (name : String) : String :=
      " ".intercalate ((c.chosen given).map fun n => padLeft width (toString n)) ++ name ++ "\n"
    let results ← names.mapM fun name => do
      let label := if operands.isEmpty then "" else " " ++ shownFirst name
      match ← content name with
      | .ok text =>
        let counts := Counts.ofText text
        print (line counts label)
        return (0, counts)
      | .error e =>
        let status ← complainOf name e
        if e = .isDirectory then print (line {} label)
        return (status, {})
    if 1 < names.length then print (line (results.foldl (fun total entry => total.add entry.2) {}) " total")
    return (results.map Prod.fst).foldl max 0

end Utility

end BenchKernel
