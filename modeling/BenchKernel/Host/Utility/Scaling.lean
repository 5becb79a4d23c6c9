import BenchKernel.Host.Utility.Order

/-! # Numbers with units

Numbers are read with letters for powers of a thousand, or of 1024, and written so. -/

namespace BenchKernel

namespace Utility

namespace Scaling

/-- Which units numbers have. -/
inductive Scale
  | none
  | auto
  | si
  | iec
  | iecI
  deriving DecidableEq, Repr

def scaleNames : List (String × Scale) := [("none", .none), ("auto", .auto), ("si", .si), ("iec", .iec), ("iec-i", .iecI)]

def writtenNames : List (String × Scale) := scaleNames.filter fun entry => entry.2 != .auto

def Scale.base : Scale → Nat
  | iec | iecI => 1024
  | _ => 1000

/-- Which way numbers are rounded. -/
inductive Round
  | up
  | down
  | fromZero
  | towardsZero
  | nearest
  deriving DecidableEq, Repr

def roundNames : List (String × Round) :=
  [("up", .up), ("down", .down), ("from-zero", .fromZero), ("towards-zero", .towardsZero), ("nearest", .nearest)]

/-- What to do with what is no number. -/
inductive Invalid
  | abort
  | fail
  | warn
  | ignore
  deriving DecidableEq, Repr

def invalidNames : List (String × Invalid) := [("abort", .abort), ("fail", .fail), ("warn", .warn), ("ignore", .ignore)]

structure Settings where
  source : Scale := .none
  target : Scale := .none
  sourceUnit : Nat := 1
  targetUnit : Nat := 1
  round : Round := .fromZero
  suffix : String := ""
  padding : Nat := 0
  left : Bool := false
  zeros : Nat := 0
  precision : Option Nat := none
  before : String := ""
  after : String := ""
  fields : Ranges := [(1, some 1)]
  delimiter : Option Char := none
  header : Nat := 0
  invalid : Invalid := .abort
  ending : Char := '\n'

def letters : List Char := ['K', 'M', 'G', 'T', 'P', 'E', 'Z', 'Y', 'R', 'Q']

/-! ### Reading -/

def mostDigits : Nat := 33

inductive DigitFault
  | none
  | tooMany
  deriving DecidableEq, Repr

/-- Reads a number: its value, its places, and the text after it. -/
def readDecimal (cs : List Char) : Except DigitFault (Rat × Nat × List Char) :=
  let negative := cs.head? = some '-'
  let cs := if negative then cs.drop 1 else cs
  let whole := cs.takeWhile Char.isDigit
  let rest := cs.drop whole.length
  let (part, rest, isCut) := match rest with
    | '.' :: more =>
      let part := more.takeWhile Char.isDigit
      (part, more.drop part.length, part.isEmpty)
    | _ => ([], rest, whole.isEmpty)
  if isCut then .error .none
  else if mostDigits < (whole.dropWhile (· = '0')).length || mostDigits < (part.dropWhile (· = '0')).length then .error .tooMany
  else
    let value : Rat := (Number.foldDigits 10 (whole ++ part) : Nat) / (Number.tenPow part.length : Nat)
    .ok (if negative then -value else value, part.length, rest)

def lacking (text : String) : String := s!"missing 'i' suffix in input: {shown text} (e.g Ki/Mi/Gi)"

variable (s : Settings)

def readNumber (text : String) : Except String (Rat × Nat) :=
  match readDecimal text.toList with
  | .error .none => .error s!"invalid number: {shown text}"
  | .error .tooMany => .error s!"value too large to be converted: {shown text}"
  | .ok (value, places, rest) =>
    match rest.dropWhile fun c => c = ' ' || c = '\t' with
    | [] =>
      if !rest.isEmpty then .error s!"invalid suffix in input: {shown text}"
      else if s.source = .iecI then .error (lacking text)
      else .ok (value, places)
    | letter :: rest =>
      match letters.idxOf? letter with
      | none => .error s!"invalid suffix in input: {shown text}"
      | some index =>
        if s.source = .none then .error s!"rejecting suffix in input: {shown text} (consider using --from)"
        else
          let hasI := rest.head? = some 'i'
          if s.source = .iecI && !hasI then .error (lacking text)
          else
            let takesI := hasI && (s.source = .auto || s.source = .iecI)
            let base := if s.source = .auto && hasI then 1024 else s.source.base
            let rest := if takesI then rest.drop 1 else rest
            if rest.isEmpty then .ok (value * (Nat.pow base (index + 1) : Nat), 0)
            else .error s!"invalid suffix in input {shown text}: {shown (String.ofList rest)}"

/-! ### Writing -/

def magnitude (value : Rat) : Rat := if value < 0 then -value else value

def Round.apply (r : Round) (value : Rat) : Rat :=
  let rounded : Int := match r with
    | .up => value.ceil
    | .down => value.floor
    | .fromZero => if value < 0 then value.floor else value.ceil
    | .towardsZero => if value < 0 then value.ceil else value.floor
    | .nearest => if value < 0 then (value - 1 / 2).ceil else (value + 1 / 2).floor
  rounded

def roundTo (r : Round) (places : Nat) (value : Rat) : Rat :=
  let factor : Rat := (Number.tenPow places : Nat)
  r.apply (value * factor) / factor

def fixedText (zeros places : Nat) (value : Rat) : String :=
  let text := Number.fixedDigits places value.num.natAbs value.den
  let sign := if value < 0 then "-" else ""
  sign ++ "".pushn '0' (zeros - sign.length - text.length) ++ text

/-- Divides by a base until the value is below it, and counts. -/
def reduce (base : Nat) : (fuel : Nat) → Rat → Rat × Nat
  | 0, value => (value, 0)
  | fuel + 1, value =>
    if magnitude value < (base : Rat) then (value, 0)
    else
      let (value, power) := reduce base fuel (value / (base : Rat))
      (value, power + 1)

def writeNumber (places : Nat) (value : Rat) : String :=
  if s.target = .none then
    let places := s.precision.getD places
    fixedText s.zeros places (roundTo s.round places value)
  else
    let base := s.target.base
    let (value, power) := reduce base 40 value
    let adjust := match s.precision with
      | some n => min (power * 3) n
      | none => if magnitude value < 10 then 1 else 0
    let value := roundTo s.round adjust value
    let (value, power) := if magnitude value < (base : Rat) then (value, power) else (value / (base : Rat), power + 1)
    let isPointed := value != 0 && magnitude value < 10 && 0 < power
    let letter := if power = 0 then "" else ((letters[power - 1]?).map String.singleton).getD "(error)"
    fixedText s.zeros (s.precision.getD (if isPointed then 1 else 0)) value ++ letter ++
      (if s.target = .iecI && 0 < power then "i" else "")

def plainDigits : Nat := 18

def roughText (value : Rat) : String :=
  (if value < 0 then "-" else "") ++ Number.generalDigits false 6 value.num.natAbs value.den

def write (places : Nat) (value : Rat) : Except String String :=
  let used := s.precision.getD places
  let (_, power) := reduce 10 400 value
  if s.target = .none && plainDigits < power + used then
    if used = 0 then .error s!"value too large to be printed: '{roughText value}' (consider using --to)"
    else
      .error s!"value/precision too large to be printed: '{roughText value}/{used}' (consider using --to)"
  else if mostDigits - 1 < power then
    .error s!"value too large to be printed: '{roughText value}' (cannot handle values > 999Q)"
  else .ok (writeNumber s places value ++ s.suffix)

/-! ### Lines -/

def withoutSuffix (text : String) : String :=
  let suffix := s.suffix.toList
  let cs := text.toList
  if !suffix.isEmpty && suffix.length < cs.length && suffix.isSuffixOf cs then String.ofList (cs.take (cs.length - suffix.length)) else text

def changeField (number : Nat) (field : String) : Except String String := do
  let text := withoutSuffix s field
  let body := text.toList.dropWhile fun c => c = ' ' || c = '\t'
  let isIndented := body.length < text.length
  let (value, places) ← readNumber s (String.ofList body)
  let value := value * (s.sourceUnit : Rat) / (s.targetUnit : Rat)
  let written ← write s places value
  let isAuto := s.padding = 0 && s.delimiter.isNone
  let padding := if isAuto && (isIndented || 1 < number) then text.length else s.padding
  return s.before ++ (if s.left then padRight padding written else padLeft padding written) ++ s.after

/-- The fields of a line. Blanks before a field belong to it. -/
def splitFields (delimiter : Option Char) : (fuel : Nat) → List Char → List String
  | 0, cs => [String.ofList cs]
  | fuel + 1, cs =>
    let isGap (c : Char) : Bool := match delimiter with
      | some d => c = d
      | none => c = ' ' || c = '\t' || c = '\n'
    let lead := if delimiter.isSome then [] else cs.takeWhile isGap
    let field := lead ++ (cs.drop lead.length).takeWhile fun c => !isGap c
    match cs.drop field.length with
    | [] => [String.ofList field]
    | _ :: rest => String.ofList field :: splitFields delimiter fuel rest

inductive Outcome
  | good
  | bad
  | ended
  deriving DecidableEq, Repr

def Outcome.with : Outcome → Outcome → Outcome
  | good, other => other
  | bad, good => bad
  | bad, other => other
  | ended, _ => ended

def printFields : (number : Nat) → List String → Work Outcome
  | _, [] => return .good
  | number, field :: rest => do
    let gap := if rest.isEmpty then "" else String.singleton (s.delimiter.getD ' ')
    if !s.fields.holds number then
      print (field ++ gap)
      printFields (number + 1) rest
    else
      match changeField s number field with
      | .ok text =>
        print (text ++ gap)
        printFields (number + 1) rest
      | .error why =>
        if s.invalid != .ignore then
          let _ ← complain why
        if s.invalid = .abort then return .ended
        print (withoutSuffix s field ++ gap)
        return Outcome.with .bad (← printFields (number + 1) rest)

def printLine (line : String × Bool) : Work Outcome := do
  let outcome ← printFields s 1 (splitFields s.delimiter line.1.length line.1.toList)
  if outcome != .ended && line.2 then print (String.singleton s.ending)
  return outcome

def printTexts (texts : List String) : Work Outcome :=
  texts.foldlM (fun outcome text => do
    if outcome = .ended then return outcome
    return outcome.with (← printLine s (text, true))) .good

def printInput : Work Outcome := do
  match (← read).numbers.lookup 0 with
  | none => return .good
  | some index =>
    let result ← ({ index, ending := s.ending } : Feed).forEach (fun (number, outcome) line => do
      if number < s.header then
        print (if line.2 then line.1.push s.ending else line.1)
        return .yield (number + 1, outcome)
      else
        let outcome := outcome.with (← printLine s line)
        return if outcome = .ended then .done (number, outcome) else .yield (number + 1, outcome)) patience (0, Outcome.good)
    match result with
    | .ok (_, outcome) => return outcome
    | .error e =>
      let _ ← complain s!"error reading input: {e.description}"
      return .ended

/-! ### Options -/

/-- How much stands before a directive, and what comes after its sign. -/
def untilPercent : List Char → Nat × Option (List Char)
  | [] => (0, none)
  | '%' :: '%' :: rest =>
    let (count, found) := untilPercent rest
    (count + 1, found)
  | '%' :: rest => (0, some rest)
  | _ :: rest =>
    let (count, found) := untilPercent rest
    (count + 1, found)

def readPlaces (format : String) (rest : List Char) : Except String (Option Nat × List Char) :=
  match rest with
  | '.' :: more =>
    let digits := more.takeWhile Char.isDigit
    match more.drop digits.length with
    | '-' :: _ | '+' :: _ | ' ' :: _ | '\t' :: _ => .error s!"invalid precision in format {shown format}"
    | after => .ok (some ((Script.number? digits).getD 0), after)
  | _ => .ok (none, rest)

def readFormat (format : String) : Except String Settings := do
  match untilPercent format.toList with
  | (_, none) => throw s!"format {shown format} has no % directive"
  | (count, some rest) =>
    let flags := rest.takeWhile fun c => c = ' ' || c = '\'' || c = '0'
    if flags.contains '\'' && s.target != .none then throw "grouping cannot be combined with --to"
    let rest := rest.drop flags.length
    let isLeft := rest.head? = some '-'
    let rest := if isLeft then rest.drop 1 else rest
    let digits := rest.takeWhile Char.isDigit
    let width := (Script.number? digits).getD 0
    let rest := rest.drop digits.length
    if rest.isEmpty then throw s!"format {shown format} ends in %"
    let (precision, rest) ← readPlaces format rest
    match rest with
    | 'f' :: tail =>
      if (untilPercent tail).2.isSome then throw s!"format {shown format} has too many % directives"
      let isZero := flags.contains '0' && !isLeft
      return { s with
        before := String.ofList (format.toList.take count), after := String.ofList tail, precision
        padding := if isZero || width = 0 then s.padding else width
        zeros := if isZero then width else 0, left := if width = 0 then s.left else isLeft }
    | _ => throw s!"invalid format {shown format}, directive must be %[0]['][-][N][.][N]f"

def readUnit (text : String) : Except String Nat :=
  let digits := text.toList.takeWhile Char.isDigit
  let count := if digits.isEmpty then 1 else Number.foldDigits 10 digits
  let power (letter : Char) (base : Nat) : Option Nat :=
    (letters.idxOf? letter).map fun index => count * Nat.pow base (index + 1)
  let size := match text.toList.drop digits.length with
    | [] => if digits.isEmpty then none else some count
    | [letter] => power letter 1000
    | [letter, 'i'] => power letter 1024
    | _ => none
  match size with
  | some (n + 1) => .ok (n + 1)
  | _ => .error s!"invalid unit size: {shown text}"

def readSigned? (text : String) : Option Int :=
  let cs := text.toList.dropWhile fun c => c = ' ' || c = '\t'
  match cs with
  | '-' :: digits => (Script.number? digits).map fun n => -(n : Int)
  | '+' :: digits => (Script.number? digits).map Int.ofNat
  | digits => (Script.number? digits).map Int.ofNat

def options : OptionSet :=
  { letters := "d:zğ:Ġ:ġ:Ģ:ģ:ĤĥĦ:ħ::Ĩ:ĩ:Ī:ī:"
    long := [("from", 'ġ'), ("from-unit", 'Ģ'), ("to", 'Ī'), ("to-unit", 'ī'), ("round", 'Ħ'), ("padding", 'ģ'), ("suffix", 'ĩ'),
      ("grouping", 'ĥ'), ("delimiter", 'd'), ("field", 'ğ'), ("debug", 'Ĥ'), ("header", 'ħ'), ("format", 'Ġ'), ("invalid", 'Ĩ'),
      ("zero-terminated", 'z')] }

def withOption (option : Char × String) : Except Refusal Settings :=
  let (letter, text) := option
  match letter with
  | 'd' =>
    match text.toList with
    | [] => .ok s
    | [c] => .ok { s with delimiter := some c }
    | _ => .error (.plain "the delimiter must be a single character")
  | 'z' => .ok { s with ending := Char.ofNat 0 }
  | 'ğ' =>
    if text = "-" then .ok { s with fields := [(1, none)] }
    else ((readRanges fieldWords text).mapError .hinted).map fun fields => { s with fields }
  | 'ġ' => ((named "from" scaleNames text).mapError .hinted).map fun source => { s with source }
  | 'Ī' => ((named "to" writtenNames text).mapError .hinted).map fun target => { s with target }
  | 'Ħ' => ((named "round" roundNames text).mapError .hinted).map fun round => { s with round }
  | 'Ĩ' => ((named "invalid" invalidNames text).mapError .hinted).map fun invalid => { s with invalid }
  | 'Ģ' => ((readUnit text).mapError .plain).map fun sourceUnit => { s with sourceUnit }
  | 'ī' => ((readUnit text).mapError .plain).map fun targetUnit => { s with targetUnit }
  | 'ģ' =>
    match readSigned? text with
    | none | some 0 => .error (.plain s!"invalid padding value {shown text}")
    | some n => .ok { s with padding := n.natAbs, left := n < 0 }
  | 'ħ' =>
    if text.isEmpty then .ok { s with header := 1 }
    else
      match readSigned? text with
      | some (.ofNat (n + 1)) => .ok { s with header := n + 1 }
      | _ => .error (.plain s!"invalid header value {shown text}")
  | 'ĩ' => .ok { s with suffix := text }
  | _ => .ok s

def ofOptions (given : Given) : Except Refusal Settings := do
  let s ← given.foldlM withOption {}
  if given.has 'ĥ' && given.has 'Ġ' then throw (.plain "--grouping cannot be combined with --format")
  let s ← ((given.value? 'Ġ').elim (.ok s) (readFormat s)).mapError .plain
  if given.has 'ĥ' && s.target != .none then throw (.plain "grouping cannot be combined with --to")
  return s

end Scaling

def scale : Work Nat :=
  withOptionSet Scaling.options 1 fun given operands => do
    match Scaling.ofOptions given with
    | .error why => refuse 1 why
    | .ok s =>
      let isIdle := s.source = .none && s.target = .none && s.padding = 0 && !given.has 'ĥ' && !given.has 'Ġ'
      if given.has 'Ĥ' && isIdle then
        let _ ← complain "no conversion option specified"
      let outcome ←
        if operands.isEmpty then Scaling.printInput s
        else Scaling.printTexts s operands
      match outcome with
      | .good => return 0
      | .ended => return 2
      | .bad => return if s.invalid = .fail then 2 else 0

end Utility

end BenchKernel
