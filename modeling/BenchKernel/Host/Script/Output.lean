import BenchKernel.Host.Calendar
import BenchKernel.Host.FileStore
import BenchKernel.Host.Script.Formula
import BenchKernel.Number.Decimal

/-! # What a script prints

The escapes of `echo` and the formats of `printf`. Texts have one character for each byte, so an escape may stand
for any byte. -/

namespace BenchKernel.Script

def letterEscape? (c : Char) : Option Char :=
  [('a', '\x07'), ('b', '\x08'), ('e', '\x1b'), ('f', '\x0c'), ('n', '\n'), ('r', '\r'), ('t', '\t'), ('v', '\x0b'),
    ('\\', '\\')].lookup c

def octalDigits : (most : Nat) → List Char → List Nat × List Char
  | most + 1, c :: cs =>
    match Number.digit? 8 c with
    | some d =>
      let (digits, rest) := octalDigits most cs
      (d :: digits, rest)
    | none => ([], c :: cs)
  | _, cs => ([], cs)

theorem octalDigits_length_le (most : Nat) (cs : List Char) : (octalDigits most cs).2.length ≤ cs.length := by
  fun_induction octalDigits most cs <;> simp_all
  omega

def octalChar (digits : List Nat) : Char := Char.ofNat (digits.foldl (fun n d => n * 8 + d) 0 % 256)

/-- What one program that prints does and another does not. -/
structure PrintStyle where
  float : Number.BinaryFormat := Number.binary64
  hex : Bool := false
  quotes : List Char := []
  octal : Bool := true
  formatsEnd : Bool := false
  quoted : Option (String → String) := none
  times : Bool := false

def hexRun (most : Nat) (cs : List Char) : List Char := (cs.take most).takeWhile fun c => (Number.digit? 16 c).isSome

/-- The character with a number. One that is no byte is shown as its escape. -/
def numberedChar (letter : Char) (n : Nat) : List Char :=
  if n < 128 then [Char.ofNat n]
  else
    let digits := (Nat.toDigits 16 n).map Char.toUpper
    '\\' :: letter :: List.replicate ((if letter = 'u' then 4 else 8) - digits.length) '0' ++ digits

def hexEscapes : List (Char × Nat) := [('x', 2), ('u', 4), ('U', 8)]

/-- What an escape with hexadecimal digits stands for, and the text after it. -/
def readHexEscape? (cs : List Char) : Option (List Char × List Char) :=
  match cs with
  | [] => none
  | letter :: rest =>
    match hexEscapes.lookup letter with
    | none => none
    | some most =>
      let digits := hexRun most rest
      let n := digitsValue 16 digits
      if digits.isEmpty then none
      else some (if letter = 'x' then [Char.ofNat n] else numberedChar letter n, rest.drop digits.length)

theorem readHexEscape?_length_le {cs : List Char} {found : List Char × List Char} (h : readHexEscape? cs = some found) :
    found.2.length ≤ cs.length := by
  unfold readHexEscape? at h
  split at h
  · cases h
  · split at h
    · cases h
    · dsimp only at h
      split at h
      · cases h
      · injection h with h
        subst h
        simp only [List.length_drop, List.length_cons]
        omega

def echoOptions (bare escapes : Bool) : List String → Bool × Bool × List String
  | [] => (bare, escapes, [])
  | argument :: rest =>
    match argument.toList with
    | '-' :: c :: cs =>
      if (c :: cs).all fun letter => ['n', 'e', 'E'].contains letter then
        let last := ((c :: cs).filter (· != 'n')).getLast?
        echoOptions (bare || (c :: cs).contains 'n') ((last.map (· == 'e')).getD escapes) rest
      else (bare, escapes, argument :: rest)
    | _ => (bare, escapes, argument :: rest)

variable (style : PrintStyle)

/-- The text of an escape whose backslash has been read, and the text after it. A backslash before any other
    character stands for itself. -/
def readEscape (cs : List Char) : List Char × List Char :=
  match cs with
  | [] => (['\\'], [])
  | c :: rest =>
    match letterEscape? c with
    | some found => ([found], rest)
    | none =>
      match octalDigits (if style.octal then 3 else 0) cs with
      | ([], _) =>
        if style.quotes.contains c then ([c], rest)
        else
          match if style.hex then readHexEscape? cs else none with
          | some found => found
          | none => (['\\'], cs)
      | (digits, after) => ([octalChar digits], after)

theorem readEscape_length_le (style : PrintStyle) (cs : List Char) : (readEscape style cs).2.length ≤ cs.length := by
  have h3 := octalDigits_length_le (if style.octal then 3 else 0) cs
  unfold readEscape
  split
  · exact Nat.le_refl _
  · split
    · simp only [List.length_cons]
      omega
    · split
      · split
        · simp only [List.length_cons]
          omega
        · split
          · rename_i found h
            split at h
            · exact readHexEscape?_length_le h
            · cases h
          · exact Nat.le_refl _
      · simp_all

/-- A text with its escapes replaced, and whether the escape that ends all output stands in it. An octal escape may
    have a zero before its three digits. -/
def unescaped : List Char → List Char × Bool
  | [] => ([], false)
  | '\\' :: 'c' :: _ => ([], true)
  | '\\' :: '0' :: rest =>
    let found := octalDigits 3 rest
    let (text, ends) := unescaped found.2
    (octalChar found.1 :: text, ends)
  | '\\' :: rest =>
    let found := readEscape style rest
    let (text, ends) := unescaped found.2
    (found.1 ++ text, ends)
  | c :: rest =>
    let (text, ends) := unescaped rest
    (c :: text, ends)
termination_by cs => cs.length
decreasing_by
  · have h := octalDigits_length_le 3 rest
    simp only [List.length_cons]
    omega
  · have h := readEscape_length_le style rest
    simp only [List.length_cons]
    omega
  · simp only [List.length_cons]
    omega

/-- What `echo` prints in a plain script. -/
def echoText (arguments : List String) : String :=
  match arguments with
  | "-n" :: rest => String.ofList (unescaped {} (" ".intercalate rest).toList).1
  | _ =>
    let (text, ends) := unescaped {} (" ".intercalate arguments).toList
    String.ofList (if ends then text else text ++ ['\n'])

/-! ### Formats -/

/-- A width or precision: a number, or the next argument. -/
inductive Size
  | fixed (n : Nat)
  | argument
  deriving DecidableEq, Repr

structure Directive where
  flags : List Char
  width : Option Size
  precision : Option Size
  kind : Char
  time : String := ""
  deriving DecidableEq, Repr

inductive FormatPiece
  | char (c : Char)
  | directive (d : Directive)
  | bad (text : String) (isCut : Bool)
  | stop
  deriving DecidableEq, Repr

def readSize (cs : List Char) : Option Size × List Char :=
  match cs with
  | '*' :: rest => (some .argument, rest)
  | _ =>
    let digits := cs.takeWhile Char.isDigit
    ((number? digits).map .fixed, cs.drop digits.length)

def floatKinds : List Char := ['e', 'E', 'f', 'F', 'g', 'G', 'a', 'A']

def readDirective (cs : List Char) : FormatPiece × List Char :=
  let flags := cs.takeWhile fun c => ['#', '-', '+', ' ', '0'].contains c
  let (width, rest) := readSize (cs.drop flags.length)
  let (precision, rest) :=
    match rest with
    | '.' :: rest =>
      let (precision, rest) := readSize rest
      (some (precision.getD (.fixed 0)), rest)
    | _ => (none, rest)
  let rest := if style.hex then rest.dropWhile fun c => ['h', 'j', 'l', 'L', 't', 'z'].contains c else rest
  match rest with
  | [] => (.bad (String.ofList ('%' :: cs)) true, [])
  | kind :: after =>
    let time := after.takeWhile (· != ')')
    if style.times && kind = '(' && (after.drop time.length).take 2 = [')', 'T'] then
      (.directive ⟨flags, width, precision, 'T', String.ofList time⟩, after.drop (time.length + 2))
    else
      let isKnown := ['b', 'c', 's', 'd', 'i', 'o', 'u', 'x', 'X'].contains kind || floatKinds.contains kind
      if isKnown || (kind = 'q' && style.quoted.isSome) then
        (.directive ⟨flags, width, precision, kind, ""⟩, after)
      else (.bad (String.ofList ('%' :: cs.take (cs.length - after.length))) false, after)

def readFormat : (fuel : Nat) → List Char → List FormatPiece
  | 0, _ => []
  | _ + 1, [] => []
  | fuel + 1, '\\' :: rest =>
    if style.formatsEnd && rest.head? = some 'c' then [.stop]
    else
      let (text, rest) := readEscape style rest
      text.map .char ++ readFormat fuel rest
  | fuel + 1, '%' :: '%' :: rest => .char '%' :: readFormat fuel rest
  | fuel + 1, '%' :: rest =>
    let (piece, rest) := readDirective style rest
    piece :: readFormat fuel rest
  | fuel + 1, c :: rest => .char c :: readFormat fuel rest

def filled (left : Bool) (width : Nat) (text : List Char) : List Char :=
  let blanks := List.replicate (width - text.length) ' '
  if left then text ++ blanks else blanks ++ text

/-- A whole number as a directive asks for it. -/
def writeNumber (flags : List Char) (left : Bool) (width : Nat) (precision : Option Nat) (kind : Char) (n : Int) :
    List Char :=
  let base := if kind = 'o' then 8 else if kind = 'x' || kind = 'X' then 16 else 10
  let digits := Nat.toDigits base n.natAbs
  let digits := if kind = 'X' then digits.map Char.toUpper else digits
  let digits := if precision = some 0 && n = 0 then [] else digits
  let digits := List.replicate (precision.getD 0 - digits.length) '0' ++ digits
  let digits := if kind = 'o' && flags.contains '#' && digits.head? != some '0' then '0' :: digits else digits
  let signed := kind = 'd' || kind = 'i'
  let start :=
    if n < 0 then ['-']
    else if signed && flags.contains '+' then ['+']
    else if signed && flags.contains ' ' then [' ']
    else if base = 16 && flags.contains '#' && n ≠ 0 then ['0', kind]
    else []
  if flags.contains '0' && !left && precision.isNone then
    start ++ List.replicate (width - start.length - digits.length) '0' ++ digits
  else filled left width (start ++ digits)

def numberShape (kind : Char) : Number.NumberShape :=
  match kind.toLower with
  | 'e' => .scientific
  | 'g' => .general
  | 'a' => .hex
  | _ => .fixed

def writeFloat (format : Number.BinaryFormat) (flags : List Char) (left : Bool) (width : Nat) (precision : Option Nat)
    (kind : Char) (v : Number.BinaryValue) : List Char :=
  let text := (format.digits (numberShape kind) (flags.contains '#') precision v).toList
  let text := if kind.isUpper then text.map Char.toUpper else text
  let start :=
    if v.isNegative then ['-'] else if flags.contains '+' then ['+'] else if flags.contains ' ' then [' '] else []
  let isHex := kind.toLower = 'a' && v.isFinite
  let (start, text) := if isHex then (start ++ text.take 2, text.drop 2) else (start, text)
  if flags.contains '0' && !left && v.isFinite then
    start ++ List.replicate (width - start.length - text.length) '0' ++ text
  else filled left width (start ++ text)

/-! ### Printing with a format -/

/-- What is wrong with an argument that should be a number. -/
inductive NumberFault
  | missing
  | trailing
  | range
  deriving DecidableEq, Repr

def NumberFault.message : NumberFault → String
  | missing => "expected numeric value"
  | trailing => "not completely converted"
  | range => "Numerical result out of range"

/-- The arguments that are left, and what has been printed. -/
structure Printing where
  arguments : List String
  style : PrintStyle := {}
  text : String := ""
  warnings : List (String × NumberFault) := []

inductive PrintingEnd
  | stopped
  | bad (text : String) (isCut : Bool)
  deriving DecidableEq, Repr

abbrev Print := ExceptT PrintingEnd (StateM Printing)

namespace Print

def argument : Print (Option String) := do
  let s ← get
  set { s with arguments := s.arguments.tail }
  return s.arguments.head?

def warn (text : String) (why : NumberFault) : Print Unit :=
  modify fun s => { s with warnings := s.warnings ++ [(text, why)] }

def greatestWord : Int := 18446744073709551615

/-- The next argument as a number. A quote in front of a character stands for the character's number. -/
def number (signed : Bool) : Print Int := do
  match ← argument with
  | none => return 0
  | some text =>
    match text.toList with
    | [] => return 0
    | c :: rest =>
      if c = '"' || c = '\'' then return (rest.head?.map fun d => (d.toNat : Int)).getD 0
      else
        match readNumber? true text.toList with
        | none =>
          warn text .missing
          return 0
        | some (n, rest) =>
          let nearest := if signed then nearestNumber n else max (-greatestWord) (min greatestWord n)
          if !rest.isEmpty then warn text .trailing
          else if nearest != n then warn text .range
          return if signed || 0 ≤ nearest then nearest else nearest + greatestWord + 1

def float : Print Number.BinaryValue := do
  let format := (← get).style.float
  let zero : Number.BinaryValue := .finite false 0 0
  match ← argument with
  | none => return zero
  | some text =>
    match text.toList with
    | [] => return zero
    | c :: rest =>
      if c = '"' || c = '\'' then return format.ofDecimal false (rest.head?.map Char.toNat |>.getD 0) 0
      else
        match format.read? (text.toList.dropWhile isSpace) with
        | none =>
          warn text .missing
          return zero
        | some (v, after) =>
          let isRange := text.toList.any fun d => d != '0' && d.isDigit
          if !after.isEmpty then warn text .trailing
          else if isRange && (v matches .infinite _ | .finite _ 0 _) then warn text .range
          return v

def size (s : Option Size) : Print (Option Int) :=
  match s with
  | none => return none
  | some (.fixed n) => return some n
  | some .argument => return some (← number true)

def write (cs : List Char) : Print Unit := modify fun s => { s with text := s.text ++ String.ofList cs }

/-- Prints what a directive says of the next arguments. -/
def directive (d : Directive) : Print Unit := do
  let width := (← size d.width).getD 0
  let precision := ((← size d.precision).filter (0 ≤ ·)).map Int.toNat
  let left := d.flags.contains '-' || width < 0
  let place (cs : List Char) : Print Unit := write (filled left width.natAbs cs)
  let shortened (cs : List Char) : List Char := (precision.map fun most => cs.take most).getD cs
  match d.kind with
  | 's' => place (shortened ((← argument).getD "").toList)
  | 'b' =>
    let (text, ends) := unescaped (← get).style ((← argument).getD "").toList
    place (shortened text)
    if ends then throw .stopped
  | 'q' => place (shortened (((← get).style.quoted.getD id) ((← argument).getD "")).toList)
  | 'c' => place [(((← argument).getD "").toList.head?).getD (Char.ofNat 0)]
  | 'T' =>
    let isGiven := !(← get).arguments.isEmpty
    let n ← number true
    let seconds := if isGiven && 0 ≤ n then n else presentTime
    let format := if d.time.isEmpty then "%X".toList else d.time.toList
    place (shortened ((Moment.ofSeconds seconds).formatted format))
  | _ =>
    if floatKinds.contains d.kind then
      let v ← float
      write (writeFloat (← get).style.float d.flags left width.natAbs precision d.kind v)
    else
      let n ← number (d.kind = 'd' || d.kind = 'i')
      write (writeNumber d.flags left width.natAbs precision d.kind n)

def pieces : List FormatPiece → Print Unit
  | [] => return
  | .char c :: rest => do
    write [c]
    pieces rest
  | .directive d :: rest => do
    directive d
    pieces rest
  | .bad text isCut :: _ => throw (.bad text isCut)
  | .stop :: _ => throw .stopped

/-- Uses a format until no arguments are left. -/
def passes (format : List FormatPiece) : (most : Nat) → Print Unit
  | 0 => return
  | most + 1 => do
    let before := (← get).arguments.length
    pieces format
    let left := (← get).arguments.length
    if 0 < left && left < before then passes format most

end Print

/-- What a format prints of arguments, and what ended it early. -/
def printed (format : String) (arguments : List String) : Option PrintingEnd × Printing :=
  let pieces := readFormat style (format.length + 1) format.toList
  match (Print.passes pieces (arguments.length + 1)).run.run { arguments, style } with
  | (.ok (), s) => (none, s)
  | (.error e, s) => (some e, s)

end BenchKernel.Script
