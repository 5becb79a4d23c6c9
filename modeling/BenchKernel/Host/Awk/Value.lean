import BenchKernel.Host.Awk.Pattern

/-! # Values of programs on records

A value is a number or a text, and becomes the other where that is needed. A text of the input counts as a number when
it looks like one. -/

namespace BenchKernel.Awk

/-- A value. One that comes from the input may count as a number. -/
inductive Value
  | unset
  | number (n : Float)
  | text (content : String)
  | input (content : String)

variable (n : Float)

def binary : Number.BinaryValue := Number.binary64.decode n.toBits.toNat

def ofInt (n : Int) : Float := Float.ofBits (Number.binary64.ofInt n).toUInt64

def ofBool (b : Bool) : Value := .number (if b then 1 else 0)

def isBlank (c : Char) : Bool := [' ', '\t', '\n', '\r', '\x0b', '\x0c'].contains c

/-- The number at the start of a text, or zero. -/
def numberOf (text : String) : Float :=
  match Number.binary64.read? (text.toList.dropWhile isBlank) with
  | some (v, _) => ofBinary v
  | none => 0

/-- The number that a text looks like. -/
def likeness? (text : String) : Option Float :=
  let cs := text.toList.dropWhile isBlank
  let unsigned := match cs with
    | '-' :: rest | '+' :: rest => rest
    | _ => cs
  match decimal? unsigned with
  | some (n, rest) => if rest.all isBlank then some (if cs.head? = some '-' then -n else n) else none
  | none => none

def Value.toNumber : Value → Float
  | unset => 0
  | number n => n
  | text content | input content => numberOf content

def Value.number? : Value → Option Float
  | unset => some 0
  | number n => some n
  | text _ => none
  | input content => likeness? content

/-- Whether a value counts as true. -/
def Value.holds : Value → Bool
  | unset => false
  | number n => n != 0
  | text content => !content.isEmpty
  | input content =>
    match likeness? content with
    | some n => n != 0
    | none => !content.isEmpty

def leastWhole : Int := Number.leastSigned 64

def greatestWhole : Int := Script.Print.greatestWord

/-- A number that has no fraction, if it is not too large. -/
def whole? : Option Int :=
  match binary n with
  | .finite negative significand exponent =>
    let (n, d) := Number.fractionOf significand exponent
    let value : Int := if negative then -((n / d : Nat) : Int) else ((n / d : Nat) : Int)
    if n % d = 0 && leastWhole ≤ value && value ≤ greatestWhole + 1 then some (min value greatestWhole) else none
  | _ => none

/-- A number without its fraction, within the bounds of whole numbers. -/
def wholeOf : Int :=
  match binary n with
  | .nan _ _ | .infinite true => leastWhole
  | .infinite false => greatestWhole
  | .finite negative significand exponent =>
    let value : Int := Number.wholePart significand exponent
    if negative then max leastWhole (-value) else min greatestWhole value

def remainder (a b : Float) : Float :=
  match binary a, binary b with
  | .finite negative m e, .finite _ n f =>
    if n = 0 then 0 / 0
    else
      let unit := min e f
      let scaled (significand : Nat) (exponent : Int) : Nat := significand * Number.twoPow (exponent - unit).toNat
      ofBinary (.finite negative (scaled m e % scaled n f) unit)
  | .finite _ _ _, .infinite _ => a
  | _, _ => 0 / 0

def Operator.apply : Operator → Float → Float → Float
  | add, a, b => a + b
  | subtract, a, b => a - b
  | multiply, a, b => a * b
  | divide, a, b => a / b
  | remainder, a, b => Awk.remainder a b
  | power, a, b => Float.pow a b

/-- Whether a comparison holds, from what is known about its sides. -/
def Comparison.holds (c : Comparison) (isLess isEqual : Bool) : Bool :=
  match c with
  | less => isLess
  | lessEqual => isLess || isEqual
  | equal => isEqual
  | unequal => !isEqual
  | greater => !isLess && !isEqual
  | greaterEqual => !isLess

/-! ### Formats -/

/-- What can be wrong with a format. -/
inductive FormatFault
  | missingArgument
  | improper (position : Nat)
  deriving DecidableEq, Repr

def directiveNumber (kind : Char) (n : Float) : Int :=
  let whole := wholeOf n
  if (kind = 'd' || kind = 'i') || 0 ≤ whole then whole else whole + greatestWhole + 1

def signedBinary : Number.BinaryValue := if n.isNaN then .nan true 0 else binary n

variable (format : String)

/-- The text of a number in a format for one number. A format that is of another kind stays as it is. -/
def formatNumber (n : Float) : String :=
  let cs := format.toList
  let before := cs.takeWhile (· != '%')
  match Script.readDirective {} (cs.drop (before.length + 1)) with
  | (.directive d, rest) =>
    let size (s : Option Script.Size) : Option Nat :=
      match s with
      | some (.fixed n) => some n
      | _ => none
    let left := d.flags.contains '-'
    let width := (size d.width).getD 0
    let written :=
      if Script.floatKinds.contains d.kind then
        Script.writeFloat Number.binary64 d.flags left width (size d.precision) d.kind (signedBinary n)
      else Script.writeNumber d.flags left width (size d.precision) d.kind (directiveNumber d.kind n)
    String.ofList (before ++ written ++ rest)
  | _ => format

def numberText (n : Float) : String :=
  match whole? n with
  | some value => toString value
  | none => formatNumber format n

def Value.toText : Value → String
  | unset => ""
  | number n => numberText format n
  | text content | input content => content

/-- Compares two values, as numbers if both are. -/
def Value.compare (c : Comparison) (a b : Value) : Bool :=
  match a.number?, b.number? with
  | some m, some n => c.holds (m < n) (m == n)
  | _, _ =>
    let s := a.toText format
    let t := b.toText format
    c.holds (s < t) (s == t)

/-- The character that a value stands for. -/
def charOf (v : Value) : Char :=
  let ofNumber (n : Float) : Char := Char.ofNat ((wholeOf n) % 256).toNat
  match v with
  | .unset => Char.ofNat 0
  | .number n => ofNumber n
  | .text content => content.toList.head?.getD (Char.ofNat 0)
  | .input content =>
    match likeness? content with
    | some n => ofNumber n
    | none => content.toList.head?.getD (Char.ofNat 0)

/-- A width or precision, which may be the next value. -/
def takeSize (cs : List Char) (values : List Value) : Except FormatFault (Option Int × List Char × List Value) :=
  match cs with
  | '*' :: rest =>
    match values with
    | v :: others => .ok (some (wholeOf v.toNumber), rest, others)
    | [] => .error .missingArgument
  | _ =>
    let digits := cs.takeWhile Char.isDigit
    .ok ((Script.number? digits).map Int.ofNat, cs.drop digits.length, values)

variable (textFormat : String)

/-- Fills the place that a format has for a value. -/
def fillPlace (position : Nat) (cs : List Char) (values : List Value) :
    Except FormatFault (List Char × List Char × List Value) := do
  let flags := cs.takeWhile fun c => ['#', '-', '+', ' ', '0'].contains c
  let (width, rest, values) ← takeSize (cs.drop flags.length) values
  let (precision, rest, values) ←
    match rest with
    | '.' :: rest => do
      let (precision, rest, values) ← takeSize rest values
      pure (some (precision.getD 0), rest, values)
    | _ => pure (none, rest, values)
  match values with
  | [] => throw .missingArgument
  | v :: others =>
    let left := flags.contains '-' || width.any (· < 0)
    let width := (width.getD 0).natAbs
    let precision := (precision.filter (0 ≤ ·)).map Int.toNat
    match rest.dropWhile fun c => c = 'l' || c = 'h' with
    | [] => throw (.improper position)
    | kind :: rest =>
      if kind = 's' then
        let text := (v.toText textFormat).toList
        return (Script.filled left width ((precision.map fun most => text.take most).getD text), rest, others)
      else if kind = 'c' then return (Script.filled left width [charOf v], rest, others)
      else if ['d', 'i', 'o', 'u', 'x', 'X'].contains kind then
        return (Script.writeNumber flags left width precision kind (directiveNumber kind v.toNumber), rest, others)
      else if Script.floatKinds.contains kind then
        return (Script.writeFloat Number.binary64 flags left width precision kind (signedBinary v.toNumber), rest, others)
      else throw (.improper position)

def fillFormat :
    (fuel : Nat) → (position : Nat) → (done : List Char) → List Char → List Value → List Char × Option FormatFault
  | 0, _, done, _, _ => (done, none)
  | fuel + 1, position, done, cs, values =>
    match cs with
    | [] => (done, none)
    | '%' :: '%' :: rest => fillFormat fuel position (done ++ ['%']) rest values
    | '%' :: rest =>
      match fillPlace textFormat position rest values with
      | .error fault => (done, some fault)
      | .ok (text, rest, values) => fillFormat fuel (position + 1) (done ++ text) rest values
    | c :: rest =>
      let plain := rest.takeWhile (· != '%')
      fillFormat fuel position (done ++ c :: plain) (rest.drop plain.length) values

def formatted (textFormat format : String) (values : List Value) : String × Option FormatFault :=
  let (text, fault) := fillFormat textFormat (format.length + 1) 1 [] format.toList values
  (String.ofList text, fault)

end BenchKernel.Awk
