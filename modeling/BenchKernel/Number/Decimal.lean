import BenchKernel.Number.Binary
import BenchKernel.Number.Reading

/-! # Decimal texts of floating-point numbers

A decimal text is read as the nearest number of a binary format, and a number is written with a given count of
digits, rounded from its exact value with ties to the even digit. -/

namespace BenchKernel.Number

def binary80 : BinaryFormat := ⟨79, 64⟩

def tenPow (digits : Nat) : Nat := Nat.pow 10 digits

/-- A quotient rounded to nearest, ties to even. -/
def roundDivide (n d : Nat) : Nat :=
  let quotient := n / d
  let twice := 2 * (n % d)
  if twice < d then quotient else if d < twice then quotient + 1 else quotient + quotient % 2

/-- The number of a format nearest to a fraction. Two bits below the precision tell on which side of a tie it
    lies. -/
def BinaryFormat.ofFraction (f : BinaryFormat) (negative : Bool) (n d : Nat) : BinaryValue :=
  if n = 0 then .finite negative 0 0
  else
    let shift := f.precision + 2 + d.log2 - n.log2
    let scaled := n * twoPow shift
    let sticky := if scaled % d = 0 then 0 else 1
    f.decode (f.signed negative (f.roundMagnitude (2 * (scaled / d) + sticky) (-Int.ofNat shift - 1)))

def fractionOf (significand : Nat) (exponent : Int) : Nat × Nat :=
  if 0 ≤ exponent then (significand * twoPow exponent.toNat, 1) else (significand, twoPow (-exponent).toNat)

/-! ### Reading -/

/-- From this power of ten on every number is infinite, and below its inverse every number is zero. -/
def tenLimit : Int := 5000

def BinaryFormat.ofDecimal (f : BinaryFormat) (negative : Bool) (digits : Nat) (exponent : Int) : BinaryValue :=
  let size : Int := (Nat.toDigits 10 digits).length + exponent
  if digits = 0 || size < -tenLimit then .finite negative 0 0
  else if tenLimit < size then .infinite negative
  else if 0 ≤ exponent then f.ofFraction negative (digits * tenPow exponent.toNat) 1
  else f.ofFraction negative digits (tenPow (-exponent).toNat)

def BinaryFormat.ofBits (f : BinaryFormat) (negative : Bool) (digits : Nat) (exponent : Int) : BinaryValue :=
  if 100000 < exponent.natAbs then (if exponent < 0 || digits = 0 then .finite negative 0 0 else .infinite negative)
  else f.decode (f.signed negative (f.roundMagnitude digits exponent))

def foldDigits (base : Nat) (cs : List Char) : Nat := cs.foldl (fun n c => n * base + (digit? base c).getD 0) 0

/-- An exponent after its letter at the start of a text, and the text after it. Without digits there is none. -/
def readExponent (letter : Char) (cs : List Char) : Int × List Char :=
  let value (negative : Bool) (rest : List Char) : Int × List Char :=
    let digits := rest.takeWhile Char.isDigit
    if digits.isEmpty then (0, cs)
    else
      let n : Int := foldDigits 10 (digits.take 9)
      (if negative then -n else n, rest.drop digits.length)
  match cs with
  | c :: '-' :: rest => if c.toLower = letter then value true rest else (0, cs)
  | c :: '+' :: rest => if c.toLower = letter then value false rest else (0, cs)
  | c :: rest => if c.toLower = letter then value false rest else (0, cs)
  | [] => (0, [])

/-- Digits with a point among them at the start of a text: their value, how many come after the point, and the text
    after them. -/
def readPointed? (base : Nat) (cs : List Char) : Option (Nat × Nat × List Char) :=
  let isDigit (c : Char) : Bool := (digit? base c).isSome
  let whole := cs.takeWhile isDigit
  let rest := cs.drop whole.length
  let part :=
    match rest with
    | '.' :: after => after.takeWhile isDigit
    | _ => []
  if whole.isEmpty && part.isEmpty then none
  else
    let rest := if rest.head? = some '.' then rest.drop (part.length + 1) else rest
    some (foldDigits base (whole ++ part), part.length, rest)

/-- Whether a text starts with a word, whatever the case of its letters. -/
def startsWithWord (word : String) (cs : List Char) : Bool := word.toList == (cs.take word.length).map Char.toLower

/-- A number of a format at the start of a text, without spaces before it, and the text after it. -/
def BinaryFormat.read? (f : BinaryFormat) (cs : List Char) : Option (BinaryValue × List Char) :=
  let negative := cs.head? = some '-'
  let cs := if negative || cs.head? = some '+' then cs.drop 1 else cs
  let decimal : Option (BinaryValue × List Char) := (readPointed? 10 cs).map fun (digits, places, rest) =>
    let (exponent, rest) := readExponent 'e' rest
    (f.ofDecimal negative digits (exponent - places), rest)
  if startsWithWord "infinity" cs then some (.infinite negative, cs.drop 8)
  else if startsWithWord "inf" cs then some (.infinite negative, cs.drop 3)
  else if startsWithWord "nan" cs then some (.nan negative 0, cs.drop 3)
  else if startsWithWord "0x" cs then
    match readPointed? 16 (cs.drop 2) with
    | some (digits, places, rest) =>
      let (exponent, rest) := readExponent 'p' rest
      some (f.ofBits negative digits (exponent - 4 * places), rest)
    | none => decimal
  else decimal

/-! ### Writing -/

/-- The digits of a number without a sign, with so many after the point. -/
def fixedDigits (places n d : Nat) : String :=
  let digits := Nat.toDigits 10 (roundDivide (n * tenPow places) d)
  let digits := List.replicate (places + 1 - digits.length) '0' ++ digits
  let whole := digits.take (digits.length - places)
  String.ofList whole ++ (if places = 0 then "" else "." ++ String.ofList (digits.drop whole.length))

/-- The power of ten of the first digit of a fraction that is not zero. -/
def leadingPower (n d : Nat) : Int :=
  if d ≤ n then (Nat.toDigits 10 (n / d)).length - 1
  else
    let zeros := (Nat.toDigits 10 d).length - (Nat.toDigits 10 n).length
    if d ≤ n * tenPow zeros then -Int.ofNat zeros else -Int.ofNat (zeros + 1)

/-- The digits of a fraction from its first one on, with so many after it, and the power of ten of the first. -/
def leadingDigits (places n d : Nat) : List Char × Int :=
  if n = 0 then (List.replicate (places + 1) '0', 0)
  else
    let power := leadingPower n d
    let shift := Int.ofNat places - power
    let digits :=
      Nat.toDigits 10 (if 0 ≤ shift then roundDivide (n * tenPow shift.toNat) d else roundDivide n (d * tenPow (-shift).toNat))
    if places + 1 < digits.length then (digits.take (places + 1), power + 1) else (digits, power)

/-- An exponent with its sign and at least two digits. -/
def exponentText (power : Int) : String :=
  let digits := toString power.natAbs
  (if power < 0 then "-" else "+") ++ (if digits.length < 2 then "0" ++ digits else digits)

/-- The digits of a number without a sign, with one before the point and a power of ten. -/
def scientificDigits (places n d : Nat) : String :=
  let (digits, power) := leadingDigits places n d
  let point := if places = 0 then "" else "." ++ String.ofList (digits.drop 1)
  String.ofList (digits.take 1) ++ point ++ "e" ++ exponentText power

/-- A text with a point, without the zeros at its end, and without the point if nothing is left after it. -/
def dropZeros (text : String) : String :=
  if text.toList.contains '.' then
    let kept := text.toList.reverse.dropWhile (· == '0')
    String.ofList (if kept.head? = some '.' then kept.drop 1 else kept).reverse
  else text

/-- The digits of a number without a sign, so many in all, in the shorter of the two notations. With `padded` zeros
    at the end stay. -/
def generalDigits (padded : Bool) (digits n d : Nat) : String :=
  let count := max digits 1
  let power := (leadingDigits (count - 1) n d).2
  if -4 ≤ power && power < count then
    let text := fixedDigits (count - 1 - power).toNat n d
    if padded then text else dropZeros text
  else
    let text := (scientificDigits (count - 1) n d).toList
    let mantissa := String.ofList (text.takeWhile (· != 'e'))
    (if padded then mantissa else dropZeros mantissa) ++ String.ofList (text.dropWhile (· != 'e'))

/-- The digits of `significand * 2 ^ exponent` to base sixteen, for a format: the first digit holds the bits that are
    left when the others hold four each. -/
def hexDigits (f : BinaryFormat) (places : Option Nat) (significand : Nat) (exponent : Int) : String :=
  if significand = 0 then
    "0x0" ++ (match places with
      | some (n + 1) => "." ++ "".pushn '0' (n + 1)
      | _ => "") ++ "p+0"
  else
    let rest := f.precision - 1 - (f.precision - 1) % 4
    let shift := f.precision - 1 - significand.log2
    let significand := significand * twoPow shift
    let exponent := exponent - Int.ofNat shift
    let tail := rest / 4
    let shown := (places.map fun n => min n tail).getD tail
    let rounded := roundDivide significand (twoPow (4 * (tail - shown)))
    let first := rounded / twoPow (4 * shown)
    let after := Nat.toDigits 16 (rounded % twoPow (4 * shown))
    let after := if shown = 0 then [] else List.replicate (shown - after.length) '0' ++ after
    let after :=
      match places with
      | some n => after ++ List.replicate (n - shown) '0'
      | none => (after.reverse.dropWhile (· == '0')).reverse
    let power := exponent + Int.ofNat rest
    "0x" ++ String.ofList (Nat.toDigits 16 first) ++ (if after.isEmpty then "" else "." ++ String.ofList after) ++ "p" ++
      (if power < 0 then "-" else "+") ++ toString power.natAbs

inductive NumberShape
  | fixed
  | scientific
  | general
  | hex
  deriving DecidableEq, Repr

/-- The text of a number without its sign. -/
def BinaryFormat.digits (f : BinaryFormat) (shape : NumberShape) (padded : Bool) (precision : Option Nat) (v : BinaryValue) :
    String :=
  match v with
  | .nan _ _ => "nan"
  | .infinite _ => "inf"
  | .finite _ significand exponent =>
    let (n, d) := fractionOf significand exponent
    let places := precision.getD 6
    let pointed (text : String) : String := if padded && !text.toList.contains '.' then text ++ "." else text
    match shape with
    | .fixed => pointed (fixedDigits places n d)
    | .scientific => scientificDigits places n d
    | .general => generalDigits padded places n d
    | .hex => hexDigits f precision significand exponent

def BinaryValue.isNegative : BinaryValue → Bool
  | .nan negative _ | .infinite negative | .finite negative _ _ => negative

/-- Whether a value is a number other than an infinite one. -/
def BinaryValue.isFinite : BinaryValue → Bool
  | .finite _ _ _ => true
  | _ => false

end BenchKernel.Number
