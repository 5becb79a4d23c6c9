import BenchKernel.Number.TwoPow

/-! # Binary floating-point formats

A format is given by its width in bits and its precision. Its words are read into a sign and a whole number
times a power of two, in exact arithmetic, and such a number is rounded back to the nearest word, with ties
to the even one. -/

namespace BenchKernel.Number

structure BinaryFormat where
  width : Nat
  precision : Nat
  deriving DecidableEq, Repr

def binary32 : BinaryFormat := ⟨32, 24⟩

def binary64 : BinaryFormat := ⟨64, 53⟩

/-- The meaning of a word: not a number, with its payload, or signed. -/
inductive BinaryValue
  | nan (negative : Bool) (payload : Nat)
  | infinite (negative : Bool)
  | finite (negative : Bool) (significand : Nat) (exponent : Int)
  deriving DecidableEq, Repr

namespace BinaryFormat

/-- One more than the largest fraction field. -/
def fractions (f : BinaryFormat) : Nat := twoPow (f.precision - 1)

/-- The exponent field of infinities and of what is not a number. -/
def topExponent (f : BinaryFormat) : Nat := twoPow (f.width - f.precision) - 1

def leastExponent (f : BinaryFormat) : Int :=
  3 - Int.ofNat (twoPow (f.width - f.precision - 1)) - Int.ofNat f.precision

def infinity (f : BinaryFormat) : Nat := f.topExponent * f.fractions

def signed (f : BinaryFormat) (negative : Bool) (magnitude : Nat) : Nat :=
  if negative then twoPow (f.width - 1) + magnitude else magnitude

def decode (f : BinaryFormat) (word : Nat) : BinaryValue :=
  let negative := decide (twoPow (f.width - 1) ≤ word % twoPow f.width)
  let exponent := word / f.fractions % (f.topExponent + 1)
  let fraction := word % f.fractions
  if exponent = f.topExponent then
    if fraction = 0 then .infinite negative else .nan negative fraction
  else if exponent = 0 then .finite negative fraction f.leastExponent
  else .finite negative (f.fractions + fraction) (f.leastExponent + Int.ofNat (exponent - 1))

/-- The quotient by a power of two, rounded to nearest, ties to even. -/
def roundShift (n shift : Nat) : Nat :=
  let quotient := n / twoPow shift
  let twice := 2 * (n % twoPow shift)
  if twice < twoPow shift then quotient
  else if twoPow shift < twice then quotient + 1
  else quotient + quotient % 2

/-- The exponent of the unit in which `significand * 2 ^ exponent` is rounded. -/
def unitExponent (f : BinaryFormat) (significand : Nat) (exponent : Int) : Int :=
  max f.leastExponent (exponent + Int.ofNat (significand.log2 + 1) - Int.ofNat f.precision)

/-- The word nearest to `significand * 2 ^ exponent`; from half a unit above the largest number on it is
    infinity. -/
def roundMagnitude (f : BinaryFormat) (significand : Nat) (exponent : Int) : Nat :=
  if significand = 0 then 0
  else
    let unit := f.unitExponent significand exponent
    let units :=
      if unit ≤ exponent then significand * twoPow (exponent - unit).toNat
      else roundShift significand (unit - exponent).toNat
    min f.infinity ((unit - f.leastExponent).toNat * f.fractions + units)

/-- The payload bit that tells a quiet value that is not a number. -/
def quiet (f : BinaryFormat) : Nat := f.fractions / 2

/-- A payload cut or extended from one format to another at its low end. -/
def movePayload (source target : BinaryFormat) (payload : Nat) : Nat :=
  if target.precision ≤ source.precision then payload / twoPow (source.precision - target.precision)
  else payload * twoPow (target.precision - source.precision)

/-- The word of one format nearest to a word of another. What is not a number stays so, quiet, with the high
    end of its payload. -/
def convert (source target : BinaryFormat) (word : Nat) : Nat :=
  match source.decode word with
  | .nan negative payload =>
    let moved := movePayload source target payload
    target.signed negative (target.infinity + if moved / target.quiet % 2 = 1 then moved else moved + target.quiet)
  | .infinite negative => target.signed negative target.infinity
  | .finite negative significand exponent => target.signed negative (target.roundMagnitude significand exponent)

def ofInt (f : BinaryFormat) (n : Int) : Nat := f.signed (decide (n < 0)) (f.roundMagnitude n.natAbs 0)

end BinaryFormat

def wholePart (significand : Nat) (exponent : Int) : Nat :=
  if 0 ≤ exponent then significand * twoPow exponent.toNat else significand / twoPow (-exponent).toNat

def leastSigned (bits : Nat) : Int := -Int.ofNat (twoPow (bits - 1))

def greatestSigned (bits : Nat) : Int := Int.ofNat (twoPow (bits - 1)) - 1

/-- A value as a signed integer of some bits: cut toward zero, held inside the range, and zero for what is not a
    number. -/
def BinaryValue.toSigned (bits : Nat) : BinaryValue → Int
  | .nan _ _ => 0
  | .infinite true => leastSigned bits
  | .infinite false => greatestSigned bits
  | .finite true significand exponent => max (leastSigned bits) (-Int.ofNat (wholePart significand exponent))
  | .finite false significand exponent => min (greatestSigned bits) (Int.ofNat (wholePart significand exponent))

end BenchKernel.Number
