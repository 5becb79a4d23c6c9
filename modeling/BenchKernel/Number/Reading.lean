import BenchKernel.Number.TwoPow

/-! # Reading integers

An integer is an optional sign and at least one digit of a base, from left to right. The first character
that is no digit, or the first digit with which the number leaves its range, decides the error. -/

namespace BenchKernel.Number

inductive ReadError
  | empty
  | invalidDigit
  | tooLarge
  | tooSmall
  deriving DecidableEq, Repr

def ReadError.message : ReadError → String
  | .empty => "cannot parse integer from empty string"
  | .invalidDigit => "invalid digit found in string"
  | .tooLarge => "number too large to fit in target type"
  | .tooSmall => "number too small to fit in target type"

/-- The value of a digit in a base of at most thirty-six. Letters count in either case. -/
def digit? (base : Nat) (c : Char) : Option Nat :=
  let value? :=
    if '0' ≤ c ∧ c ≤ '9' then some (c.toNat - '0'.toNat)
    else if 'a' ≤ c ∧ c ≤ 'z' then some (c.toNat - 'a'.toNat + 10)
    else if 'A' ≤ c ∧ c ≤ 'Z' then some (c.toNat - 'A'.toNat + 10)
    else none
  value?.filter (· < base)

/-- A number in a base, with zeros before it for a least number of digits. -/
def padded (base least n : Nat) : String :=
  let text := String.ofList (Nat.toDigits base n)
  "".pushn '0' (least - text.length) ++ text

/-- Reads digits after a number already read; `overflow` is the error of a result above `limit`. -/
def readDigits (base limit : Nat) (overflow : ReadError) : (read : Nat) → List Char → Except ReadError Nat
  | read, [] => .ok read
  | read, c :: cs =>
    match digit? base c with
    | none => .error .invalidDigit
    | some d =>
      let next := read * base + d
      if limit < next then .error overflow else readDigits base limit overflow next cs

/-- The greatest unsigned word of 64 bits. -/
def wordMax : Nat := twoPow 64 - 1

/-- Reads an unsigned word of 64 bits in base ten. -/
def readWord (s : String) : Except ReadError Nat :=
  match s.toList with
  | [] => .error .empty
  | ['+'] => .error .invalidDigit
  | '+' :: digits => readDigits 10 wordMax .tooLarge 0 digits
  | digits => readDigits 10 wordMax .tooLarge 0 digits

def readSigned (base : Nat) (cs : List Char) : Except ReadError Int :=
  match cs with
  | [] => .error .empty
  | ['+'] => .error .invalidDigit
  | ['-'] => .error .invalidDigit
  | '+' :: digits => (readDigits base (twoPow 63 - 1) .tooLarge 0 digits).map Int.ofNat
  | '-' :: digits => (readDigits base (twoPow 63) .tooSmall 0 digits).map fun n => -Int.ofNat n
  | digits => (readDigits base (twoPow 63 - 1) .tooLarge 0 digits).map Int.ofNat

end BenchKernel.Number
