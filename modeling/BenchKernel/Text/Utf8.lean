/-! # Reading bytes as text

Bytes that are no UTF-8 are read with one replacement character for each longest start of a character that
is not completed, and for each byte that starts none. -/

namespace BenchKernel.Text

/-- Stands for bytes that are no character. -/
def replacementChar : Char := Char.ofNat 0xFFFD

/-- A byte inside a character, after its first. -/
def isContinuation (b : UInt8) : Bool := 0x80 ≤ b && b ≤ 0xBF

def startsTwo (a : UInt8) : Bool := 0xC2 ≤ a && a ≤ 0xDF

/-- Whether `a`, `b` start a character of three bytes. Overlong forms and surrogates are excluded. -/
def startsThree (a b : UInt8) : Bool :=
  (a == 0xE0 && 0xA0 ≤ b && b ≤ 0xBF) || (a == 0xED && 0x80 ≤ b && b ≤ 0x9F) ||
    (((0xE1 ≤ a && a ≤ 0xEC) || a == 0xEE || a == 0xEF) && isContinuation b)

/-- Whether `a`, `b` start a character of four bytes. Overlong forms and values above the last code point
    are excluded. -/
def startsFour (a b : UInt8) : Bool :=
  (a == 0xF0 && 0x90 ≤ b && b ≤ 0xBF) || (a == 0xF4 && 0x80 ≤ b && b ≤ 0x8F) ||
    (0xF1 ≤ a && a ≤ 0xF3 && isContinuation b)

/-- The six low bits of a byte inside a character. -/
def lowBits (b : UInt8) : Nat := b.toNat % 64

def decodeLossy : List UInt8 → List Char
  | [] => []
  | a :: rest =>
    if a < 0x80 then Char.ofNat a.toNat :: decodeLossy rest
    else match rest with
      | [] => [replacementChar]
      | b :: rest =>
        if startsTwo a && isContinuation b then
          Char.ofNat (a.toNat % 32 * 64 + lowBits b) :: decodeLossy rest
        else if startsThree a b then
          match rest with
          | [] => [replacementChar]
          | c :: rest =>
            if isContinuation c then
              Char.ofNat (a.toNat % 16 * 4096 + lowBits b * 64 + lowBits c) :: decodeLossy rest
            else replacementChar :: decodeLossy (c :: rest)
        else if startsFour a b then
          match rest with
          | [] => [replacementChar]
          | c :: rest =>
            if isContinuation c then
              match rest with
              | [] => [replacementChar]
              | d :: rest =>
                if isContinuation d then
                  Char.ofNat (a.toNat % 8 * 262144 + lowBits b * 4096 + lowBits c * 64 + lowBits d) ::
                    decodeLossy rest
                else replacementChar :: decodeLossy (d :: rest)
            else replacementChar :: decodeLossy (c :: rest)
        else replacementChar :: decodeLossy (b :: rest)
termination_by bytes => bytes.length

def lossyText (bytes : ByteArray) : String := String.ofList (decodeLossy bytes.toList)

def ofBytes (bytes : ByteArray) : String := String.ofList (bytes.toList.map fun b => Char.ofNat b.toNat)

/-- The bytes of a text that has one character for each of them. -/
def toBytes (s : String) : ByteArray := (s.toList.map fun c => UInt8.ofNat c.toNat).toByteArray

end BenchKernel.Text
