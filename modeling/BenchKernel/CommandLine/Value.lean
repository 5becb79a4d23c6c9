import BenchKernel.Number.Reading
import BenchKernel.Template.Error

/-! # Values of options

How the values of the command line are read: pairs of a key and a text, streams, and numbers. -/

namespace BenchKernel.CommandLine

/-- Why a value is not what its option needs. -/
inductive ValueError
  | pair (text : String)
  | streamForm (text : String)
  | noTokens (stream : String)
  | setup (cause : SetupError)
  | number (cause : Number.ReadError)
  deriving DecidableEq, Repr

def ValueError.message : ValueError → String
  | pair text => s!"expected KEY=VALUE, got `{text}`"
  | streamForm text => s!"expected NAME:TYPE:TOKEN[,TOKEN...], got `{text}`"
  | noTokens stream => s!"stream `{stream}` has no size tokens"
  | setup cause => cause.message
  | number cause => cause.message

/-- Reads a key and a text around the first equals sign. The key is not blank; blanks around both are dropped. -/
def readPair (text : String) : Except ValueError (String × String) :=
  match Text.cutAt? '=' text.toList with
  | none => .error (.pair text)
  | some (key, value) =>
    if (Text.trim key).isEmpty then .error (.pair text)
    else .ok (String.ofList (Text.trim key), String.ofList (Text.trim value))

/-- The name, type and size tokens of a stream, as they stand between the first two colons and after them. -/
def streamParts? (cs : List Char) : Option (List Char × List Char × List Char) := do
  let (name, rest) ← Text.cutAt? ':' cs
  let (type, tokens) ← Text.cutAt? ':' rest
  return (name, type, tokens)

/-- The tokens of a list with commas: its items without blanks around them, blank items left out. -/
def readTokens (cs : List Char) : List (List Char) :=
  ((Text.splitAt ',' cs).map Text.trim).filter fun token => !token.isEmpty

def readStream (text : String) : Except ValueError Stream :=
  match streamParts? text.toList with
  | none => .error (.streamForm text)
  | some (name, type, tokens) =>
    match ElementType.parse (String.ofList type) with
    | .error e => .error (.setup e)
    | .ok type =>
      let dims := (readTokens tokens).map String.ofList
      if dims.isEmpty then .error (.noTokens (String.ofList name))
      else .ok ⟨String.ofList (Text.trim name), type, dims⟩

def readArch (text : String) : Except ValueError Arch :=
  match Arch.parse text with
  | .ok arch => .ok arch
  | .error e => .error (.setup e)

def readNumber (text : String) : Except ValueError Nat :=
  match Number.readWord text with
  | .ok n => .ok n
  | .error e => .error (.number e)

end BenchKernel.CommandLine
