import BenchKernel.Target.Arch
import BenchKernel.Template.Basic
import BenchKernel.Text.Quoted

/-! # Configuration errors

What can be wrong when a template meets a target and the streams of a thread. -/

namespace BenchKernel

inductive SetupError
  | registersExhausted (arch : Arch) (streams free : Nat)
  | extentMismatch (stream : String) (declared bound : Nat)
  | streamCount (declared bound : Nat)
  | unknownArch (text : String)
  | unknownType (text : String)
  | streamTooLarge (type : ElementType) (extents : List Nat)
  deriving DecidableEq, Repr

namespace SetupError

def name : SetupError → String
  | registersExhausted .. => "RegistersExhausted"
  | extentMismatch .. => "ExtentMismatch"
  | streamCount .. => "StreamCount"
  | unknownArch .. => "UnknownArch"
  | unknownType .. => "UnknownDataType"
  | streamTooLarge .. => "StreamTooLarge"

def showExtents (extents : List Nat) : String := Text.showList (extents.map toString)

def message : SetupError → String
  | registersExhausted arch streams free =>
    s!"{streams} streams declared but only {free} registers are free on {arch.name}"
  | extentMismatch stream declared bound =>
    s!"stream `{stream}` declares {declared} dimensions, binding has {bound}"
  | streamCount declared bound => s!"template declares {declared} streams, binding has {bound}"
  | unknownArch text => s!"unknown architecture `{text}`"
  | unknownType text => s!"unknown data type `{text}`"
  | streamTooLarge type extents =>
    s!"{type.name} stream of extents {showExtents extents} does not fit in memory"

def describe (e : SetupError) : String :=
  match e with
  | registersExhausted arch streams free =>
    Text.showRecord e.name [("arch", Text.quoted arch.name), ("streams", toString streams), ("free", toString free)]
  | extentMismatch stream declared bound =>
    Text.showRecord e.name
      [("stream", Text.quoted stream), ("declared", toString declared), ("bound", toString bound)]
  | streamCount declared bound =>
    Text.showRecord e.name [("declared", toString declared), ("bound", toString bound)]
  | unknownArch text | unknownType text => Text.showWrapped e.name (Text.quoted text)
  | streamTooLarge type extents =>
    Text.showRecord e.name [("dtype", Text.quoted type.name), ("extents", showExtents extents)]

end SetupError

def Arch.parse (text : String) : Except SetupError Arch :=
  match Arch.ofName? text with
  | some arch => .ok arch
  | none => .error (.unknownArch text)

def Arch.ofTriple (triple : String) (sve : Bool) : Except SetupError Arch :=
  match Arch.ofTriple? triple sve with
  | some arch => .ok arch
  | none => .error (.unknownArch triple)

def ElementType.parse (text : String) : Except SetupError ElementType :=
  match ElementType.ofName? text with
  | some type => .ok type
  | none => .error (.unknownType (ElementType.key text))

end BenchKernel
