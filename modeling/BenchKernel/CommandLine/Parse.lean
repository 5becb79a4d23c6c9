import BenchKernel.CommandLine.Options

/-! # Reading a command line

Arguments are read from left to right. An argument that takes a value stays pending until the next argument
that is no value has come, and only then its value is read; so an unknown argument is reported before a bad
value in front of it. -/

namespace BenchKernel.CommandLine

inductive Request
  | run (options : Options)
  | help
  | version
  deriving DecidableEq, Repr

structure Reading where
  options : Options := {}
  given : List Field := []
  /-- The argument that waits to be stored, with its value if that has come. -/
  pending : Option (Field × Option String) := none
  hasBody : Bool := false

namespace Reading

/-- Stores an argument. One that takes a value has to have one, and only some may be given again. -/
def give (r : Reading) (field : Field) (value? : Option String) : Except UsageError Reading :=
  if field.takesValue && value?.isNone then .error (.valueRequired field)
  else if !field.repeats && r.given.contains field then .error (.repeated field)
  else
    match r.options.store field (value?.getD "") with
    | .error e => .error e
    | .ok options => .ok { r with options, given := field :: r.given }

def resolve (r : Reading) : Except UsageError Reading :=
  match r.pending with
  | none => .ok r
  | some (field, value?) => { r with pending := none }.give field value?

/-- Stores the pending argument and then another one. -/
def resolveAndGive (r : Reading) (field : Field) (value? : Option String) : Except UsageError Reading :=
  match r.resolve with
  | .error e => .error e
  | .ok r => r.give field value?

/-- Stores the pending argument and makes another one pending. -/
def await (r : Reading) (field : Field) (value? : Option String) : Except UsageError Reading :=
  match r.resolve with
  | .error e => .error e
  | .ok r => .ok { r with pending := some (field, value?) }

/-- An argument without a name: the body, which comes once. -/
def positional (r : Reading) (arg : String) : Except UsageError Reading :=
  if r.hasBody then .error (.unexpected arg)
  else
    match r.await .body (some arg) with
    | .error e => .error e
    | .ok r => .ok { r with hasBody := true }

def option (r : Reading) (field : Field) (attached : Option String) : Except UsageError Reading :=
  match attached with
  | some value => if field.takesValue then r.resolveAndGive field (some value) else .error (.unexpectedValue value field)
  | none => if field.takesValue then r.await field none else r.resolveAndGive field none

/-- What is asked for when no argument is left. -/
def finish (r : Reading) : Except UsageError Request :=
  match r.resolve with
  | .error e => .error e
  | .ok r => if r.hasBody then .ok (.run r.options) else .error .missingBody

end Reading

inductive Token
  /-- The mark after which every argument is a value. -/
  | mark
  | option (field : Field) (attached : Option String)
  | unknown (shown : String)
  | value (text : String)
  deriving DecidableEq, Repr

/-- The form of a long option: a name, and a value after an equals sign. -/
def Token.ofLong (cs : List Char) : Token :=
  let (name, attached) :=
    match Text.cutAt? '=' cs with
    | some (name, attached) => (name, some (String.ofList attached))
    | none => (cs, none)
  match Field.ofLong? (String.ofList name) with
  | some field => .option field attached
  | none => .unknown ("--" ++ String.ofList name)

/-- The form of a short option: one character, and a value after it or after an equals sign. What follows an
    option without a value is another short option and does not matter here, since such an option ends reading. -/
def Token.ofShort (c : Char) (rest : List Char) : Token :=
  match Field.ofShort? c with
  | none => .unknown ("-" ++ String.singleton c)
  | some field =>
    if !field.takesValue then .option field none
    else
      match rest with
      | [] => .option field none
      | '=' :: attached => .option field (some (String.ofList attached))
      | attached => .option field (some (String.ofList attached))

def Token.ofArgument (arg : String) : Token :=
  match arg.toList with
  | ['-', '-'] => .mark
  | '-' :: '-' :: cs => .ofLong cs
  | '-' :: c :: cs => .ofShort c cs
  | _ => .value arg

def readValues : List String → Reading → Except UsageError Request
  | [], r => r.finish
  | arg :: rest, r =>
    match r.positional arg with
    | .error e => .error e
    | .ok r => readValues rest r

/-- Reads arguments in order. Help and version are answered as soon as what is pending is stored. -/
def readArguments : List String → Reading → Except UsageError Request
  | [], r => r.finish
  | arg :: rest, r =>
    match Token.ofArgument arg with
    | .mark => readValues rest r
    | .unknown shown => .error (.unexpected shown)
    | .value text =>
      match r.pending with
      | some (field, none) => readArguments rest { r with pending := some (field, some text) }
      | _ =>
        match r.positional text with
        | .error e => .error e
        | .ok r => readArguments rest r
    | .option field attached =>
      match r.option field attached with
      | .error e => .error e
      | .ok r =>
        if field = .version then .ok .version
        else if field = .help then .ok .help
        else readArguments rest r

def parse (args : List String) : Except UsageError Request := readArguments args {}

end BenchKernel.CommandLine
