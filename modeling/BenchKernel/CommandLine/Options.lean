import BenchKernel.CommandLine.Value
import BenchKernel.Text.Terminal

/-! # Options

The arguments that the command line knows, what an invocation chose, and how one value is stored. -/

namespace BenchKernel.CommandLine

/-- An argument of the command line. The body is the only one without a name. -/
inductive Field
  | body
  | name
  | arch
  | stream
  | size
  | constant
  | assignment
  | threads
  | iterations
  | tmp
  | compiler
  | compile
  | run
  | output
  | help
  | version
  deriving DecidableEq, Repr

namespace Field

def longNames : List (String × Field) :=
  [("name", name), ("arch", arch), ("stream", stream), ("size", size), ("const", constant), ("var", assignment),
    ("threads", threads), ("iterations", iterations), ("tmp", tmp), ("compiler", compiler), ("compile", compile),
    ("run", run), ("output", output), ("help", help), ("version", version)]

def shortNames : List (Char × Field) := [('o', output), ('h', help), ('V', version)]

def ofLong? (text : String) : Option Field := longNames.lookup text

def ofShort? (c : Char) : Option Field := shortNames.lookup c

def takesValue : Field → Bool
  | compile | run | help | version => false
  | _ => true

/-- Whether an option may be given several times. -/
def repeats : Field → Bool
  | stream | size | constant | assignment | compiler => true
  | _ => false

def usage : Field → String
  | body => "<BODY>"
  | name => "--name <NAME>"
  | arch => "--arch <ARCH>"
  | stream => "--stream <STREAMS>"
  | size => "--size <SIZES>"
  | constant => "--const <CONSTANTS>"
  | assignment => "--var <VARIABLES>"
  | threads => "--threads <THREADS>"
  | iterations => "--iterations <ITERATIONS>"
  | tmp => "--tmp <TMP>"
  | compiler => "--compiler <COMPILERS>"
  | compile => "--compile"
  | run => "--run"
  | output => "--output <OUTPUT>"
  | help => "--help"
  | version => "--version"

end Field

structure Options where
  /-- The file with the body of the template. -/
  body : String := ""
  name : Option String := none
  arch : Option Arch := none
  streams : List Stream := []
  sizes : List (String × String) := []
  constants : List (String × String) := []
  vars : List (String × String) := []
  threads : Nat := 1
  iterations : Nat := 1
  tmp : Option String := none
  compilers : List String := []
  compile : Bool := false
  run : Bool := false
  output : Option String := none
  deriving DecidableEq, Repr

inductive UsageError
  | missingBody
  | unexpected (argument : String)
  | valueRequired (field : Field)
  | repeated (field : Field)
  | invalidValue (value : String) (field : Field) (cause : ValueError)
  /-- A value for an argument that takes none. -/
  | unexpectedValue (value : String) (field : Field)
  deriving DecidableEq, Repr

/-- The line that reports a usage error, where `mark` shows the parts that are set off. -/
def UsageError.line (mark : Text.Terminal.Style → String → String) : UsageError → String
  | missingBody => "the following required arguments were not provided:"
  | unexpected argument => "unexpected argument '" ++ mark .invalid argument ++ "' found"
  | valueRequired field => "a value is required for '" ++ mark .literal field.usage ++ "' but none was supplied"
  | repeated field => "the argument '" ++ mark .invalid field.usage ++ "' cannot be used multiple times"
  | invalidValue value field cause =>
    "invalid value '" ++ mark .invalid value ++ "' for '" ++ mark .literal field.usage ++ "': " ++ cause.message
  | unexpectedValue value field =>
    "unexpected value '" ++ mark .invalid value ++ "' for '" ++ mark .literal field.usage ++
      "' found; no more were expected"

def UsageError.report (mark : Text.Terminal.Style → String → String) (e : UsageError) : String :=
  mark .error "error:" ++ " " ++ e.line mark ++ "\n\nFor more information, try '" ++ mark .literal "--help" ++ "'.\n"

def UsageError.message (e : UsageError) : String := Text.Terminal.plain (e.report Text.Terminal.styled)

namespace Options

def storeRead {α : Type} (field : Field) (value : String) (read : String → Except ValueError α)
    (update : α → Options) : Except UsageError Options :=
  match read value with
  | .ok a => .ok (update a)
  | .error e => .error (.invalidValue value field e)

def storePath (field : Field) (value : String) (update : String → Options) : Except UsageError Options :=
  if value.isEmpty then .error (.valueRequired field) else .ok (update value)

def store (o : Options) (field : Field) (value : String) : Except UsageError Options :=
  match field with
  | .body => storePath field value fun path => { o with body := path }
  | .name => .ok { o with name := some value }
  | .arch => storeRead field value readArch fun arch => { o with arch := some arch }
  | .stream => storeRead field value readStream fun s => { o with streams := o.streams ++ [s] }
  | .size => storeRead field value readPair fun p => { o with sizes := o.sizes ++ [p] }
  | .constant => storeRead field value readPair fun p => { o with constants := o.constants ++ [p] }
  | .assignment => storeRead field value readPair fun p => { o with vars := o.vars ++ [p] }
  | .threads => storeRead field value readNumber fun n => { o with threads := n }
  | .iterations => storeRead field value readNumber fun n => { o with iterations := n }
  | .tmp => storePath field value fun path => { o with tmp := some path }
  | .compiler => .ok { o with compilers := o.compilers ++ [value] }
  | .output => storePath field value fun path => { o with output := some path }
  | .compile => .ok { o with compile := true }
  | .run => .ok { o with run := true }
  | .help | .version => .ok o

end Options

end BenchKernel.CommandLine
