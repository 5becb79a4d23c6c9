import BenchKernel.Text.Pieces

/-! # Templates

A template is a named body of lines with the streams that its routine works on and the texts that are
substituted for its constants and variables. Metrics and parameters are carried along. -/

namespace BenchKernel

inductive ElementType
  | int
  | int64
  | float
  | double
  deriving DecidableEq, Repr

namespace ElementType

def size : ElementType → Nat
  | int | float => 4
  | int64 | double => 8

def name : ElementType → String
  | int => "int"
  | int64 => "int64"
  | float => "float"
  | double => "double"

def names : List (String × ElementType) :=
  [("int", int), ("int32", int), ("int64", int64), ("long", int64), ("float", float), ("single", float),
    ("double", double)]

/-- The form in which a name is looked up: without blanks around it and in lower ASCII case. -/
def key (text : String) : String := Text.lowered (Text.trimmed text)

def ofName? (text : String) : Option ElementType := names.lookup (key text)

end ElementType

/-- A declared stream: its name, the type of its elements and a size token for each dimension. -/
structure Stream where
  name : String
  type : ElementType
  dims : List String
  deriving DecidableEq, Repr

structure Template where
  name : String := ""
  body : List String := []
  streams : List Stream := []
  constants : List (String × String) := []
  vars : List (String × String) := []
  metrics : List (String × String) := []
  parameters : List (String × String) := []
  deriving DecidableEq, Repr

def Template.addBody (t : Template) (text : String) : Template := { t with body := t.body ++ Text.lines text }

end BenchKernel
