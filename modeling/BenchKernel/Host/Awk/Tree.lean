import BenchKernel.Host.Regex

/-! # Programs on records

The programs of `awk`: rules that are tried on every record of the input, what is done before and after, and
functions. -/

namespace BenchKernel.Awk

/-- A variable: one of the whole program, or one of the function that is running. -/
inductive Name
  | global (name : String)
  | parameter (index : Nat)
  deriving DecidableEq, Repr

inductive Operator
  | add
  | subtract
  | multiply
  | divide
  | remainder
  | power
  deriving DecidableEq, Repr

inductive Comparison
  | less
  | lessEqual
  | equal
  | unequal
  | greater
  | greaterEqual
  deriving DecidableEq, Repr

/-- The functions that every program has and that are called like those of its own. -/
inductive Builtin
  | length
  | index
  | substr
  | sprintf
  | sin
  | cos
  | atan2
  | exp
  | log
  | int
  | sqrt
  | rand
  | srand
  | close
  | system
  | toupper
  | tolower
  | fflush
  | systime
  | strftime
  | mktime
  deriving DecidableEq, Repr

namespace Builtin

/-- The functions with their names, and how many arguments they take at least and at most. -/
def all : List (String × Builtin × Nat × Nat) :=
  [("length", length, 0, 1), ("index", index, 2, 2), ("substr", substr, 2, 3), ("sprintf", sprintf, 1, 255), ("sin", sin, 1, 1),
    ("cos", cos, 1, 1), ("atan2", atan2, 2, 2), ("exp", exp, 1, 1), ("log", log, 1, 1), ("int", int, 1, 1), ("sqrt", sqrt, 1, 1),
    ("rand", rand, 0, 0), ("srand", srand, 0, 1), ("close", close, 1, 1), ("system", system, 1, 1), ("toupper", toupper, 1, 1),
    ("tolower", tolower, 1, 1), ("fflush", fflush, 0, 1), ("systime", systime, 0, 0), ("strftime", strftime, 0, 3),
    ("mktime", mktime, 1, 1)]

end Builtin

inductive Expr
  | number (value : Float)
  | text (content : String)
  /-- An expression that is looked for in the record, unless it stands where a pattern is asked for. -/
  | pattern (regex : Regex)
  | named (name : Name)
  | field (index : Expr)
  | element (table : Name) (index : List Expr)
  | grouped (inner : Expr)
  | assign (place value : Expr)
  | update (operator : Operator) (place value : Expr)
  | step (amount : Float) (isNew : Bool) (place : Expr)
  | operation (operator : Operator) (left right : Expr)
  | comparison (comparison : Comparison) (left right : Expr)
  | joined (left right : Expr)
  | found (isWanted : Bool) (text pattern : Expr)
  | member (index : List Expr) (table : Name)
  | both (left right : Expr)
  | either (left right : Expr)
  | choice (test yes no : Expr)
  | opposite (inner : Expr)
  | negative (inner : Expr)
  | positive (inner : Expr)
  | call (function : String) (arguments : List Expr)
  | builtin (function : Builtin) (arguments : List Expr)
  /-- How many entries a table has, or characters a variable, whichever the name stands for. -/
  | sizeOf (name : Name)
  | matchPlace (text pattern : Expr)
  | split (text : Expr) (table : Name) (separator : Option Expr)
  | substitute (isGlobal : Bool) (pattern replacement target : Expr)
  | nextRecord (target : Option Expr)
  | fileRecord (path : Expr) (target : Option Expr)
  | commandRecord (command : Expr) (target : Option Expr)

/-- How output leaves a program. -/
inductive Sink
  | file
  | append
  | pipe
  deriving DecidableEq, Repr

inductive Statement
  | block (body : List Statement)
  | value (e : Expr)
  | print (arguments : List Expr) (output : Option (Sink × Expr))
  | printf (arguments : List Expr) (output : Option (Sink × Expr))
  | branch (test : Expr) (yes no : Statement)
  | loop (test : Option Expr) (next : Option Expr) (body : Statement)
  | repeated (body : Statement) (test : Expr)
  | forEach (name : Name) (table : Name) (body : Statement)
  | leave
  | again
  | next
  | nextFile
  | exit (status : Option Expr)
  | back (value : Option Expr)
  | delete (table : Name) (index : Option (List Expr))

inductive Test
  | always
  | holds (e : Expr)
  | range (first last : Expr)

structure Rule where
  test : Test
  body : Option Statement

structure Procedure where
  name : String
  parameters : Nat
  body : Statement

/-- A variable of the running function that a call hands on, by itself. -/
structure Passing where
  function : String
  parameter : Nat
  callee : String
  position : Nat
  deriving DecidableEq, Repr

/-- A program, and the parameters of its functions that are tables. -/
structure Program where
  start : List Statement := []
  rules : List Rule := []
  finish : List Statement := []
  procedures : List Procedure := []
  tables : List (String × Nat) := []

def Program.procedure? (p : Program) (name : String) : Option Procedure := p.procedures.find? fun f => f.name == name

def Program.isTable (p : Program) (function : String) (parameter : Nat) : Bool := p.tables.contains (function, parameter)

/-- Finds more parameters that are tables: those that are handed on as such. -/
def spreadTables (passings : List Passing) : (rounds : Nat) → List (String × Nat) → List (String × Nat)
  | 0, tables => tables
  | rounds + 1, tables =>
    let more := passings.filter fun p => tables.contains (p.callee, p.position) && !tables.contains (p.function, p.parameter)
    if more.isEmpty then tables else spreadTables passings rounds (tables ++ more.map fun p => (p.function, p.parameter))

end BenchKernel.Awk
