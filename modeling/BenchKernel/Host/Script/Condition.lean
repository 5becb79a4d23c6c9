import BenchKernel.Host.Script.Formula

/-! # Conditions

The conditions of the commands `test` and `[`: what their arguments say. Operators that need files are answered
by a function, so that a condition can be looked at without a host. -/

namespace BenchKernel.Script

inductive ConditionWord
  | unary
  | binary
  | not
  | and
  | or
  | opening
  | closing
  | operand
  | none
  deriving DecidableEq, Repr

/-- What conditions ask about files. -/
structure FileFacts where
  holds : (operator path : String) → Bool
  relates : (operator first second : String) → Bool

namespace Condition

def unaryOperators : List String :=
  ["-r", "-w", "-x", "-e", "-f", "-d", "-c", "-b", "-p", "-u", "-g", "-k", "-s", "-t", "-z", "-n", "-h", "-O", "-G",
    "-L", "-S"]

def binaryOperators : List String :=
  ["=", "!=", "<", ">", "-eq", "-ne", "-ge", "-gt", "-le", "-lt", "-nt", "-ot", "-ef"]

def wordOf (text : String) : ConditionWord :=
  if unaryOperators.contains text then .unary
  else if binaryOperators.contains text then .binary
  else if text = "!" then .not
  else if text = "-a" then .and
  else if text = "-o" then .or
  else if text = "(" then .opening
  else if text = ")" then .closing
  else .operand

/-- What the first argument is, seen with those after it. A unary operator needs something to work on that is not
    the operator of a comparison. -/
def first : List String → ConditionWord
  | [] => .none
  | text :: rest =>
    match wordOf text with
    | .unary =>
      match rest with
      | [] => .operand
      | [_] => .unary
      | next :: _ => if wordOf next = .binary then .operand else .unary
    | .opening => if rest.isEmpty then .operand else .opening
    | word => word

abbrev Outcome := Except String

/-- How operators compare numbers. -/
def numberRelations : List (String × (Int → Int → Bool)) :=
  [("-eq", (· == ·)), ("-ne", (· != ·)), ("-ge", (· ≥ ·)), ("-gt", (· > ·)), ("-le", (· ≤ ·)), ("-lt", (· < ·))]

def integer (text : String) : Outcome Int :=
  match wholeNumber? false text with
  | some n => .ok n
  | none => .error s!"Illegal number: {text}"

variable (facts : FileFacts)

def unary (operator argument : String) : Outcome Bool :=
  if operator = "-z" then .ok argument.isEmpty
  else if operator = "-n" then .ok (!argument.isEmpty)
  else if operator = "-t" then (integer argument).map fun _ => false
  else .ok (facts.holds operator argument)

def binary (integer : String → Outcome Int) (operator a b : String) : Outcome Bool := do
  match numberRelations.lookup operator, operator with
  | some holds, _ => return holds (← integer a) (← integer b)
  | none, "=" | none, "==" => return a == b
  | none, "!=" => return a != b
  | none, "<" => return a < b
  | none, ">" => return b < a
  | none, _ => return facts.relates operator a b

mutual

def readOr : Nat → ConditionWord → List String → Outcome (Bool × List String)
  | 0, _, _ => .error "too deep"
  | n + 1, word, arguments => do
    let (a, rest) ← readAnd n word arguments
    if first rest.tail = .or then
      let (b, rest) ← readOr n (first (rest.drop 2)) (rest.drop 2)
      return (a || b, rest)
    else return (a, rest)

def readAnd : Nat → ConditionWord → List String → Outcome (Bool × List String)
  | 0, _, _ => .error "too deep"
  | n + 1, word, arguments => do
    let (a, rest) ← readNot n word arguments
    if first rest.tail = .and then
      let (b, rest) ← readAnd n (first (rest.drop 2)) (rest.drop 2)
      return (a && b, rest)
    else return (a, rest)

def readNot : Nat → ConditionWord → List String → Outcome (Bool × List String)
  | 0, _, _ => .error "too deep"
  | n + 1, word, arguments =>
    if word = .not then do
      let next := first arguments.tail
      let (a, rest) ← readNot n next (if next = .none then arguments else arguments.tail)
      return (!a, rest)
    else readPrimary n word arguments

def readPrimary : Nat → ConditionWord → List String → Outcome (Bool × List String)
  | 0, _, _ => .error "too deep"
  | n + 1, word, arguments =>
    match word with
    | .none => .ok (false, arguments)
    | .opening =>
      let inside := arguments.tail
      if first inside = .closing then .ok (false, inside)
      else do
        let (a, rest) ← readOr n (first inside) inside
        if first rest.tail = .closing then return (a, rest.tail) else throw "closing paren expected"
    | .unary =>
      match arguments with
      | operator :: argument :: rest => (unary facts operator argument).map fun a => (a, argument :: rest)
      | operator :: [] => .error s!"{operator}: argument expected"
      | [] => .ok (false, [])
    | _ =>
      match arguments with
      | a :: operator :: rest =>
        if first (operator :: rest) = .binary then
          match rest with
          | b :: _ => (binary facts integer operator a b).map fun holds => (holds, rest)
          | [] => .error s!"{operator}: argument expected"
        else .ok (!a.isEmpty, arguments)
      | [a] => .ok (!a.isEmpty, arguments)
      | [] => .ok (false, [])

end

/-- Whether arguments hold, given what the first of them is. -/
def evaluateFrom (word : ConditionWord) (arguments : List String) : Outcome Bool := do
  let (holds, rest) ← readOr facts (4 * arguments.length + 8) word arguments
  match rest with
  | a :: _ :: _ => throw (if a.isEmpty then "unexpected operator" else a ++ ": unexpected operator")
  | _ => return holds

/-- Whether the arguments hold. Three and four arguments are looked at as a whole first. -/
def evaluate : (fuel : Nat) → List String → Outcome Bool
  | 0, arguments => evaluateFrom facts (first arguments) arguments
  | fuel + 1, arguments =>
    if arguments.isEmpty then .ok false
    else if arguments.length = 3 && (arguments[1]?.map wordOf) = some .binary then
      evaluateFrom facts .operand arguments
    else if arguments.length = 3 || arguments.length = 4 then
      if arguments.head? = some "(" && arguments.getLast? = some ")" then
        let inside := arguments.tail.dropLast
        evaluateFrom facts (first inside) inside
      else if arguments.head? = some "!" then (evaluate fuel arguments.tail).map (!·)
      else evaluateFrom facts (first arguments) arguments
    else evaluateFrom facts (first arguments) arguments

end Condition

end BenchKernel.Script
