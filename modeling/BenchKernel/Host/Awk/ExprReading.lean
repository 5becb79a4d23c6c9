import BenchKernel.Host.Awk.Reader

/-! # Reading expressions

The forms of expressions, from those that bind most to those that bind least. The forms ask for whole expressions
through a grammar that they are given. -/

namespace BenchKernel.Awk

/-- How whole expressions and statements are read. -/
structure Grammar where
  expression : Read Expr
  statement : Read Statement

namespace Grammar

open Read

/-- Whether something can be assigned to an expression. -/
def isPlace : Expr → Bool
  | .named _ | .field _ | .element _ _ => true
  | _ => false

variable (g : Grammar)

def expressions : (fuel : Nat) → Read (List Expr)
  | 0 => fail
  | fuel + 1 => do
    let first ← g.expression
    if ← takeMark "," then return first :: (← expressions fuel) else return [first]

def listUpTo (close : String) : Read (List Expr) := do
  let list ← g.expressions (← get).rest.length
  expectMark close
  return list

variable (function : String)

/-- An argument of a call. A name by itself may stand for a table, and it is not known yet. -/
def argument (position : Nat) : Read Expr := do
  match ← token, ← second with
  | .name name false, .mark next =>
    if next = "," || next = ")" then
      advance
      let resolved ← resolve name
      match resolved, (← get).region with
      | .parameter index, .function caller _ =>
        modify fun s => { s with passings := ⟨caller, index, function, position⟩ :: s.passings }
      | _, _ => return .named resolved
      return .named resolved
    else g.expression
  | _, _ => g.expression

def arguments : (fuel : Nat) → (position : Nat) → Read (List Expr)
  | 0, _ => fail
  | fuel + 1, position => do
    let first ← g.argument function position
    if ← takeMark "," then return first :: (← arguments fuel (position + 1))
    else
      expectMark ")"
      return [first]

def call : Read Expr := do
  let line := (← lexeme).line
  expectMark "("
  let list ← if ← takeMark ")" then pure [] else g.arguments function (← get).rest.length 0
  modify fun s => { s with calls := s.calls ++ [⟨function, list.length, line⟩] }
  return .call function list

def named (name : String) (isCalled : Bool) : Read Expr := do
  advance
  let isFunction := ((← get).program.procedure? name).isSome
  if isCalled || (isFunction && (← isMark "(")) then g.call name
  else if ← isMark "[" then
    let table ← use .table name
    advance
    return .element table (← g.listUpTo "]")
  else return .named (← use .scalar name)

def builtin (name : String) (function : Builtin) (least most : Nat) : Read Expr := do
  let hasParen ← isMark "("
  if function = .length && !hasParen then return .builtin .length []
  else
    expectMark "("
    match ← token, ← second with
    | .name inner false, .mark ")" =>
      if function = .length && ((← get).kinds.lookup inner != some .scalar) then
        advance
        advance
        return .sizeOf (← resolve inner)
      else
        let list ← g.listUpTo ")"
        return .builtin function list
    | _, _ =>
      let list ← if ← takeMark ")" then pure [] else
        if function = .length then do
          let e ← g.expression
          expectMark ")"
          pure [e]
        else g.listUpTo ")"
      if list.length < least || most < list.length then noteHere s!"wrong number of arguments in call to {name}"
      return .builtin function list

def grouped : Read Expr := do
  advance
  let list ← g.listUpTo ")"
  match list with
  | [e] => return .grouped e
  | _ =>
    if ← isWord "in" then
      advance
      return .member list (← takeTable)
    else fail

def place (index : Read Expr) : Read Expr := do
  match ← token with
  | .mark "$" =>
    advance
    return .field (← index)
  | .name name false => g.named name false
  | _ => fail

/-- Where a record is to be put, if that is said. -/
def lineTarget (index : Read Expr) : Read (Option Expr) := do
  match ← token with
  | .mark "$" | .name _ false => return some (← g.place index)
  | _ => return none

/-- A call of a function that works with a pattern. -/
def patternFunction (word : String) (index : Read Expr) : Read Expr := do
  advance
  expectMark "("
  let first ← g.expression
  match word with
  | "match" =>
    expectMark ","
    let pattern ← asPattern (← g.expression)
    expectMark ")"
    return .matchPlace first pattern
  | "split" =>
    expectMark ","
    let table ← takeTable
    if ← takeMark "," then
      let separator ← g.expression
      expectMark ")"
      return .split first table (some separator)
    else
      expectMark ")"
      return .split first table none
  | _ =>
    let pattern ← asPattern first
    expectMark ","
    let replacement ← g.expression
    if ← takeMark "," then
      let target ← g.place index
      expectMark ")"
      return .substitute (word = "gsub") pattern replacement target
    else
      expectMark ")"
      return .substitute (word = "gsub") pattern replacement (.field (.number 0))

/-- The forms that stand by themselves. What follows the sign of fields and what a line is read from are of the same
    forms. -/
def primary : (depth : Nat) → Read Expr
  | 0 => fail
  | depth + 1 => do
    let index := primary depth
    match ← token with
    | .number value _ =>
      advance
      return .number value
    | .text content =>
      advance
      return .text content
    | .pattern source =>
      let regex ← compile source
      advance
      return .pattern regex
    | .mark "(" => g.grouped
    | .mark "$" => g.place index
    | .mark "++" =>
      advance
      return .step 1 true (← g.place index)
    | .mark "--" =>
      advance
      return .step (-1) true (← g.place index)
    | .mark "-" =>
      advance
      return .negative (← index)
    | .mark "+" =>
      advance
      return .positive (← index)
    | .mark "!" =>
      advance
      return .opposite (← index)
    | .name name isCalled => g.named name isCalled
    | .word "getline" =>
      advance
      let target ← g.lineTarget index
      if ← takeMark "<" then return .fileRecord (← index) target else return .nextRecord target
    | .word word =>
      if ["match", "split", "sub", "gsub"].contains word then g.patternFunction word index
      else
        match Builtin.all.lookup word with
        | some (function, least, most) =>
          advance
          g.builtin word function least most
        | none => fail
    | _ => fail

/-- An expression with a sign that counts after it. -/
def counted : Read Expr := do
  let e ← g.primary (← get).rest.length
  if !isPlace e then return e
  else if ← takeMark "++" then return .step 1 false e
  else if ← takeMark "--" then return .step (-1) false e
  else return e

/-- A command whose lines are read. -/
def piped (command : Expr) : (fuel : Nat) → Read Expr
  | 0 => return command
  | fuel + 1 => do
    if ← takeMark "|" then
      expectWord "getline"
      let target ← g.lineTarget (g.primary (← get).rest.length)
      piped (.commandRecord command target) fuel
    else return command

def unary : (depth : Nat) → Read Expr
  | 0 => fail
  | depth + 1 => do
    if ← takeMark "!" then return .opposite (← unary depth)
    else if ← takeMark "-" then return .negative (← unary depth)
    else if ← takeMark "+" then return .positive (← unary depth)
    else
      let base ← g.counted
      let power ← if ← takeMark "^" then pure (.operation .power base (← unary depth)) else pure base
      g.piped power (← get).rest.length

def operatorOf? {α : Type} (operators : List (String × α)) : Read (Option α) := do
  match ← token with
  | .mark mark => return operators.lookup mark
  | _ => return none

/-- Operands with operators of one level between them, from left to right. -/
def chain {α : Type} (operators : List (String × α)) (join : α → Expr → Expr → Expr) (operand : Read Expr) :
    (fuel : Nat) → Expr → Read Expr
  | 0, left => return left
  | fuel + 1, left => do
    match ← operatorOf? operators with
    | none => return left
    | some operator =>
      advance
      let right ← operand
      chain operators join operand fuel (join operator left right)

def product : Read Expr := do
  let fuel := (← get).rest.length
  chain [("*", Operator.multiply), ("/", .divide), ("%", .remainder)] .operation (g.unary fuel) fuel (← g.unary fuel)

def sum : Read Expr := do
  chain [("+", Operator.add), ("-", .subtract)] .operation g.product (← get).rest.length (← g.product)

/-- Whether an expression can start with a token. -/
def startsOperand : Token → Bool
  | .number _ _ | .text _ | .pattern _ | .name _ _ => true
  | .mark mark => ["(", "$", "!", "++", "--", "-", "+"].contains mark
  | .word word => ["getline", "match", "split", "sub", "gsub"].contains word || (Builtin.all.lookup word).isSome
  | _ => false

/-- Expressions side by side, which are joined. -/
def joinedAfter : (fuel : Nat) → Expr → Read Expr
  | 0, left => return left
  | fuel + 1, left => do
    if startsOperand (← token) then
      let right ← g.sum
      joinedAfter fuel (.joined left right)
    else return left

def updates : List (String × Option Operator) :=
  [("=", none), ("+=", some .add), ("-=", some .subtract), ("*=", some .multiply), ("/=", some .divide), ("%=", some .remainder),
    ("^=", some .power)]

/-- An assignment, or expressions that are joined. -/
def operand : Read Expr := do
  let first ← g.sum
  match ← (if isPlace first then operatorOf? updates else pure none : Read (Option (Option Operator))) with
  | some operator =>
    advance
    let value ← g.expression
    match operator with
    | none => return .assign first value
    | some operator => return .update operator first value
  | none => g.joinedAfter (← get).rest.length first

def comparisons : List (String × Comparison) :=
  [("<", .less), ("<=", .lessEqual), ("==", .equal), ("!=", .unequal), (">", .greater), (">=", .greaterEqual)]

def compared : Read Expr := do
  chain comparisons .comparison g.operand (← get).rest.length (← g.operand)

def searched : Read Expr := do
  let pattern : Read Expr := do asPattern (← g.compared)
  chain [("~", true), ("!~", false)] .found pattern (← get).rest.length (← g.compared)

def memberAfter : (fuel : Nat) → Expr → Read Expr
  | 0, left => return left
  | fuel + 1, left => do
    if ← isWord "in" then
      advance
      let table ← takeTable
      memberAfter fuel (.member [left] table)
    else return left

def asked : Read Expr := do memberAfter (← get).rest.length (← g.searched)

def conjunction : Read Expr := do
  chain [("&&", ())] (fun _ => .both) g.asked (← get).rest.length (← g.asked)

def disjunction : Read Expr := do
  chain [("||", ())] (fun _ => .either) g.conjunction (← get).rest.length (← g.conjunction)

def choice : Read Expr := do
  let test ← g.disjunction
  if ← takeMark "?" then
    let yes ← g.expression
    expectMark ":"
    let no ← g.expression
    return .choice test yes no
  else return test

end Grammar

end BenchKernel.Awk
