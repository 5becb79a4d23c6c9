import BenchKernel.Text.Pieces

/-! # What a shell script says

A script is a list of commands. A word of a command is a list of parts: texts, which may be quoted, and the
expansions of parameters, of commands and of formulas. -/

namespace BenchKernel.Script

inductive Dialect
  | plain
  /-- The language with arrays, conditions between double brackets, braces that stand for several words, and more. -/
  | extended
  deriving DecidableEq, Repr

/-- How a redirection opens a file. -/
inductive FileAccess
  | read
  | write
  | overwrite
  | append
  | readWrite
  deriving DecidableEq, Repr

/-- Where a pattern has to match for its match to be replaced. -/
inductive Anchor
  | first
  | every
  | start
  | final
  deriving DecidableEq, Repr

inductive Casing
  | upper
  | lower
  | toggled
  deriving DecidableEq, Repr

/-- What follows the commands of a case. -/
inductive CaseEnd
  | leave
  | fallThrough
  | goOn
  deriving DecidableEq, Repr

mutual

/-- What an expansion takes its value from. -/
inductive Parameter
  | variable (name : String)
  | positional (index : Nat)
  | arguments
  | joined
  | count
  | status
  | process
  | lastJob
  | flags
  | element (name : String) (index : List Part)
  | elements (name : String) (joined : Bool)

inductive Part
  | text (quoted : Bool) (content : String)
  | expansion (quoted : Bool) (parameter : Parameter) (change : Change)
  | output (quoted : Bool) (commands : List Command)
  | formula (quoted : Bool) (parts : List Part)
  | process (reads : Bool) (commands : List Command)
  | array (items : List (Option (List Part) × List Part))

/-- What an expansion does with the value of its parameter. Most look also at whether the parameter is set and,
    with `orEmpty`, whether it is empty. -/
inductive Change
  | keep
  | length
  | otherwise (orEmpty : Bool) (word : List Part)
  | assign (orEmpty : Bool) (word : List Part)
  | require (orEmpty : Bool) (word : List Part)
  | instead (orEmpty : Bool) (word : List Part)
  | cutStart (longest : Bool) (pattern : List Part)
  | cutEnd (longest : Bool) (pattern : List Part)
  | before (word : List Part)
  | slice (start : List Part) (length : Option (List Part))
  | replace (anchor : Anchor) (pattern word : List Part)
  /-- The value with the letters that match a pattern changed: all of them or only the first. -/
  | casing (casing : Casing) (all : Bool) (pattern : List Part)
  | indirect (change : Change)
  | keys
  | names (joined : Bool)
  | transform (letter : Char)
  | bad (text : String)

inductive Redirection
  | file (number : Nat) (access : FileAccess) (target : List Part)
  /-- Lets a number stand for what another one stands for; `-` closes it. Without a number of its own it may name a
      file for the output and the errors. -/
  | duplicate (number : Nat) (implicit : Bool) (source : List Part)
  | document (number index : Nat)
  | string (number : Nat) (word : List Part)
  | both (append : Bool) (target : List Part)
  | named (holder : String) (redirection : Redirection)

inductive Assignment
  | text (name : String) (index : Option (List Part)) (append : Bool) (value : List Part)
  | list (name : String) (append : Bool) (items : List (Option (List Part) × List Part))

inductive Test
  | word (word : List Part)
  | unary (operator : String) (word : List Part)
  | binary (operator : String) (first second : List Part)
  | not (test : Test)
  | both (first second : Test)
  | either (first second : Test)

inductive Command
  | simple (line : Nat) (assignments : List Assignment) (words : List (List Part)) (redirections : List Redirection)
  | group (body : List Command)
  | redirected (line : Nat) (command : Command) (redirections : List Redirection)
  | subshell (line : Nat) (body : List Command) (redirections : List Redirection)
  | pipeline (commands : List Command)
  | background (command : Command)
  | negate (command : Command)
  | andThen (first second : Command)
  | orElse (first second : Command)
  | cond (test body other : List Command)
  | loop (negated : Bool) (test body : List Command)
  /-- Without words the loop goes through the arguments of the script. -/
  | each (line : Nat) (name : String) (words : Option (List (List Part))) (body : List Command)
  /-- A loop with formulas to start with, to go on and to go to the next round. -/
  | count (line : Nat) (start test next : List Part) (body : List Command)
  | select (line : Nat) (name : String) (words : Option (List (List Part))) (body : List Command)
  | choice (line : Nat) (subject : List Part) (cases : List (List (List Part) × List Command × CaseEnd))
  | function (line : Nat) (name : String) (body : Command)
  | formula (line : Nat) (parts : List Part)
  | condition (line : Nat) (test : Test)
  | timed (command : Command)
  /-- A command that runs beside the shell, which can write to it and read from it. -/
  | coprocess (line : Nat) (name : String) (command : Command)

end

abbrev Word := List Part

def Assignment.name : Assignment → String
  | text name _ _ _ | list name _ _ => name

def isNameStart (c : Char) : Bool := c.isAlpha || c == '_'

def isName (text : String) : Bool :=
  match text.toList with
  | [] => false
  | c :: rest => isNameStart c && rest.all Text.isWordChar

def number? (cs : List Char) : Option Nat :=
  if cs.isEmpty || !cs.all Char.isDigit then none
  else some (cs.foldl (fun n c => n * 10 + (c.toNat - '0'.toNat)) 0)

def specialParameter? (c : Char) : Option Parameter :=
  if c.isDigit then some (.positional (c.toNat - '0'.toNat))
  else [('#', Parameter.count), ('@', .arguments), ('*', .joined), ('?', .status), ('$', .process), ('!', .lastJob),
    ('-', .flags)].lookup c

/-- Adds a character to parts, of which the last one stands first. -/
def addChar (parts : List Part) (quoted : Bool) (c : Char) : List Part :=
  match parts with
  | .text q content :: rest =>
    if q = quoted then .text q (content.push c) :: rest else .text quoted (String.singleton c) :: parts
  | _ => .text quoted (String.singleton c) :: parts

def addChars (parts : List Part) (quoted : Bool) (cs : List Char) : List Part :=
  cs.foldl (fun parts c => addChar parts quoted c) parts

def plainText? : Word → Option String
  | [.text false content] => some content
  | _ => none

def textThen (cs : List Char) (rest : Word) : Word := if cs.isEmpty then rest else .text false (String.ofList cs) :: rest

def assigning (name : String) (index : Option Word) (append : Bool) (value : Word) : Assignment :=
  match index, value with
  | none, [.array items] => .list name append items
  | _, _ => .text name index append value

/-- Cuts a text at the bracket that closes it. -/
def cutBracket : (depth : Nat) → (before : List Char) → List Char → Except Nat (List Char × List Char)
  | depth, _, [] => .error depth
  | depth, before, c :: rest =>
    if c = ']' && depth = 0 then .ok (before.reverse, rest)
    else cutBracket (if c = '[' then depth + 1 else if c = ']' then depth - 1 else depth) (c :: before) rest

/-- Cuts a word at the bracket that closes it. -/
def cutSubscript : (depth : Nat) → (before : Word) → Word → Option (Word × List Char × Word)
  | _, _, [] => none
  | depth, before, .text false content :: rest =>
    match cutBracket depth [] content.toList with
    | .error depth => cutSubscript depth (.text false content :: before) rest
    | .ok (inside, after) => some ((textThen inside before).reverse, after, rest)
  | depth, before, part :: rest => cutSubscript depth (part :: before) rest

/-- An assignment. In the extended language its target may be an element of an array, and a plus sign before the
    equals sign adds the value. -/
def assignment? (d : Dialect) : Word → Option Assignment
  | .text false content :: rest =>
    let name := content.toList.takeWhile Text.isWordChar
    let known := isName (String.ofList name)
    match if known then content.toList.drop name.length else [] with
    | '=' :: value => some (assigning (String.ofList name) none false (textThen value rest))
    | '+' :: '=' :: value =>
      if d = .extended then some (assigning (String.ofList name) none true (textThen value rest)) else none
    | '[' :: after =>
      match if d = .extended then cutSubscript 0 [] (textThen after rest) else none with
      | some (index, '=' :: value, rest) => some (.text (String.ofList name) (some index) false (textThen value rest))
      | some (index, '+' :: '=' :: value, rest) => some (.text (String.ofList name) (some index) true (textThen value rest))
      | _ => none
    | _ => none
  | _ => none

/-! ### Tokens -/

inductive Token
  | eof
  | newline
  | operator (text : String)
  | redirection (number : Option Nat) (operator : String)
  | named (holder operator : String)
  | word (parts : Word)
  | keyword (text : String)

def keywords (d : Dialect) : List String :=
  (if d = .extended then ["[[", "coproc", "function", "select", "time"] else []) ++
  ["!", "case", "do", "done", "elif", "else", "esac", "fi", "for", "if", "in", "then", "until", "while", "\x7b", "\x7d"]

def Token.shown : Token → String
  | eof => "end of file"
  | newline => "newline"
  | operator text | keyword text => s!"\"{text}\""
  | redirection _ _ | named _ _ => "redirection"
  | word _ => "word"

/-- The numbers that a redirection changes. -/
def Redirection.numbers : Redirection → List Nat
  | file number _ _ | document number _ | string number _ => [number]
  | duplicate number implicit _ => if implicit then [number, 2] else [number]
  | both _ _ => [1, 2]
  | named _ _ => []

def Redirection.withNumber (number : Nat) : Redirection → Redirection
  | file _ access target => .file number access target
  | duplicate _ _ source => .duplicate number false source
  | document _ index => .document number index
  | string _ word => .string number word
  | other => other

/-- Whether a list of commands cannot go on with a token. -/
def Token.endsList : Token → Bool
  | eof => true
  | operator text => [")", ";;", ";&", ";;&"].contains text
  | keyword text => ["do", "done", "elif", "else", "esac", "fi", "then", "\x7d"].contains text
  | _ => false

def Token.isOperator (t : Token) (text : String) : Bool :=
  match t with
  | operator found => found == text
  | _ => false

def Token.isKeyword (t : Token) (text : String) : Bool :=
  match t with
  | keyword found => found == text
  | _ => false

def specialBuiltins : List String :=
  [".", ":", "break", "continue", "eval", "exec", "exit", "export", "local", "readonly", "return", "set", "shift",
    "times", "trap", "unset"]

end BenchKernel.Script
