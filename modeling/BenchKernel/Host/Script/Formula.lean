import BenchKernel.Host.Script.Tree
import BenchKernel.Number.Reading

/-! # Formulas

The arithmetic of scripts: signed numbers of 64 bits, the operators of the shell, and assignments. A formula is read
into a tree and then computed. -/

namespace BenchKernel.Script

/-! ### Numbers in texts -/

def isSpace (c : Char) : Bool := c == ' ' || (9 ≤ c.toNat && c.toNat ≤ 13)

def digitsValue (base : Nat) (cs : List Char) : Nat :=
  cs.foldl (fun n c => n * base + (Number.digit? base c).getD 0) 0

/-- A number without its sign at the start of a text, and the text after it. With `based` a zero in front makes
    it octal and `0x` hexadecimal. -/
def readUnsigned? (based : Bool) (cs : List Char) : Option (Nat × List Char) :=
  let digits (base : Nat) (cs : List Char) : Option (Nat × List Char) :=
    let isDigit (c : Char) := (Number.digit? base c).isSome
    if (cs.takeWhile isDigit).isEmpty then none
    else some (digitsValue base (cs.takeWhile isDigit), cs.dropWhile isDigit)
  match cs with
  | '0' :: x :: rest =>
    if !based then digits 10 cs
    else if x == 'x' || x == 'X' then (digits 16 rest).getD (0, x :: rest)
    else digits 8 cs
  | _ => digits 10 cs

def leastNumber : Int := -9223372036854775808

def greatestNumber : Int := 9223372036854775807

/-- A number with its sign at the start of a text, and the text after it. -/
def readNumber? (based : Bool) (cs : List Char) : Option (Int × List Char) :=
  match cs.dropWhile isSpace with
  | '-' :: rest => (readUnsigned? based rest).map fun (n, rest) => (-(n : Int), rest)
  | '+' :: rest => (readUnsigned? based rest).map fun (n, rest) => ((n : Int), rest)
  | rest => (readUnsigned? based rest).map fun (n, rest) => ((n : Int), rest)

def nearestNumber (n : Int) : Int := max leastNumber (min greatestNumber n)

/-- The number of 64 bits that a text is. -/
def wholeNumber? (based : Bool) (text : String) : Option Int :=
  match readNumber? based text.toList with
  | some (n, rest) => if rest.all isSpace && nearestNumber n = n then some n else none
  | none => none

/-! ### Trees -/

inductive Operator
  | power
  | times | divided | remainder
  | plus | minus
  | shiftLeft | shiftRight
  | less | lessEqual | greater | greaterEqual
  | equal | unequal
  | bitAnd
  | bitXor
  | bitOr
  deriving DecidableEq, Repr

/-- How weakly an operator binds. -/
def Operator.level : Operator → Nat
  | power | times | divided | remainder => 0
  | plus | minus => 1
  | shiftLeft | shiftRight => 2
  | less | lessEqual | greater | greaterEqual => 3
  | equal | unequal => 4
  | bitAnd => 5
  | bitXor => 6
  | bitOr => 7

def Operator.all : List (String × Operator) :=
  [("*", times), ("/", divided), ("%", remainder), ("+", plus), ("-", minus), ("<<", shiftLeft), (">>", shiftRight),
    ("<", less), ("<=", lessEqual), (">", greater), (">=", greaterEqual), ("==", equal), ("!=", unequal),
    ("&", bitAnd), ("^", bitXor), ("|", bitOr)]

/-- The operators that also assign. -/
def Operator.assigning : List (String × Operator) :=
  (Operator.all.filter fun (_, o) => o.level ≤ 2 || 5 ≤ o.level).map fun (text, o) => (text ++ "=", o)

inductive Formula
  | number (value : Int64)
  | name (text : String)
  /-- An element of an array, by a formula for its index or, if texts are its keys, by the text of that. -/
  | element (name key : String) (index : Formula)
  | negative (a : Formula)
  | not (a : Formula)
  | complement (a : Formula)
  | binary (o : Operator) (a b : Formula)
  | both (a b : Formula)
  | either (a b : Formula)
  | choice (test a b : Formula)
  | assign (name : String) (o : Option Operator) (value : Formula)
  | assignElement (name key : String) (index : Formula) (o : Option Operator) (value : Formula)
  /-- Adds one to a variable or an element or takes one from it. The value is that before it or after it. -/
  | step (target : Formula) (o : Operator) (before : Bool)
  | sequence (a b : Formula)
  | located (whole token : String) (a : Formula)
  deriving Repr

/-- Why a formula has no value. -/
inductive FormulaFault
  | formula (why : String)
  | number (text : String)
  | located (whole why token : String)
  | unset (name : String)
  deriving DecidableEq, Repr

inductive FormulaToken
  | number (value : Int)
  | name (text : String)
  | symbol (text : String)
  | element (name key : String)
  | other
  deriving DecidableEq, Repr

namespace Formula

def symbols : List String :=
  ["<<=", ">>=", "<<", ">>", "<=", ">=", "==", "!=", "&&", "||", "+=", "-=", "*=", "/=", "%=", "&=", "^=", "|=",
    "+", "-", "*", "/", "%", "<", ">", "&", "^", "|", "!", "~", "?", ":", "(", ")", "="]

def isBlank (c : Char) : Bool := c == ' ' || c == '\t' || c == '\n'

/-- The tokens of a text. Nothing is read after a character that belongs to no token. -/
def tokens : (fuel : Nat) → List Char → List FormulaToken
  | 0, _ => []
  | _ + 1, [] => []
  | fuel + 1, c :: cs =>
    if isBlank c then tokens fuel cs
    else if c.isDigit then
      match readNumber? true (c :: cs) with
      | some (n, rest) => .number (nearestNumber n) :: tokens fuel rest
      | none => [.other]
    else if isNameStart c then
      let isPart := Text.isWordChar
      .name (String.ofList ((c :: cs).takeWhile isPart)) :: tokens fuel ((c :: cs).dropWhile isPart)
    else
      match symbols.find? fun text => text.toList.isPrefixOf (c :: cs) with
      | some text => .symbol text :: tokens fuel ((c :: cs).drop text.length)
      | none => [.other]

abbrev Reading := Except FormulaFault (Formula × List FormulaToken)

def fault {α : Type} (why : String) : Except FormulaFault α := .error (.formula why)

mutual

def readAssignment : Nat → List FormulaToken → Reading
  | 0, _ => fault "too deep"
  | n + 1, ts =>
    match ts with
    | .name text :: .symbol symbol :: rest =>
      if symbol = "=" then do
        let (value, rest) ← readAssignment n rest
        return (.assign text none value, rest)
      else
        match Operator.assigning.lookup symbol with
        | some o => do
          let (value, rest) ← readAssignment n rest
          return (.assign text (some o) value, rest)
        | none => readChoice n ts
    | _ => readChoice n ts

def readChoice : Nat → List FormulaToken → Reading
  | 0, _ => fault "too deep"
  | n + 1, ts => do
    let (test, rest) ← readEither n ts
    match rest with
    | .symbol "?" :: rest =>
      let (a, rest) ← readAssignment n rest
      match rest with
      | .symbol ":" :: rest =>
        let (b, rest) ← readChoice n rest
        return (.choice test a b, rest)
      | _ => fault "expecting ':'"
    | _ => return (test, rest)

def readEither : Nat → List FormulaToken → Reading
  | 0, _ => fault "too deep"
  | n + 1, ts => do
    let (a, rest) ← readBoth n ts
    match rest with
    | .symbol "||" :: rest =>
      let (b, rest) ← readEither n rest
      return (.either a b, rest)
    | _ => return (a, rest)

def readBoth : Nat → List FormulaToken → Reading
  | 0, _ => fault "too deep"
  | n + 1, ts => do
    let (a, rest) ← readPrimary n ts
    let (a, rest) ← readOperators n 8 a rest
    match rest with
    | .symbol "&&" :: rest =>
      let (b, rest) ← readBoth n rest
      return (.both a b, rest)
    | _ => return (a, rest)

/-- Goes on with a formula by operators that bind more strongly than a level. -/
def readOperators : Nat → (level : Nat) → Formula → List FormulaToken → Reading
  | 0, _, _, _ => fault "too deep"
  | n + 1, level, a, ts =>
    match ts with
    | .symbol symbol :: rest =>
      match Operator.all.lookup symbol with
      | some o =>
        if o.level < level then do
          let (b, rest) ← readPrimary n rest
          let (b, rest) ← readOperators n o.level b rest
          readOperators n level (.binary o a b) rest
        else return (a, ts)
      | none => return (a, ts)
    | _ => return (a, ts)

def readPrimary : Nat → List FormulaToken → Reading
  | 0, _ => fault "too deep"
  | n + 1, ts =>
    match ts with
    | .number value :: rest => return (.number (Int64.ofInt value), rest)
    | .name text :: rest => return (.name text, rest)
    | .symbol "(" :: rest => do
      let (a, rest) ← readAssignment n rest
      match rest with
      | .symbol ")" :: rest => return (a, rest)
      | _ => fault "expecting ')'"
    | .symbol "+" :: rest => readPrimary n rest
    | .symbol "-" :: rest => do
      let (a, rest) ← readPrimary n rest
      return (.negative a, rest)
    | .symbol "!" :: rest => do
      let (a, rest) ← readPrimary n rest
      return (.not a, rest)
    | .symbol "~" :: rest => do
      let (a, rest) ← readPrimary n rest
      return (.complement a, rest)
    | _ => fault "expecting primary"

end

def read (text : String) : Except FormulaFault Formula := do
  let ts := tokens (text.length + 1) text.toList
  let (a, rest) ← readAssignment (8 * ts.length + 8) ts
  if rest.isEmpty then return a else fault "expecting EOF"

/-! ### Values -/

def ofBool (b : Bool) : Int64 := if b then 1 else 0

def powerOf (a : Int64) : Nat → Int64
  | 0 => 1
  | n + 1 => if (n + 1) % 2 = 0 then powerOf (a * a) ((n + 1) / 2) else a * powerOf a n

/-- The value of an operator. Results keep their lowest 64 bits. -/
def apply (o : Operator) (a b : Int64) : Except FormulaFault Int64 :=
  match o with
  | .power => if b < 0 then fault "exponent less than 0" else .ok (powerOf a b.toInt.toNat)
  | .times => .ok (a * b)
  | .divided => if b = 0 then fault "division by zero" else .ok (a / b)
  | .remainder => if b = 0 then fault "division by zero" else .ok (a % b)
  | .plus => .ok (a + b)
  | .minus => .ok (a - b)
  | .shiftLeft => .ok (a <<< b)
  | .shiftRight => .ok (a >>> b)
  | .less => .ok (ofBool (a < b))
  | .lessEqual => .ok (ofBool (a ≤ b))
  | .greater => .ok (ofBool (b < a))
  | .greaterEqual => .ok (ofBool (b ≤ a))
  | .equal => .ok (ofBool (a = b))
  | .unequal => .ok (ofBool (a ≠ b))
  | .bitAnd => .ok (a &&& b)
  | .bitXor => .ok (a ^^^ b)
  | .bitOr => .ok (a ||| b)

/-- A place for a number: a variable or, with a key, an element of an array. -/
abbrev Slot := String × Option String

abbrev Assigned := List (Slot × Int64)

/-- A computation that remembers what it has assigned. -/
abbrev Computing := StateT Assigned (Except FormulaFault)

def lookup (look : String → Option String) (slot : Slot) : Computing Int64 := do
  match (← get).lookup slot with
  | some value => return value
  | none =>
    let text := (look slot.1).getD ""
    if text.toList.all isSpace then return 0
    else
      match wholeNumber? true text with
      | some n => return Int64.ofInt n
      | none => throw (.number text)

def store (slot : Slot) (n : Int64) : Computing Int64 := do
  modify fun assigned => (slot, n) :: assigned
  return n

def placed (whole token : String) : FormulaFault → FormulaFault
  | .formula "division by zero" => .located whole "division by 0" token
  | .formula why => .located whole why token
  | fault => fault

def updated (o : Option Operator) (before : Computing Int64) (x : Int64) : Computing Int64 := do
  match o with
  | none => return x
  | some o => apply o (← before) x

def elementSlot (isKeyed : Bool) (array key : String) (index : Computing Int64) : Computing Slot :=
  if isKeyed then return (array, some key) else do return (array, some (toString (← index).toInt))

/-- The value of a formula. Assignments are only remembered. -/
def value (look : Slot → Computing Int64) (isKeyed : String → Bool) : Formula → Computing Int64
  | .number n => return n
  | .name text => look (text, none)
  | .element array key index => do
    look (← elementSlot (isKeyed array) array key (value look isKeyed index))
  | .negative a => return -(← value look isKeyed a)
  | .not a => return ofBool ((← value look isKeyed a) = 0)
  | .complement a => return ~~~(← value look isKeyed a)
  | .binary o a b => do
    let x ← value look isKeyed a
    let y ← value look isKeyed b
    apply o x y
  | .both a b => do
    let x ← value look isKeyed a
    if x = 0 then return 0 else return ofBool ((← value look isKeyed b) ≠ 0)
  | .either a b => do
    let x ← value look isKeyed a
    if x ≠ 0 then return 1 else return ofBool ((← value look isKeyed b) ≠ 0)
  | .choice test a b => do
    let x ← value look isKeyed test
    if x ≠ 0 then value look isKeyed a else value look isKeyed b
  | .assign target o a => do
    let x ← value look isKeyed a
    store (target, none) (← updated o (look (target, none)) x)
  | .assignElement array key index o a => do
    let slot ← elementSlot (isKeyed array) array key (value look isKeyed index)
    let x ← value look isKeyed a
    store slot (← updated o (look slot) x)
  | .step target o isBefore => do
    let slot : Slot ←
      match target with
      | .element array key index => elementSlot (isKeyed array) array key (value look isKeyed index)
      | .name text => pure (text, none)
      | _ => pure ("", none)
    let before ← look slot
    let after ← apply o before 1
    let _ ← store slot after
    return if isBefore then before else after
  | .sequence a b => do
    let _ ← value look isKeyed a
    value look isKeyed b
  | .located whole token a => fun assigned =>
    match value look isKeyed a assigned with
    | .error why => .error (placed whole token why)
    | .ok found => .ok found

def compute (look : String → Option String) (text : String) : Except FormulaFault (Int64 × Assigned) := do
  let (result, assigned) ← (value (lookup look) (fun _ => false) (← read text)).run []
  return (result, assigned.reverse)

end Formula

end BenchKernel.Script
