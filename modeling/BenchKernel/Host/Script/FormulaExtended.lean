import BenchKernel.Host.Script.Formula

/-! # Formulas of the extended language

Formulas with powers, steps, sequences, elements of arrays and numbers to other bases. The value of a variable is a
formula itself. A fault tells the text at which it was found. -/

namespace BenchKernel.Script.Formula

/-- A token with the text from it on. -/
abbrev Placed := FormulaToken × List Char

def extendedSymbols : List String :=
  ["<<=", ">>=", "**", "++", "--", "<<", ">>", "<=", ">=", "==", "!=", "&&", "||", "+=", "-=", "*=", "/=", "%=", "&=", "^=",
    "|=", "+", "-", "*", "/", "%", "<", ">", "&", "^", "|", "!", "~", "?", ":", "(", ")", "=", ","]

def wideDigit? (base : Nat) (c : Char) : Option Nat :=
  let n :=
    if c.isDigit then some (c.toNat - '0'.toNat)
    else if c.isLower then some (c.toNat - 'a'.toNat + 10)
    else if c.isUpper then some (c.toNat - 'A'.toNat + (if base ≤ 36 then 10 else 36))
    else if c = '@' then some 62
    else if c = '_' then some 63
    else none
  n.filter (· < base)

/-- The value of a number, which may name its base. -/
def wideNumber (cs : List Char) : Except String Int64 :=
  let digits (base : Nat) (cs : List Char) : Except String Int64 := do
    let found ← cs.mapM fun c => ((wideDigit? base c).elim (.error "value too great for base") .ok : Except String Nat)
    return Int64.ofInt ((found.foldl (fun n d => (n * base + d) % 18446744073709551616) 0 : Nat) : Int)
  match Text.cutAt? '#' cs with
  | some (base, rest) =>
    match number? base with
    | some base =>
      if 2 ≤ base && base ≤ 64 then
        if rest.isEmpty then .error "invalid integer constant" else digits base rest
      else .error "invalid arithmetic base"
    | none => .error "invalid number"
  | none =>
    match cs with
    | '0' :: 'x' :: rest | '0' :: 'X' :: rest => digits 16 rest
    | '0' :: rest => digits 8 rest
    | _ => digits 10 cs

def bracketed? : (depth : Nat) → List Char → Option (List Char × List Char)
  | _, [] => none
  | 0, ']' :: rest => some ([], rest)
  | depth, c :: rest =>
    let depth := if c = '[' then depth + 1 else if c = ']' then depth - 1 else depth
    (bracketed? depth rest).map fun (text, after) => (c :: text, after)

def placedTokens (whole : String) : (fuel : Nat) → List Char → Except FormulaFault (List Placed)
  | 0, _ => .ok []
  | _ + 1, [] => .ok []
  | fuel + 1, c :: cs =>
    let here := c :: cs
    let add (t : FormulaToken) (rest : List Char) : Except FormulaFault (List Placed) :=
      (placedTokens whole fuel rest).map ((t, here) :: ·)
    if isSpace c then placedTokens whole fuel cs
    else if c.isDigit then
      let isPart (c : Char) : Bool := c.isAlphanum || c == '#' || c == '_' || c == '@'
      let text := here.takeWhile isPart
      match wideNumber text with
      | .ok n => add (.number n.toInt) (here.drop text.length)
      | .error why => .error (.located whole why (String.ofList here))
    else if isNameStart c then
      let word := String.ofList (here.takeWhile Text.isWordChar)
      match here.drop word.length with
      | '[' :: rest =>
        match bracketed? 0 rest with
        | some (key, after) => add (.element word (String.ofList key)) after
        | none => .error (.located whole "bad array subscript" word)
      | rest => add (.name word) rest
    else
      match extendedSymbols.find? fun text => text.toList.isPrefixOf here with
      | some text => add (.symbol text) (here.drop text.length)
      | none => .ok [(.other, here)]

/-- A text that is being read: the whole of it and where its last token starts. -/
structure Reader where
  whole : String
  final : String

abbrev Placing := Except FormulaFault (Formula × List Placed)

def Reader.tokenAt (r : Reader) (ts : List Placed) : String :=
  (ts.head?.map fun entry => String.ofList entry.2).getD r.final

def Reader.fault {α : Type} (r : Reader) (ts : List Placed) (why : String) : Except FormulaFault α :=
  .error (.located r.whole why (r.tokenAt ts))

def Reader.tooDeep {α : Type} (r : Reader) (ts : List Placed) : Except FormulaFault α :=
  r.fault ts "expression recursion level exceeded"

/-- The operators, from the weakest to the strongest. -/
def extendedLevels : List (List String) :=
  [["|"], ["^"], ["&"], ["==", "!="], ["<=", ">=", "<", ">"], ["<<", ">>"], ["+", "-"], ["*", "/", "%"]]

def isTarget : Formula → Bool
  | .name _ | .element _ _ _ => true
  | _ => false

mutual

def readSequence (r : Reader) : Nat → List Placed → Placing
  | 0, ts => r.tooDeep ts
  | n + 1, ts => do
    let (a, rest) ← readAssigning r n ts
    match rest with
    | (.symbol ",", _) :: rest =>
      let (b, rest) ← readSequence r n rest
      return (.sequence a b, rest)
    | _ => return (a, rest)

def readAssigning (r : Reader) : Nat → List Placed → Placing
  | 0, ts => r.tooDeep ts
  | n + 1, ts => do
    let (a, rest) ← readConditional r n ts
    match rest with
    | (.symbol symbol, _) :: after =>
      let o := Operator.assigning.lookup symbol
      if symbol = "=" || o.isSome then
        if !isTarget a then r.fault rest "attempted assignment to non-variable"
        else
          let (b, left) ← readAssigning r n after
          let formula : Formula :=
            match a with
            | .element array key index => .assignElement array key index o b
            | .name text => .assign text o b
            | _ => b
          return (.located r.whole (r.tokenAt after) formula, left)
      else return (a, rest)
    | _ => return (a, rest)

def readConditional (r : Reader) : Nat → List Placed → Placing
  | 0, ts => r.tooDeep ts
  | n + 1, ts => do
    let (test, rest) ← readEitherOf r n ts
    match rest with
    | (.symbol "?", _) :: rest =>
      if (rest.head?.map Prod.fst).all (· == .symbol ":") then r.fault rest "expression expected"
      else
        let (a, rest) ← readSequence r n rest
        match rest with
        | (.symbol ":", _) :: rest =>
          if rest.isEmpty then r.fault rest "expression expected"
          else
            let (b, rest) ← readConditional r n rest
            return (.choice test a b, rest)
        | _ => r.fault rest "\x60:' expected for conditional expression"
    | _ => return (test, rest)

def readEitherOf (r : Reader) : Nat → List Placed → Placing
  | 0, ts => r.tooDeep ts
  | n + 1, ts => do
    let (a, rest) ← readBothOf r n ts
    match rest with
    | (.symbol "||", _) :: rest =>
      let (b, rest) ← readEitherOf r n rest
      return (.either a b, rest)
    | _ => return (a, rest)

def readBothOf (r : Reader) : Nat → List Placed → Placing
  | 0, ts => r.tooDeep ts
  | n + 1, ts => do
    let (a, rest) ← readLevel r n extendedLevels ts
    match rest with
    | (.symbol "&&", _) :: rest =>
      let (b, rest) ← readBothOf r n rest
      return (.both a b, rest)
    | _ => return (a, rest)

def readLevel (r : Reader) : Nat → List (List String) → List Placed → Placing
  | 0, _, ts => r.tooDeep ts
  | n + 1, [], ts => readPower r n ts
  | n + 1, level :: closer, ts => do
    let (a, rest) ← readLevel r n closer ts
    readLevelRest r n level closer a rest

def readLevelRest (r : Reader) : Nat → List String → List (List String) → Formula → List Placed → Placing
  | 0, _, _, _, ts => r.tooDeep ts
  | n + 1, level, closer, a, ts => do
    match ts with
    | (.symbol symbol, _) :: rest =>
      match if level.contains symbol then Operator.all.lookup symbol else none with
      | some o =>
        let (b, left) ← readLevel r n closer rest
        readLevelRest r n level closer (.located r.whole (r.tokenAt rest) (.binary o a b)) left
      | none => return (a, ts)
    | _ => return (a, ts)

def readPower (r : Reader) : Nat → List Placed → Placing
  | 0, ts => r.tooDeep ts
  | n + 1, ts => do
    let (a, rest) ← readUnary r n ts
    match rest with
    | (.symbol "**", _) :: rest =>
      let (b, left) ← readPower r n rest
      return (.located r.whole (r.tokenAt rest) (.binary .power a b), left)
    | _ => return (a, rest)

def readUnary (r : Reader) : Nat → List Placed → Placing
  | 0, ts => r.tooDeep ts
  | n + 1, ts => do
    let step (o : Operator) (sign : Formula → Formula) (rest : List Placed) : Placing :=
      match rest with
      | (.name text, _) :: rest => return (.step (.name text) o false, rest)
      | (.element array key, _) :: rest => do
        let index ← readIndex r n array key
        return (.step index o false, rest)
      | _ => do
        let (a, rest) ← readUnary r n rest
        return (sign (sign a), rest)
    match ts with
    | (.symbol "!", _) :: rest => do
      let (a, rest) ← readUnary r n rest
      return (.not a, rest)
    | (.symbol "~", _) :: rest => do
      let (a, rest) ← readUnary r n rest
      return (.complement a, rest)
    | (.symbol "-", _) :: rest => do
      let (a, rest) ← readUnary r n rest
      return (.negative a, rest)
    | (.symbol "+", _) :: rest => readUnary r n rest
    | (.symbol "++", _) :: rest => step .plus id rest
    | (.symbol "--", _) :: rest => step .minus .negative rest
    | _ => readOperand r n ts

/-- An element with the formula of its index. -/
def readIndex (r : Reader) : Nat → (array key : String) → Except FormulaFault Formula
  | 0, _, _ => r.tooDeep []
  | n + 1, array, key => do
    let ts ← placedTokens key (key.length + 1) key.toList
    if ts.isEmpty then return .element array key (.number 0)
    else
      match readSequence { r with whole := key, final := (ts.getLast?.map fun entry => String.ofList entry.2).getD "" } n ts with
      | .ok (index, []) => return .element array key index
      | _ => return .element array key (.number 0)

def readOperand (r : Reader) : Nat → List Placed → Placing
  | 0, ts => r.tooDeep ts
  | n + 1, ts => do
    let after (target : Formula) (rest : List Placed) : Placing :=
      match rest with
      | (.symbol "++", _) :: rest => return (.step target .plus true, rest)
      | (.symbol "--", _) :: rest => return (.step target .minus true, rest)
      | _ => return (target, rest)
    match ts with
    | (.number value, _) :: rest => return (.number (Int64.ofInt value), rest)
    | (.name text, _) :: rest => after (.name text) rest
    | (.element array key, _) :: rest => do
      let target ← readIndex r n array key
      after target rest
    | (.symbol "(", _) :: rest =>
      let (a, rest) ← readSequence r n rest
      match rest with
      | (.symbol ")", _) :: rest => return (a, rest)
      | _ => r.fault rest "missing \x60)'"
    | _ => r.fault ts "syntax error: operand expected"

end

/-- The tree of a text of the extended language. An empty text is zero. -/
def readExtended (text : String) : Except FormulaFault Formula := do
  let shown := String.ofList (text.toList.dropWhile isSpace)
  let ts ← placedTokens shown (text.length + 1) text.toList
  match ts.getLast? with
  | none => return .number 0
  | some (_, final) =>
    let r : Reader := ⟨shown, String.ofList final⟩
    let (a, rest) ← readSequence r (30 * ts.length + 30) ts
    match rest with
    | [] => return a
    | (.other, _) :: _ => r.fault rest "syntax error: invalid arithmetic operator"
    | _ => r.fault rest "syntax error in expression"

/-- What formulas ask about variables. -/
structure View where
  value : Slot → Option String
  isKeyed : String → Bool
  strict : Bool

def deepest : Nat := 1024

/-- The value of a variable, which is a formula itself. -/
def lookupExtended (v : View) : Nat → Slot → Computing Int64
  | 0, slot => throw (.located slot.1 "expression recursion level exceeded" slot.1)
  | depth + 1, slot => do
    match (← get).lookup slot with
    | some value => return value
    | none =>
      match v.value slot with
      | none => if v.strict then throw (.unset slot.1) else return 0
      | some text => value (lookupExtended v depth) v.isKeyed (← readExtended text)

def computeExtended (v : View) (text : String) : Except FormulaFault (Int64 × Assigned) := do
  let (result, assigned) ← (value (lookupExtended v deepest) v.isKeyed (← readExtended text)).run []
  return (result, assigned.reverse)

end BenchKernel.Script.Formula
