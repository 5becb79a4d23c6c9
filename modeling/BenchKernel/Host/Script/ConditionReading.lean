import BenchKernel.Host.Script.Reader

/-! # Reading conditions between double brackets

Conditions have tokens of their own. -/

namespace BenchKernel.Script

/-- The fault that a condition cannot be read. -/
def unexpectedTest {α : Type} : Read α := do
  let s ← get
  if s.rest.isEmpty then throw ⟨s.line, ["syntax error: unexpected end of file"], false⟩
  else
    let place := "syntax error near " ++ ticked (String.ofList s.token)
    throw ⟨s.line, ["syntax error in conditional expression", place], true⟩

namespace Reader

variable (r : Reader)

def testTokenStep : Read TestToken := do
  match ← peek with
  | none => return .eof
  | some c =>
    let s ← get
    let symbol (text : String) : Read TestToken := do
      modify fun s => { s with token := text.toList }
      dropChars text.length
      return .symbol text
    if c = ' ' || c = '\t' || c = '\n' then
      dropChars 1
      r.testToken
    else if c = '(' then symbol "("
    else if c = ')' then symbol ")"
    else if c = '<' then symbol "<"
    else if c = '>' then symbol ">"
    else if c = ';' then symbol ";"
    else if c = '&' then symbol (if s.rest[1]? = some '&' then "&&" else "&")
    else if c = '|' then symbol (if s.rest[1]? = some '|' then "||" else "|")
    else
      let parts := (← r.parts .word false []).reverse
      modify fun after => { after with token := s.rest.take (s.rest.length - after.rest.length) }
      return .word parts

def testOperand (operator : String) (first : Word) : Read Test := do
  if operator = "=~" then
    let s ← get
    dropChars (s.rest.takeWhile fun c => c == ' ' || c == '\t').length
    let second := (← r.parts (.regex 0) false []).reverse
    return .binary operator first second
  else
    match ← r.testToken with
    | .word second => return .binary operator first second
    | _ => unexpectedTest

def testOneStep : Read Test := do
  match ← r.testToken with
  | .symbol "(" =>
    let test ← r.testOr
    match ← r.testToken with
    | .symbol ")" => return test
    | _ => unexpectedTest
  | .word parts =>
    let text := plainText? parts
    if text = some "!" then return .not (← r.testOne)
    else if text = some "]]" then unexpectedTest
    else
      let before ← get
      let next ← r.testToken
      match text.filter testUnary.contains, next with
      | some operator, .word operand =>
        let isEnd := plainText? operand = some "]]"
        if isEnd then
          let what := "unexpected argument " ++ ticked "]]" ++ " to conditional unary operator"
          throw ⟨before.line, [what, "syntax error near " ++ ticked "]]"], true⟩
        else return .unary operator operand
      | _, .symbol symbol =>
        if symbol = "<" || symbol = ">" then r.testOperand symbol parts
        else
          set before
          return .word parts
      | _, .word operator =>
        match plainText? operator with
        | some "]]" =>
          set before
          return .word parts
        | some operator =>
          if testBinary.contains operator then r.testOperand operator parts
          else
            let place := "syntax error near " ++ ticked operator
            throw ⟨before.line, ["conditional binary operator expected", place], true⟩
        | none => unexpectedTest
      | _, .eof => unexpectedTest
  | _ => unexpectedTest

def testAndStep : Read Test := do
  let first ← r.testOne
  let before ← get
  match ← r.testToken with
  | .symbol "&&" => return .both first (← r.testAnd)
  | _ =>
    set before
    return first

def testOrStep : Read Test := do
  let first ← r.testAnd
  let before ← get
  match ← r.testToken with
  | .symbol "||" => return .either first (← r.testOr)
  | _ =>
    set before
    return first

end Reader

end BenchKernel.Script
