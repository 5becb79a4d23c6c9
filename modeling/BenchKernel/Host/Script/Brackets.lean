import BenchKernel.Host.Script.Simple

/-! # Conditions between double brackets

Words of such a condition are not cut into fields. The right side of a comparison is a pattern or a regular expression,
in which quoted characters stand for themselves. -/

namespace BenchKernel.Script

/-- A regular expression in which quoted characters stand for themselves. -/
def regexText (gs : List Glyph) : String :=
  let isSpecial (c : Char) : Bool := !c.isAlphanum && c != '_' && c != ' ' && isPrintable c
  String.ofList (gs.flatMap fun g => if g.quoted && isSpecial g.char then ['\\', g.char] else [g.char])

/-- Whether a text matches a pattern. -/
def Shell.isLike (s : Shell) (p : List Glyph) (text : String) : Bool :=
  if s.hasMode "nocasematch" then
    let folded := p.map fun g => { g with char := g.char.toLower }
    (Pattern.ofGlyphs { caret := true, groups := true } folded).isMatch (text.map Char.toLower).toList
  else (Pattern.ofGlyphs { caret := true, groups := true } p).isMatch text.toList

namespace Engine

def conditionNumber (text : String) : Act Int := do
  let before := (← get).builtin
  modify fun s => { s with builtin := some "[[" }
  let result ← Act.outcome (Act.formula text)
  modify fun s => { s with builtin := before }
  match result with
  | .ok n => return n.toInt
  | .error .discard =>
    Act.setStatus 1
    throw .refused
  | .error stop => throw stop

/-- Whether a regular expression matches a text. What its groups have matched is kept. -/
def matchesRegex (pattern : List Glyph) (text : String) : Act Bool := do
  match Regex.parse { extended := true, bare := .refused, strictCounts := true } (regexText pattern) with
  | .error _ =>
    Act.setStatus 2
    throw .refused
  | .ok r =>
    let cs := text.toList.toArray
    match Regex.find? { folded := (← get).hasMode "nocasematch" } r cs 0 with
    | none =>
      modify fun s => s.setVariable "BASH_REMATCH" (({} : Variable).withElements (.indexed []))
      return false
    | some m =>
      let items := (List.range (r.groupCount + 1)).map fun i => (i, String.ofList (m.group cs i))
      modify fun s => s.setVariable "BASH_REMATCH" (({} : Variable).withElements (.indexed items))
      return true

/-- Whether a text stands in a relation to another one. -/
def compared (operator first : String) (second : List Glyph) : Act Bool := do
  let text := String.ofList (second.map Glyph.char)
  match Condition.numberRelations.lookup operator, operator with
  | some holds, _ => return holds (← conditionNumber first) (← conditionNumber text)
  | none, "=" | none, "==" => return (← get).isLike second first
  | none, "!=" => return !(← get).isLike second first
  | none, "=~" => matchesRegex second first
  | none, "<" => return decide (first < text)
  | none, ">" => return decide (text < first)
  | none, _ => return (Extended.conditionFacts (← get)).files.relates operator first text

def holds (e : Engine) : Test → Act Bool
  | .word w => do
    let text ← expandText e.substitution w
    e.traceWide s!"[[ -n {text} ]]"
    return !text.isEmpty
  | .unary operator w => do
    let text ← expandText e.substitution w
    e.traceWide s!"[[ {operator} {text} ]]"
    return Extended.Condition.unary (Extended.conditionFacts (← get)) operator text
  | .binary operator a b => do
    let first ← expandText e.substitution a
    let second := Piece.glyphs (← expandParts e.substitution wordBound false false ((← get).homeWord b))
    e.traceWide s!"[[ {first} {operator} {String.ofList (second.map Glyph.char)} ]]"
    compared operator first second
  | .not test => do return !(← e.holds test)
  | .both a b => do if ← e.holds a then e.holds b else return false
  | .either a b => do if ← e.holds a then return true else e.holds b

def condition (e : Engine) (test : Test) : Act Unit := do
  match ← Act.outcome (e.holds test) with
  | .ok result => Act.setStatus (if result then 0 else 1)
  | .error .refused => return
  | .error stop => throw stop

end Engine

end BenchKernel.Script
