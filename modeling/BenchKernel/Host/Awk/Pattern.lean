import BenchKernel.Host.Awk.Token

/-! # Expressions in programs on records

Regular expressions in their extended form. Every escape stands for a character, also in a set. -/

namespace BenchKernel.Awk

namespace Pattern

/-- What can be wrong with an expression. -/
inductive Fault
  | missingOperand
  | missingParen
  | badClass
  | badInterval
  | repeatedStart
  deriving DecidableEq, Repr

def Fault.message : Fault → String
  | missingOperand => "missing operand"
  | missingParen => "missing ')'"
  | badClass => "bad class -- [], [^] or ["
  | badInterval => "bad interval expression"
  | repeatedStart => "syntax error ^* or ^+"

/-- A character that stands for itself in an expression. -/
def quoted (c : Char) : List Char := if c.isAlphanum || ['<', '>', '\'', '"', ' '].contains c || c.toNat = 96 then [c] else ['\\', c]

def readEscape (cs : List Char) : List Char × List Char :=
  match cs with
  | [] => (['\\', '\\'], [])
  | c :: rest =>
    match escape? cs with
    | some (found, rest) => (quoted found, rest)
    | none => (quoted c, rest)

/-- An expression in which each escape has been replaced. -/
def resolved : (fuel : Nat) → (isInside : Bool) → List Char → Except Fault (List Char)
  | 0, _, cs => .ok cs
  | fuel + 1, isInside, cs =>
    let go (isInside : Bool) (taken rest : List Char) : Except Fault (List Char) :=
      (resolved fuel isInside rest).map fun after => taken ++ after
    match cs with
    | [] => .ok []
    | '\\' :: rest =>
      let (taken, rest) := readEscape rest
      go isInside taken rest
    | c :: rest =>
      if isInside then
        match c, rest with
        | '[', ':' :: rest => go true ['[', ':'] rest
        | ':', ']' :: rest => go true [':', ']'] rest
        | ']', _ => go false [']'] rest
        | '[', _ => go true ['[', '.', '[', '.', ']'] rest
        | _, _ => go true [c] rest
      else
        match c, rest with
        | '[', '^' :: ']' :: rest => go true ['[', '^', '\\', ']'] rest
        | '[', '^' :: rest => go true ['[', '^'] rest
        | '[', ']' :: rest => go true ['[', '\\', ']'] rest
        | '[', _ => go true ['['] rest
        | '\x7b', '\x7d' :: _ => .error .badInterval
        | '\x7b', _ => go false (if (Regex.readCounts? ['\x7d'] rest).isSome then [c] else ['\\', c]) rest
        | '\x7d', _ => go false [c] rest
        | '^', d :: _ => if d = '*' || d = '+' then .error .repeatedStart else go false [c] rest
        | _, _ => go false [c] rest

/-- Whether something is missing beside a sign. -/
def hasGap : Regex → Bool
  | .choice a b => (a matches .empty) || (b matches .empty) || hasGap a || hasGap b
  | .group _ a => (a matches .empty) || hasGap a
  | .sequence a b => hasGap a || hasGap b
  | .repeated a _ _ => hasGap a
  | _ => false

/-- The fault behind a message. -/
def faultOf (message : String) : Fault :=
  if message.startsWith "Unmatched (" then .missingParen
  else if message.startsWith "Unmatched [" || message.startsWith "Invalid character class" then .badClass
  else if message.startsWith "Invalid content" then .badInterval
  else .missingOperand

def compile (text : String) : Except Fault Regex := do
  let cs ← resolved (text.length + 1) false text.toList
  match Regex.parse { extended := true, escapesInSets := true, bare := .refused, strictRanges := false } (String.ofList cs) with
  | .error message => .error (faultOf message)
  | .ok r => if hasGap r then .error .missingOperand else .ok r

def message (fault : Fault) (text : String) : String :=
  s!"regular expression compile failed ({fault.message})\n{text}"

end Pattern

end BenchKernel.Awk
