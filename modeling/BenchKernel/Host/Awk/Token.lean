import BenchKernel.Host.Awk.Tree
import BenchKernel.Host.Script.Output

/-! # Words and signs of programs on records

Reading the words of a program. A slash starts an expression where nothing can be divided. The ends of lines separate
statements, except after words that must go on; before a closing brace a separator is put in if there is none. -/

namespace BenchKernel.Awk

/-- A word or sign of a program. -/
inductive Token
  | number (value : Float) (text : String)
  | text (content : String)
  | pattern (source : String)
  | name (name : String) (isCalled : Bool)
  | word (word : String)
  | mark (mark : String)
  | output (sink : Sink)
  | separator (text : String)
  | finish
  | broken (message : String)

/-- A token with its line, and how much was open there. -/
structure Lexeme where
  token : Token
  line : Nat
  parens : Nat
  braces : Nat
  faults : List String := []

def Token.shown : Token → String
  | number _ written => written
  | text content => content
  | pattern source => s!"/{source}/"
  | name called _ => called
  | word called => called
  | mark written => written
  | output .file => ">"
  | output .append => ">>"
  | output .pipe => "|"
  | separator called => called
  | finish => "end of file"
  | broken message => message

/-- The words that are no names. -/
def words : List String :=
  ["BEGIN", "END", "function", "if", "else", "while", "do", "for", "break", "continue", "next", "nextfile", "delete", "getline", "in",
    "print", "printf", "return", "exit", "match", "split", "sub", "gsub"] ++ Builtin.all.map Prod.fst

/-- The signs, longer ones before those that start them. -/
def marks : List String :=
  ["&&", "||", "==", "!=", "<=", ">=", "!~", "++", "--", "+=", "-=", "*=", "/=", "%=", "^=", "<", ">", "!", "~", "+", "-", "*", "/",
    "%", "^", "=", "?", ":", ",", "(", ")", "[", "]", "\x7b", "\x7d", "$", "|"]

/-- What is left of a program, and what came before it. -/
structure Scan where
  rest : List Char
  line : Nat := 1
  parens : Nat := 0
  braces : Nat := 0
  prints : Bool := false
  before : Option Token := none
  faults : List String := []

namespace Scan

/-- Whether a slash divides after a token. -/
def canDivide : Option Token → Bool
  | some (.number _ _) | some (.text _) | some (.name _ _) | some (.pattern _) => true
  | some (.word w) => w = "getline" || w = "length"
  | some (.mark m) => m = ")" || m = "]" || m = "++" || m = "--"
  | _ => false

def skipBlanks : (fuel : Nat) → Scan → Scan
  | 0, s => s
  | fuel + 1, s =>
    match s.rest with
    | ' ' :: rest | '\t' :: rest | '\r' :: rest | '\x0b' :: rest | '\x0c' :: rest => skipBlanks fuel { s with rest }
    | '\\' :: '\n' :: rest => skipBlanks fuel { s with rest, line := s.line + 1 }
    | '\\' :: '\r' :: '\n' :: rest => skipBlanks fuel { s with rest, line := s.line + 1 }
    | '#' :: rest => skipBlanks fuel { s with rest := rest.dropWhile (· != '\n') }
    | _ => s

def skipLines : (fuel : Nat) → Scan → Scan
  | 0, s => s
  | fuel + 1, s =>
    let s := s.skipBlanks (s.rest.length + 1)
    match s.rest with
    | '\n' :: rest => skipLines fuel { s with rest, line := s.line + 1 }
    | _ => s

def withoutLines (s : Scan) : Scan := s.skipLines (s.rest.length + 1)

end Scan

/-! ### Texts -/

def letterEscape? (c : Char) : Option Char :=
  [('"', '"'), ('\\', '\\'), ('a', '\x07'), ('b', '\x08'), ('f', '\x0c'), ('n', '\n'), ('r', '\r'), ('t', '\t'), ('v', '\x0b')].lookup c

/-- The character that an escape stands for, with what follows the escape. -/
def escape? : List Char → Option (Char × List Char)
  | [] => none
  | c :: rest =>
    match letterEscape? c with
    | some found => some (found, rest)
    | none =>
      match Script.octalDigits 3 (c :: rest) with
      | ([], _) =>
        let digits := if c = 'x' then Script.hexRun 2 rest else []
        if digits.isEmpty then none else some (Char.ofNat (Script.digitsValue 16 digits), rest.drop digits.length)
      | (digits, rest) => some (Script.octalChar digits, rest)

/-- A text with its escapes replaced. A backslash before any other character stays. -/
def unescaped : (fuel : Nat) → List Char → List Char
  | 0, cs => cs
  | _ + 1, [] => []
  | fuel + 1, '\\' :: cs =>
    match cs with
    | [] => ['\\']
    | '\n' :: rest => unescaped fuel rest
    | c :: rest =>
      match escape? cs with
      | some (found, rest) => found :: unescaped fuel rest
      | none => '\\' :: c :: unescaped fuel rest
  | fuel + 1, c :: cs => c :: unescaped fuel cs

def plainText (text : String) : String := String.ofList (unescaped (text.length + 1) text.toList)

/-- The text up to a closing quote, and what follows it. -/
def quotedPart? : (fuel : Nat) → List Char → Option (List Char × List Char)
  | 0, _ => none
  | fuel + 1, cs =>
    match cs with
    | [] | '\n' :: _ => none
    | '"' :: rest => some ([], rest)
    | '\\' :: c :: rest => (quotedPart? fuel rest).map fun (part, rest) => ('\\' :: c :: part, rest)
    | c :: rest => (quotedPart? fuel rest).map fun (part, rest) => (c :: part, rest)

/-- An expression up to its slash, and what follows it. A slash in a set does not end it. -/
def patternPart? : (fuel : Nat) → (isInside : Bool) → List Char → Option (List Char × List Char)
  | 0, _, _ => none
  | fuel + 1, isInside, cs =>
    let go (isInside : Bool) (taken rest : List Char) : Option (List Char × List Char) :=
      (patternPart? fuel isInside rest).map fun (part, rest) => (taken ++ part, rest)
    match cs with
    | [] | '\n' :: _ => none
    | '\\' :: '/' :: rest => go isInside ['/'] rest
    | '\\' :: c :: rest => go isInside ['\\', c] rest
    | '[' :: '^' :: ']' :: rest => if isInside then go true ['[', '^'] (']' :: rest) else go true ['[', '^', ']'] rest
    | '[' :: ']' :: rest => if isInside then go true ['['] (']' :: rest) else go true ['[', ']'] rest
    | '[' :: ':' :: rest => go true ['[', ':'] rest
    | '[' :: rest => go true ['['] rest
    | ':' :: ']' :: rest => go isInside [':', ']'] rest
    | ']' :: rest => go false [']'] rest
    | '/' :: rest => if isInside then go true ['/'] rest else some ([], rest)
    | c :: rest => go isInside [c] rest

/-- The nearest number that a machine can hold. -/
def ofBinary (v : Number.BinaryValue) : Float :=
  let f := Number.binary64
  match v with
  | .nan negative _ => Float.ofBits (f.signed negative (f.infinity + f.quiet)).toUInt64
  | .infinite negative => Float.ofBits (f.signed negative f.infinity).toUInt64
  | .finite negative significand exponent => Float.ofBits (f.signed negative (f.roundMagnitude significand exponent)).toUInt64

def decimal? (cs : List Char) : Option (Float × List Char) :=
  (Number.readPointed? 10 cs).map fun (digits, places, rest) =>
    let (exponent, rest) := Number.readExponent 'e' rest
    (ofBinary (Number.binary64.ofDecimal false digits (exponent - places)), rest)

/-- Whether a number is too small or too large to be exact. -/
def isExtreme (n : Float) : Bool :=
  match Number.binary64.decode n.toBits.toNat with
  | .finite _ significand _ => significand < Number.binary64.fractions
  | _ => true

/-! ### Tokens -/

namespace Scan

variable (s : Scan)

def lexeme (token : Token) : Lexeme := ⟨token, s.line, s.parens, s.braces, s.faults⟩

def past (token : Token) (rest : List Char) : Scan := { s with rest, before := some token, faults := [] }

def isNameStart (c : Char) : Bool := c.isAlpha || c = '_'

/-- Whether a statement has to be ended before a closing brace. -/
def needsSeparator : Option Token → Bool
  | some (.separator _) => false
  | some (.mark m) => m != "\x7d"
  | _ => true

def onLine (line : Nat) (text : String) : String := s!"line {line}: {text}"

def closingBrace (rest : List Char) : Lexeme × Scan :=
  if needsSeparator s.before then
    let token := Token.separator "\x7d"
    (s.lexeme token, { s with before := some token, faults := [], parens := 0, prints := false })
  else
    let token := Token.mark "\x7d"
    let after : Scan := { s.past token rest with braces := s.braces - 1, prints := false }
    let after := if after.braces = 0 then after.skipBlanks (rest.length + 1) else after
    let after :=
      match after.braces, after.rest with
      | 0, ';' :: rest => { after with rest }
      | _, _ => after
    ({ s with braces := s.braces - 1 }.lexeme token, after.withoutLines)

/-- Reads a sign. Behind what is printed some signs start an output. -/
def readMark (mark : String) : Lexeme × Scan :=
  let rest := s.rest.drop mark.length
  let isOutside := s.prints && s.parens = 0
  let output (sink : Sink) (rest : List Char) : Lexeme × Scan :=
    (s.lexeme (.output sink), { s.past (.output sink) rest with prints := false })
  let plain (s : Scan) : Lexeme × Scan := (s.lexeme (.mark mark), s.past (.mark mark) rest)
  match mark with
  | ">" | ">=" =>
    if !isOutside then plain s
    else if ['>', '>'].isPrefixOf s.rest then output .append (s.rest.drop 2)
    else output .file (s.rest.drop 1)
  | "|" => if isOutside then output .pipe rest else plain s
  | "(" => plain { s with parens := s.parens + 1 }
  | ")" => plain { s with parens := s.parens - 1 }
  | "\x7b" =>
    let (lexeme, after) := plain { s with braces := s.braces + 1 }
    (lexeme, after.withoutLines)
  | "&&" | "||" | "," =>
    let (lexeme, after) := plain s
    (lexeme, after.withoutLines)
  | "\x7d" => s.closingBrace rest
  | _ => plain s

def readName : Lexeme × Scan :=
  let name := s.rest.takeWhile fun c => isNameStart c || c.isDigit
  let rest := s.rest.drop name.length
  let text := String.ofList name
  if words.contains text then
    let after := s.past (.word text) rest
    let after := { after with prints := after.prints || text = "print" || text = "printf" }
    (s.lexeme (.word text), if text = "do" || text = "else" then after.withoutLines else after)
  else
    let token := Token.name text (rest.head? = some '(')
    (s.lexeme token, s.past token rest)

/-- The end of a program that cannot be read on. -/
def broken (message : String) : Lexeme × Scan := (s.lexeme (.broken message), { s with rest := [] })

def shownPart (cs : List Char) : String := String.ofList ((cs.takeWhile (· != '\n')).take 10)

/-- Reads the next token. Parentheses and braces that close nothing are passed over. -/
def next : (fuel : Nat) → Scan → Lexeme × Scan
  | 0, s => (s.lexeme .finish, s)
  | fuel + 1, s =>
    let s := s.skipBlanks (s.rest.length + 1)
    match s.rest with
    | [] => (s.lexeme .finish, s)
    | '\n' :: rest =>
      let token := Token.separator "end of line"
      (s.lexeme token, { s.past token rest with line := s.line + 1, parens := 0, prints := false }.withoutLines)
    | ';' :: rest =>
      let token := Token.separator ";"
      (s.lexeme token, { s.past token rest with prints := false }.withoutLines)
    | '"' :: rest =>
      match quotedPart? (rest.length + 1) rest with
      | none => s.broken (onLine s.line s!"runaway string constant \"{shownPart rest} ...")
      | some (part, after) =>
        let token := Token.text (String.ofList (unescaped (part.length + 1) part))
        (s.lexeme token, { s.past token after with line := s.line + part.count '\n' })
    | c :: rest =>
      if c = '/' && !canDivide s.before then
        match patternPart? (rest.length + 1) false rest with
        | none => s.broken (onLine s.line s!"runaway regular expression /{shownPart rest} ...")
        | some (part, after) =>
          let token := Token.pattern (String.ofList part)
          (s.lexeme token, s.past token after)
      else if isNameStart c then s.readName
      else if (c = ')' && s.parens = 0) || (c = '\x7d' && s.braces = 0) then
        next fuel { s with rest, faults := s.faults ++ [onLine s.line s!"extra '{c}'"] }
      else
        match if c.isDigit || c = '.' then decimal? s.rest else none with
        | some (value, after) =>
          let text := String.ofList (s.rest.take (s.rest.length - after.length))
          let token := Token.number value text
          let isFar := isExtreme value && text.toList.any fun c => c.isDigit && c != '0'
          let s := if isFar then { s with faults := s.faults ++ [onLine s.line s!"{text} : decimal overflow"] } else s
          (s.lexeme token, s.past token after)
        | none =>
          match marks.find? fun mark => mark.toList.isPrefixOf s.rest with
          | some mark => s.readMark mark
          | none => s.broken s!"{s.line}: unexpected character '{c}'"

end Scan

def lexemes : (fuel : Nat) → Scan → List Lexeme
  | 0, s => [s.lexeme .finish]
  | fuel + 1, s =>
    match s.next (s.rest.length + 1) with
    | (lexeme, after) =>
      match lexeme.token with
      | .finish | .broken _ => [lexeme]
      | _ => lexeme :: lexemes fuel after

def lexemesOf (text : String) : List Lexeme :=
  let text := if text.toList.getLast? = some '\n' then text else text ++ "\n"
  lexemes (2 * text.length + 2) ({ rest := text.toList } : Scan).withoutLines

end BenchKernel.Awk
