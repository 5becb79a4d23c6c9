import BenchKernel.Host.Script.ConditionReading

/-! # Reading commands

Simple commands, compound commands, and how they are joined. -/

namespace BenchKernel.Script

namespace Reader

variable (r : Reader)

def keyword (text : String) : Read Unit := do
  let t ← r.next false true
  if !t.isKeyword text then unexpected t (some s!"\"{text}\"")

/-- Reads what a redirection leads to. A document is only announced. -/
def targetStep (number : Option Nat) (operator : String) : Read Redirection := do
  if operator = "<<" || operator = "<<-" then
    let c ← peek
    if c = some ' ' || c = some '\t' then
      dropChars 1
      r.target number operator
    else if c = some '#' then
      let t ← r.next false false
      unexpected t none
    else
      let parts := (← r.parts .mark false []).reverse
      let rest := (← get).rest
      let isNumber := ((plainText? parts).map fun text => text.length = 1 && text.toList.all Char.isDigit).getD false
      if isNumber && (rest.head? = some '<' || rest.head? = some '>') then fault "redirection unexpected"
      else if parts.isEmpty then
        let t ← r.next false false
        unexpected t none
      else
        let text := String.join (parts.map fun
          | .text _ content => content
          | _ => "")
        let quoted := parts.any fun
          | .text q _ => q
          | _ => false
        let s ← get
        let index := s.nextDocument
        let d : AwaitedDocument := ⟨index, text, quoted, operator = "<<-", s.line⟩
        set { s with awaited := s.awaited ++ [d], nextDocument := index + 1 }
        return .document (number.getD 0) index
  else
    let t ← r.next false false
    match t with
    | .word parts => return redirectionOf number operator parts
    | _ => unexpected t none

def redirectionsStep (redirections : List Redirection) : Read (List Redirection) := do
  let t ← r.next false true
  match t with
  | .redirection number operator =>
    let redirection ← r.target number operator
    r.redirections (redirection :: redirections)
  | .named name operator =>
    let redirection ← r.target none operator
    r.redirections (.named name redirection :: redirections)
  | _ =>
    putBack t
    return redirections.reverse

variable (line : Nat)

def redirected (command : Command) : Read Command := do
  let redirections ← r.redirections []
  if redirections.isEmpty then return command
  else
    match command with
    | .subshell line body _ => return .subshell line body redirections
    | _ => return .redirected line command redirections

def simpleStep (assignments : List Assignment) (words : List Word)
    (redirections : List Redirection) : Read Command := do
  let dialect := (← get).dialect
  let isDeclaring := (words.getLast?.bind plainText?).any (declaringCommands dialect).contains
  modify fun s => { s with assignable := words.isEmpty || isDeclaring }
  let t ← r.next false false
  match t with
  | .word parts =>
    match if words.isEmpty then assignment? dialect parts else none with
    | some assigned => r.simple line (assigned :: assignments) words redirections
    | none => r.simple line assignments (parts :: words) redirections
  | .redirection number operator =>
    let redirection ← r.target number operator
    r.simple line assignments words (redirection :: redirections)
  | .named name operator =>
    let redirection ← r.target none operator
    r.simple line assignments words (.named name redirection :: redirections)
  | _ =>
    match words with
    | [name] =>
      if t.isOperator "(" && assignments.isEmpty && redirections.isEmpty then
        let t ← r.next false false
        if !t.isOperator ")" then unexpected t (some "\")\"")
        let text := (plainText? name).getD ""
        if dialect = .plain && (!isName text || specialBuiltins.contains text) then fault "Bad function name"
        let line := (← get).line
        let body ← r.command true
        return .function line text body
      else
        putBack t
        return .simple line assignments.reverse words.reverse redirections.reverse
    | _ =>
      putBack t
      return .simple line assignments.reverse words.reverse redirections.reverse

def conditionalStep : Read Command := do
  let test ← r.list .body
  r.keyword "then"
  let body ← r.list .body
  let t ← r.next false true
  if t.isKeyword "elif" then
    let other ← r.conditional
    return .cond test body [other]
  else if t.isKeyword "else" then
    let other ← r.list .body
    return .cond test body other
  else
    putBack t
    return .cond test body []

def loop (negated : Bool) : Read Command := do
  let test ← r.list .body
  r.keyword "do"
  let body ← r.list .body
  r.keyword "done"
  r.redirected line (.loop negated test body)

def wordsStep (words : List Word) : Read (List Word × Token) := do
  let t ← r.next false false
  match t with
  | .word parts => r.words (parts :: words)
  | _ => return (words.reverse, t)

def body (r : Reader) : Read (List Command) := do
  let t ← r.next true true
  if t.isKeyword "\x7b" && (← isExtended) then
    let body ← r.list .body
    r.keyword "\x7d"
    return body
  else
    if !t.isKeyword "do" then unexpected t (some "\"do\"")
    let body ← r.list .body
    r.keyword "done"
    return body

def count : Read Command := do
  dropChars 1
  let parts := (← r.parts (.formula 0) false []).reverse
  match cutParts ';' parts with
  | [start, test, next] =>
    let t ← r.next false false
    match t with
    | .newline => r.documents
    | _ => if !t.isOperator ";" then putBack t
    let body ← r.body
    r.redirected line (.count line start test next body)
  | _ => throw ⟨(← get).line, ["syntax error: arithmetic expression required"], true⟩

/-- Reads a loop over words, or a choice among them. -/
def each (selects : Bool) : Read Command := do
  let t ← r.next false false
  let s ← get
  if s.dialect = .extended && !selects && t.isOperator "(" && s.rest.head? = some '(' then r.count line
  else
    let name :=
      match t with
      | .word parts => ((plainText? parts).filter isName).getD ""
      | _ => ""
    if name.isEmpty then
      if s.dialect = .extended then
        match t with
        | .word _ => throw ⟨s.line, [ticked (String.ofList s.token) ++ ": not a valid identifier"], false⟩
        | _ => unexpected t none
      else fault "Bad for loop variable"
    let t ← r.next true true
    let words ←
      if t.isKeyword "in" then do
        let (words, t) ← r.words []
        match t with
        | .newline => r.documents
        | _ => if !t.isOperator ";" then unexpected t none
        pure (some words)
      else do
        if !t.isOperator ";" then putBack t
        pure none
    let body ← r.body
    r.redirected line (if selects then .select line name words body else .each line name words body)

def patternsStep (t : Token) (patterns : List Word) : Read (List Word) := do
  let pattern : Word :=
    match t with
    | .word parts => parts
    | .keyword text => [.text false text]
    | _ => []
  let isWord :=
    match t with
    | .word _ | .keyword _ => true
    | _ => false
  if !isWord then unexpected t (some "\")\"")
  let next ← r.next false false
  if next.isOperator "|" then
    let t ← r.next false false
    r.patterns t (pattern :: patterns)
  else if next.isOperator ")" then return (pattern :: patterns).reverse
  else unexpected next (some "\")\"")

def casesStep (cases : List (List Word × List Command × CaseEnd)) :
    Read (List (List Word × List Command × CaseEnd)) := do
  let t ← r.next true true
  if t.isKeyword "esac" then return cases.reverse
  else
    let t ← if t.isOperator "(" then r.next false false else pure t
    let patterns ← r.patterns t []
    let body ← r.list .open
    let t ← r.next true true
    if t.isKeyword "esac" then return ((patterns, body, .leave) :: cases).reverse
    else if t.isOperator ";;" then r.cases ((patterns, body, .leave) :: cases)
    else if t.isOperator ";&" then r.cases ((patterns, body, .fallThrough) :: cases)
    else if t.isOperator ";;&" then r.cases ((patterns, body, .goOn) :: cases)
    else unexpected t (some "\";;\"")

def choice : Read Command := do
  let t ← r.next false false
  match t with
  | .word subject =>
    let t ← r.next true true
    if !t.isKeyword "in" then unexpected t (some "\"in\"")
    let cases ← r.cases []
    r.redirected line (.choice line subject cases)
  | _ => unexpected t (some "word")

def namedFunction : Read Command := do
  let t ← r.next false false
  match t with
  | .word parts =>
    let next ← r.next true true
    if next.isOperator "(" then
      let closing ← r.next false false
      if !closing.isOperator ")" then unexpected closing none
    else putBack next
    let line := (← get).line
    let body ← r.command true
    return .function line ((plainText? parts).getD "") body
  | _ => unexpected t none

/-- Whether a text starts with a command that is not simple. -/
def startsCompound (cs : List Char) : Bool :=
  let cs := cs.dropWhile fun c => c == ' ' || c == '\t'
  let word := String.ofList (cs.takeWhile fun c => !(['(', ')', ' ', '\t', '\n', ';', '&', '|', '<', '>'].contains c))
  cs.head? = some '(' || ["\x7b", "[[", "case", "for", "if", "select", "until", "while"].contains word

/-- Reads what follows `coproc`: a command that is not simple and may have a name before it, or a simple command. -/
def coprocess : Read Command := do
  let t ← r.next false true
  let name? :=
    match t with
    | .word parts => (plainText? parts).filter isName
    | _ => none
  match if startsCompound (← get).rest then name? else none with
  | some name => return .coprocess line name (← r.command false)
  | none =>
    putBack t
    return .coprocess line "COPROC" (← r.command false)

def commandStep (lines : Bool) : Read Command := do
  let t ← r.next lines true
  let line := (← get).line
  match t with
  | .keyword "if" =>
    let command ← r.conditional
    r.keyword "fi"
    r.redirected line command
  | .keyword "while" => r.loop line false
  | .keyword "until" => r.loop line true
  | .keyword "for" => r.each line false
  | .keyword "case" => r.choice line
  | .keyword "\x7b" =>
    let body ← r.list .body
    r.keyword "\x7d"
    r.redirected line (.group body)
  | .keyword "[[" =>
    let before := (← get).groups
    modify fun s => { s with groups := true }
    let test ← r.testOr
    match ← r.testToken with
    | .word parts => if plainText? parts != some "]]" then unexpectedTest
    | _ => unexpectedTest
    modify fun s => { s with groups := before }
    r.redirected line (.condition line test)
  | .keyword "function" => r.namedFunction
  | .keyword "select" => r.each line true
  | .operator "(" =>
    let s ← get
    if s.dialect = .extended && s.rest.head? = some '(' && closesAsFormula 0 (s.rest.drop 1) then
      dropChars 1
      let parts := (← r.parts (.formula 0) false []).reverse
      r.redirected line (.formula line parts)
    else
      let body ← r.list .body
      let t ← r.next false false
      if !t.isOperator ")" then unexpected t (some "\")\"")
      r.redirected line (.subshell line body [])
  | .keyword "coproc" => r.coprocess line
  | .word _ | .redirection _ _ | .named _ _ =>
    putBack t
    r.simple line [] [] []
  | _ => unexpected t none

def pipesStep (commands : List Command) : Read (List Command) := do
  let t ← r.next false false
  if t.isOperator "|" then
    let command ← r.command true
    r.pipes (command :: commands)
  else if t.isOperator "|&" then
    let errors : Redirection := .duplicate 2 false [.text false "1"]
    let line := (← get).line
    let commands :=
      match commands with
      | .simple line assigned words redirections :: others =>
        .simple line assigned words (redirections ++ [errors]) :: others
      | last :: others => .redirected line last [errors] :: others
      | [] => []
    let command ← r.command true
    r.pipes (command :: commands)
  else
    putBack t
    return commands.reverse

def pipelineStep (lines : Bool) : Read Command := do
  let t ← r.next lines true
  if t.isKeyword "time" then
    let next ← r.next false true
    let isOption :=
      match next with
      | .word parts => plainText? parts == some "-p"
      | _ => false
    if !isOption then putBack next
    match next with
    | .newline | .eof | .operator ";" => return .timed (.group [])
    | _ => return .timed (← r.pipeline false)
  else
    let negated := t.isKeyword "!"
    if !negated then putBack t
    let first ← r.command false
    let commands ← r.pipes [first]
    let command :=
      match commands with
      | [single] => single
      | _ => .pipeline commands
    return if negated then .negate command else command

def chainAfterStep (first : Command) : Read Command := do
  let t ← r.next false false
  if t.isOperator "&&" then
    let second ← r.pipeline true
    r.chainAfter (.andThen first second)
  else if t.isOperator "||" then
    let second ← r.pipeline true
    r.chainAfter (.orElse first second)
  else
    putBack t
    return first

def chain : Read Command := do
  let first ← r.pipeline false
  r.chainAfter first

def commandsStep (extent : Extent) (commands : List Command) : Read (List Command) := do
  let t ← r.next (extent != .line) true
  match t with
  | .newline =>
    r.documents
    return commands.reverse
  | .eof =>
    r.documents
    putBack .eof
    return commands.reverse
  | _ =>
    putBack t
    if extent != .line && (extent = .open || !commands.isEmpty) && t.endsList then return commands.reverse
    else
      let command ← r.chain
      let t ← r.next false false
      if t.isOperator "&" then r.commands extent (.background command :: commands)
      else if t.isOperator ";" then r.commands extent (command :: commands)
      else
        match t with
        | .newline | .eof =>
          putBack t
          r.commands extent (command :: commands)
        | _ =>
          if extent = .line then unexpected t none
          else
            putBack t
            return (command :: commands).reverse

end Reader

end BenchKernel.Script
