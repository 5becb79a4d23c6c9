import BenchKernel.Host.Script.Reader

/-! # Reading words

Words with their quotes and expansions. -/

namespace BenchKernel.Script

def isListStart (text : String) : Bool :=
  match text.toList.reverse with
  | '=' :: '+' :: name | '=' :: name => isName (String.ofList name.reverse)
  | _ => false

def itemOf (parts : Word) : Option Word × Word :=
  match parts with
  | .text false content :: rest =>
    match content.toList with
    | '[' :: after =>
      match cutSubscript 0 [] (textThen after rest) with
      | some (index, '=' :: value, rest) => (some index, textThen value rest)
      | _ => (none, parts)
    | _ => (none, parts)
  | _ => (none, parts)

namespace Reader

variable (r : Reader)

def quotes (line : Nat) : Read (List Part) := do
  let s ← get
  match (r.parts .quotes false []).run s with
  | .ok (parts, after) =>
    set after
    return parts
  | .error e =>
    let isUnclosed := e.texts.head? = some ("unexpected EOF while looking for matching " ++ ticked "\"")
    throw (if isUnclosed then { e with line := line } else e)

def itemsStep (items : List (Option Word × Word)) : Read (List (Option Word × Word)) := do
  modify fun s => { s with assignable := false }
  let t ← r.next true false
  match t with
  | .word parts => r.items (itemOf parts :: items)
  | .operator ")" => return items.reverse
  | .eof => unclosed (← get).line ")" ""
  | _ => unexpected t none

variable (region : Region)

/-- Reads what only the extended language has in words: groups of patterns, paths for commands, subscripts and lists.
    Anything else is read by `plain`. -/
def special (inner : Bool) (parts : List Part) (c : Char) (rest : List Char)
    (plain : Read (List Part)) : Read (List Part) := do
  let s ← get
  let nextIsGroup := rest.head? = some '('
  let written : Option String := plainText? parts
  if s.groups && nextIsGroup && ['?', '*', '+', '@', '!'].contains c then
    dropChars 2
    let group ← r.parts (.group 0) false [.text false (String.ofList [c, '('])]
    r.parts region inner (group ++ parts)
  else if (c = '<' || c = '>') && nextIsGroup && region = .word then
    dropChars 2
    let commands ← r.list .open
    let t ← r.next false false
    if !t.isOperator ")" then unexpected t none
    r.parts region inner (.process (c = '<') commands :: parts)
  else if c = '[' && region = .word && written.any isName && closesAsSubscript 0 rest then
    dropChars 1
    let index ← r.parts (.subscript 0) false []
    r.parts region inner (addChar (index ++ addChar parts false '[') false ']')
  else if c = '(' && s.assignable && region = .word && written.any isListStart then
    dropChars 1
    let items ← r.items []
    r.parts region inner (.array items :: parts)
  else plain

def subscripted : Read (Option Parameter) := do
  let s ← get
  match readParameter? s.rest with
  | none => return none
  | some (parameter, rest) =>
    set { s with rest := rest }
    match parameter, rest with
    | .variable name, '[' :: '@' :: ']' :: rest =>
      set { s with rest := rest }
      return some (.elements name false)
    | .variable name, '[' :: '*' :: ']' :: rest =>
      set { s with rest := rest }
      return some (.elements name true)
    | .variable name, '[' :: _ =>
      dropChars 1
      let index ← r.parts (.subscript 0) false []
      return some (.element name index.reverse)
    | _, _ => return some parameter

/-- Reads a parameter between braces and what is done to its value. -/
def altered (bad : Read Part) : Read Part := do
  match ← r.subscripted with
  | none => bad
  | some parameter =>
    let make (change : Change) : Read Part := return .expansion region.isQuoted parameter change
    let word (drop : Nat) (change : Word → Change) : Read Part := do
      dropChars drop
      make (change (← r.parts (region.inBraces false) false []).reverse)
    let pattern (drop : Nat) (change : Word → Change) : Read Part := do
      dropChars drop
      make (change (← r.parts .braces false []).reverse)
    let replacement (drop : Nat) (anchor : Anchor) : Read Part := do
      dropChars drop
      let pattern := (← r.parts (.bracesTo '/') false []).reverse
      if (← get).rest.head? = some '/' then dropChars 1
      let text := (← r.parts .braces false []).reverse
      make (.replace anchor pattern text)
    match (← get).rest with
    | '\x7d' :: _ =>
      dropChars 1
      make .keep
    | ':' :: '-' :: _ => word 2 (.otherwise true)
    | ':' :: '=' :: _ => word 2 (.assign true)
    | ':' :: '?' :: _ => word 2 (.require true)
    | ':' :: '+' :: _ => word 2 (.instead true)
    | ':' :: _ =>
      dropChars 1
      let offset := (← r.parts (.bracesTo ':') false []).reverse
      if (← get).rest.head? = some ':' then
        dropChars 1
        let length := (← r.parts .braces false []).reverse
        make (.slice offset (some length))
      else
        dropChars 1
        make (.slice offset none)
    | '-' :: _ => word 1 (.otherwise false)
    | '=' :: _ => word 1 (.assign false)
    | '?' :: _ => word 1 (.require false)
    | '+' :: _ => word 1 (.instead false)
    | '#' :: '#' :: _ => pattern 2 (.cutStart true)
    | '#' :: _ => pattern 1 (.cutStart false)
    | '%' :: '%' :: _ => pattern 2 (.cutEnd true)
    | '%' :: _ => pattern 1 (.cutEnd false)
    | '/' :: '/' :: _ => replacement 2 .every
    | '/' :: '#' :: _ => replacement 2 .start
    | '/' :: '%' :: _ => replacement 2 .final
    | '/' :: _ => replacement 1 .first
    | '^' :: '^' :: _ => pattern 2 (.casing .upper true)
    | '^' :: _ => pattern 1 (.casing .upper false)
    | ',' :: ',' :: _ => pattern 2 (.casing .lower true)
    | ',' :: _ => pattern 1 (.casing .lower false)
    | '~' :: '~' :: _ => pattern 2 (.casing .toggled true)
    | '~' :: _ => pattern 1 (.casing .toggled false)
    | '@' :: letter :: '\x7d' :: _ =>
      dropChars 3
      if ['Q', 'U', 'u', 'L', 'E', 'A', 'a', 'P', 'K', 'k'].contains letter then make (.transform letter) else bad
    | _ => bad

/-- Reads an expansion between braces. One that means nothing is kept as a text. -/
def braced : Read Part := do
  let start ← get
  let make (parameter : Parameter) (change : Change) : Read Part := return .expansion region.isQuoted parameter change
  let bad : Read Part := do
    match toClosingBrace 0 start.rest with
    | none => unclosed start.line "\x7d" ""
    | some (text, rest) =>
      set { start with rest := rest, line := start.line + text.count '\n' }
      make (.variable "") (.bad ("$\x7b" ++ String.ofList text ++ "\x7d"))
  let isClosed (parameter : Option Parameter) : Read Bool := do
    return parameter.isSome && (← get).rest.head? = some '\x7d'
  match start.rest with
  | '#' :: c :: _ =>
    if c = '\x7d' then r.altered region bad
    else
      dropChars 1
      let parameter ← r.subscripted
      if ← isClosed parameter then
        dropChars 1
        make (parameter.getD .count) .length
      else
        set start
        r.altered region bad
  | '!' :: c :: _ =>
    if c = '\x7d' || !(isNameStart c || c.isDigit || c = '@' || c = '*' || c = '#') then r.altered region bad
    else
      dropChars 1
      let name := (← get).rest.takeWhile Text.isWordChar
      match (← get).rest.drop name.length with
      | '*' :: '\x7d' :: _ =>
        dropChars (name.length + 2)
        make (.variable (String.ofList name)) (.names true)
      | '@' :: '\x7d' :: _ =>
        dropChars (name.length + 2)
        make (.variable (String.ofList name)) (.names false)
      | _ =>
        match ← r.altered region bad with
        | .expansion quoted (.elements name joined) .keep => return .expansion quoted (.elements name joined) .keys
        | .expansion quoted parameter change => return .expansion quoted parameter (.indirect change)
        | part => return part
  | _ => r.altered region bad

/-- Reads what follows a dollar sign, unless that stands for itself. -/
def dollar : Read (Option Part) := do
  match ← peek with
  | none => return none
  | some c =>
    let extended ← isExtended
    if extended && c = '\'' && !region.isQuoted then
      dropChars 1
      let s ← get
      match quotedString? (s.rest.length + 1) s.rest with
      | some (text, rest) =>
        dropChars (s.rest.length - rest.length)
        return some (.text true (String.ofList (text.takeWhile (·.toNat != 0))))
      | none => unclosed s.line "'" ""
    else if extended && c = '"' && !region.isQuoted then return some (.text true "")
    else if extended && c = '[' then
      dropChars 1
      let parts ← r.parts (.subscript 0) false []
      return some (.formula region.isQuoted parts.reverse)
    else if c = '(' then
      dropChars 1
      let isFormula := (← peek) = some '(' && (!extended || closesAsFormula 0 ((← get).rest.drop 1))
      if isFormula then
        dropChars 1
        let parts ← r.parts (.formula 0) false []
        return some (.formula region.isQuoted parts.reverse)
      else
        let commands ← r.list .open
        let t ← r.next false false
        if extended && (t matches .eof) then unclosed (← get).line ")" ""
        if !t.isOperator ")" then unexpected t (some "\")\"")
        return some (.output region.isQuoted commands)
    else if c = '\x7b' && extended then
      dropChars 1
      return some (← r.braced region)
    else if c = '\x7b' then
      dropChars 1
      let head := readBraceHead (← get).rest
      modify fun s => { s with rest := head.rest }
      let word ← if head.closed then pure [] else r.parts (region.inBraces head.isPattern) false []
      return some (.expansion region.isQuoted head.parameter (head.change word.reverse))
    else if isNameStart c then
      let name := (← get).rest.takeWhile Text.isWordChar
      dropChars name.length
      return some (.expansion region.isQuoted (.variable (String.ofList name)) .keep)
    else
      match specialParameter? c with
      | some parameter =>
        dropChars 1
        return some (.expansion region.isQuoted parameter .keep)
      | none => return none

def backquotes : Read Part := do
  let s ← get
  match backquoted region.isQuoted [] s.rest with
  | none =>
    modify fun s => { s with line := s.line + s.rest.count '\n', rest := [] }
    unclosed s.line (String.singleton (Char.ofNat 96)) "EOF in backquote substitution"
  | some (text, rest) =>
    set { s with rest := text, line := 1, pushed := none, awaited := [] }
    let commands ← r.list .open
    let inner ← get
    let lines := s.rest.count '\n' - rest.count '\n'
    set { s with rest := rest, line := s.line + lines, documents := inner.documents, nextDocument := inner.nextDocument }
    return .output region.isQuoted commands

/-- Reads the parts of a region, which are given back last one first. Between the braces of a quoted expansion,
    `inner` says whether double quotes are open. -/
def partsStep (inner : Bool) (parts : List Part) : Read (List Part) := do
  let s ← get
  match s.rest with
  | [] =>
    match region with
    | .word | .mark | .document | .regex _ => return parts
    | .braces | .bracesTo _ | .quotedBraces true => unclosed s.line "\x7d" "Missing '\x7d'"
    | .quotedBraces false => unclosed s.line "\x7d" "Unterminated quoted string"
    | .quotes => unclosed s.line "\"" "Unterminated quoted string"
    | .formula _ | .group _ => unclosed s.line ")" "Missing '))'"
    | .subscript _ => unclosed s.line "]" "Missing ']'"
  | '\\' :: [] =>
    dropChars 1
    r.parts region inner (addChar parts true '\\')
  | '\\' :: c :: _ =>
    dropChars 2
    if c = '\n' then r.parts region inner parts
    else if region.escapes c then r.parts region inner (addChar (markQuoted parts) true c)
    else r.parts region inner (addChar (addChar parts true '\\') true c)
  | c :: rest =>
    if c = '$' && region != .mark then
      dropChars 1
      match ← r.dollar region with
      | some part => r.parts region inner (part :: parts)
      | none => r.parts region inner (addChar parts region.isQuoted '$')
    else if c.toNat = 96 && region != .mark then
      dropChars 1
      let part ← r.backquotes region
      r.parts region inner (part :: parts)
    else
      match region with
      | .word | .mark | .braces | .bracesTo _ | .subscript _ | .group _ | .regex _ =>
        if c = '\'' then
          let content := rest.takeWhile (· != '\'')
          dropChars (min (content.length + 2) (rest.length + 1))
          if content.length = rest.length then unclosed s.line "'" "Unterminated quoted string"
          else r.parts region inner (addChars (markQuoted parts) true content)
        else if c = '"' then
          dropChars 1
          let quoted ← r.quotes s.line
          r.parts region inner (if quoted.isEmpty then markQuoted parts else quoted ++ parts)
        else
          let add (region : Region) : Read (List Part) := do
            dropChars 1
            r.parts region inner (addChar parts false c)
          match region with
          | .braces =>
            if c = '\x7d' then
              dropChars 1
              return parts
            else add region
          | .bracesTo stop => if c = '\x7d' || c = stop then return parts else add region
          | .subscript depth =>
            if c = ']' && depth = 0 then
              dropChars 1
              return parts
            else add (.subscript (if c = '[' then depth + 1 else if c = ']' then depth - 1 else depth))
          | .group depth =>
            if c = ')' && depth = 0 then
              dropChars 1
              return addChar parts false ')'
            else add (.group (if c = '(' then depth + 1 else if c = ')' then depth - 1 else depth))
          | .regex depth =>
            if depth = 0 && (c = ')' || c = ' ' || c = '\t' || c = '\n') then return parts
            else add (.regex (if c = '(' then depth + 1 else if c = ')' then depth - 1 else depth))
          | _ =>
            let plain : Read (List Part) := do
              if endsWord c then return parts else add region
            if s.dialect = .plain then plain else r.special region inner parts c rest plain
      | .quotes =>
        dropChars 1
        if c = '"' then return parts else r.parts region inner (addChar parts true c)
      | .quotedBraces _ =>
        dropChars 1
        if c = '"' then r.parts region (!inner) parts
        else if c = '\x7d' && !inner then return parts
        else r.parts region inner (addChar parts true c)
      | .document =>
        dropChars 1
        r.parts region inner (addChar parts true c)
      | .formula depth =>
        if c = ')' && depth = 0 && rest.head? = some ')' then
          dropChars 2
          return parts
        else
          dropChars 1
          let depth := if c = '(' then depth + 1 else if c = ')' then depth - 1 else depth
          r.parts (.formula depth) inner (addChar parts true c)

end Reader

end BenchKernel.Script
