import BenchKernel.Host.Script.Reader

/-! # Reading tokens

Tokens are words, operators and line ends. Documents are read after the line end that follows their announcement. -/

namespace BenchKernel.Script

namespace Reader

/-- The variable between braces that is to hold a number. -/
def namedBefore? (text : String) : Option String :=
  match text.toList with
  | '\x7b' :: rest =>
    let name := rest.dropLast
    let start := name.takeWhile (· != '[')
    let isElement := start.length = name.length || name.getLast? = some ']'
    if rest.getLast? = some '\x7d' && isName (String.ofList start) && isElement then some (String.ofList name) else none
  | _ => none

variable (r : Reader)

def written (c : Char) : Read Token := do
  let s ← get
  let second := (afterContinuations (s.rest.drop 1)).1.head?
  let double (text : String) : Read Token := do
    dropChars 1
    let _ ← peek
    dropChars 1
    return .operator text
  let single (text : String) : Read Token := do
    dropChars 1
    return .operator text
  let extended := s.dialect = .extended
  if c = '\n' then
    dropChars 1
    return .newline
  else if c = '&' then
    if second = some '&' then double "&&"
    else if extended && second = some '>' then
      let isAppend := s.rest[2]? = some '>'
      dropChars (if isAppend then 3 else 2)
      return .redirection none (if isAppend then "&>>" else "&>")
    else single "&"
  else if c = '|' then
    if second = some '|' then double "||" else if extended && second = some '&' then double "|&" else single "|"
  else if c = ';' then
    if extended && second = some ';' && s.rest[2]? = some '&' then
      dropChars 3
      return .operator ";;&"
    else if second = some ';' then double ";;"
    else if extended && second = some '&' then double ";&"
    else single ";"
  else if c = '(' then single "("
  else if c = ')' then single ")"
  else
    let parts := (← r.parts .word false []).reverse
    let rest := (← get).rest
    let redirects := rest.head? = some '<' || rest.head? = some '>'
    let number := (plainText? parts).bind fun text =>
      if text.length = 1 || extended then number? text.toList else none
    let name := if extended && redirects then (plainText? parts).bind namedBefore? else none
    if let some name := name then
      let (operator, rest) := readRedirection s.dialect rest
      modify fun s => { s with rest := rest }
      return .named name operator
    else if redirects && (parts.isEmpty || number.isSome) then
      let (operator, rest) := readRedirection s.dialect rest
      modify fun s => { s with rest := rest }
      return .redirection number operator
    else return .word parts

def tokenStep : Read Token := do
  match ← peek with
  | none => return .eof
  | some c =>
    if c = ' ' || c = '\t' then
      dropChars 1
      r.token
    else if c = '#' then
      dropChars ((← get).rest.takeWhile (· != '\n')).length
      r.token
    else
      let s ← get
      if s.followed.isSome then set { s with tokenStart := s.rest.length }
      let t ← r.written c
      if s.dialect = .extended then
        modify fun after => { after with token := s.rest.take (s.rest.length - after.rest.length) }
      return t

def nextStep (lines keyword : Bool) : Read Token := do
  if keyword then modify fun s => { s with assignable := true }
  let t ←
    match (← get).pushed with
    | some t =>
      modify fun s => { s with pushed := none }
      pure t
    | none => r.token
  match t with
  | .newline =>
    if lines then
      r.documents
      r.next lines keyword
    else return t
  | .word parts =>
    let s ← get
    let isFollower := s.followed.any fun left => s.tokenStart ≤ left
    if isFollower then set { s with followed := none }
    match if keyword || isFollower then plainText? parts else none with
    | some text =>
      if keyword && (keywords s.dialect).contains text then return .keyword text
      else if ← replaceAlias text then r.next lines keyword
      else return t
    | none => return t
  | _ => return t

/-- Reads the documents that have been announced. -/
def documentsStep : Read Unit := do
  let s ← get
  match s.awaited with
  | [] => return
  | d :: others =>
    let (text, rest, isEnded) := documentLines d (s.rest.length + 1) false s.rest
    let lines := s.rest.count '\n' - rest.count '\n'
    let parts ←
      if d.quoted then pure [Part.text true (String.ofList text)]
      else do
        set { s with rest := text, awaited := [], pushed := none }
        let parts ← r.parts .document false []
        pure parts.reverse
    let inner ← get
    set { s with
      rest := rest
      line := s.line + lines
      awaited := others
      documents := (d.index, parts) :: inner.documents
      nextDocument := inner.nextDocument
      warnings :=
        if isEnded then s.warnings
        else
          s.warnings ++ [(s.line + lines - 1, s!"warning: here-document at line {d.line}" ++
            " delimited by end-of-file (wanted " ++ ticked d.mark ++ ")")] }
    r.documents

end Reader

end BenchKernel.Script
