import BenchKernel.Host.Regex

/-! # Scripts of the line editor

The commands of a stream editor, and how they are read. Each command may have addresses: the lines for which it is
meant. Blocks and jumps are kept as the positions at which to go on. -/

namespace BenchKernel

namespace Editor

/-- An expression that is looked for. Without one the last is meant. -/
structure Sample where
  regex : Option Regex
  folded : Bool := false
  lines : Bool := false
  deriving Repr

/-- The line at which a command starts to count. -/
inductive Address
  | line (number : Nat)
  | last
  | every (first step : Nat)
  | found (sample : Sample)
  deriving Repr

/-- The line up to which a command counts. -/
inductive Stretch
  | line (number : Nat)
  | last
  | found (sample : Sample)
  | more (count : Nat)
  | multiple (factor : Nat)
  deriving Repr

inductive Piece
  | text (content : String)
  | group (index : Nat)
  | casing (letter : Char)
  deriving Repr

structure Replacement where
  sample : Sample
  pieces : List Piece
  nth : Nat := 1
  every : Bool := false
  prints : Bool := false
  file : Option String := none
  deriving Repr

/-- What a command does. -/
inductive Action
  | block (after : Nat)
  | blockEnd
  | nothing
  | append (text : String)
  | insert (text : String)
  | change (text : String)
  | delete
  | deleteFirst
  | print
  | printFirst
  | next
  | nextAppended
  | get
  | getAppended
  | hold
  | holdAppended
  | exchange
  | clear
  | quit (status : Nat)
  | quitSilently (status : Nat)
  | jump (target : Option Nat)
  | jumpIf (target : Option Nat)
  | jumpUnless (target : Option Nat)
  | replace (r : Replacement)
  | replaceChars (table : List (Char × Char))
  | number
  | show (width : Option Nat)
  | readFile (path : String)
  | readLine (path : String)
  | writeFile (path : String)
  | writeFirst (path : String)
  | fileName
  deriving Repr

structure Command where
  first : Option Address := none
  second : Option Stretch := none
  negated : Bool := false
  action : Action
  deriving Repr

/-! ### Reading -/

/-- Why a script cannot be read: how much of it was read, or nothing if that does not matter, and the fault. -/
structure Fault where
  position : Option Nat
  text : String
  deriving DecidableEq, Repr

/-- A command as it is written: blocks and labels have not been looked up. -/
inductive Written
  | command (c : Command)
  | opening (first : Option Address) (second : Option Stretch) (negated : Bool)
  | closing
  | label (name : String)
  | jump (letter : Char) (first : Option Address) (second : Option Stretch) (negated : Bool) (label : String)

structure Reader where
  rest : List Char
  size : Nat
  extended : Bool

abbrev Read := StateT Reader (Except Fault)

def fault {α : Type} (text : String) : Read α := do
  let s ← get
  throw ⟨some (s.size - s.rest.length), text⟩

def take? : Read (Option Char) := do
  let s ← get
  match s.rest with
  | [] => return none
  | c :: rest =>
    set { s with rest := rest }
    return some c

def peek? : Read (Option Char) := do return (← get).rest.head?

def giveBack (c : Char) : Read Unit := modify fun s => { s with rest := c :: s.rest }

def skipWhile (p : Char → Bool) : Read Unit := modify fun s => { s with rest := s.rest.dropWhile p }

def isBlank (c : Char) : Bool := c == ' ' || c == '\t'

def takeWhile (p : Char → Bool) : Read String := do
  let s ← get
  set { s with rest := s.rest.dropWhile p }
  return String.ofList (s.rest.takeWhile p)

def takeNumber : Read Nat := do return ((← takeWhile Char.isDigit).toNat?).getD 0

/-- Where in a set between brackets the reading stands. -/
inductive SetPlace
  | between
  | opened
  | named (mark : Char)
  | closing (mark : Char)
  deriving DecidableEq, Repr

def SetPlace.after? (c : Char) : SetPlace → Option SetPlace
  | .between => if c = ']' then none else some (if c = '[' then .opened else .between)
  | .opened =>
    if c = ']' then none
    else if c = '.' || c = ':' || c = '=' then some (.named c)
    else some (if c = '[' then .opened else .between)
  | .named mark => some (if c = mark then .closing mark else .named mark)
  | .closing mark => some (if c = ']' then .between else if c = mark then .closing mark else .named mark)

/-- A character that is given by its number. -/
def numbered? : List Char → Option (Char × List Char)
  | kind :: rest =>
    match ([('d', 10, 3), ('o', 8, 3), ('x', 16, 2)] : List (Char × Nat × Nat)).lookup kind with
    | none => none
    | some (base, most) =>
      let digits := (rest.take most).takeWhile fun c => (Number.digit? base c).isSome
      if digits.isEmpty then none
      else
        let value := digits.foldl (fun n c => n * base + (Number.digit? base c).getD 0) 0
        some (Char.ofNat (value % 256), rest.drop digits.length)
  | [] => none

/-- A character that has lost its meaning. -/
def literally (inRegex : Bool) (c : Char) : List Char :=
  if inRegex then
    if c = '^' || c = '\\' then ['\\', c]
    else if ['*', '.', '[', '$', '+', '?', '|', '(', ')', '\x7b', '\x7d'].contains c then ['[', c, ']']
    else [c]
  else if c = '&' || c = '\\' then ['\\', c]
  else [c]

variable (stop : Char)

/-- The text up to a delimiter, which is passed over. A backslash takes the meaning from the delimiter, and in an
    expression a set between brackets may hold it. -/
def untilChar (inRegex : Bool) :
    (fuel : Nat) → (set : Option SetPlace) → List Char → List Char → Option (List Char × List Char)
  | 0, _, _, _ => none
  | _ + 1, _, _, [] => none
  | fuel + 1, some place, read, c :: rest =>
    if c = '\n' then none
    else
      match if c = '\\' then numbered? rest else none with
      | some (found, rest) => untilChar inRegex fuel (some place) (found :: read) rest
      | none => untilChar inRegex fuel (place.after? c) (c :: read) rest
  | fuel + 1, none, read, c :: rest =>
    if c = stop then some (read.reverse, rest)
    else if c = '\n' && inRegex then none
    else if c = '\\' then
      match rest with
      | [] => none
      | d :: after =>
        if d = stop then
          let kept := if !inRegex && d = '&' then ['\\', d] else if inRegex then literally true d else [d]
          untilChar inRegex fuel none (kept.reverse ++ read) after
        else
          match numbered? rest with
          | some (found, after) => untilChar inRegex fuel none ((literally inRegex found).reverse ++ read) after
          | none => untilChar inRegex fuel none (d :: '\\' :: read) after
    else if inRegex && c = '[' then
      let start := match rest with
        | '^' :: ']' :: _ => ['^', ']']
        | ']' :: _ => [']']
        | '^' :: _ => ['^']
        | _ => []
      untilChar inRegex fuel (some .between) (start.reverse ++ c :: read) (rest.drop start.length)
    else untilChar inRegex fuel none (c :: read) rest

def readUntil (inRegex : Bool) (why : String) : Read String := do
  let s ← get
  match untilChar stop inRegex (s.rest.length + 1) none [] s.rest with
  | some (text, rest) =>
    set { s with rest := rest }
    return String.ofList text
  | none =>
    set { s with rest := [] }
    fault why

def formOf (extended : Bool) : Regex.Form :=
  { extended, controls := true, bare := .refused, single := !extended, strictCounts := true, strictGroups := true
    strictNames := true }

def sampleOf (text : String) (folded lines : Bool) : Read Sample := do
  if text.isEmpty then return { regex := none, folded, lines }
  else
    match Regex.parse (formOf (← get).extended) text with
    | .ok r => return { regex := some r, folded, lines }
    | .error why => fault why

def readSample : Read Sample := do
  let text ← readUntil stop true "unterminated address regex"
  let flags ← takeWhile fun c => c == 'I' || c == 'M'
  sampleOf text (flags.toList.contains 'I') (flags.toList.contains 'M')

def readAddress : Read (Option Address) := do
  match ← peek? with
  | some '$' =>
    let _ ← take?
    return some .last
  | some '/' =>
    let _ ← take?
    return some (.found (← readSample '/'))
  | some '\\' =>
    let _ ← take?
    match ← take? with
    | some stop => return some (.found (← readSample stop))
    | none => fault "unterminated address regex"
  | some c =>
    if c.isDigit then
      let first ← takeNumber
      skipWhile isBlank
      if (← peek?) = some '~' then
        let _ ← take?
        return some (.every first (← takeNumber))
      else return some (.line first)
    else return none
  | none => return none

def readStretch : Read (Option Stretch) := do
  match ← peek? with
  | some '+' =>
    let _ ← take?
    return some (.more (← takeNumber))
  | some '~' =>
    let _ ← take?
    return some (.multiple (← takeNumber))
  | _ =>
    match ← readAddress with
    | some (.line n) => return some (.line n)
    | some .last => return some .last
    | some (.found s) => return some (.found s)
    | some (.every n _) => return some (.line n)
    | none => return none

def piecesOf : (fuel : Nat) → List Char → List Piece
  | 0, _ => []
  | _ + 1, [] => []
  | fuel + 1, '\\' :: c :: rest =>
    if c.isDigit then .group (c.toNat - '0'.toNat) :: piecesOf fuel rest
    else if ['U', 'L', 'u', 'l', 'E'].contains c then .casing c :: piecesOf fuel rest
    else
      .text (String.singleton ((Regex.controlEscape? c).getD c)) :: piecesOf fuel rest
  | fuel + 1, '&' :: rest => .group 0 :: piecesOf fuel rest
  | fuel + 1, c :: rest => .text (String.singleton c) :: piecesOf fuel rest

def greatestGroup (pieces : List Piece) : Nat :=
  pieces.foldl (fun most piece =>
    match piece with
    | .group n => max most n
    | _ => most) 0

def readPath : Read String := do
  skipWhile isBlank
  let path ← takeWhile (· != '\n')
  if path.isEmpty then fault "missing filename in r/R/w/W commands"
  return path

structure Flags where
  every : Bool := false
  prints : Bool := false
  nth : Option Nat := none
  folded : Bool := false
  lines : Bool := false
  file : Option String := none

def readFlags : (fuel : Nat) → Flags → Read Flags
  | 0, f => return f
  | fuel + 1, f => do
    match ← take? with
    | none => return f
    | some 'g' =>
      if f.every then fault "multiple \x60g' options to \x60s' command"
      readFlags fuel { f with every := true }
    | some 'p' =>
      if f.prints then fault "multiple \x60p' options to \x60s' command"
      readFlags fuel { f with prints := true }
    | some 'i' | some 'I' => readFlags fuel { f with folded := true }
    | some 'm' | some 'M' => readFlags fuel { f with lines := true }
    | some 'w' => return { f with file := some (← readPath) }
    | some '\n' | some ';' => return f
    | some c =>
      if c = '\x7d' || c = '#' then
        giveBack c
        return f
      else if isBlank c then readFlags fuel f
      else if c.isDigit then
        if f.nth.isSome then fault "multiple number options to \x60s' command"
        giveBack c
        let n ← takeNumber
        if n = 0 then fault "number option to \x60s' command may not be zero"
        readFlags fuel { f with nth := some n }
      else fault "unknown option to \x60s'"

def readReplacement : Read Action := do
  match ← take? with
  | none | some '\n' | some '\\' => fault "unterminated \x60s' command"
  | some stop =>
    let pattern ← readUntil stop true "unterminated \x60s' command"
    let text ← readUntil stop false "unterminated \x60s' command"
    let flags ← readFlags (((← get).rest.length) + 1) {}
    let sample ← sampleOf pattern flags.folded flags.lines
    let pieces := piecesOf (text.length + 1) text.toList
    let greatest := greatestGroup pieces
    if (sample.regex.map Regex.groupCount).any (· < greatest) then
      fault s!"invalid reference \\{greatest} on \x60s' command's RHS"
    return .replace
      { sample, pieces, nth := flags.nth.getD 1, every := flags.every, prints := flags.prints, file := flags.file }

def tableChars : List Char → List Char
  | '\\' :: 'n' :: rest => '\n' :: tableChars rest
  | '\\' :: 't' :: rest => '\t' :: tableChars rest
  | '\\' :: '\\' :: rest => '\\' :: tableChars rest
  | c :: rest => c :: tableChars rest
  | [] => []

def readTable : Read Action := do
  match ← take? with
  | none => fault "unterminated \x60y' command"
  | some stop =>
    let first ← readUntil stop false "unterminated \x60y' command"
    let second ← readUntil stop false "unterminated \x60y' command"
    let a := tableChars first.toList
    let b := tableChars second.toList
    if a.length != b.length then fault "strings for \x60y' command are different lengths"
    return .replaceChars (a.zip b)

/-- The text of a command. A backslash lets it go on in the next line. -/
def textLines : List Char → List Char × List Char
  | [] => ([], [])
  | '\\' :: [] => ([], [])
  | '\\' :: c :: rest =>
    let (text, after) := textLines rest
    (c :: text, after)
  | '\n' :: rest => ([], rest)
  | c :: rest =>
    let (text, after) := textLines rest
    (c :: text, after)

def readText : Read String := do
  skipWhile isBlank
  match (← get).rest with
  | [] => fault "expected \\ after \x60a', \x60c' or \x60i'"
  | '\\' :: rest =>
    let after := rest.dropWhile isBlank
    modify fun s => { s with rest := if after.head? = some '\n' then after.drop 1 else rest }
  | _ => pure ()
  let s ← get
  let (text, rest) := textLines s.rest
  set { s with rest := rest }
  return String.ofList text ++ "\n"

def readEnd : Read Unit := do
  skipWhile isBlank
  match ← take? with
  | none | some '\n' | some ';' => return
  | some c => if c = '\x7d' || c = '#' then giveBack c else fault "extra characters after command"

def readLabel : Read String := do
  skipWhile isBlank
  let name ← takeWhile fun c => c != '\n' && c != ';'
  if (← peek?).isSome then let _ ← take?
  return String.ofList (name.toList.reverse.dropWhile isBlank).reverse

def plainActions : List (Char × Action) :=
  [('d', .delete), ('D', .deleteFirst), ('p', .print), ('P', .printFirst), ('n', .next), ('N', .nextAppended), ('g', .get),
    ('G', .getAppended), ('h', .hold), ('H', .holdAppended), ('x', .exchange), ('z', .clear), ('=', .number), ('F', .fileName)]

def readAction (first : Option Address) (second : Option Stretch) (negated : Bool) (letter : Char) : Read Written := do
  let single : Read Unit := do if second.isSome then fault "command only uses one address"
  let give (action : Action) : Written := .command { first, second, negated, action }
  match letter with
  | '\x7b' => return .opening first second negated
  | '\x7d' =>
    if first.isSome then fault "\x7d doesn't want any addresses"
    readEnd
    return .closing
  | ':' =>
    if first.isSome then fault ": doesn't want any addresses"
    let name ← readLabel
    if name.isEmpty then fault "\":\" lacks a label"
    return .label name
  | 'b' | 't' | 'T' => return .jump letter first second negated (← readLabel)
  | 'a' => return give (.append (← readText))
  | 'i' => return give (.insert (← readText))
  | 'c' => return give (.change (← readText))
  | 's' => return give (← readReplacement)
  | 'y' =>
    let action ← readTable
    readEnd
    return give action
  | 'q' | 'Q' =>
    single
    skipWhile isBlank
    let status ← takeNumber
    readEnd
    return give (if letter = 'q' then .quit status else .quitSilently status)
  | 'l' =>
    skipWhile isBlank
    let digits ← takeWhile Char.isDigit
    readEnd
    return give (.show digits.toNat?)
  | 'r' => return give (.readFile (← readPath))
  | 'R' => return give (.readLine (← readPath))
  | 'w' => return give (.writeFile (← readPath))
  | 'W' => return give (.writeFirst (← readPath))
  | _ =>
    match plainActions.lookup letter with
    | some action =>
      readEnd
      return give action
    | none => fault s!"unknown command: \x60{letter}'"

def readCommand : Read (Option Written) := do
  skipWhile fun c => isBlank c || c == '\n' || c == ';'
  let first ← readAddress
  let second ←
    if first.isNone then pure none
    else do
      skipWhile isBlank
      if (← peek?) = some ',' then
        let _ ← take?
        skipWhile isBlank
        match ← readStretch with
        | some s => pure (some s)
        | none =>
          let _ ← take?
          fault "unexpected \x60,'"
      else pure none
  let isZero := match first, second with
    | some (.line 0), some (.found _) => false
    | some (.line 0), _ => true
    | _, _ => false
  skipWhile isBlank
  let negated := (← peek?) = some '!'
  skipWhile fun c => c == '!' || isBlank c
  match ← take? with
  | none => if first.isSome || negated then fault "missing command" else return none
  | some '\n' => fault "missing command"
  | some '#' =>
    if first.isSome then fault "comments don't accept any addresses"
    skipWhile (· != '\n')
    return some (.command { action := .nothing })
  | some letter =>
    if isZero then fault "invalid usage of line address 0"
    return some (← readAction first second negated letter)

/-- Reads all commands. `depth` is the number of blocks that are open. -/
def readAll : (fuel : Nat) → (depth : Nat) → Read (List Written)
  | 0, _ => return []
  | fuel + 1, depth => do
    match ← readCommand with
    | none =>
      if 0 < depth then throw ⟨some 0, "unmatched \x60\x7b'"⟩
      return []
    | some .closing =>
      if depth = 0 then fault "unexpected \x60\x7d'"
      return .closing :: (← readAll fuel (depth - 1))
    | some (.opening first second negated) => return .opening first second negated :: (← readAll fuel (depth + 1))
    | some written => return written :: (← readAll fuel depth)

/-! ### Looking up blocks and labels -/

/-- The position after the end of a block. -/
def blockEnd : (depth position : Nat) → List Written → Nat
  | _, position, [] => position
  | depth, position, .opening _ _ _ :: rest => blockEnd (depth + 1) (position + 1) rest
  | 0, position, .closing :: _ => position + 1
  | depth + 1, position, .closing :: rest => blockEnd depth (position + 1) rest
  | depth, position, _ :: rest => blockEnd depth (position + 1) rest

def labelPosition? (all : List Written) (name : String) : Option Nat :=
  all.findIdx? fun
    | .label found => found == name
    | _ => false

/-- Commands with the positions that blocks and jumps lead to. -/
def resolve (all : List Written) : (position : Nat) → List Written → Except Fault (List Command)
  | _, [] => .ok []
  | position, written :: rest => do
    let command : Command ←
      match written with
      | .command c => pure c
      | .opening first second negated => pure { first, second, negated, action := .block (blockEnd 0 (position + 1) rest) }
      | .closing => pure { action := .blockEnd }
      | .label _ => pure { action := .nothing }
      | .jump letter first second negated label =>
        let target ←
          if label.isEmpty then pure none
          else
            match labelPosition? all label with
            | some target => pure (some target)
            | none => throw ⟨none, s!"can't find label for jump to \x60{label}'"⟩
        let action := if letter = 'b' then Action.jump target else if letter = 't' then .jumpIf target else .jumpUnless target
        pure { first, second, negated, action }
    return command :: (← resolve all (position + 1) rest)

def parse (extended : Bool) (script : String) : Except Fault (List Command) := do
  let cs := script.toList
  let (written, _) ← (readAll (cs.length + 1) 0).run { rest := cs, size := cs.length, extended }
  resolve written 0 written

end Editor

end BenchKernel
