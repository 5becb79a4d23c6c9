import BenchKernel.Host.Script.Pattern
import BenchKernel.Host.Script.Tree
import BenchKernel.Number.Reading

/-! # Regular expressions

Regular expressions as the programs of the host read them, in their basic and their extended form. Matching goes
through sets of positions, the furthest first, so that the longest match is found and every group takes what it
can. -/

namespace BenchKernel

open Script (Member)

inductive Regex
  | empty
  | char (c : Char)
  | any
  | set (negated : Bool) (members : List Member)
  | start
  | finish
  | textStart
  | textEnd
  /-- A place where a word starts, where one ends, where one of both is so, and where neither is. -/
  | wordStart
  | wordEnd
  | wordEdge
  | wordInside
  | sequence (a b : Regex)
  | choice (a b : Regex)
  | repeated (a : Regex) (least : Nat) (most : Option Nat)
  | group (index : Nat) (a : Regex)
  | again (index : Nat)
  deriving Repr

namespace Regex

/-! ### Matching -/

/-- A position in a text, with what groups have matched on the way to it. -/
structure Spot where
  position : Nat
  groups : List (Nat × Nat × Nat) := []
  deriving DecidableEq, Repr

/-- How to match: with letters of both cases alike, with lines in a text, and with all ways to match groups. -/
structure Options where
  folded : Bool := false
  lines : Bool := false
  exact : Bool := false

variable (text : Array Char)

def isWordAt (position : Nat) : Bool := (text[position]?).any Text.isWordChar

def isWordBefore (position : Nat) : Bool := 0 < position && isWordAt text (position - 1)

variable (o : Options)

def isSame (a b : Char) : Bool := a == b || (o.folded && a.toLower == b.toLower)

def setHolds (negated : Bool) (members : List Member) (c : Char) : Bool :=
  let holds (d : Char) : Bool := members.any (·.holds d)
  (holds c || (o.folded && (holds c.toLower || holds c.toUpper))) != negated

/-- Spots without those that are alike, the furthest first. -/
def furthest (spots : List Spot) : List Spot :=
  let isLike (a b : Spot) : Bool := a.position == b.position && (!o.exact || a == b)
  let distinct := spots.foldl (fun (kept : List Spot) s => if kept.any (isLike s) then kept else s :: kept) []
  distinct.reverse.mergeSort fun a b => decide (b.position ≤ a.position)

/-- The spots after any number of steps from the given ones. A step that goes nowhere is taken only as long as the
    least number asks for it. -/
def stepsFrom (step : Spot → List Spot) (least : Nat) (most : Option Nat) :
    (fuel : Nat) → (count : Nat) → List Spot → List Spot
  | 0, count, spots => if least ≤ count then spots else []
  | fuel + 1, count, spots =>
    let further :=
      if spots.isEmpty || most.any (· ≤ count) then []
      else
        let next := spots.flatMap fun s => (step s).filter fun after => s.position < after.position || count < least
        stepsFrom step least most fuel (count + 1) (furthest o next)
    if least ≤ count then further ++ spots else further

/-- The spots to which an expression leads. -/
def run (text : Array Char) : Regex → Spot → List Spot
  | empty, s => [s]
  | char c, s => if (text[s.position]?).any (isSame o c) then [{ s with position := s.position + 1 }] else []
  | any, s => if s.position < text.size then [{ s with position := s.position + 1 }] else []
  | set negated members, s =>
    if (text[s.position]?).any (setHolds o negated members) then [{ s with position := s.position + 1 }] else []
  | start, s => if s.position = 0 || (o.lines && text[s.position - 1]? == some '\n') then [s] else []
  | finish, s => if s.position = text.size || (o.lines && text[s.position]? == some '\n') then [s] else []
  | textStart, s => if s.position = 0 then [s] else []
  | textEnd, s => if s.position = text.size then [s] else []
  | wordStart, s => if isWordAt text s.position && !isWordBefore text s.position then [s] else []
  | wordEnd, s => if isWordBefore text s.position && !isWordAt text s.position then [s] else []
  | wordEdge, s => if isWordBefore text s.position != isWordAt text s.position then [s] else []
  | wordInside, s => if isWordBefore text s.position == isWordAt text s.position then [s] else []
  | sequence a b, s => furthest o ((run text a s).flatMap (run text b))
  | choice a b, s => furthest o (run text a s ++ run text b s)
  | repeated a least most, s => furthest o (stepsFrom o (run text a) least most (text.size + least + 1) 0 [s])
  | group index a, s =>
    (run text a s).map fun after =>
      { after with groups := (index, s.position, after.position) :: after.groups.filter fun g => g.1 != index }
  | again index, s =>
    match s.groups.lookup index with
    | none => []
    | some (low, high) =>
      let isThere := (List.range (high - low)).all fun i =>
        match text[low + i]?, text[s.position + i]? with
        | some a, some b => isSame o a b
        | _, _ => false
      if isThere then [{ s with position := s.position + (high - low) }] else []

/-- What was matched: its start, its end, and what the groups have matched. -/
structure Match where
  start : Nat
  stop : Nat
  groups : List (Nat × Nat × Nat)

variable (r : Regex)

def matchAt? (text : Array Char) (position : Nat) : Option Match :=
  match run o text r { position } with
  | [] => none
  | first :: rest =>
    let best := rest.foldl (fun (best s : Spot) => if best.position < s.position then s else best) first
    some ⟨position, best.position, best.groups⟩

/-- The first match that starts at a position or after it. -/
def search? (text : Array Char) : (fuel : Nat) → (position : Nat) → Option Match
  | 0, _ => none
  | fuel + 1, position =>
    match matchAt? o r text position with
    | some m => some m
    | none => search? text fuel (position + 1)

/-- Whether an expression asks again for what a group has matched. -/
def asksAgain : Regex → Bool
  | sequence a b | choice a b => asksAgain a || asksAgain b
  | repeated a _ _ | group _ a => asksAgain a
  | again _ => true
  | _ => false

def find? (text : Array Char) (position : Nat) : Option Match :=
  search? { o with exact := asksAgain r } r text (text.size + 1 - position) position

def isFound (text : String) : Bool := (find? o r text.toList.toArray 0).isSome

def textBetween (low high : Nat) : List Char := (text.extract low high).toList

def Match.group (m : Match) (text : Array Char) (index : Nat) : List Char :=
  if index = 0 then textBetween text m.start m.stop
  else
    match m.groups.lookup index with
    | some (low, high) => textBetween text low high
    | none => []

/-! ### Reading -/

/-- What a repetition is in an extended form that has nothing before it. -/
inductive Bare
  | plain
  | skipped
  | refused
  deriving DecidableEq, Repr

/-- What programs take differently in expressions. -/
structure Form where
  extended : Bool := false
  escapesInSets : Bool := false
  controls : Bool := false
  bare : Bare := .plain
  /-- Whether counts without something before them are refused, and repetitions of what is repeated. -/
  single : Bool := false
  strictCounts : Bool := false
  strictGroups : Bool := false
  strictNames : Bool := false
  strictRanges : Bool := true

/-- How far an expression has been read. -/
structure Reading where
  rest : List Char
  warnings : List String := []
  opened : Nat := 0
  closed : List Nat := []

abbrev Read := StateT Reading (Except String)

def drop (count : Nat) : Read Unit := modify fun s => { s with rest := s.rest.drop count }

def controlEscape? (c : Char) : Option Char :=
  [('n', '\n'), ('t', '\t'), ('f', '\x0c'), ('v', '\x0b'), ('a', '\x07'), ('r', '\r')].lookup c

def ofSet (name : String) (negated : Bool) : Regex := .set negated [.named name]

def wordSet (negated : Bool) : Regex := .set negated [.named "alnum", .range '_' '_']

def setNames : List String := Script.characterSets.map Prod.fst

def hasPair (pair : List Char) : List Char → Bool
  | [] => false
  | c :: rest => pair.isPrefixOf (c :: rest) || hasPair pair rest

/-- Whether the members of a set look like a name whose own brackets were forgotten. -/
def looksLikeName (cs : List Char) : Bool :=
  cs.head? = some ':' && cs.getLast? = some ':' && cs.any (· != ':') && !cs.contains '[' && !cs.contains '-'

variable (form : Form)

/-- The members of a set up to its closing bracket. `first` says whether nothing has been read yet. -/
def readMembers : (fuel : Nat) → (first : Bool) → List Char → Except String (List Member × List Char)
  | 0, _, _ => .error "Unmatched [, [^, [:, [., or [="
  | _ + 1, _, [] => .error "Unmatched [, [^, [:, [., or [="
  | fuel + 1, first, c :: rest =>
    let add (m : List Member) (rest : List Char) : Except String (List Member × List Char) :=
      (readMembers fuel false rest).map fun (members, after) => (m ++ members, after)
    let single (cs : List Char) : Option (Char × List Char) :=
      match cs with
      | '[' :: '.' :: d :: '.' :: ']' :: after => some (d, after)
      | '\\' :: d :: after =>
        if form.escapesInSets then some ((controlEscape? d).getD d, after)
        else if form.controls && (controlEscape? d).isSome then some ((controlEscape? d).getD d, after)
        else some ('\\', d :: after)
      | d :: after => some (d, after)
      | [] => none
    if c = ']' && !first then .ok ([], rest)
    else if c = '-' && !first && !form.escapesInSets && rest.head?.any (· != ']') then .error "Invalid range end"
    else if c = '[' && rest.head? = some ':' then
      let name := (rest.drop 1).takeWhile fun d => d != ':' && d != ']'
      let after := rest.drop (name.length + 1)
      match after with
      | ':' :: ']' :: after =>
        if setNames.contains (String.ofList name) then add [.named (String.ofList name)] after
        else .error "Invalid character class name"
      | _ => .error "Unmatched [, [^, [:, [., or [="
    else if c = '[' && rest.head? = some '=' then
      match rest with
      | _ :: d :: '=' :: ']' :: after => add [.range d d] after
      | _ => .error (if hasPair ['=', ']'] (rest.drop 1) then "Invalid collation character" else "Unmatched [, [^, [:, [., or [=")
    else if c = '[' && rest.head? = some '.' && !((rest.drop 2).take 2 = ['.', ']']) then
      .error (if hasPair ['.', ']'] (rest.drop 1) then "Invalid collation character" else "Unmatched [, [^, [:, [., or [=")
    else
      match single (c :: rest) with
      | none => .error "Unmatched [, [^, [:, [., or [="
      | some (low, after) =>
        match after with
        | '-' :: d :: more =>
          if d = ']' then add [.range low low] after
          else
            match single (d :: more) with
            | none => .error "Unmatched [, [^, [:, [., or [="
            | some (high, after) =>
              if high < low && form.strictRanges then .error "Invalid range end" else add [.range low high] after
        | _ => add [.range low low] after

/-- Reads how often to repeat something, up to a closing brace. -/
def readCounts? (close : List Char) (cs : List Char) : Option ((Nat × Option Nat) × List Char) :=
  let low := cs.takeWhile Char.isDigit
  let rest := cs.drop low.length
  let finish (counts : Nat × Option Nat) (rest : List Char) : Option ((Nat × Option Nat) × List Char) :=
    if close.isPrefixOf rest then some (counts, rest.drop close.length) else none
  let value (digits : List Char) : Nat := (Script.number? digits).getD 0
  match rest with
  | ',' :: after =>
    let high := after.takeWhile Char.isDigit
    finish (value low, if high.isEmpty then none else some (value high)) (after.drop high.length)
  | _ => if low.isEmpty then none else finish (value low, some (value low)) rest

def mostCount : Nat := 32767

def readRepetition : Read (Option (Nat × Option Nat)) := do
  let take (count : Nat) (counts : Nat × Option Nat) : Read (Option (Nat × Option Nat)) := do
    drop count
    return some counts
  match form.extended, (← get).rest with
  | _, '*' :: _ => take 1 (0, none)
  | true, '+' :: _ => take 1 (1, none)
  | true, '?' :: _ => take 1 (0, some 1)
  | false, '\\' :: '+' :: _ => take 2 (1, none)
  | false, '\\' :: '?' :: _ => take 2 (0, some 1)
  | true, '\x7b' :: rest =>
    match readCounts? ['\x7d'] rest with
    | some (counts, after) =>
      modify fun s => { s with rest := after }
      return some counts
    | none =>
      if form.strictCounts then throw (if rest.contains '\x7d' then "Invalid content of \\\x7b\\\x7d" else "Unmatched \\\x7b")
      return none
  | false, '\\' :: '\x7b' :: rest =>
    match readCounts? ['\\', '\x7d'] rest with
    | some (counts, after) =>
      modify fun s => { s with rest := after }
      return some counts
    | none => throw (if rest.contains '\x7d' then "Invalid content of \\\x7b\\\x7d" else "Unmatched \\\x7b")
  | _, _ => return none

def readRepetitions : (fuel : Nat) → Regex → Read Regex
  | 0, r => return r
  | fuel + 1, r => do
    match ← readRepetition form with
    | none => return r
    | some (least, most) =>
      if most.any fun m => m < least then throw "Invalid content of \\\x7b\\\x7d"
      if mostCount < least || most.any fun m => mostCount < m then throw "Regular expression too big"
      let rest := (← get).rest
      if form.single && (rest.head? = some '*' || rest.take 2 = ['\\', '\x7b']) then
        throw "Invalid preceding regular expression"
      readRepetitions fuel (.repeated r least most)

/-- What a character stands for after a backslash. -/
def escapeOf (closed : List Nat) (c : Char) : Except String Regex :=
  match c with
  | 'w' => .ok (wordSet false)
  | 'W' => .ok (wordSet true)
  | 's' => .ok (ofSet "space" false)
  | 'S' => .ok (ofSet "space" true)
  | 'b' => .ok .wordEdge
  | 'B' => .ok .wordInside
  | '<' => .ok .wordStart
  | '>' => .ok .wordEnd
  | '\'' => .ok .textEnd
  | _ =>
    if c.toNat = 96 then .ok .textStart
    else if c.isDigit && c != '0' then
      let index := c.toNat - '0'.toNat
      if closed.contains index then .ok (.again index) else .error "Invalid back reference"
    else
      match if form.controls then controlEscape? c else none with
      | some d => .ok (.char d)
      | none => .ok (.char c)

def endsBranch (cs : List Char) : Bool :=
  match cs with
  | [] => true
  | ')' :: _ | '|' :: _ => form.extended
  | '\\' :: ')' :: _ | '\\' :: '|' :: _ => !form.extended
  | _ => false

/-- Whether an expression matches a place between characters. -/
def isPlace : Regex → Bool
  | .start | .finish | .wordEdge | .wordInside | .wordStart | .wordEnd | .textStart | .textEnd => true
  | _ => false

def repetitionName? (cs : List Char) : Option String :=
  match cs with
  | '*' :: _ => some "*"
  | '+' :: _ => some "+"
  | '?' :: _ => some "?"
  | '\x7b' :: rest => (readCounts? ['\x7d'] rest).map fun _ => "\x7b...\x7d"
  | _ => none

def warnBare : Read Unit := do
  let rest := (← get).rest
  match if form.extended then repetitionName? rest else none with
  | some what => modify fun s => { s with warnings := s.warnings ++ [what ++ " at start of expression"] }
  | none => return

/-- Deals with a repetition that has nothing before it. -/
def readBare : Read Unit := do
  let rest := (← get).rest
  let isRepetition := (repetitionName? rest).isSome
  if form.bare = .refused && (isRepetition || rest.head? = some '\x7b') then throw "Invalid preceding regular expression"
  if form.bare = .skipped && isRepetition then
    warnBare form
    let _ ← readRepetition form

mutual

def readChoices : Nat → (depth : Nat) → Read Regex
  | 0, _ => throw "Regular expression too big"
  | n + 1, depth => do
    let first ← readBranch n depth true true .empty
    let bar := if form.extended then ['|'] else ['\\', '|']
    if bar.isPrefixOf (← get).rest then
      drop bar.length
      let second ← readChoices n depth
      return .choice first second
    else return first

/-- Reads the parts of a choice after an expression. `first` says whether nothing stands before, and `bare` whether
    nothing does that could be repeated. -/
def readBranch : Nat → (depth : Nat) → (first bare : Bool) → Regex → Read Regex
  | 0, _, _, _, _ => throw "Regular expression too big"
  | n + 1, depth, first, bare, before => do
    if form.extended && (first || (bare && form.bare != .skipped)) then readBare form
    let rest := (← get).rest
    if endsBranch form rest && !(form.extended && depth = 0 && rest.head? = some ')') then
      if !form.extended && depth = 0 && (rest.take 2) = ['\\', ')'] then throw "Unmatched ) or \\)"
      return before
    else
      if form.extended && form.strictGroups && depth = 0 && rest.head? = some ')' then throw "Unmatched ) or \\)"
      let item ← readItem n depth first bare
      if form.bare = .skipped && item matches .start then warnBare form
      let item ← if isPlace item && !(form.extended && form.bare = .skipped) then pure item else readRepetitions form (rest.length + 1) item
      let joined := if before matches .empty then item else .sequence before item
      readBranch n depth false (isPlace item) joined

def readItem : Nat → (depth : Nat) → (first bare : Bool) → Read Regex
  | 0, _, _, _ => throw "Regular expression too big"
  | n + 1, depth, first, bare => do
    let group (width : Nat) : Read Regex := do
      drop width
      let index := (← get).opened + 1
      modify fun s => { s with opened := index }
      let inner ← readChoices n (depth + 1)
      let close := if form.extended then [')'] else ['\\', ')']
      if !close.isPrefixOf (← get).rest then throw "Unmatched ( or \\("
      drop close.length
      modify fun s => { s with closed := index :: s.closed }
      return .group index inner
    match (← get).rest with
    | [] => return .empty
    | '\\' :: [] => throw "Trailing backslash"
    | '\\' :: c :: _ =>
      if !form.extended && c = '(' then group 2
      else if !form.extended && c = '\x7b' && bare && form.single then throw "Invalid preceding regular expression"
      else
        drop 2
        match escapeOf form (← get).closed c with
        | .ok r => return r
        | .error why => throw why
    | '.' :: _ =>
      drop 1
      return .any
    | '[' :: rest =>
      let negated := rest.head? = some '^'
      let inside := if negated then rest.drop 1 else rest
      if inside.isEmpty then throw "Invalid regular expression"
      match readMembers form (inside.length + 1) true inside with
      | .error why => throw why
      | .ok (members, after) =>
        if form.strictNames && looksLikeName (inside.take (inside.length - after.length - 1)) then
          throw "character class syntax is [[:space:]], not [:space:]"
        modify fun s => { s with rest := after }
        return .set negated members
    | '^' :: _ =>
      drop 1
      return if form.extended || first then .start else .char '^'
    | '$' :: rest =>
      drop 1
      return if form.extended || endsBranch form rest then .finish else .char '$'
    | '(' :: _ =>
      if form.extended then group 1
      else
        drop 1
        return .char '('
    | c :: _ =>
      drop 1
      return .char c

end

/-- Reads an expression, with warnings about what it may not mean. -/
def parseWarned (text : String) : Except String (Regex × List String) := do
  let cs := text.toList
  let (r, left) ← (readChoices form (8 * cs.length + 16) 0).run { rest := cs }
  match left.rest with
  | [] => return (r, left.warnings)
  | _ => throw "Unmatched ) or \\)"

def parse (text : String) : Except String Regex := (parseWarned form text).map Prod.fst

def groupCount : Regex → Nat
  | sequence a b | choice a b => max (groupCount a) (groupCount b)
  | repeated a _ _ => groupCount a
  | group index a => max index (groupCount a)
  | _ => 0

end Regex

end BenchKernel
