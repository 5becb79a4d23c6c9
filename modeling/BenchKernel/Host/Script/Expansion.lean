import BenchKernel.Host.Script.Braces
import BenchKernel.Host.Script.Pattern
import BenchKernel.Host.Script.Quoting
import BenchKernel.Host.Script.Variables

/-! # Expansion of words

A word stands for fields: its expansions are replaced by their values, the values are cut at separators, and
fields that are patterns are replaced by the paths they match. What commands print is asked from a function. -/

namespace BenchKernel.Script

/-- A part of what a word stands for. A cut always starts a new field. -/
inductive Piece
  | glyph (g : Glyph) (cuts : Bool)
  | mark
  | cut
  deriving DecidableEq, Repr

namespace Piece

def ofText (quoted : Bool) (text : String) : List Piece := text.toList.map fun c => .glyph ⟨c, quoted⟩ (!quoted)

def glyphs (ps : List Piece) : List Glyph :=
  ps.filterMap fun
    | .glyph g _ => some g
    | _ => none

def text (ps : List Piece) : String := String.ofList ((glyphs ps).map Glyph.char)

end Piece

/-! ### Fields -/

/-- Where the cutting of fields stands. -/
inductive Cutting
  /-- No field has been started since the last one was ended by a separator that is no space. -/
  | fresh
  | spaced
  | inside
  deriving DecidableEq, Repr

/-- The fields so far, the last one first. -/
structure Fields where
  done : List (List Glyph) := []
  current : List Glyph := []
  state : Cutting := .fresh

def isMildSeparator (c : Char) : Bool := c == ' ' || c == '\t' || c == '\n'

namespace Fields

def close (f : Fields) (state : Cutting) : Fields :=
  if f.state = .inside then ⟨f.current.reverse :: f.done, [], state⟩ else { f with state := state }

/-- Adds a piece. A space between fields does not count; any other separator ends a field, though it may be empty. -/
def add (separators : List Char) (f : Fields) (p : Piece) : Fields :=
  match p with
  | .mark => { f with state := .inside }
  | .cut => f.close .fresh
  | .glyph g cuts =>
    if cuts && separators.contains g.char then
      if isMildSeparator g.char then
        match f.state with
        | .inside => f.close .spaced
        | _ => f
      else
        match f.state with
        | .inside => f.close .fresh
        | .spaced => { f with state := .fresh }
        | .fresh => { f with done := [] :: f.done }
    else { f with current := g :: f.current, state := .inside }

def ofPieces (separators : List Char) (ps : List Piece) : List (List Glyph) :=
  ((ps.foldl (add separators) {}).close .fresh).done.reverse

end Fields

/-! ### Paths that match -/

/-- How patterns match paths. -/
structure Matching where
  style : Pattern.Style := {}
  dots : Bool := true
  hidden : Bool := false
  folded : Bool := false
  deep : Bool := false

variable (s : Shell)

def Shell.matching : Matching :=
  if s.dialect = .extended then
    { style := { caret := true, groups := s.hasMode "extglob" }, dots := false, hidden := s.hasMode "dotglob",
      folded := s.hasMode "nocaseglob", deep := s.hasMode "globstar" }
  else {}

def Matching.names (m : Matching) (fs : FileStore) (pattern : List Glyph) (place : Place) : List String :=
  let dotted := pattern.head?.any fun g => g.char == '.'
  let names := (if dotted && m.dots then [".", ".."] else []) ++ (fs.entries place).map Shell.ofPath
  let fold (cs : List Char) : List Char := if m.folded then cs.map Char.toLower else cs
  let items := Pattern.ofGlyphs m.style (if m.folded then pattern.map fun g => { g with char := g.char.toLower } else pattern)
  let isFound (name : String) : Bool :=
    (dotted || m.hidden || name.toList.head? != some '.') && items.isMatch (fold name.toList)
  (names.filter isFound).mergeSort fun a b => decide (a ≤ b)

def Matching.namesIn (m : Matching) (fs : FileStore) (cwd : Place) (pattern : List Glyph) (path : String) : List String :=
  let place? := if path.isEmpty then some cwd else (fs.locate cwd (Shell.path path)).toOption
  match place?.filter fun place => (fs.get? place).any Node.isDirectory with
  | some place => m.names fs pattern place
  | none => []

/-- The paths below a directory, without hidden ones. -/
def pathsBelow (fs : FileStore) (cwd : Place) (directories : Bool) (path : String) : List String :=
  match if path.isEmpty then some cwd else (fs.locate cwd (Shell.path path)).toOption with
  | none => []
  | some place =>
    let found := fs.nodes.filterMap fun (other, node) =>
      let rest := other.drop place.length
      let isHidden := rest.any fun name => name.toList.head? == some '.'
      if other.take place.length = place && !rest.isEmpty && !isHidden && (!directories || node.isDirectory) then
        some ("/".intercalate (rest.map Shell.ofPath))
      else none
    found.mergeSort fun a b => decide (a ≤ b)

/-- The paths that match, name by name. -/
def Matching.paths (m : Matching) (fs : FileStore) (cwd : Place) : List (List Glyph) → (before : String) → List String
  | [], _ => []
  | [last], before =>
    if m.deep && last.length = 2 && last.all (·.isPlain '*') then
      (if before.isEmpty then [] else [before]) ++ (pathsBelow fs cwd false before).map (before ++ ·)
    else if Pattern.isSpecial last then (m.namesIn fs cwd last before).map (before ++ ·)
    else
      let path := before ++ String.ofList (last.map Glyph.char)
      if (fs.findName cwd (Shell.path path)).isOk then [path] else []
  | name :: rest, before =>
    if m.deep && name.length = 2 && name.all (·.isPlain '*') then
      (before :: (pathsBelow fs cwd true before).map fun text => s!"{before}{text}/").flatMap (paths m fs cwd rest)
    else
      let found :=
        if Pattern.isSpecial name then m.namesIn fs cwd name before else [String.ofList (name.map Glyph.char)]
      found.flatMap fun text => paths m fs cwd rest s!"{before}{text}/"

def pathNames (gs : List Glyph) : List (List Glyph) :=
  let (names, last) := gs.foldl (fun (names, current) g =>
    if g.char = '/' then (current.reverse :: names, []) else (names, g :: current)) ([], [])
  (last.reverse :: names).reverse

/-- Whether a field can stand for several paths. -/
def hasWildcard : (isOpen : Bool) → List Glyph → Bool
  | _, [] => false
  | isOpen, g :: rest =>
    if g.quoted then hasWildcard isOpen rest
    else
      match g.char with
      | '*' | '?' => true
      | '[' => hasWildcard true rest
      | ']' => isOpen || hasWildcard false rest
      | '/' => hasWildcard false rest
      | _ => hasWildcard isOpen rest

def Shell.isPattern (field : List Glyph) : Bool :=
  (if s.dialect = .extended then hasWildcard false field else Pattern.isSpecial field) ||
    (s.hasMode "extglob" && (field.zip field.tail).any fun (g, h) => !g.quoted && ['+', '@', '!'].contains g.char && h.isPlain '(')

/-- The paths that a field stands for, or the field itself. -/
def Shell.globbed (field : List Glyph) : List String :=
  let text := String.ofList (field.map Glyph.char)
  if s.has 'f' || !s.isPattern field then [text]
  else
    let found :=
      match pathNames field with
      | [] :: rest => s.matching.paths s.machine.files s.cwd rest "/"
      | names => s.matching.paths s.machine.files s.cwd names ""
    if found.isEmpty then (if s.hasMode "nullglob" then [] else [text]) else found

/-! ### Home directories -/

/-- A text with the home directory in place of a tilde. -/
def withHome (home : Option String) (isLast : Bool) (cs : List Char) : List Part :=
  match cs with
  | '~' :: rest =>
    let name := String.ofList (rest.takeWhile (· != '/'))
    let after := rest.dropWhile (· != '/')
    let directory := if name.isEmpty then home else if name = "root" then some "/root" else none
    match if after.isEmpty && !isLast then none else directory with
    | some directory =>
      .text true directory :: (if after.isEmpty then [] else [.text false (String.ofList after)])
    | none => [.text false (String.ofList cs)]
  | _ => [.text false (String.ofList cs)]

def Shell.home : Option String :=
  (s.value? "HOME").orElse fun _ => if s.dialect = .extended then some "/root" else none

def Shell.homeWord (w : Word) : Word :=
  match w with
  | .text false content :: rest => withHome s.home rest.isEmpty content.toList ++ rest
  | _ => w

/-- A value with the home directory in place of each tilde behind a colon. -/
def Shell.homeValue (w : Word) : Word :=
  let colon : Part := .text false ":"
  let ofText (isFirst isLast : Bool) (content : String) : List Part :=
    let pieces := Text.splitAt ':' content.toList
    let replaced := pieces.zipIdx.map fun (cs, i) =>
      if i = 0 && !isFirst then [Part.text false (String.ofList cs)]
      else withHome s.home (isLast || i + 1 < pieces.length) cs
    (replaced.intersperse [colon]).flatten
  (w.zipIdx.map fun (part, i) =>
    match part with
    | .text false content => ofText (i = 0) (i + 1 = w.length) content
    | _ => [part]).flatten

/-! ### Parameters -/

def Parameter.shown : Parameter → String
  | .variable name => name
  | .positional index => toString index
  | .arguments => "@"
  | .joined => "*"
  | .count => "#"
  | .status => "?"
  | .process => "$"
  | .lastJob => "!"
  | .flags => "-"
  | .element name _ => name
  | .elements name isJoined => name ++ (if isJoined then "[*]" else "[@]")

/-- A part as a script might have written it. -/
def Part.written : Part → String
  | .text false content => content
  | .text true content => s!"\"{content}\""
  | .expansion quoted (.element name _) _ => if quoted then "\"$\x7b" ++ name ++ "[...]\x7d\"" else "$\x7b" ++ name ++ "[...]\x7d"
  | .expansion quoted parameter _ => if quoted then s!"\"${parameter.shown}\"" else "$" ++ parameter.shown
  | .output _ _ => "$(...)"
  | .formula _ _ => "$((...))"
  | .process reads _ => if reads then "<(...)" else ">(...)"
  | .array _ => "(...)"

def writtenWord (w : List Part) : String := String.join (w.map Part.written)

def Parameter.isList : Parameter → Bool
  | arguments | joined => true
  | _ => false

def Parameter.isArguments : Parameter → Bool
  | arguments => true
  | _ => false

def Shell.flagText : String :=
  if s.dialect = .extended then
    let order := "abefhkmnptuvxBCEHPT".toList
    String.ofList (order.filter s.has ++ ['i', 's', 'c'].filter s.has)
  else String.ofList ((Shell.optionNames.map Prod.fst).filter s.has).reverse

def Shell.parameter? : Parameter → Option String
  | .variable name => s.valueOf? name
  | .positional 0 => some s.name
  | .positional (index + 1) => s.arguments[index]?
  | .arguments | .joined => some (s.joint.intercalate s.arguments)
  | .count => some (toString s.arguments.length)
  | .status => some (toString s.status)
  | .process => some (toString s.process)
  | .lastJob => s.lastJob.map toString
  | .flags => some s.flagText
  | .element _ _ | .elements _ _ => none

/-- The pieces of a value. Arguments may become fields. -/
def Shell.parameterPieces (split quoted : Bool) (parameter : Parameter) (value : String) : List Piece :=
  let separate := if quoted then parameter.isArguments else parameter.isList
  if split && separate then
    (s.arguments.map fun text => (if quoted then [Piece.mark] else []) ++ Piece.ofText quoted text).intersperse [.cut]
      |>.flatten
  else (if quoted then [.mark] else []) ++ Piece.ofText quoted value

/-- The parameter that a text names. -/
def namedParameter? (text : String) : Option Parameter :=
  let cs := text.toList
  let name := String.ofList (cs.takeWhile (· != '['))
  match cs.drop name.length with
  | [] =>
    if isName name then some (.variable name)
    else
      match number? cs with
      | some index => some (.positional index)
      | none => if cs.length = 1 then cs.head?.bind specialParameter? else none
  | '[' :: rest =>
    if !isName name || rest.getLast? != some ']' then none
    else
      match rest.dropLast with
      | ['@'] => some (.elements name false)
      | ['*'] => some (.elements name true)
      | index => some (.element name [.text true (String.ofList index)])
  | _ => none

/-- What commands within a word stand for. -/
structure Substitution where
  output : List Command → Act String
  path : (reads : Bool) → List Command → Act String

def formulaText (text : String) : Act String := do return toString (← Act.formula text).toInt

/-! ### Changes of values -/

/-- The value of a parameter: a text, or the texts of a list. -/
structure Found where
  text : Option String := none
  list : Option (List String) := none
  joined : Bool := false

def Found.isSet (f : Found) (orEmpty : Bool) : Bool :=
  match f.list with
  | some items => !items.isEmpty && !(orEmpty && items.all String.isEmpty)
  | none => f.text.isSome && !(orEmpty && f.text == some "")

def Found.map (f : Found) (change : String → String) : Found :=
  { f with text := some (change (f.text.getD "")), list := f.list.map fun items => items.map change }

def Found.pieces (f : Found) (s : Shell) (split quoted : Bool) : List Piece :=
  let marks : List Piece := if quoted then [.mark] else []
  match f.list with
  | none => marks ++ Piece.ofText quoted (f.text.getD "")
  | some items =>
    if split && !(quoted && f.joined) then
      ((items.map fun text => marks ++ Piece.ofText quoted text).intersperse [.cut]).flatten
    else marks ++ Piece.ofText quoted ((if f.joined then s.joint else " ").intercalate items)

/-- The length of the longest match at the start of a text. -/
def Pattern.startLength? (p : Pattern) (cs : List Char) : Option Nat :=
  (List.range (cs.length + 1)).reverse.find? fun n => p.isMatch (cs.take n)

def replacementText (glyphs : List Glyph) (found : List Char) : List Char :=
  glyphs.flatMap fun g => if g.isPlain '&' then found else [g.char]

/-- A text with its matches replaced from left to right. -/
def Pattern.replaced (p : Pattern) (every : Bool) (by' : List Glyph) : (fuel : Nat) → List Char → List Char
  | 0, cs => cs
  | _ + 1, [] => []
  | fuel + 1, c :: cs =>
    match (p.startLength? (c :: cs)).filter (0 < ·) with
    | some n =>
      let rest := (c :: cs).drop n
      replacementText by' ((c :: cs).take n) ++ (if every then p.replaced every by' fuel rest else rest)
    | none => c :: p.replaced every by' fuel cs

def Pattern.replace (p : Pattern) (anchor : Anchor) (by' : List Glyph) (text : String) : String :=
  let cs := text.toList
  String.ofList <|
    match anchor with
    | .first => p.replaced false by' (cs.length + 1) cs
    | .every => p.replaced true by' (cs.length + 1) cs
    | .start =>
      match p.startLength? cs with
      | some n => replacementText by' (cs.take n) ++ cs.drop n
      | none => cs
    | .final =>
      match (List.range (cs.length + 1)).find? fun n => p.isMatch (cs.drop n) with
      | some n => cs.take n ++ replacementText by' (cs.drop n)
      | none => cs

def changeLetters (casing : Casing) (all : Bool) (p : Pattern) (text : String) : String :=
  let change (c : Char) : Char := if p.isEmpty || p.isMatch [c] then casing.apply c else c
  match text.toList with
  | [] => ""
  | c :: rest => String.ofList (change c :: (if all then rest.map change else rest))

/-- The part of a list of some length that starts at an offset, which counts from the end if it is negative. A negative
    length counts from the end too. -/
def sliceOf {α : Type} (items : List α) (offset : Int) (length : Option Int) : Option (List α) :=
  let size : Int := items.length
  let start := if offset < 0 then size + offset else offset
  if start < 0 || size < start then some []
  else
    match length with
    | none => some (items.drop start.toNat)
    | some n =>
      if 0 ≤ n then some ((items.drop start.toNat).take n.toNat)
      else if size + n < start then none
      else some ((items.take (size + n).toNat).drop start.toNat)

/-- The letters for the marks of a variable. -/
def Variable.letters (v : Variable) : String :=
  String.ofList <|
    (match v.array with
      | some (.indexed _) => ['a']
      | some (.keyed _) => ['A']
      | none => []) ++
    (if v.integer then ['i'] else []) ++ (if v.reference then ['n'] else []) ++ (if v.fixed then ['r'] else []) ++
    (match v.casing with
      | some .lower => ['l']
      | some .upper => ['u']
      | some .toggled => ['c']
      | none => []) ++
    (if v.exported then ['x'] else [])

/-- A value as an operator asks for it. -/
def transformText (letter : Char) (v : Variable) (name text : String) : String :=
  match letter with
  | 'Q' => quotedWord text
  | 'U' => text.map Char.toUpper
  | 'L' => text.map Char.toLower
  | 'u' => changeLetters .upper false [] text
  | 'E' => String.ofList (unquoted (text.length + 1) text.toList)
  | 'a' => v.letters
  | 'A' =>
    let declared := if v.letters.isEmpty then "" else s!"declare -{v.letters} "
    s!"{declared}{name}={quotedWord text}"
  | _ => text

/-- The arrays that the shell itself keeps. -/
def Shell.ownElements? (name : String) : Option Elements :=
  let list (items : List String) : Elements := .indexed (items.zipIdx.map fun (text, i) => (i, text))
  let names := s.callers.map Prod.fst
  match name with
  | "FUNCNAME" => if names.isEmpty then none else some (list (names ++ ["main"]))
  | "BASH_LINENO" => some (list ((s.callers.map fun entry => toString entry.2) ++ ["0"]))
  | "BASH_SOURCE" => some (list (List.replicate (names.length + 1) (s.file.getD s.name)))
  | "BASH_VERSINFO" => some (list ["5", "2", "21", "1", "release", "x86_64-pc-linux-gnu"])
  | "DIRSTACK" => some (list ((s.way :: s.stack).map Shell.placeText))
  | "GROUPS" => some (list ["0"])
  | "PIPESTATUS" => some (list (s.statuses.map toString))
  | _ => none

def Shell.allElements (name : String) : Elements :=
  ((s.elements? name).orElse fun _ => s.ownElements? name).getD (.indexed [])

variable (run : Substitution)

mutual

def expandParts : Nat → (split inner : Bool) → List Part → Act (List Piece)
  | 0, _, _, _ => throw .exit
  | _ + 1, _, _, [] => return []
  | n + 1, split, inner, part :: rest => do
    let pieces ← expandPart n split inner part
    let others ← expandParts n split inner rest
    return pieces ++ others

def expandPart : Nat → (split inner : Bool) → Part → Act (List Piece)
  | 0, _, _, _ => throw .exit
  | n + 1, split, inner, part => do
    match part with
    | .text quoted content =>
      if quoted && content.isEmpty then return [.mark]
      else return content.toList.map fun c => .glyph ⟨c, quoted⟩ (inner && !quoted)
    | .output quoted commands =>
      let text ← run.output commands
      return (if quoted then [.mark] else []) ++ Piece.ofText quoted text
    | .formula quoted parts =>
      let text := Piece.text (← expandParts n false false parts)
      return (if quoted then [.mark] else []) ++ Piece.ofText quoted (← formulaText text)
    | .process reads commands => return Piece.ofText true (← run.path reads commands)
    | .array _ => return []
    | .expansion quoted parameter change =>
      if (← get).dialect = .extended then expandWide n split quoted parameter change
      else expandPlain n split quoted parameter change

/-- What an expansion of a plain script stands for. -/
def expandPlain : Nat → (split quoted : Bool) → Parameter → Change → Act (List Piece)
  | 0, _, _, _, _ => throw .exit
  | n + 1, split, quoted, parameter, change => do
    let value := (← get).parameter? parameter
    let marks : List Piece := if quoted then [.mark] else []
    let isSet (orEmpty : Bool) : Bool := value.isSome && !(orEmpty && value = some "")
    let found : Act (List Piece) := do return (← get).parameterPieces split quoted parameter (value.getD "")
    let alternative (word : Word) : Act (List Piece) := do
      let s ← get
      let word := if quoted then word else s.homeWord word
      return marks ++ (← expandParts n split true word)
    let requireSet : Act Unit := do
      let s ← get
      if value.isNone && s.has 'u' then Act.fail s!"{parameter.shown}: parameter not set"
    let cut (pattern : Word) (make : Pattern → List Char → List Char) : Act (List Piece) := do
      requireSet
      let glyphs := Piece.glyphs (← expandParts n false false pattern)
      return marks ++ Piece.ofText quoted (String.ofList (make (Pattern.ofGlyphs {} glyphs) (value.getD "").toList))
    match change with
    | .keep =>
      requireSet
      found
    | .length =>
      requireSet
      return marks ++ Piece.ofText quoted (toString (value.getD "").length)
    | .otherwise orEmpty word => if isSet orEmpty then found else alternative word
    | .instead orEmpty word => if isSet orEmpty then alternative word else return marks
    | .assign orEmpty word =>
      if isSet orEmpty then found
      else
        let text := Piece.text (← expandParts n false false ((← get).homeWord word))
        if !isName parameter.shown then Act.fail s!"{parameter.shown}: bad variable name"
        Act.assign parameter.shown text
        return marks ++ Piece.ofText quoted text
    | .require orEmpty word =>
      if isSet orEmpty then found
      else
        let text := Piece.text (← expandParts n false false word)
        let why := if word.isEmpty then "parameter not set" ++ (if orEmpty then " or null" else "") else text
        Act.fail s!"{parameter.shown}: {why}"
    | .cutStart longest pattern => cut pattern (·.cutStart longest)
    | .cutEnd longest pattern => cut pattern (·.cutEnd longest)
    | .before word =>
      requireSet
      return (← found) ++ (← expandParts n split false word)
    | _ => Act.fail "Bad substitution"

def expandKey : Nat → (name : String) → List Part → Act String
  | 0, _, _ => throw .exit
  | n + 1, name, index => do
    let text := Piece.text (← expandParts n false false index)
    if (← get).isKeyed name then return text else return toString (← Act.formula text).toInt

/-- The value of a parameter, and what it is called. -/
def findWide : Nat → Parameter → Act (Found × String)
  | 0, _ => throw .exit
  | n + 1, parameter => do
    match parameter with
    | .element name index =>
      let key ← expandKey n name index
      return ({ text := ((← get).allElements name).get? key }, s!"{name}[{key}]")
    | .elements name joined =>
      return ({ list := some ((← get).allElements name).values, joined }, parameter.shown)
    | .arguments => return ({ list := some (← get).arguments }, "@")
    | .joined => return ({ list := some (← get).arguments, joined := true }, "*")
    | _ => return ({ text := (← get).parameter? parameter }, parameter.shown)

/-- What an expansion of the extended language stands for. -/
def expandWide : Nat → (split quoted : Bool) → Parameter → Change → Act (List Piece)
  | 0, _, _, _, _ => throw .exit
  | n + 1, split, quoted, parameter, change => do
    let (found, shown) ← findWide n parameter
    let give (f : Found) : Act (List Piece) := do return f.pieces (← get) split quoted
    let giveText (text : String) : Act (List Piece) := give { text := some text }
    let requireSet : Act Unit := do
      if found.list.isNone && found.text.isNone && (← get).has 'u' then Act.abort s!"{shown}: unbound variable"
    let alternative (word : Word) : Act (List Piece) := do
      let s ← get
      let word := if quoted then word else s.homeWord word
      return (if quoted then [.mark] else []) ++ (← expandParts n split true word)
    let patternOf (word : Word) : Act Pattern := do
      let glyphs := Piece.glyphs (← expandParts n false false word)
      return Pattern.ofGlyphs { caret := true, groups := (← get).hasMode "extglob" } glyphs
    let altered (word : Word) (change : Pattern → String → String) : Act (List Piece) := do
      requireSet
      let p ← patternOf word
      give (found.map (change p))
    let numberOf (word : Word) : Act Int := do
      return (← Act.formula (Piece.text (← expandParts n false false word))).toInt
    match change with
    | .keep =>
      requireSet
      give found
    | .length =>
      requireSet
      giveText (toString ((found.list.map List.length).getD (found.text.getD "").length))
    | .otherwise orEmpty word => if found.isSet orEmpty then give found else alternative word
    | .instead orEmpty word => if found.isSet orEmpty then alternative word else return (if quoted then [.mark] else [])
    | .assign orEmpty word =>
      if found.isSet orEmpty then give found
      else
        let text := Piece.text (← expandParts n false false ((← get).homeWord word))
        match parameter with
        | .element name index => Act.assignTo name (some (← expandKey n name index)) false text
        | .variable name => Act.assignTo name none false text
        | _ => Act.discard s!"${shown}: cannot assign in this way"
        giveText text
    | .require orEmpty word =>
      if found.isSet orEmpty then give found
      else
        let text := Piece.text (← expandParts n false false word)
        let why := if word.isEmpty then (if orEmpty then "parameter null or not set" else "parameter not set") else text
        Act.abort s!"{shown}: {why}"
    | .cutStart longest pattern => altered pattern fun p text => String.ofList (p.cutStart longest text.toList)
    | .cutEnd longest pattern => altered pattern fun p text => String.ofList (p.cutEnd longest text.toList)
    | .casing casing all pattern => altered pattern fun p text => changeLetters casing all p text
    | .replace anchor pattern word =>
      requireSet
      let p ← patternOf pattern
      let by' := Piece.glyphs (← expandParts n false false word)
      if pattern.isEmpty && anchor != .start && anchor != .final then give found
      else give (found.map (p.replace anchor by'))
    | .slice start length =>
      requireSet
      let offset ← numberOf start
      let length? : Option Int ←
        match length with
        | none => pure none
        | some word => do pure (some (← numberOf word))
      let bad : Act (List Piece) :=
        Act.discard s!"{length?.getD 0}: substring expression < 0"
      match parameter, found.list with
      | .elements name _, some _ =>
        let elements := (← get).allElements name
        let items := (elements.keys.zip elements.values).zipIdx.map fun ((key, text), i) =>
          ((if elements.isKeyed then i else key.toNat?.getD 0 : Nat), text)
        let from' : Int := if offset < 0 then elements.next + offset else offset
        let rest := (items.filter fun entry => from' ≤ entry.1).map Prod.snd
        match length? with
        | some n => if n < 0 then bad else give { found with list := some (rest.take n.toNat) }
        | none => give { found with list := some rest }
      | _, some items =>
        let s ← get
        let all := if offset = 0 then s.name :: items else items
        let offset := if 0 < offset then offset - 1 else offset
        match length? with
        | some n =>
          if n < 0 then bad else give { found with list := some ((sliceOf all offset (some n)).getD []) }
        | none => give { found with list := some ((sliceOf all offset none).getD []) }
      | _, none =>
        match sliceOf (found.text.getD "").toList offset length? with
        | some cs => giveText (String.ofList cs)
        | none => bad
    | .keys =>
      match parameter with
      | .elements name joined => give { list := some ((← get).allElements name).keys, joined }
      | _ => give found
    | .names joined =>
      let s ← get
      let names := (s.vars.map Prod.fst).filter fun name => shown.toList.isPrefixOf name.toList
      give { list := some (names.mergeSort fun a b => decide (a ≤ b)), joined }
    | .transform letter =>
      requireSet
      let s ← get
      let v := (s.find? (s.meant parameter.shown)).getD {}
      if found.list.isNone && found.text.isNone && letter != 'a' then return (if quoted then [.mark] else [])
      else give (found.map (transformText letter v parameter.shown))
    | .indirect change =>
      match found.text.bind namedParameter? with
      | some named => expandWide n split quoted named change
      | none => Act.discard s!"{shown}: invalid indirect expansion"
    | .before _ => give found
    | .bad text => Act.discard s!"{text}: bad substitution"

end

def wordBound : Nat := 100000000

def expandWord (w : Word) : Act (List String) := do
  let pieces ← expandParts run wordBound true false ((← get).homeWord w)
  let s ← get
  let fields := Fields.ofPieces s.separators pieces
  if s.hasMode "failglob" then
    match fields.find? fun field => s.isPattern field && s.globbed field = [String.ofList (field.map Glyph.char)] with
    | some field => Act.discard s!"no match: {String.ofList (field.map Glyph.char)}"
    | none => return fields.flatMap s.globbed
  else return fields.flatMap s.globbed

def expandFields (w : Word) : Act (List String) := do
  if (← get).has 'B' then return (← (braceExpanded w).mapM (expandWord run)).flatten
  else expandWord run w

def expandText (w : Word) : Act String := do
  return Piece.text (← expandParts run wordBound false false ((← get).homeWord w))

def expandValue (w : Word) : Act String := do
  return Piece.text (← expandParts run wordBound false false ((← get).homeValue w))

def expandPattern (w : Word) : Act Pattern := do
  let glyphs := Piece.glyphs (← expandParts run wordBound false false ((← get).homeWord w))
  return Pattern.ofGlyphs (← get).matching.style glyphs

end BenchKernel.Script
