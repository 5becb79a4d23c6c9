import BenchKernel.Host.Utility.Parts

/-! # Programs that order lines

Sorting lines by keys, comparing neighbouring lines, and comparing sorted files. -/

namespace BenchKernel

namespace Utility

/-! ### Keys -/

/-- How keys are compared. -/
structure KeyOrder where
  blanksStart : Bool := false
  blanksEnd : Bool := false
  dictionary : Bool := false
  folded : Bool := false
  printable : Bool := false
  reversed : Bool := false
  kind : Option Char := none
  deriving DecidableEq, Repr

/-- Where a key is: its first field and character, counted from zero, and its last ones. -/
structure Key where
  field : Nat := 0
  char : Nat := 0
  /-- The field in which the key ends, and how many characters of it belong to it; zero stands for all. -/
  stop : Option (Nat × Nat) := none
  order : KeyOrder := {}
  deriving DecidableEq, Repr

def isBlankChar (c : Char) : Bool := c == ' ' || c == '\t' || c == '\n'

/-- A line after some of its fields. -/
def afterFields (tab : Option Char) : Nat → List Char → List Char
  | 0, cs => cs
  | count + 1, cs =>
    match tab with
    | some t => afterFields tab count ((cs.dropWhile (· != t)).drop 1)
    | none => afterFields tab count ((cs.dropWhile isBlankChar).dropWhile fun c => !isBlankChar c)

/-- Where a key ends in a line. -/
def keyEnd (tab : Option Char) (k : Key) (line : List Char) : Nat :=
  match k.stop with
  | none => line.length
  | some (field, chars) =>
    let before := afterFields tab field line
    if chars = 0 then
      let rest :=
        match tab with
        | some t => before.dropWhile (· != t)
        | none => (before.dropWhile isBlankChar).dropWhile fun c => !isBlankChar c
      line.length - rest.length
    else
      let before := if k.order.blanksEnd then before.dropWhile isBlankChar else before
      line.length - before.length + min chars before.length

def Key.text (k : Key) (tab : Option Char) (line : String) : List Char :=
  let cs := line.toList
  let start := afterFields tab k.field cs
  let start := (if k.order.blanksStart then start.dropWhile isBlankChar else start).drop k.char
  start.take (keyEnd tab k cs - (cs.length - start.length))

/-! ### Numbers in keys -/

/-- A number at the start of a text: its sign, its whole part and its fraction. -/
def plainNumber (cs : List Char) : Bool × List Char × List Char :=
  let cs := cs.dropWhile isBlankChar
  let negative := cs.head? = some '-'
  let cs := if negative then cs.drop 1 else cs
  let whole := cs.takeWhile Char.isDigit
  let part :=
    match cs.drop whole.length with
    | '.' :: rest => rest.takeWhile Char.isDigit
    | _ => []
  (negative, whole.dropWhile (· == '0'), (part.reverse.dropWhile (· == '0')).reverse)

variable (a b : List Char)

def compareChars : Ordering := compare (String.ofList a) (String.ofList b)

def compareMagnitudes (a b : List Char × List Char) : Ordering :=
  (compare a.1.length b.1.length).then ((compareChars a.1 b.1).then (compareChars a.2 b.2))

/-- Compares numbers of any length. -/
def compareNumbers : Ordering :=
  let (negA, magA) := plainNumber a
  let (negB, magB) := plainNumber b
  let zeroA := magA.1.isEmpty && magA.2.isEmpty
  let zeroB := magB.1.isEmpty && magB.2.isEmpty
  match negA && !zeroA, negB && !zeroB with
  | true, true => compareMagnitudes magB magA
  | true, false => .lt
  | false, true => .gt
  | false, false => compareMagnitudes magA magB

/-- The rank of the unit after a number. -/
def unitRank (cs : List Char) : Nat :=
  let rest := (cs.dropWhile isBlankChar).dropWhile fun c => c.isDigit || c == '.' || c == '-'
  match rest.head? with
  | some c => if c = 'k' then 1 else ("KMGTPEZYRQ".toList.idxOf? c).map (· + 1) |>.getD 0
  | none => 0

def compareSizes : Ordering :=
  let sign (cs : List Char) : Int :=
    let (negative, whole, part) := plainNumber cs
    if whole.isEmpty && part.isEmpty then 0 else if negative then -1 else 1
  let rank (cs : List Char) : Int := sign cs * (unitRank cs + 1)
  (compare (rank a) (rank b)).then (compareNumbers a b)

def compareValues (a b : Number.BinaryValue) : Ordering :=
  let fraction : Number.BinaryValue → Int × Nat
    | .finite negative significand exponent =>
      let (n, d) := Number.fractionOf significand exponent
      (if negative then -(n : Int) else n, d)
    | _ => (0, 1)
  match a, b with
  | .nan _ _, .nan _ _ => .eq
  | .nan _ _, _ => .lt
  | _, .nan _ _ => .gt
  | .infinite na, .infinite nb => compare nb na
  | .infinite true, _ => .lt
  | .infinite false, _ => .gt
  | _, .infinite true => .gt
  | _, .infinite false => .lt
  | _, _ =>
    let (na, da) := fraction a
    let (nb, db) := fraction b
    compare (na * db) (nb * da)

def compareGeneral : Ordering :=
  let value (cs : List Char) := (Number.binary80.read? (cs.dropWhile isBlankChar)).map Prod.fst
  match value a, value b with
  | none, none => .eq
  | none, some _ => .lt
  | some _, none => .gt
  | some x, some y => compareValues x y

def monthRank (cs : List Char) : Nat :=
  let name := String.ofList (((cs.dropWhile isBlankChar).take 3).map Char.toUpper)
  (["JAN", "FEB", "MAR", "APR", "MAY", "JUN", "JUL", "AUG", "SEP", "OCT", "NOV", "DEC"].idxOf? name).map (· + 1) |>.getD 0

def versionRank : Option Char → Int
  | none => 0
  | some c => if c = '~' then -1 else if c.isDigit then 0 else if c.isAlpha then c.toNat else c.toNat + 256

/-- Compares texts in which numbers count as such. -/
def compareVersions : (fuel : Nat) → List Char → List Char → Ordering
  | 0, _, _ => .eq
  | fuel + 1, a, b =>
    if a.isEmpty && b.isEmpty then .eq
    else
      let isOther (c : Char) : Bool := !c.isDigit
      let wordA := a.takeWhile isOther
      let wordB := b.takeWhile isOther
      let ranks (word : List Char) (length : Nat) : List Int :=
        (List.range length).map fun i => versionRank word[i]?
      let length := max wordA.length wordB.length
      match compare (ranks wordA length) (ranks wordB length) with
      | .eq =>
        let restA := (a.drop wordA.length)
        let restB := (b.drop wordB.length)
        let numberA := (restA.takeWhile Char.isDigit).dropWhile (· == '0')
        let numberB := (restB.takeWhile Char.isDigit).dropWhile (· == '0')
        match (compare numberA.length numberB.length).then (compareChars numberA numberB) with
        | .eq => compareVersions fuel (restA.dropWhile Char.isDigit) (restB.dropWhile Char.isDigit)
        | other => other
      | other => other

def KeyOrder.compare (o : KeyOrder) (a b : List Char) : Ordering :=
  let counts (c : Char) : Bool :=
    (!o.dictionary || isBlankChar c || c.isAlphanum) && (!o.printable || (32 ≤ c.toNat && c.toNat < 127))
  let seen (cs : List Char) : List Char := (cs.filter counts).map fun c => if o.folded then c.toUpper else c
  let result :=
    match o.kind with
    | some 'n' => compareNumbers a b
    | some 'h' => compareSizes a b
    | some 'g' => compareGeneral a b
    | some 'M' => Ord.compare (monthRank a) (monthRank b)
    | some 'V' => compareVersions (a.length + b.length + 1) (seen a) (seen b)
    | _ => compareChars (seen a) (seen b)
  if o.reversed then result.swap else result

/-! ### Sorting -/

def orderKinds : List Char := ['g', 'h', 'M', 'n', 'V', 'R']

def KeyOrder.with (o : KeyOrder) (isEnd : Bool) (letter : Char) : Option KeyOrder :=
  match letter with
  | 'b' => some (if isEnd then { o with blanksEnd := true } else { o with blanksStart := true })
  | 'd' => some { o with dictionary := true }
  | 'f' => some { o with folded := true }
  | 'i' => some { o with printable := true }
  | 'r' => some { o with reversed := true }
  | _ => if orderKinds.contains letter then some { o with kind := some letter } else none

def readLetters (isEnd : Bool) (o : KeyOrder) (cs : List Char) : Option KeyOrder := cs.foldlM (fun o c => o.with isEnd c) o

/-- Reads where a key is and how it is compared. -/
def readKey (spec : String) : Except String Key := do
  let invalid (why : String) : Except String Key := .error s!"{why}: invalid field specification {shown spec}"
  let count (where' : String) (cs : List Char) : Except String (Nat × List Char) :=
    let digits := cs.takeWhile Char.isDigit
    match Script.number? digits with
    | some n => .ok (n, cs.drop digits.length)
    | none => .error ("invalid number " ++ where' ++ ": invalid count at start of " ++ shown (String.ofList cs))
  let (field, rest) ← count "at field start" spec.toList
  if field = 0 then invalid "field number is zero"
  else
    let (char, rest) ←
      match rest with
      | '.' :: after => count "after '.'" after
      | _ => pure (1, rest)
    if char = 0 then invalid "character offset is zero"
    else
      let letters := rest.takeWhile (· != ',')
      match readLetters false {} letters with
      | none => invalid "stray character in field spec"
      | some order =>
        match rest.drop letters.length with
        | [] => return { field := field - 1, char := char - 1, order }
        | _ :: after =>
          let (stop, rest) ← count "after ','" after
          if stop = 0 then invalid "field number is zero"
          else
            let (chars, rest) ←
              match rest with
              | '.' :: after => count "after '.'" after
              | _ => pure (0, rest)
            match readLetters true order rest with
            | none => invalid "stray character in field spec"
            | some order => return { field := field - 1, char := char - 1, stop := some (stop - 1, chars), order }

/-- How lines are sorted. -/
structure Sorting where
  keys : List Key
  tab : Option Char := none
  stable : Bool := false
  unique : Bool := false
  reversed : Bool := false

variable (s : Sorting)

def Sorting.byKeys (a b : String) : Ordering :=
  s.keys.foldl (fun result k => result.then (k.order.compare (k.text s.tab a) (k.text s.tab b))) .eq

/-- Compares lines by their keys, and at last as a whole. -/
def Sorting.compare (a b : String) : Ordering :=
  match s.byKeys a b with
  | .eq =>
    if s.stable || s.unique then .eq
    else if s.reversed then (Ord.compare a b).swap else Ord.compare a b
  | other => other

def dropRepeated (isSame : String → String → Bool) : List String → List String
  | a :: b :: rest =>
    if isSame a b then dropRepeated isSame (a :: rest) else a :: dropRepeated isSame (b :: rest)
  | lines => lines
termination_by lines => lines.length

def Sorting.sorted (lines : List String) : List String :=
  let ordered := lines.mergeSort fun a b => s.compare a b != .gt
  if s.unique then dropRepeated (fun a b => s.byKeys a b == .eq) ordered else ordered

/-- The first line that is not in order. -/
def Sorting.disorder? : (number : Nat) → List String → Option (Nat × String)
  | number, a :: b :: rest =>
    let order := s.compare a b
    if order == .gt || (s.unique && order == .eq) then some (number + 1, b) else Sorting.disorder? (number + 1) (b :: rest)
  | _, _ => none

def readTab (given : Given) : Except String (Option Char) :=
  match given.value? 't' with
  | none => .ok none
  | some text =>
    if text.isEmpty then .error "empty tab"
    else if text = "\\0" then .ok (some (Char.ofNat 0))
    else
      match text.toList with
      | [c] => .ok (some c)
      | _ => .error s!"multi-character tab {shown text}"

def Sorting.ofOptions (given : Given) : Except String Sorting := do
  let letters := given.map Prod.fst
  let kinds := (orderKinds.filter letters.contains)
  if 1 < kinds.length then
    throw ("options '-" ++ String.ofList (kinds.mergeSort fun a b => decide (a ≤ b)) ++ "' are incompatible")
  let base : KeyOrder :=
    { blanksStart := letters.contains 'b', blanksEnd := letters.contains 'b', dictionary := letters.contains 'd'
      folded := letters.contains 'f', printable := letters.contains 'i', reversed := letters.contains 'r'
      kind := kinds.head? }
  let keys ← (given.filter fun option => option.1 == 'k').mapM fun option => readKey option.2
  let inherited (k : Key) : Key := if k.order = {} then { k with order := base } else k
  let tab ← readTab given
  return { keys := if keys.isEmpty then [{ order := base }] else keys.map inherited, tab, stable := letters.contains 's'
           unique := letters.contains 'u', reversed := letters.contains 'r' }

def sortOptions : OptionSet :=
  { letters := "bcCdfghik:mMno:rRsS:t:T:uVzĀ:"
    long := [("ignore-leading-blanks", 'b'), ("check", 'c'), ("dictionary-order", 'd'), ("ignore-case", 'f'),
      ("general-numeric-sort", 'g'), ("human-numeric-sort", 'h'), ("ignore-nonprinting", 'i'), ("key", 'k'), ("merge", 'm'),
      ("month-sort", 'M'), ("numeric-sort", 'n'), ("output", 'o'), ("reverse", 'r'), ("stable", 's'),
      ("field-separator", 't'), ("unique", 'u'), ("version-sort", 'V'), ("zero-terminated", 'z'), ("parallel", 'Ā')] }

def sort : Work Nat := withOptionSet sortOptions 2 fun given operands => do
  match Sorting.ofOptions given with
  | .error why => failWith 2 why
  | .ok sorting =>
    let ending := lineEnding given
    let isCheck := given.has 'c' || given.has 'C'
    match if isCheck then operands[1]? else none with
    | some extra => failWith 2 (s!"extra operand {shown extra} not allowed with -" ++ (if given.has 'c' then "c" else "C"))
    | none =>
      let texts ← (inputs operands).mapM fun operand => do
        match ← content operand with
        | .ok text => return (0, text)
        | .error e =>
          let start := if e = .isDirectory then "read failed: " else "cannot read: "
          return (← failWith 2 s!"{start}{shownFirst operand}: {e.description}", "")
      if texts.any fun entry => entry.1 != 0 then return 2
      else
        let lines := texts.flatMap fun entry => linesOf ending entry.2
        if isCheck then
          match sorting.disorder? 1 lines with
          | none => return 0
          | some (number, line) =>
            if given.has 'C' then return 1
            else complain (operands.head?.getD "-" ++ s!":{number}: disorder: {line}")
        else
          let result := joinEnded ending (sorting.sorted lines)
          match given.value? 'o' with
          | none =>
            print result
            return 0
          | some path =>
            match ← writeFile path result with
            | .ok () => return 0
            | .error e => failWith 2 s!"open failed: {shownFirst path}: {e.description}"

/-! ### Neighbouring lines -/

def comparedPart (fields chars : Nat) (most : Option Nat) (folded : Bool) (line : String) : String :=
  let rest := (afterFields none fields line.toList).drop chars
  let rest := (most.map fun n => rest.take n).getD rest
  String.ofList (if folded then rest.map Char.toLower else rest)

inductive Delimiting
  | never
  | before
  | after
  | between
  | around
  deriving DecidableEq, Repr

/-- How neighbouring lines are grouped. -/
structure Grouping where
  key : String → String
  ending : Char := '\n'
  counted : Bool := false
  single : Bool := true
  first : Bool := true
  others : Bool := false
  /-- Where empty lines stand among groups, of which all lines are printed. -/
  groups : Delimiting := .never
  delimited : Delimiting := .never

namespace Grouping

structure State where
  line : Option (String × String) := none
  count : Nat := 0
  hasGroup : Bool := false

variable (g : Grouping)

def text (line : String) (isFollowed : Bool) (count : Nat) : String :=
  if if count = 0 then g.single else if isFollowed then g.others else g.first then
    ((if g.counted then padLeft 7 (toString (count + 1)) ++ " " else "") ++ line).push g.ending
  else ""

/-- Prints the first line of each group. -/
def stepPlain (s : State) (line : String) : String × State :=
  let key := g.key line
  let isNew := s.line.all fun before => before.2 != key
  let isApart := isNew && (g.groups = .before || g.groups = .around || (s.hasGroup && (g.groups = .after || g.groups = .between)))
  if isNew || g.groups != .never then
    ((if isApart then String.singleton g.ending else "") ++ line.push g.ending, { s with line := some (line, key), hasGroup := true })
  else ("", s)

/-- Counts the lines of groups, and prints a group when it is over. -/
def stepCounted (s : State) (line : String) : String × State :=
  let key := g.key line
  match s.line with
  | none => ("", { s with line := some (line, key) })
  | some (before, keyBefore) =>
    let isSame := keyBefore == key
    let count := if isSame then s.count + 1 else s.count
    let hasGroup := s.hasGroup || (!isSame && 0 < s.count)
    let isApart := isSame && count = 1 && (g.delimited = .before || (g.delimited = .between && s.hasGroup))
    let start := if isApart then String.singleton g.ending else ""
    if !isSame then (start ++ g.text before false count, { line := some (line, key), count := 0, hasGroup })
    else if g.others then (start ++ g.text before true count, { line := some (line, key), count, hasGroup })
    else (start, { s with count, hasGroup })

def isPlain : Bool := g.single && g.first && !g.others && !g.counted

def last (s : State) : String :=
  if g.isPlain then if s.hasGroup && (g.groups = .after || g.groups = .around) then String.singleton g.ending else ""
  else (s.line.map fun (line, _) => g.text line false s.count).getD ""

def filter : TextFilter (State × String) :=
  TextFilter.ofLines g.ending
    (fun s lines =>
      let step := if g.isPlain then g.stepPlain else g.stepCounted
      let (s, texts) := lines.foldl (fun (s, texts) line =>
        let (text, s) := step s (TextFilter.bare g.ending line).1
        (s, text :: texts)) (s, [])
      (String.join texts.reverse, s))
    fun s => (g.last s, s)

end Grouping

def delimitingNames : List (String × Delimiting) :=
  [("prepend", .before), ("append", .after), ("separate", .between), ("both", .around)]

def repeatedNames : List (String × Delimiting) := [("none", .never), ("prepend", .before), ("separate", .between)]

def namesText {α : Type} [BEq α] : List (String × α) → String
  | [] => ""
  | (name, value) :: rest =>
    let isSame := match rest with
      | (_, next) :: _ => next == value
      | [] => false
    s!"'{name}'" ++ (if rest.isEmpty then "" else if isSame then ", " else "\n  - ") ++ namesText rest

/-- The value with a name, which may be cut short. -/
def named {α : Type} [BEq α] (option : String) (names : List (String × α)) (text : String) : Except String α :=
  match names.lookup text, names.filter fun entry => text.toList.isPrefixOf entry.1.toList with
  | some value, _ => .ok value
  | none, [] => .error s!"invalid argument {shown text} for '--{option}'\nValid arguments are:\n  - {namesText names}"
  | none, (_, value) :: others =>
    if others.all fun other => other.2 == value then .ok value
    else .error s!"ambiguous argument {shown text} for '--{option}'\nValid arguments are:\n  - {namesText names}"

def Grouping.ofOptions (given : Given) (key : String → String) : Except String Grouping := do
  let groups ← match given.value? 'Ā' with
    | none => pure .never
    | some "" => pure .between
    | some name => named "group" delimitingNames name
  let delimited ← match given.value? 'D' with
    | none | some "" => pure .never
    | some name => named "all-repeated" repeatedNames name
  if groups != .never && given.any fun entry => ['c', 'd', 'D', 'u'].contains entry.1 then
    throw "--group is mutually exclusive with -c/-d/-D/-u"
  if given.has 'c' && given.has 'D' then throw "printing all duplicated lines and repeat counts is meaningless"
  return { key, ending := lineEnding given, counted := given.has 'c'
           single := !(given.has 'd' || given.has 'D'), first := !given.has 'u', others := given.has 'D'
           groups, delimited }

def unique : Work Nat :=
  let long := [("count", 'c'), ("repeated", 'd'), ("all-repeated", 'ā'), ("group", 'Ā'), ("ignore-case", 'i'), ("unique", 'u'),
    ("skip-fields", 'f'), ("skip-chars", 's'), ("check-chars", 'w'), ("zero-terminated", 'z')]
  withOptionSet { letters := "cdDuif:s:w:zĀ::ā::", long } 1 fun given operands => do
    let given : Given := given.map fun entry => if entry.1 = 'ā' then ('D', entry.2) else entry
    let numbers := [('f', "number of fields to skip"), ('s', "number of bytes to skip"), ('w', "number of bytes to compare")]
    let bad := numbers.findSome? fun (letter, what) =>
      (given.value? letter).bind fun text => if (Script.number? text.toList).isNone then some (text, what) else none
    let number (letter : Char) : Option Nat := (given.value? letter).bind fun text => Script.number? text.toList
    let key := comparedPart ((number 'f').getD 0) ((number 's').getD 0) (number 'w') (given.has 'i')
    match bad, operands, Grouping.ofOptions given key with
    | some (text, what), _, _ => complain s!"{text}: invalid {what}"
    | none, _ :: _ :: extra :: _, _ => extraOperand extra
    | none, _, .error why => misuse why
    | none, _, .ok g =>
      let report (operand : String) (e : OsError) : Work Nat :=
        if e = .isDirectory then complain s!"error reading {shown operand}: Is a directory"
        else complainOf operand e
      let work := g.filter.onOperands ({}, "") (operands.take 1) report
      match operands[1]? with
      | none => work
      | some path =>
        match ← openPath path .write with
        | .error e => complainOf path e
        | .ok index => withReader (fun call => { call with numbers := call.numbers.bind 1 index }) work

/-! ### Sorted files -/

/-- When it is checked that lines are in order. -/
inductive OrderCheck
  | never
  | usual
  | always
  deriving DecidableEq, Repr

structure Columns where
  first : Bool
  second : Bool
  both : Bool
  tab : String
  ending : Char
  check : OrderCheck

structure SortedFeed where
  feed : Feed
  line : Option String := none
  before : Option String := none
  isFaulty : Bool := false

structure Comparison where
  first : SortedFeed
  second : SortedFeed
  isUneven : Bool := false
  counts : Nat × Nat × Nat := (0, 0, 0)

abbrev Comparing := ExceptT Nat (StateT Comparison Work)

def Comparing.work {α : Type} (work : Work α) : Comparing α := (liftM work : StateT Comparison Work α)

namespace Columns

variable (c : Columns)

def column (count : Nat) : String := String.join (List.replicate count c.tab)

def text (order : Ordering) (line : String) : String :=
  match order with
  | .lt => if c.first then line.push c.ending else ""
  | .gt => if c.second then (c.column (if c.first then 1 else 0) ++ line).push c.ending else ""
  | .eq => if c.both then (c.column ((if c.first then 1 else 0) + (if c.second then 1 else 0)) ++ line).push c.ending else ""

/-- Reads the next line of a file. Two lines that are not in order are reported once. -/
def advance (isFirst : Bool) : Comparing Unit := do
  let s ← get
  let file := if isFirst then s.first else s.second
  match ← Comparing.work file.feed.next with
  | .error why => throw (← Comparing.work (complain why.description))
  | .ok (next, feed) =>
    let line := next.map Prod.fst
    let isDisordered (a b : Option String) : Bool := a.any fun a => b.any fun b => b < a
    let isFault := (c.check = .always || (c.check = .usual && s.isUneven)) && !file.isFaulty &&
      (if line.isSome then isDisordered file.line line else isDisordered file.before file.line)
    let file : SortedFeed := { feed, line, before := file.line, isFaulty := file.isFaulty || isFault }
    set (if isFirst then { s with first := file } else { s with second := file })
    if isFault then
      let status ← Comparing.work (complain ("file " ++ (if isFirst then "1" else "2") ++ " is not in sorted order"))
      if c.check = .always then throw status

/-- Compares the lines of two files one after the other. -/
def compareLines : (tries : Nat) → Comparing Unit
  | 0 => return
  | tries + 1 => do
    let s ← get
    let order : Ordering := match s.first.line, s.second.line with
      | some a, some b => compare a b
      | some _, none => .lt
      | none, _ => .gt
    match if order = .gt then s.second.line else s.first.line with
    | none => return
    | some line =>
      let (one, two, three) := s.counts
      let counts := match order with
        | .lt => (one + 1, two, three)
        | .gt => (one, two + 1, three)
        | .eq => (one, two, three + 1)
      set { s with isUneven := s.isUneven || order != Ordering.eq, counts }
      Comparing.work (print (c.text order line))
      if order != .gt then c.advance true
      if order != .lt then c.advance false
      compareLines tries

def compareAll (totals : Bool) : Comparing Nat := do
  c.advance true
  c.advance false
  c.compareLines patience
  let s ← get
  if totals then
    let (one, two, three) := s.counts
    Comparing.work (print ((c.tab.intercalate [toString one, toString two, toString three, "total"]).push c.ending))
  if s.first.isFaulty || s.second.isFaulty then Comparing.work (complain "input is not in sorted order")
  else return 0

end Columns

def common : Work Nat :=
  let long := [("check-order", 'Ā'), ("nocheck-order", 'ā'), ("output-delimiter", 'Ă'), ("total", 'ă'), ("zero-terminated", 'z')]
  withOptionSet { letters := "123zĀāĂ:ă", long } 1 fun given operands => do
    match operands with
    | [] => missingOperand
    | [only] => misuse s!"missing operand after {shown only}"
    | _ :: _ :: extra :: _ => extraOperand extra
    | [first, second] =>
      let ending := lineEnding given
      let check := match given.last? ['Ā', 'ā'] with
        | some 'Ā' => OrderCheck.always
        | some _ => .never
        | none => .usual
      let c : Columns :=
        { first := !given.has '1', second := !given.has '2', both := !given.has '3'
          tab := (given.value? 'Ă').getD "\t", ending, check }
      match ← openOperand first, ← openOperand second with
      | .error e, _ => complainOf first e
      | _, .error e => complainOf second e
      | .ok a, .ok b =>
        let start : Comparison := { first := { feed := { index := a, ending } }, second := { feed := { index := b, ending } } }
        match (← (c.compareAll (given.has 'ă')).run.run start).1 with
        | .ok status | .error status => return status

/-! ### Lines in reverse -/

def reverseLines : Work Nat :=
  withOptionSet { letters := "brs:", long := [("before", 'b'), ("regex", 'r'), ("separator", 's')] } 1 fun _ operands =>
    forEach (inputs operands) fun operand => do
      match ← content operand with
      | .error .isDirectory => complain s!"{shownFirst operand}: read error: Is a directory"
      | .error e => complain s!"failed to open {shown operand} for reading: {e.description}"
      | .ok text =>
        print (String.join (endedLines '\n' text).reverse)
        return 0

def reverseChars : Work Nat := withOptions "V" fun _ operands =>
  (TextFilter.eachLine fun line => String.ofList line.toList.reverse).onOperands ((), "") operands fun operand e =>
    complain s!"cannot open {operand}: {e.description}"

end Utility

end BenchKernel
