import BenchKernel.Host.Utility.Order

/-! # Joining sorted files, and ordering by pairs

Two sorted files are joined on a field that their lines have in common. An order of items is found from pairs of them,
of which the first comes before the second. -/

namespace BenchKernel

namespace Utility

namespace Join

/-- A field that is printed: the one that is joined on, or one of the first or second file. -/
inductive Item
  | key
  | first (field : Nat)
  | second (field : Nat)
  deriving DecidableEq, Repr

/-- When it matters that files are in order. -/
inductive Check
  | usual
  | always
  | never
  deriving DecidableEq, Repr

structure Settings where
  tab : Option Char := none
  keys : Nat × Nat := (0, 0)
  filler : String := ""
  items : List Item := []
  auto : Bool := false
  folded : Bool := false
  check : Check := .usual
  header : Bool := false
  ending : Char := '\n'
  unpaired : Bool × Bool := (false, false)
  paired : Bool := true

structure Line where
  text : String
  fields : Array String

def blankFields : (fuel : Nat) → List Char → List String
  | 0, _ => []
  | fuel + 1, cs =>
    let word := cs.takeWhile fun c => !isBlankChar c
    let rest := cs.drop word.length
    if rest.isEmpty then [String.ofList word]
    else String.ofList word :: blankFields fuel (rest.dropWhile isBlankChar)

/-- The fields of a line, between blanks or tabs. -/
def fieldsOf (tab : Option Char) (line : String) : List String :=
  let cs := line.toList
  match tab with
  | some '\n' => if cs.isEmpty then [] else [line]
  | some c => if cs.isEmpty then [] else (Text.splitAt c cs).map String.ofList
  | none =>
    let start := cs.dropWhile isBlankChar
    if start.isEmpty then [] else blankFields (start.length + 1) start

variable (s : Settings)

def lineOf (text : String) : Line := ⟨text, (fieldsOf s.tab text).toArray⟩

def keyOf (field : Nat) (line : Line) : String := (line.fields[field]?).getD ""

def compareKeys (a b : String) : Ordering :=
  let folded (text : String) : String := if s.folded then String.ofList (text.toList.map Char.toUpper) else text
  compare (folded a) (folded b)

/-- A line of the first file, a line of the second file, or both, joined. -/
structure Row where
  first : Option Line
  second : Option Line

abbrev Counts := Option (Nat × Nat)

def Row.text (counts : Counts) (r : Row) : String :=
  let shownField (line : Option Line) (field : Nat) : String :=
    let text := (line.bind fun l => l.fields[field]?).getD ""
    if text.isEmpty then s.filler else text
  let key := if r.first.isSome then shownField r.first s.keys.1 else shownField r.second s.keys.2
  let others (line : Option Line) (count : Option Nat) (key : Nat) : List String :=
    let size := count.getD ((line.map fun l => l.fields.size).getD 0)
    ((List.range size).filter (· != key)).map (shownField line)
  let texts :=
    if s.items.isEmpty then
      key :: (others r.first (counts.map Prod.fst) s.keys.1 ++ others r.second (counts.map Prod.snd) s.keys.2)
    else s.items.map fun
      | .key => key
      | .first field => shownField r.first field
      | .second field => shownField r.second field
  (String.singleton (s.tab.getD ' ')).intercalate texts

/-- A line that is not in order, and whether it is of the first file. -/
structure Disorder where
  isFirst : Bool
  number : Nat
  text : String

structure State where
  events : List (Row ⊕ Disorder) := []
  seen : Bool := false
  faulty : List Bool := []
  last : Option Line × Option Line := (none, none)
  rest : List (Nat × Line) × List (Nat × Line)

abbrev Work := ExceptT Unit (StateM State)

/-- Reads a line of the first or the second file. A line that is not in order is noted, and ends everything if order is
    always asked for. -/
def readLine (isFirst : Bool) : Work (Option Line) := do
  let state ← get
  match if isFirst then state.rest.1 else state.rest.2 with
  | [] => return none
  | (number, line) :: rest =>
    let before := if isFirst then state.last.1 else state.last.2
    let state :=
      if isFirst then { state with rest := (rest, state.rest.2), last := (some line, state.last.2) }
      else { state with rest := (state.rest.1, rest), last := (state.last.1, some line) }
    set state
    let key := keyOf (if isFirst then s.keys.1 else s.keys.2)
    let isNoted := state.faulty.contains isFirst
    let isChecked := s.check = .always || (s.check = .usual && state.seen)
    if isChecked && !isNoted && before.any fun b => compareKeys s (key b) (key line) == .gt then
      set { state with events := .inr ⟨isFirst, number, line.text⟩ :: state.events, faulty := isFirst :: state.faulty }
      if s.check = .always then throw ()
    return some line

def emit (row : Row) : Work Unit := modify fun s => { s with events := .inl row :: s.events }

/-- Lines that have a key, and the line after them. -/
def readGroup (isFirst : Bool) (key : String) : (fuel : Nat) → Work (List Line × Option Line)
  | 0 => return ([], none)
  | fuel + 1 => do
    match ← readLine s isFirst with
    | none => return ([], none)
    | some line =>
      let field := if isFirst then s.keys.1 else s.keys.2
      if compareKeys s (keyOf field line) key == .eq then
        let (group, next) ← readGroup isFirst key fuel
        return (line :: group, next)
      else return ([], some line)

def readRest (isFirst prints : Bool) : (fuel : Nat) → Work Unit
  | 0 => return
  | fuel + 1 => do
    match ← readLine s isFirst with
    | none => return
    | some line =>
      if prints then emit (if isFirst then ⟨some line, none⟩ else ⟨none, some line⟩)
      let isNoted := (← get).faulty.contains isFirst
      if !isNoted || prints then readRest isFirst prints fuel

def pairs : (fuel : Nat) → Option Line → Option Line → Work (Option Line × Option Line)
  | 0, a, b => return (a, b)
  | fuel + 1, a?, b? => do
    match a?, b? with
    | some a, some b =>
      let key := keyOf s.keys.1 a
      match compareKeys s key (keyOf s.keys.2 b) with
      | .lt =>
        if s.unpaired.1 then emit ⟨some a, none⟩
        let next ← readLine s true
        modify fun state => { state with seen := true }
        pairs fuel next (some b)
      | .gt =>
        if s.unpaired.2 then emit ⟨none, some b⟩
        let next ← readLine s false
        modify fun state => { state with seen := true }
        pairs fuel (some a) next
      | .eq =>
        let (firsts, nextFirst) ← readGroup s true (keyOf s.keys.2 b) fuel
        let (seconds, nextSecond) ← readGroup s false key fuel
        if s.paired then
          for x in a :: firsts do
            for y in b :: seconds do
              emit ⟨some x, some y⟩
        pairs fuel nextFirst nextSecond
    | _, _ => return (a?, b?)

/-- Joins two files, after their first lines if those are titles. -/
def whole (fuel : Nat) : Work Unit := do
  let first ← readLine s true
  let second ← readLine s false
  let isHeader := s.header && (first.isSome || second.isSome)
  if isHeader then
    emit ⟨first, second⟩
    modify fun state => { state with last := (none, none) }
  let first ← if isHeader && first.isSome then readLine s true else pure first
  let second ← if isHeader && second.isSome then readLine s false else pure second
  let (first, second) ← pairs s fuel first second
  let checks := s.check != .never && (← get).faulty.length < 2
  if (s.unpaired.1 || checks) && first.isSome then
    if s.unpaired.1 then emit ⟨first, none⟩
    if second.isSome then modify fun state => { state with seen := true }
    readRest s true s.unpaired.1 fuel
  if (s.unpaired.2 || checks) && second.isSome then
    if s.unpaired.2 then emit ⟨none, second⟩
    if first.isSome then modify fun state => { state with seen := true }
    readRest s false s.unpaired.2 fuel

def fieldNumber (text : String) : Except String Nat :=
  match Script.number? text.toList with
  | some (n + 1) => .ok n
  | _ => .error s!"invalid field number: {shown text}"

def readItem (text : String) : Except String Item :=
  match text.toList with
  | ['0'] => .ok .key
  | '1' :: '.' :: rest => (fieldNumber (String.ofList rest)).map .first
  | '2' :: '.' :: rest => (fieldNumber (String.ofList rest)).map .second
  | '0' :: _ | '1' :: _ | '2' :: _ => .error s!"invalid field specifier: {shown text}"
  | _ => .error s!"invalid file number in field spec: {shown text}"

def readTab (text : String) : Except String Char :=
  match text.toList with
  | [] => .ok '\n'
  | [c] => .ok c
  | ['\\', '0'] => .ok (Char.ofNat 0)
  | _ => .error s!"multi-character tab {shown text}"

def withItems (text : String) : Except String Settings := do
  let texts := (Text.splitAt ',' (text.toList.map fun c => if c = ' ' || c = '\t' then ',' else c)).map String.ofList
  return { s with items := s.items ++ (← texts.mapM readItem) }

def withOption (letter : Char) (value : String) : Except String Settings := do
  match letter with
  | 'a' | 'v' =>
    let s := if letter = 'v' then { s with paired := false } else s
    match value with
    | "1" => return { s with unpaired := (true, s.unpaired.2) }
    | "2" => return { s with unpaired := (s.unpaired.1, true) }
    | _ => throw s!"invalid field number: {shown value}"
  | 'e' => return { s with filler := value }
  | 'i' => return { s with folded := true }
  | '1' => return { s with keys := (← fieldNumber value, s.keys.2) }
  | '2' => return { s with keys := (s.keys.1, ← fieldNumber value) }
  | 'j' =>
    let n ← fieldNumber value
    return { s with keys := (n, n) }
  | 'o' =>
    if value = "auto" then return { s with auto := true }
    else withItems s value
  | 't' => return { s with tab := some (← readTab value) }
  | 'z' => return { s with ending := Char.ofNat 0 }
  | 'Ā' => return { s with check := .always }
  | 'ā' => return { s with check := .never }
  | 'Ă' => return { s with header := true }
  | _ => return s

/-- What an argument may be that is not an option: the name of a file or, if there are too many, what belongs to the
    option before it. -/
inductive Role
  | file
  | firstKey
  | secondKey
  | item
  deriving DecidableEq, Repr

structure Reading where
  settings : Settings := {}
  files : List (String × Role) := []
  role : Role := .file
  unset : List Role := []

variable (r : Reading)

def Reading.withOption (letter : Char) (value : String) : Except String Reading := do
  match letter with
  | 'ă' => return { r with role := .firstKey, unset := .firstKey :: r.unset }
  | 'Ą' => return { r with role := .secondKey, unset := .secondKey :: r.unset }
  | _ =>
    let role := if letter = 'o' && value != "auto" then Role.item else .file
    return { r with settings := ← Join.withOption r.settings letter value, role }

def Reading.taking (text : String) (role : Role) : Except String Reading := do
  let s := r.settings
  match role with
  | .file => throw s!"extra operand {shown text}"
  | .firstKey => return { r with settings := ← Join.withOption s '1' text, unset := r.unset.erase .firstKey }
  | .secondKey => return { r with settings := ← Join.withOption s '2' text, unset := r.unset.erase .secondKey }
  | .item => return { r with settings := ← withItems s text }

/-- Adds a file, or gives what stood there to its option. -/
def Reading.withOperand (text : String) : Except String Reading := do
  let r ← match r.files with
    | [(_, .file), (_, .file)] => throw s!"extra operand {shown text}"
    | [(first, .file), (second, role)] => ({ r with files := [(first, .file)] } : Reading).taking second role
    | [(first, role), second] => ({ r with files := [second] } : Reading).taking first role
    | _ => pure r
  return { r with files := r.files ++ [(text, r.role)], role := if r.role = .item then .item else .file }

def Reading.done : Settings × List String :=
  let s := r.settings
  let s := if r.unset.contains .firstKey then { s with keys := (0, 0) } else s
  let s := if r.unset.contains .secondKey then { s with keys := (1, 1) } else s
  (s, r.files.map Prod.fst)

def options : OptionSet :=
  { letters := "a:e:i1:2:j:o:t:v:zĀāĂăĄ", ordered := true
    long := [("ignore-case", 'i'), ("check-order", 'Ā'), ("nocheck-order", 'ā'), ("zero-terminated", 'z'), ("header", 'Ă')] }

def readArguments : (fuel : Nat) → Reading → List String → Except Refusal Reading
  | 0, r, _ => .ok r
  | fuel + 1, r, arguments => do
    let (given, rest) ← (options.split (fuel + 1) arguments).mapError .hinted
    let r ← (given.foldlM (fun (r : Reading) entry => r.withOption entry.1 entry.2) r).mapError .plain
    match rest with
    | [] => return r
    | operand :: rest => readArguments fuel (← (r.withOperand operand).mapError .hinted) rest

def spelled (argument : String) : String :=
  match argument with
  | "-j1" => "-ă"
  | "-j2" => "-Ą"
  | other => other

end Join

def join : Work Nat := do
  let arguments := (← read).arguments.map Join.spelled
  match (Join.readArguments (Script.optionBound arguments) {} arguments).map Join.Reading.done with
  | .error why => refuse 1 why
  | .ok (_, []) => missingOperand
  | .ok (_, [only]) => misuse s!"missing operand after {shown only}"
  | .ok (s, first :: second :: _) =>
    if first = "-" && second = "-" then complain "both files cannot be standard input"
    else
      match ← content first, ← content second with
      | .error e, _ => complainOf first e
      | _, .error e => complainOf second e
      | .ok a, .ok b =>
        let numbered (text : String) : List (Nat × Join.Line) :=
          let lines := (linesOf s.ending text).map (Join.lineOf s)
          (List.range' 1 lines.length).zip lines
        let firsts := numbered a
        let seconds := numbered b
        let fuel := firsts.length + seconds.length + 2
        let (_, state) := (Join.whole s fuel).run.run { rest := (firsts, seconds) }
        let count (lines : List (Nat × Join.Line)) : Nat := (lines.head?.map fun entry => entry.2.fields.size).getD 0
        let counts : Join.Counts := if s.auto then some (count firsts, count seconds) else none
        state.events.reverse.forM fun
          | .inl row => print ((row.text s counts).push s.ending)
          | .inr d => do
            let name := shownFirst (if d.isFirst then first else second)
            let _ ← complain s!"{name}:{d.number}: is not sorted: {d.text}"
            return
        if state.faulty.isEmpty then return 0
        else if s.check = .always then return 1
        else complain "input is not in sorted order"

/-! ### Orders from pairs -/

namespace PairOrder

/-- An item, with how many others must come before it that are left, and those that come after it. -/
structure Entry where
  name : String
  count : Nat := 0
  after : List String := []
  isPrinted : Bool := false

variable (entries : List Entry)

def change (name : String) (f : Entry → Entry) : List Entry :=
  entries.map fun e => if e.name == name then f e else e

def withEntry (name : String) : List Entry :=
  if entries.any fun e => e.name == name then entries
  else (entries.takeWhile fun e => decide (e.name < name)) ++ { name } :: entries.dropWhile fun e => decide (e.name < name)

def withPair (first second : String) : List Entry :=
  let entries := withEntry (withEntry entries first) second
  if first = second then entries
  else
    change (change entries first fun e => { e with after := second :: e.after }) second fun e => { e with count := e.count + 1 }

def ofWords (entries : List Entry) : List String → List Entry
  | first :: second :: rest => ofWords (withPair entries first second) rest
  | _ => entries

def entry (name : String) : Entry := (entries.find? fun e => e.name == name).getD { name }

/-- Takes items that nothing comes before, and those they set free. -/
def drain : (fuel : Nat) → List String → List Entry → List String × List Entry
  | 0, _, entries => ([], entries)
  | _ + 1, [], entries => ([], entries)
  | fuel + 1, name :: queue, entries =>
    let entries := change entries name fun e => { e with isPrinted := true }
    let (queue, entries) := (entry entries name).after.foldl (fun (queue, entries) next =>
      let entries := change entries next fun e => { e with count := e.count - 1 }
      (if (entry entries next).count = 0 then queue ++ [next] else queue, entries)) (queue, entries)
    let (printed, entries) := drain fuel queue entries
    (name :: printed, entries)

/-- A way against the pairs, from its last item on, with the next item for each. -/
structure Way where
  last : Option String := none
  links : List (String × String) := []

def trace (links : List (String × String)) (stop : String) : (fuel : Nat) → String → List String
  | 0, name => [name]
  | fuel + 1, name =>
    if name = stop then [name]
    else
      match links.lookup name with
      | some next => name :: trace links stop fuel next
      | none => [name]

def withoutPair (first second : String) : List Entry :=
  change (change entries first fun e => { e with after := e.after.erase second }) second fun e => { e with count := e.count - 1 }

/-- Goes through all items and follows the way, until it meets itself. -/
def walk : Way → List String → Except (List String × List Entry) Way
  | way, [] => .ok way
  | way, name :: rest =>
    let e := entry entries name
    if e.count = 0 then walk way rest
    else
      match way.last with
      | none => walk { way with last := some name } rest
      | some last =>
        if !e.after.contains last then walk way rest
        else if (way.links.lookup name).isSome then
          .error (trace way.links name entries.length last, withoutPair entries name last)
        else walk { last := some name, links := (name, last) :: way.links } rest

def findLoop : (fuel : Nat) → Way → List String × List Entry
  | 0, _ => ([], entries)
  | fuel + 1, way =>
    match walk entries way (entries.map Entry.name) with
    | .error found => found
    | .ok way => findLoop fuel way

/-- The items in order. A loop is reported and cut. -/
def order : (fuel : Nat) → List Entry → List (String ⊕ List String)
  | 0, _ => []
  | fuel + 1, entries =>
    let free := (entries.filter fun e => e.count = 0 && !e.isPrinted).map Entry.name
    let (printed, entries) := drain (entries.length + 1) free entries
    let shown := printed.map Sum.inl
    if entries.all Entry.isPrinted then shown
    else
      let (loop, entries) := findLoop entries (entries.length + 1) {}
      shown ++ Sum.inr loop :: order fuel entries

end PairOrder

def orderPairs : Work Nat := withOptions "" fun _ operands => do
  match operands with
  | _ :: extra :: _ => extraOperand extra
  | _ =>
    let operand := operands.head?.getD "-"
    match ← content operand with
    | .error e => complainOf operand e
    | .ok text =>
      let words := ((text.toList.splitBy fun a b => isBlankChar a == isBlankChar b).filter fun run =>
        !run.any isBlankChar).map String.ofList
      if words.length % 2 = 1 then complain s!"{shownFirst operand}: input contains an odd number of tokens"
      else
        let entries := PairOrder.ofWords [] words
        let parts := PairOrder.order (words.length + 1) entries
        let statuses ← parts.mapM fun
          | .inl name => do
            print s!"{name}\n"
            pure 0
          | .inr loop => do
            let _ ← complain s!"{shownFirst operand}: input contains a loop:"
            for name in loop do
              let _ ← complain name
            pure 1
        return statuses.foldl max 0

end Utility

end BenchKernel
