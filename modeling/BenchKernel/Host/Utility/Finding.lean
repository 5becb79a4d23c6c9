import BenchKernel.Host.Utility.Listing

/-! # Finding files

A program that goes through directories and does something with the files for which a condition holds. -/

namespace BenchKernel

namespace Finder

open Utility

inductive Comparison
  | less (n : Nat)
  | equal (n : Nat)
  | more (n : Nat)
  deriving DecidableEq, Repr

def Comparison.holds : Comparison → Nat → Bool
  | less n, m => m < n
  | equal n, m => m == n
  | more n, m => n < m

/-- A condition, or something to do with a file. -/
inductive Test
  | yes
  | no
  | name (pattern : String) (folded : Bool)
  | path (pattern : String) (folded : Bool)
  | like (r : Regex) (folded : Bool)
  | kind (letters : List Char)
  | empty
  | size (c : Comparison) (unit : Nat)
  | links (c : Comparison)
  | newer (time : Int)
  | age (c : Comparison) (unit : Nat)
  | mode (sign : Char) (bits : Nat)
  | prune
  | quit
  | print (ending : String)
  | format (text : String)
  | delete
  | execute (command : List String)
  | gather (index : Nat) (command : List String)
  | not (t : Test)
  | both (a b : Test)
  | either (a b : Test)
  | after (a b : Test)

/-- How deep to go, and whether something is done with files. -/
structure Plan where
  least : Nat := 0
  most : Option Nat := none
  inner : Bool := false
  acts : Bool := false
  gathers : Nat := 0

/-! ### Reading -/

abbrev Read := StateT (List String × Plan) (ExceptT String Work)

def fault {α : Type} (text : String) : Read α := throw text

def ticked (text : String) : String := Script.ticked text

def next? : Read (Option String) := do
  let (arguments, plan) ← get
  match arguments with
  | [] => return none
  | argument :: rest =>
    set (rest, plan)
    return some argument

def peek? : Read (Option String) := do return (← get).1.head?

def changePlan (change : Plan → Plan) : Read Unit := modify fun (arguments, plan) => (arguments, change plan)

def argumentOf (test : String) : Read String := do
  match ← next? with
  | some text => return text
  | none => fault s!"missing argument to {ticked test}"

def comparison? (cs : List Char) : Option Comparison :=
  match cs with
  | '+' :: digits => (Script.number? digits).map .more
  | '-' :: digits => (Script.number? digits).map .less
  | digits => (Script.number? digits).map .equal

def comparisonOf (test : String) : Read Comparison := do
  let text ← argumentOf test
  match comparison? text.toList with
  | some c => return c
  | none => fault s!"invalid argument {ticked text} to {ticked test}"

def sizeUnits : List (Char × Nat) := [('c', 1), ('w', 2), ('b', 512), ('k', 1024), ('M', 1048576), ('G', 1073741824)]

def commandWords : (fuel : Nat) → List String → Read (List String × Bool)
  | 0, words => return (words.reverse, false)
  | fuel + 1, words => do
    match ← next? with
    | none => fault ("missing argument to " ++ ticked "-exec")
    | some ";" => return (words.reverse, false)
    | some "+" => if words.head? = some "\x7b\x7d" then return (words.reverse.dropLast, true) else commandWords fuel ("+" :: words)
    | some word => commandWords fuel (word :: words)

def readTest (name : String) : Read Test := do
  let action (t : Test) : Read Test := do
    changePlan fun plan => { plan with acts := true }
    return t
  match name with
  | "-true" => return .yes
  | "-false" => return .no
  | "-name" => return .name (← argumentOf name) false
  | "-iname" => return .name (← argumentOf name) true
  | "-path" | "-wholename" => return .path (← argumentOf name) false
  | "-ipath" | "-iwholename" => return .path (← argumentOf name) true
  | "-regex" | "-iregex" =>
    match Regex.parse {} (← argumentOf name) with
    | .ok r => return .like r (name == "-iregex")
    | .error why => fault why
  | "-type" | "-xtype" =>
    let text ← argumentOf name
    let letters := (Text.splitAt ',' text.toList).flatten
    match letters.find? fun c => !(['b', 'c', 'd', 'p', 'f', 'l', 's'].contains c) with
    | some c => fault s!"Unknown argument to -type: {c}"
    | none => return .kind letters
  | "-empty" => return .empty
  | "-size" =>
    let text ← argumentOf name
    let unit := (text.toList.getLast?.bind fun c => sizeUnits.lookup c)
    let digits := if unit.isSome then text.toList.dropLast else text.toList
    match comparison? digits with
    | some c => return .size c (unit.getD 512)
    | none => fault s!"Invalid argument {ticked text} to -size"
  | "-links" => return .links (← comparisonOf name)
  | "-newer" =>
    let path ← argumentOf name
    match ← find path with
    | .ok node => return .newer (marksOf node).modified
    | .error e => fault s!"{shown path}: {e.description}"
  | "-mtime" | "-atime" | "-ctime" => return .age (← comparisonOf name) 86400
  | "-mmin" | "-amin" | "-cmin" => return .age (← comparisonOf name) 60
  | "-perm" =>
    let text ← argumentOf name
    let (sign, rest) := match text.toList with
      | '-' :: rest => ('-', rest)
      | '/' :: rest => ('/', rest)
      | rest => ('=', rest)
    match Mode.change? 0 false (String.ofList rest) 0 with
    | some bits => return .mode sign bits
    | none => fault s!"invalid mode {ticked text}"
  | "-user" | "-group" =>
    let text ← argumentOf name
    return if text = "root" || text = "0" then .yes else .no
  | "-readable" | "-writable" => return .yes
  | "-executable" => return .mode '/' 73
  | "-prune" => return .prune
  | "-quit" => action .quit
  | "-print" => action (.print "\n")
  | "-print0" => action (.print "\x00")
  | "-printf" => action (.format (← argumentOf name))
  | "-delete" =>
    changePlan fun plan => { plan with inner := true }
    action .delete
  | "-exec" | "-execdir" =>
    let (words, many) ← commandWords ((← get).1.length + 1) []
    if words.isEmpty then fault ("invalid argument " ++ ticked ";" ++ " to " ++ ticked name)
    if many then
      let index := (← get).2.gathers
      changePlan fun plan => { plan with gathers := index + 1 }
      action (.gather index words)
    else action (.execute words)
  | "-depth" =>
    changePlan fun plan => { plan with inner := true }
    return .yes
  | "-maxdepth" | "-mindepth" =>
    let text ← argumentOf name
    match Script.number? text.toList with
    | some n =>
      changePlan fun plan => if name = "-maxdepth" then { plan with most := some n } else { plan with least := n }
      return .yes
    | none => fault s!"Expected a positive decimal integer argument to {name}, but got {ticked text}"
  | "-mount" | "-xdev" | "-noleaf" | "-follow" | "-daystart" | "-nowarn" | "-warn" => return .yes
  | _ =>
    if name.startsWith "-" then fault s!"unknown predicate {ticked name}"
    else fault s!"paths must precede expression: \x60{name}'"

mutual

def readList : Nat → Read Test
  | 0 => return .yes
  | n + 1 => do
    let first ← readEither n
    if (← peek?) = some "," then
      let _ ← next?
      return .after first (← readList n)
    else return first

def readEither : Nat → Read Test
  | 0 => return .yes
  | n + 1 => do
    let first ← readBoth n
    match ← peek? with
    | some "-o" | some "-or" =>
      let _ ← next?
      return .either first (← readEither n)
    | _ => return first

def readBoth : Nat → Read Test
  | 0 => return .yes
  | n + 1 => do
    let first ← readNot n
    match ← peek? with
    | none | some "-o" | some "-or" | some ")" | some "," => return first
    | some "-a" | some "-and" =>
      let _ ← next?
      return .both first (← readBoth n)
    | some _ => return .both first (← readBoth n)

def readNot : Nat → Read Test
  | 0 => return .yes
  | n + 1 => do
    match ← next? with
    | none => fault "expected an expression"
    | some "!" | some "-not" => return .not (← readNot n)
    | some "(" =>
      let inner ← readList n
      match ← next? with
      | some ")" => return inner
      | _ => fault "invalid expression; I was expecting to find a ')' somewhere but did not see one."
    | some name => readTest name

end

/-! ### Going through directories -/

structure State where
  pruned : Bool := false
  quit : Bool := false
  status : Nat := 0
  gathered : List (Nat × List String × List String) := []

abbrev Run := StateT State Work

/-- A file that is looked at, and where the way to it started. -/
structure Spot where
  path : String
  start : String
  place : Place
  node : Node
  depth : Nat

variable (s : Spot)

def Spot.name : String := if (Path.names s.path).isEmpty then "/" else (Path.names s.path).getLast?.getD ""

def isLike (pattern text : String) (folded : Bool) : Bool :=
  let fold (t : String) : String := if folded then t.map Char.toLower else t
  Utility.isLike (fold pattern) (fold text)

def letterOf (node : Node) : Char := if kindLetter node = '-' then 'f' else kindLetter node

def formatText (letter : Char) : String :=
  match letter with
  | 'p' => s.path
  | 'f' => s.name
  | 'h' =>
    let names := s.path.toList.reverse.dropWhile (· != '/')
    if names.isEmpty then "." else String.ofList (names.drop 1).reverse
  | 'P' => String.ofList ((s.path.toList.drop s.start.length).dropWhile (· == '/'))
  | 'H' => s.start
  | 'd' => toString s.depth
  | 's' => toString (sizeOfNode s.node)
  | 'm' => String.ofList (Nat.toDigits 8 (marksOf s.node).mode)
  | 'M' => String.singleton (kindLetter s.node) ++ Mode.letters (marksOf s.node).mode
  | 'y' => String.singleton (letterOf s.node)
  | 'l' =>
    match s.node with
    | .link target => Script.Shell.ofPath target
    | _ => ""
  | 'u' | 'g' => "root"
  | 'U' | 'G' => "0"
  | '%' => "%"
  | _ => ""

def runFor (command : List String) (paths : List String) : Run Bool := do
  match command with
  | [] => return true
  | program :: arguments =>
    match ← runProgram id program (arguments ++ paths) with
    | .ok status => return status.code == 0
    | .error e =>
      let _ ← complain s!"{plainlyShown program}: {e.description}"
      return false

def withPath (path word : String) : String :=
  String.ofList (replaceAll "\x7b\x7d".toList path.toList (word.length + 1) word.toList)

/-- Whether a condition holds. What it asks for is done. -/
def evaluate : Test → Run Bool
  | .yes => return true
  | .no => return false
  | .name pattern folded => return isLike pattern s.name folded
  | .path pattern folded => return isLike pattern s.path folded
  | .like r folded =>
    let cs := s.path.toList.toArray
    return ((Regex.run { folded } cs r { position := 0 }).any fun spot => spot.position == cs.size)
  | .kind letters => return letters.contains (letterOf s.node)
  | .empty => do
    match s.node with
    | .file content _ => return content.isEmpty
    | .directory _ => return (← entriesOf s.place).isEmpty
    | _ => return false
  | .size c unit => return c.holds ((sizeOfNode s.node + unit - 1) / unit)
  | .links c => do return c.holds (← linkCount s.place s.node)
  | .newer time => return decide (time < (marksOf s.node).modified)
  | .age c unit => return c.holds (((← (get : Work Machine)).seconds - (marksOf s.node).seconds).toNat / unit)
  | .mode sign bits =>
    let mode := (marksOf s.node).mode
    return if sign = '-' then mode &&& bits == bits else if sign = '/' then bits == 0 || mode &&& bits != 0 else mode == bits
  | .prune => do
    modify fun t => { t with pruned := true }
    return true
  | .quit => do
    modify fun t => { t with quit := true }
    return true
  | .print ending => do
    print (s.path ++ ending)
    return true
  | .format text => do
    print (String.ofList (statFormatted (formatText s) true (text.length + 1) text.toList))
    return true
  | .delete => do
    if s.node.isDirectory && !(← entriesOf s.place).isEmpty then
      let _ ← complain s!"cannot delete {shown s.path}: {OsError.notEmpty.description}"
      modify fun t => { t with status := 1 }
      return false
    else
      if s.node.isDirectory then changeFiles fun fs => fs.erase s.place
      else (modify fun m => m.unlink s.place : Work Unit)
      return true
  | .execute command => runFor (command.map (withPath s.path)) []
  | .gather index command => do
    modify fun t =>
      let before := ((t.gathered.lookup index).map Prod.snd).getD []
      { t with gathered := (index, command, s.path :: before) :: t.gathered.filter fun entry => entry.1 != index }
    return true
  | .not t => do return !(← evaluate t)
  | .both a b => do
    if ← evaluate a then evaluate b else return false
  | .either a b => do
    if ← evaluate a then return true else evaluate b
  | .after a b => do
    let _ ← evaluate a
    evaluate b

/-- Goes through a directory, and visits it before its files or after them. -/
def walk (plan : Plan) (test : Test) : (fuel : Nat) → Spot → Run Unit
  | 0, _ => return
  | fuel + 1, s => do
    if (← get).quit then return
    let visit : Run Unit := do
      if plan.least ≤ s.depth then
        let _ ← evaluate s test
    modify fun t => { t with pruned := false }
    if !plan.inner then visit
    let isPruned := (← get).pruned
    if s.node.isDirectory && !isPruned && !(plan.most.any (· ≤ s.depth)) then
      let names ← entriesOf s.place
      names.forM fun name => do
        let place := s.place ++ [Script.Shell.path name]
        match (← (get : Work Machine)).files.get? place with
        | none => return
        | some node =>
          let path := if s.path.endsWith "/" then s.path ++ name else s!"{s.path}/{name}"
          walk plan test fuel { s with path, place, node, depth := s.depth + 1 }
    if plan.inner && !(← get).quit then visit

def startsTest (argument : String) : Bool :=
  (argument.startsWith "-" && argument != "-") || argument = "(" || argument = "!" || argument = ")" || argument = ","

def search : Work Nat := do
  let arguments := ((← read).arguments.dropWhile fun argument => ["-H", "-L", "-P"].contains argument)
  let paths := arguments.takeWhile fun argument => !startsTest argument
  let expression := arguments.drop paths.length
  let reading : Read Test := do
    if expression.isEmpty then return .yes
    else
      let test ← readList (8 * expression.length + 8)
      match ← peek? with
      | some ")" => fault "invalid expression; you have too many ')'"
      | some text => fault s!"paths must precede expression: \x60{text}'"
      | none => return test
  match ← (reading.run (expression, {})).run with
  | .error why => complain why
  | .ok (test, _, plan) =>
    let test := if plan.acts then test else .both test (.print "\n")
    let work : Run Unit := (if paths.isEmpty then ["."] else paths).forM fun path => do
      match ← findName path with
      | .error e =>
        let _ ← complain s!"{plainlyShown path}: {e.description}"
        modify fun t => { t with status := 1 }
      | .ok node =>
        let place := (← namePlace? path).getD []
        walk plan test 1000 { path, start := path, place, node, depth := 0 }
    let ((), state) ← work.run {}
    let (statuses, _) ← (state.gathered.reverse.mapM fun (entry : Nat × List String × List String) => runFor entry.2.1 entry.2.2.reverse).run {}
    return if statuses.all id then state.status else 1

end Finder

end BenchKernel
