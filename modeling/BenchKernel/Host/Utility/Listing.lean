import BenchKernel.Host.Utility.Modes
import BenchKernel.Host.Utility.Starting

/-! # Listing files

Programs that show which files there are, what is known about them, and where links lead. -/

namespace BenchKernel

namespace Utility

def kindLetter : Node → Char
  | .directory _ => 'd'
  | .link _ => 'l'
  | .device _ => 'c'
  | .fifo _ => 'p'
  | .file _ _ | .program _ => '-'

def sizeOfNode : Node → Nat
  | .file content _ => content.size
  | .directory _ => 4096
  | .link target => target.utf8ByteSize
  | .program _ => 4096
  | .device _ | .fifo _ => 0

/-- The blocks of 1024 bytes that a file takes. -/
def blocksOf : Node → Nat
  | .file content _ => (content.size + 4095) / 4096 * 4
  | .directory _ => 4
  | .program _ => 4
  | .link _ | .device _ | .fifo _ => 0

/-- The names of a file, or the directories in one and two more. -/
def linkCount (place : Place) (node : Node) : Work Nat := do
  let m ← get
  match node with
  | .directory _ =>
    let inner := (m.files.entries place).filter fun name => ((m.files.get? (place ++ [name])).map Node.isDirectory).getD false
    return inner.length + 2
  | _ => return (m.namesOf place).length

/-- A number that stands for a place. -/
def inodeOf (place : Place) : Nat :=
  ("/".intercalate place).toList.foldl (fun h c => (h * 31 + c.toNat) % 900000) 100000

/-! ### Links -/

/-- The path from the root that a path stands for. With `missing` all its names but the last have to lead somewhere,
    unless that does not matter either. -/
def realPath (path : String) (lastMayMiss allMayMiss : Bool) : Work (Except OsError String) := do
  let cwd := (← read).cwd
  let files := (← get).files
  let text (place : Place) : String := Script.Shell.placeText place
  match files.locate cwd (Script.Shell.path path) with
  | .ok place =>
    if (files.get? place).isSome || lastMayMiss || allMayMiss then return .ok (text place) else return .error .notFound
  | .error e =>
    if allMayMiss then return .ok (text (Script.Builtin.placeByNames cwd (Script.Shell.path path))) else return .error e

def readLinks : Work Nat :=
  let long := [("canonicalize", 'f'), ("canonicalize-existing", 'e'), ("canonicalize-missing", 'm'), ("no-newline", 'n'),
    ("quiet", 'q'), ("silent", 's'), ("verbose", 'v'), ("zero", 'z')]
  withOptionSet { letters := "femnqsvz", long } 1 fun given operands => do
    if operands.isEmpty then missingOperand
    else
      let ending := if given.has 'z' then "\x00" else if given.has 'n' && operands.length = 1 then "" else "\n"
      forEach operands fun path => do
        let result ← match given.last? ['f', 'e', 'm'] with
          | some 'f' => realPath path true false
          | some 'e' => realPath path false false
          | some _ => realPath path true true
          | none => do
            match ← findName path with
            | .ok (.link target) => pure (.ok (Script.Shell.ofPath target))
            | .ok _ => pure (.error .invalidArgument)
            | .error e => pure (.error e)
        match result with
        | .ok text =>
          print (text ++ ending)
          return 0
        | .error e => if given.has 'v' then complainOf path e else return 1

def realPaths : Work Nat :=
  let long := [("canonicalize-existing", 'e'), ("canonicalize-missing", 'm'), ("strip", 's'), ("no-symlinks", 's'), ("quiet", 'q'),
    ("zero", 'z'), ("relative-to", 'Ā'), ("relative-base", 'ā'), ("logical", 'L'), ("physical", 'P')]
  withOptionSet { letters := "emsqzLPĀ:ā:", long } 1 fun given operands => do
    if operands.isEmpty then missingOperand
    else
      forEach operands fun path => do
        match ← realPath path (!given.has 'e') (given.has 'm') with
        | .error e => if given.has 'q' then return 1 else complainOf path e
        | .ok text =>
          let text ← match given.value? 'Ā' with
            | none => pure text
            | some base => do
              let base ← realPath base true true
              pure (relativePath (Path.names (base.toOption.getD "/")) (Path.names text))
          print (text ++ (if given.has 'z' then "\x00" else "\n"))
          return 0

/-! ### What is known about a file -/

def kindWords : Node → String
  | .directory _ => "directory"
  | .link _ => "symbolic link"
  | .device _ => "character special file"
  | .fifo _ => "fifo"
  | .program _ => "regular file"
  | .file content _ => if content.isEmpty then "regular empty file" else "regular file"

def statText (path : String) (place : Place) (node : Node) (count : Nat) (letter : Char) : String :=
  let marks := marksOf node
  let moment := Moment.ofSeconds marks.seconds
  match letter with
  | 'n' => path
  | 'N' =>
    match node with
    | .link target => s!"{shown path} -> {shown (Script.Shell.ofPath target)}"
    | _ => shown path
  | 's' => toString (sizeOfNode node)
  | 'a' => String.ofList (Nat.toDigits 8 marks.mode)
  | 'A' => String.singleton (kindLetter node) ++ Mode.letters marks.mode
  | 'F' => kindWords node
  | 'U' | 'G' => "root"
  | 'u' | 'g' => "0"
  | 'h' => toString count
  | 'i' => toString (inodeOf place)
  | 'b' => toString (blocksOf node * 2)
  | 'B' => "512"
  | 'o' => "4096"
  | 'X' | 'Y' | 'Z' => toString marks.seconds
  | 'W' => "0"
  | 'x' | 'y' | 'z' => String.ofList (moment.formatted "%Y-%m-%d %H:%M:%S.000000000 +0000".toList)
  | 'w' => "-"
  | 'f' =>
    let kind := match node with
      | .directory _ => 16384
      | .link _ => 40960
      | .device _ => 8192
      | .fifo _ => 4096
      | .file _ _ | .program _ => 32768
    String.ofList (Nat.toDigits 16 (kind + marks.mode))
  | '%' => "%"
  | _ => "?"

/-- A format with its letters replaced. -/
def statFormatted (value : Char → String) (escapes : Bool) : (fuel : Nat) → List Char → List Char
  | 0, _ => []
  | _ + 1, [] => []
  | fuel + 1, '%' :: rest =>
    let flags := rest.takeWhile fun c => c.isDigit || c == '-' || c == '#'
    match rest.drop flags.length with
    | letter :: after =>
      let width := (Script.number? (flags.filter Char.isDigit)).getD 0
      let text := value letter
      let cell := if flags.contains '-' then padRight width text else padLeft width text
      cell.toList ++ statFormatted value escapes fuel after
    | [] => ['%']
  | fuel + 1, '\\' :: c :: rest =>
    let found := ([('n', '\n'), ('t', '\t'), ('\\', '\\')] : List (Char × Char)).lookup c
    if escapes then found.getD c :: statFormatted value escapes fuel rest
    else '\\' :: c :: statFormatted value escapes fuel rest
  | fuel + 1, c :: rest => c :: statFormatted value escapes fuel rest

def statUsual (node : Node) : String :=
  let name := if node matches .link _ then "%N" else "%n"
  s!"  File: {name}\n  Size: %-10s\tBlocks: %-10b IO Block: %-6o %F\n" ++
    "Device: 0,1\tInode: %-10i  Links: %h\n" ++
    "Access: (0%a/%A)  Uid: (    0/    root)   Gid: (    0/    root)\n" ++
    "Access: %x\nModify: %y\nChange: %z\n Birth: %w\n"

def fileState : Work Nat :=
  let long := [("dereference", 'L'), ("format", 'c'), ("printf", 'Ā'), ("terse", 't'), ("file-system", 'f')]
  withOptionSet { letters := "Lc:tfĀ:", long } 1 fun given operands => do
    if operands.isEmpty then missingOperand
    else
      forEach operands fun path => do
        match ← (if given.has 'L' then find path else findName path) with
        | .error e => cannot "statx" path e
        | .ok node =>
          let place := (← if given.has 'L' then place? path else namePlace? path).getD []
          let count ← linkCount place node
          let value := statText path place node count
          let format (text : String) (escapes : Bool) : String :=
            String.ofList (statFormatted value escapes (text.length + 1) text.toList)
          match given.last? ['c', 'Ā'] with
          | some 'c' => print (format ((given.value? 'c').getD "") false ++ "\n")
          | some _ => print (format ((given.value? 'Ā').getD "") true)
          | none => print (format (statUsual node) false)
          return 0

/-! ### Sizes of directories -/

/-- The blocks of a path and of everything below it. Directories are printed with their sums. -/
def sumBlocks (shows : Bool → String → Nat → Work Unit) : (fuel : Nat) → (depth : Nat) → String → Place → Node → Work Nat
  | 0, _, _, _, _ => return 0
  | fuel + 1, depth, path, place, node => do
    let inner ←
      if node.isDirectory then do
        let names ← entriesOf place
        let files := (← get).files
        let found := names.filterMap fun name =>
          (files.get? (place ++ [Script.Shell.path name])).map fun node => (name, node)
        let sums ← found.mapM fun (name, node) =>
          sumBlocks shows fuel (depth + 1) (Path.join path name) (place ++ [Script.Shell.path name]) node
        pure (sums.foldl (· + ·) 0)
      else pure 0
    let total := inner + blocksOf node
    if node.isDirectory || depth = 0 then shows (depth == 0) path total else shows false s!"\x00{path}" total
    return total

def diskUse : Work Nat :=
  let long := [("all", 'a'), ("summarize", 's'), ("total", 'c'), ("human-readable", 'h'), ("bytes", 'b'), ("apparent-size", 'Ā')]
  withOptionSet { letters := "ascbhkmd:xLĀ", long } 1 fun given operands => do
    let paths := if operands.isEmpty then ["."] else operands
    let shows (isOperand : Bool) (path : String) (blocks : Nat) : Work Unit := do
      let isFile := path.startsWith "\x00"
      let text := if isFile then String.ofList (path.toList.drop 1) else path
      let amount := if given.has 'h' then (if blocks = 0 then "0" else s!"{blocks}K") else toString blocks
      if isOperand || (!given.has 's' && (!isFile || given.has 'a')) then print s!"{amount}\t{text}\n"
    forEach paths fun path => do
      match ← findName path with
      | .error e => cannot "access" path e
      | .ok node =>
        let _ ← sumBlocks shows 1000 0 path ((← namePlace? path).getD []) node
        return 0

end Utility

end BenchKernel
