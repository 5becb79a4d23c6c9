import BenchKernel.Host.Utility.Listing
import BenchKernel.Host.Utility.Scaling

/-! # Listings of directories

The files of directories in lines and columns, with what is known about them. -/

namespace BenchKernel

namespace Utility

/-! ### Names -/

/-- How names are quoted. -/
inductive NameQuoting
  | literal
  /-- As words of a shell, with quotes where they are needed or always, and with escapes or without. -/
  | shell (always escapes : Bool)
  | double (always : Bool)
  | escape
  | single
  deriving DecidableEq, Repr

namespace NameQuoting

def names : List (String × NameQuoting) :=
  [("literal", literal), ("shell", shell false false), ("shell-always", shell true false), ("shell-escape", shell false true),
    ("shell-escape-always", shell true true), ("c", double true), ("c-maybe", double false), ("escape", escape),
    ("locale", single), ("clocale", double true)]

def escaped (own : List Char) (c : Char) : String :=
  match [('\x07', 'a'), ('\x08', 'b'), ('\x0c', 'f'), ('\n', 'n'), ('\r', 'r'), ('\t', 't'), ('\x0b', 'v'), ('\\', '\\')].lookup c with
  | some letter => String.ofList ['\\', letter]
  | none =>
    if own.contains c then String.ofList ['\\', c]
    else if 32 ≤ c.toNat && c.toNat < 127 then String.singleton c
    else "\\" ++ Number.padded 8 3 c.toNat

def inQuotes (name : String) : String :=
  let cs := name.toList
  let rest := if cs.head? == some '#' || cs.head? == some '~' then cs.drop 1 else cs
  if cs.contains '\'' && rest.all isMild then s!"\"{name}\""
  else "'" ++ "'\\''".intercalate ((Text.splitAt '\'' cs).map String.ofList) ++ "'"

def isBare (name : String) : Bool :=
  let cs := name.toList
  let isPlain (c : Char) : Bool := (isMild c && c != ' ' && c != '\'') || ['#', '~', '\x7b', '\x7d'].contains c
  !cs.isEmpty && cs.all isPlain && cs.head? != some '#' && cs.head? != some '~' && cs != ['\x7b'] && cs != ['\x7d']

def withEscapes (name : String) : String :=
  let isShown (c : Char) : Bool := 32 ≤ c.toNat && c.toNat < 127
  if name.toList.all isShown then inQuotes name
  else
    let (text, isOpen) := name.toList.foldl (fun (text, isOpen) c =>
      if isShown c then
        (text ++ (if isOpen then "''" else "") ++ (if c = '\'' then "'\\''" else String.singleton c), false)
      else (text ++ (if isOpen then "" else "'$'") ++ escaped [] c, true)) ("'", false)
    text ++ (if isOpen then "'" else "'")

def text (q : NameQuoting) (name : String) : String :=
  match q with
  | literal => name
  | shell always escapes =>
    let isOdd := name.toList.any fun c => c.toNat < 32 || 127 ≤ c.toNat
    let isPlain := if escapes then isBare name else isBare (String.ofList (name.toList.filter fun c => c.toNat != 1))
    if isPlain && !(escapes && isOdd) && !always then name
    else if escapes then withEscapes name else inQuotes name
  | double always =>
    let text := String.join (name.toList.map (escaped ['"']))
    let isOdd := name.toList.any fun c => c.toNat < 32 || 127 ≤ c.toNat || c = '"'
    if always || isOdd then s!"\"{text}\"" else name
  | escape => String.join (name.toList.map (escaped [' ']))
  | single => "'" ++ String.join (name.toList.map (escaped ['\''])) ++ "'"

end NameQuoting

/-! ### Styles -/

/-- How names are laid out. -/
inductive Arrangement
  | lines
  | down
  | across
  | commas
  | long
  deriving DecidableEq, Repr

def Arrangement.names : List (String × Arrangement) :=
  [("verbose", long), ("long", long), ("commas", commas), ("horizontal", across), ("across", across), ("vertical", down),
    ("single-column", lines)]

inductive EntryOrder
  | name
  | none
  | time
  | size
  | ending
  | version
  | width
  deriving DecidableEq, Repr

def EntryOrder.names : List (String × EntryOrder) :=
  [("none", none), ("time", time), ("size", size), ("extension", ending), ("version", version), ("width", width)]

/-- Which kinds of files are marked behind their names. -/
inductive Marking
  | none
  | directories
  | kinds
  | all
  deriving DecidableEq, Repr

def Marking.names : List (String × Marking) := [("none", none), ("slash", directories), ("file-type", kinds), ("classify", all)]

inductive Following
  | never
  | toDirectories
  | operands
  | always
  deriving DecidableEq, Repr

/-- How sizes are shown. -/
inductive SizeForm
  | plain
  | scaled (byThousands : Bool)
  | units (size : Nat) (letter : String)
  deriving DecidableEq, Repr

/-- How directories are listed. -/
structure ListStyle where
  /-- Whether hidden names are listed, and whether with those of the directory itself and of the one above. -/
  hidden : Bool := false
  dots : Bool := false
  recursive : Bool := false
  reversed : Bool := false
  directoriesFirst : Bool := false
  order : EntryOrder := .name
  arrangement : Arrangement := .lines
  width : Nat := 80
  tabs : Nat := 8
  marking : Marking := .none
  quoting : NameQuoting := .literal
  masked : Bool := false
  following : Following := .toDirectories
  owner : Bool := true
  group : Bool := true
  numeric : Bool := false
  inodes : Bool := false
  blocks : Bool := false
  sizes : SizeForm := .plain
  time : Option String := none
  /-- Patterns for names that are left out, always and unless hidden ones are listed. -/
  ignored : List String := []
  left : List String := []
  ending : Char := '\n'

structure Entry where
  name : String
  place : Place
  node : Node

namespace ListStyle

variable (style : ListStyle)

def mark (node : Node) : String :=
  match node with
  | .directory _ => if style.marking = .none then "" else "/"
  | .link _ => if style.marking = .kinds || style.marking = .all then "@" else ""
  | .fifo _ => if style.marking = .kinds || style.marking = .all then "|" else ""
  | .file _ marks => if style.marking = .all && marks.isExecutable then "*" else ""
  | .program _ => if style.marking = .all then "*" else ""
  | .device _ => ""

def nameText (name : String) : String :=
  let text := style.quoting.text name
  if style.masked then text.map fun c => if 32 ≤ c.toNat && c.toNat < 127 then c else '?' else text

variable (entries : List Entry)

/-- Whether names without quotes are moved, so that all names line up. -/
def isAligned : Bool :=
  let isFitting := style.arrangement = .long || ((style.arrangement = .down || style.arrangement = .across) && style.width != 0)
  let isShell := match style.quoting with
    | .shell false _ | .double false => true
    | _ => false
  isFitting && isShell && entries.any fun e => style.quoting.text e.name != e.name

def sizeText (bytes : Nat) : String :=
  match style.sizes with
  | .plain => toString bytes
  | .scaled false => Scaling.writeNumber { target := .iec } 0 bytes
  | .scaled true => (Scaling.writeNumber { target := .si } 0 bytes).map fun c => if c = 'K' then 'k' else c
  | .units size letter => toString ((bytes + size - 1) / size) ++ letter

def blocksText (blocks : Nat) : String :=
  if style.sizes = .plain then toString blocks else style.sizeText (blocks * 1024)

def sort : List Entry :=
  let byName (a b : Entry) : Bool := decide (a.name ≤ b.name)
  let sortedBy (isBefore : Entry → Entry → Bool) (entries : List Entry) : List Entry :=
    entries.mergeSort fun a b => isBefore a b || (!isBefore b a && byName a b)
  let ending (e : Entry) : String :=
    let cs := e.name.toList
    if cs.contains '.' then String.ofList ('.' :: (cs.reverse.takeWhile (· != '.')).reverse) else ""
  let sorted := match style.order with
    | .none => entries
    | .name => entries.mergeSort byName
    | .size => sortedBy (fun a b => sizeOfNode b.node < sizeOfNode a.node) entries
    | .time => sortedBy (fun a b => (marksOf b.node).modified < (marksOf a.node).modified) entries
    | .ending => sortedBy (fun a b => ending a < ending b) entries
    | .version =>
      sortedBy (fun a b => compareVersions (a.name.length + b.name.length + 1) a.name.toList b.name.toList == .lt) entries
    | .width => sortedBy (fun a b => (style.nameText a.name).length < (style.nameText b.name).length) entries
  let sorted := if style.reversed && style.order != .none then sorted.reverse else sorted
  if style.directoriesFirst && style.order != .none then
    sorted.filter (fun e => e.node.isDirectory) ++ sorted.filter fun e => !e.node.isDirectory
  else sorted

def timeText (modified : Int) : String :=
  let seconds := modified.fdiv 1000000000
  let isNear := presentTime - 15778476 < seconds && seconds ≤ presentTime + 3600
  let nanoseconds := toString (modified.fmod 1000000000).toNat
  let fraction := "".pushn '0' (9 - nanoseconds.length) ++ nanoseconds
  let form (format : String) : String := String.ofList ((Moment.ofSeconds seconds).formatted format.toList)
  match style.time with
  | none => form (if isNear then "%b %e %H:%M" else "%b %e  %Y")
  | some "full-iso" => form "%Y-%m-%d %H:%M:%S." ++ fraction ++ form " %z"
  | some "long-iso" => form "%Y-%m-%d %H:%M"
  | some "iso" => form (if isNear then "%m-%d %H:%M" else "%Y-%m-%d ")
  | some format => form format

/-! ### Long listings -/

def longColumns (e : Entry) : Work (List String) := do
  let marks := marksOf e.node
  let count ← linkCount e.place e.node
  let name := if style.numeric then "0" else "root"
  let size := match e.node with
    | .device _ => "1, 3"
    | node => style.sizeText (sizeOfNode node)
  return [String.singleton (kindLetter e.node) ++ Mode.letters marks.mode, toString count] ++
    (if style.owner then [name] else []) ++ (if style.group then [name] else []) ++ [size, style.timeText marks.modified]

def targetText (e : Entry) : Work String := do
  match e.node with
  | .link target =>
    let text := Script.Shell.ofPath target
    let mark := match (← get).files.find e.place.dropLast target with
      | .ok node => style.mark node
      | .error _ => ""
    return s!" -> {style.nameText text}{mark}"
  | _ => return style.mark e.node

/-! ### Columns -/

def widths? (lengths : List Nat) (count : Nat) : Option (List Nat) :=
  let rows := (lengths.length + count - 1) / count
  let columnOf (i : Nat) : Nat := if style.arrangement = .down then i / rows else i % count
  let widths := lengths.zipIdx.foldl (fun (widths : Array Nat) (length, i) =>
    let column := columnOf i
    let needed := length + (if column + 1 = count then 0 else 2)
    widths.modify column (max needed)) (Array.replicate count 3)
  if widths.foldl (· + ·) 0 < style.width then some widths.toList else none

/-- The widths of as many columns as fit. -/
def mostColumns (lengths : List Nat) : (count : Nat) → List Nat
  | 0 | 1 => [0]
  | count + 1 =>
    match style.widths? lengths (count + 1) with
    | some widths => widths
    | none => mostColumns lengths count

def gap (tabs : Nat) : (fuel : Nat) → (column stop : Nat) → String
  | 0, _, _ => ""
  | fuel + 1, column, stop =>
    if stop ≤ column then ""
    else if tabs != 0 && (column + 1) / tabs < stop / tabs then "\t" ++ gap tabs fuel (column + (tabs - column % tabs)) stop
    else " " ++ gap tabs fuel (column + 1) stop

def columnLine : (start : Nat) → List Nat → List String → String
  | _, _, [] => ""
  | _, _, [last] => last
  | start, widths, cell :: rest =>
    let width := widths.head?.getD 0
    cell ++ gap style.tabs (width + 1) (start + cell.length) (start + width) ++ columnLine (start + width) widths.tail rest

variable (cells : List String)

def columnLines : List String :=
  let widths := style.mostColumns (cells.map String.length) (min (max 1 (style.width / 3)) cells.length)
  let count := widths.length
  let rows := (cells.length + count - 1) / count
  let cells := cells.toArray
  (List.range rows).map fun row =>
    let indices := if style.arrangement = .down then (List.range count).map fun column => column * rows + row
      else (List.range count).map fun column => row * count + column
    style.columnLine 0 widths (indices.filterMap fun i => cells[i]?)

/-- Names with commas between them, broken into lines. -/
def commaText : String :=
  (cells.foldl (fun ((text, column) : String × Nat) cell =>
    let length := if style.width = 0 then 0 else cell.length
    if text.isEmpty then (cell, length)
    else if style.width = 0 || column + length + 2 < style.width then (s!"{text}, {cell}", column + 2 + length)
    else ((text ++ ",").push style.ending ++ cell, length)) ("", 0)).1

/-! ### Printing -/

def alignedCells : List String :=
  let width := (cells.map String.length).foldl max 0
  cells.map (padLeft width)

def frills : List String :=
  let form (cells : List String) : List String := if style.arrangement = .commas then cells else alignedCells cells
  let inodes := form (entries.map fun e => toString (inodeOf e.place))
  let blocks := form (entries.map fun e => style.blocksText (blocksOf e.node))
  (inodes.zip blocks).map fun (inode, block) =>
    (if style.inodes then inode ++ " " else "") ++ (if style.blocks then block ++ " " else "")

/-- Prints entries. Others count as well when widths are measured. -/
def print (others : List Entry := []) : Work Unit := do
  let sorted := style.sort entries
  let isAligned := style.isAligned (sorted ++ others)
  let names := sorted.map fun e =>
    let text := style.nameText e.name
    if isAligned && text = e.name then " " ++ text else text
  let starts := (style.frills sorted).zip names
  if sorted.isEmpty then return
  else
    match style.arrangement with
    | .long =>
      let rows ← sorted.mapM style.longColumns
      let last := (rows.head?.map List.length).getD 0
      let isLeft (i : Nat) : Bool := i = 0 || (1 < i && i + 2 < last)
      let measured := rows ++ (← others.mapM style.longColumns)
      let width (i : Nat) : Nat := (measured.map fun row => ((row[i]?).getD "").length).foldl max 0
      let widths := (List.range last).map width
      let lines ← ((starts.zip rows).zip sorted).mapM fun (((frill, name), row), e) => do
        let cells := (row.zip widths).zipIdx.map fun ((cell, width), i) => if isLeft i then padRight width cell else padLeft width cell
        return frill ++ " ".intercalate cells ++ " " ++ name ++ (← style.targetText e)
      Utility.print (joinEnded style.ending lines)
    | arrangement =>
      let cells := (starts.zip sorted).map fun ((frill, name), e) => frill ++ name ++ style.mark e.node
      match arrangement with
      | .commas => Utility.print ((style.commaText cells).push style.ending)
      | .down | .across =>
        Utility.print (if style.width = 0 then ("  ".intercalate cells).push style.ending
          else joinEnded style.ending (style.columnLines cells))
      | _ => Utility.print (joinEnded style.ending cells)

def isListed (name : String) : Bool :=
  (style.hidden || (!name.startsWith "." && !style.left.any (isLike · name))) && !style.ignored.any (isLike · name)

def entriesOf (place : Place) : Work (List Entry) := do
  let names := (← Utility.entriesOf place).filter style.isListed
  let files := (← get).files
  let own := names.filterMap fun name =>
    let here := place ++ [Script.Shell.path name]
    let node :=
      if style.following = .always then (files.find place (Script.Shell.path name)).toOption.orElse fun _ => files.get? here
      else files.get? here
    node.map fun node => ⟨name, here, node⟩
  let dot (name : String) (here : Place) : List Entry := (files.get? here).toList.map fun node => ⟨name, here, node⟩
  return (if style.dots then dot "." place ++ dot ".." place.dropLast else []) ++ own

/-- Lists a directory and, if that is wanted, those below it. `isFirst` says that nothing has been printed before. -/
def printDirectory (named : Bool) : (fuel : Nat) → (isFirst : Bool) → (path : String) → Place → Work Unit
  | 0, _, _, _ => return
  | fuel + 1, isFirst, path, place => do
    let entries ← style.entriesOf place
    if named then Utility.print ((if isFirst then "" else "\n") ++ style.nameText path ++ ":\n")
    if style.arrangement = .long || style.blocks then
      let total := (entries.map fun e => blocksOf e.node).foldl (· + ·) 0
      Utility.print (("total " ++ style.blocksText total).push style.ending)
    style.print entries
    if style.recursive then
      let inner := (style.sort entries).filter fun e => e.node.isDirectory && e.name != "." && e.name != ".."
      inner.forM fun e => printDirectory named fuel false (Path.join path e.name) e.place

def operandEntry (asItself : Bool) (path : String) : Work (Except OsError Entry) := do
  let named ← findName path
  let found ← find path
  let isFollowed := match style.following with
    | .always | .operands => true
    | .never => false
    | .toDirectories => !asItself && (found matches .ok (.directory _))
  let chosen := if isFollowed then
      match found, named with
      | .error _, .ok (.link target) => .ok (.link target)
      | result, _ => result
    else named
  match chosen with
  | .error e => return .error e
  | .ok node =>
    let place ← match node with
      | .link _ => namePlace? path
      | _ => if isFollowed then place? path else namePlace? path
    return .ok ⟨path, place.getD [], node⟩

def printOperands (asThemselves : Bool) (paths : List String) : Work Nat := do
  let asItself := asThemselves || style.arrangement = .long || style.marking = .all
  let results ← paths.mapM fun path => do
    match ← style.operandEntry asItself path with
    | .ok e => return some e
    | .error e =>
      let _ ← cannot "access" path e
      return none
  let found := results.filterMap id
  let isOpened (e : Entry) : Bool := e.node.isDirectory && !asThemselves
  let files := found.filter fun e => !isOpened e
  style.print files (found.filter isOpened)
  let named := 1 < paths.length || style.recursive
  let _ ← (style.sort (found.filter isOpened)).foldlM (fun isFirst e => do
    style.printDirectory named 1000 isFirst e.name e.place
    return false) files.isEmpty
  return if results.any Option.isNone then 2 else 0

end ListStyle

/-! ### Options -/

def listOptions : OptionSet :=
  { letters := "aAbBcCdfFgGhHiI:klLmnNopqQrRsStT:uUvw:xXZ1Ā:ā:Ă:ă::ĄąĆć:Ĉ:ĉĊ:ċ:ČčĎ:ď:ĐĒ:"
    long := [("all", 'a'), ("escape", 'b'), ("directory", 'd'), ("dired", 'D'), ("full-time", 'Č'), ("group-directories-first", 'ą'),
      ("human-readable", 'h'), ("inode", 'i'), ("kibibytes", 'k'), ("numeric-uid-gid", 'n'), ("no-group", 'G'),
      ("hide-control-chars", 'q'), ("reverse", 'r'), ("size", 's'), ("width", 'w'), ("almost-all", 'A'), ("ignore-backups", 'B'),
      ("classify", 'Ē'), ("file-type", 'č'), ("si", 'ĉ'), ("dereference-command-line", 'H'), ("dereference", 'L'), ("ignore", 'I'),
      ("indicator-style", 'Ā'), ("hide", 'ā'), ("literal", 'N'), ("quote-name", 'Q'), ("quoting-style", 'Ă'), ("recursive", 'R'),
      ("format", 'ć'), ("show-control-chars", 'Ą'), ("sort", 'Ĉ'), ("tabsize", 'T'), ("time", 'Ċ'), ("time-style", 'ċ'),
      ("zero", 'Ć'), ("color", 'ă'), ("block-size", 'ď'), ("author", 'Đ')] }

def ListStyle.withOption (s : ListStyle) (option : Char × String) : Except Refusal ListStyle :=
  let (letter, text) := option
  match letter with
  | 'a' => .ok { s with hidden := true, dots := true }
  | 'A' => .ok { s with hidden := true, dots := false }
  | 'b' => .ok { s with quoting := .escape }
  | 'B' => .ok { s with ignored := "*~" :: ".*~" :: s.ignored }
  | 'C' => .ok { s with arrangement := .down }
  | 'f' => .ok { s with hidden := true, dots := true, order := .none, blocks := false
                        arrangement := if s.arrangement = .long then .lines else s.arrangement }
  | 'F' => .ok { s with marking := .all }
  | 'Ē' => .ok (if text = "never" || text = "no" || text = "none" || text = "auto" then s else { s with marking := .all })
  | 'g' => .ok { s with arrangement := .long, owner := false }
  | 'G' => .ok { s with group := false }
  | 'h' => .ok { s with sizes := .scaled false }
  | 'ĉ' => .ok { s with sizes := .scaled true }
  | 'H' => .ok { s with following := .operands }
  | 'i' => .ok { s with inodes := true }
  | 'I' => .ok { s with ignored := text :: s.ignored }
  | 'l' => .ok { s with arrangement := .long }
  | 'L' => .ok { s with following := .always }
  | 'm' => .ok { s with arrangement := .commas }
  | 'n' => .ok { s with arrangement := .long, numeric := true }
  | 'N' => .ok { s with quoting := .literal }
  | 'o' => .ok { s with arrangement := .long, group := false }
  | 'p' => .ok { s with marking := .directories }
  | 'q' => .ok { s with masked := true }
  | 'Ą' => .ok { s with masked := false }
  | 'Q' => .ok { s with quoting := .double true }
  | 'r' => .ok { s with reversed := true }
  | 'R' => .ok { s with recursive := true }
  | 's' => .ok { s with blocks := true }
  | 'S' => .ok { s with order := .size }
  | 't' => .ok { s with order := .time }
  | 'U' => .ok { s with order := .none }
  | 'v' => .ok { s with order := .version }
  | 'x' => .ok { s with arrangement := .across }
  | 'X' => .ok { s with order := .ending }
  | '1' => .ok { s with arrangement := if s.arrangement = .long then .long else .lines }
  | 'ą' => .ok { s with directoriesFirst := true }
  | 'č' => .ok { s with marking := .kinds }
  | 'Ć' => .ok { s with ending := Char.ofNat 0, quoting := .literal, masked := false
                        arrangement := if s.arrangement = .long then .long else .lines }
  | 'Č' => .ok { s with arrangement := .long, time := some "full-iso" }
  | 'Ā' => ((named "indicator-style" Marking.names text).mapError .hinted).map fun marking => { s with marking }
  | 'ā' => .ok { s with left := text :: s.left }
  | 'Ă' => ((named "quoting-style" NameQuoting.names text).mapError .hinted).map fun quoting => { s with quoting }
  | 'ć' => ((named "format" Arrangement.names text).mapError .hinted).map fun arrangement => { s with arrangement }
  | 'Ĉ' => ((named "sort" EntryOrder.names text).mapError .hinted).map fun order => { s with order }
  | 'w' =>
    match Script.number? text.toList with
    | some width => .ok { s with width }
    | none => .error (.plain s!"invalid line width: {shown text}")
  | 'T' =>
    match Script.number? text.toList with
    | some tabs => .ok { s with tabs }
    | none => .error (.plain s!"invalid tab size: {shown text}")
  | 'ď' =>
    match sizeOf? text with
    | some size => .ok { s with sizes := .units (max 1 size) (if text.toList.head?.any Char.isDigit then "" else text) }
    | none => .error (.plain s!"invalid --block-size argument {shown text}")
  | 'ċ' =>
    match text.toList with
    | '+' :: format => .ok { s with time := some (String.ofList format) }
    | _ =>
      let name := if text.startsWith "posix-" then "locale" else text
      if name = "locale" then .ok { s with time := none }
      else if ["full-iso", "long-iso", "iso"].contains name then .ok { s with time := some name }
      else
        .error (.hinted (s!"invalid argument {shown text} for 'time style'\nValid arguments are:\n  - [posix-]full-iso\n" ++
          "  - [posix-]long-iso\n  - [posix-]iso\n  - [posix-]locale\n  - +FORMAT (e.g., +%H:%M) for a 'date'-style format"))
  | _ => .ok s

def listFrom (start : ListStyle) : Work Nat :=
  withOptionSet listOptions 2 fun given operands => do
    let width := (((← read).environment.lookup "COLUMNS").bind fun text => Script.number? text.toList).getD start.width
    match given.foldlM ListStyle.withOption { start with width } with
    | .error (.hinted why) => misuseWith (if given.has 'ċ' then 2 else 1) why
    | .error (.plain why) => failWith 2 why
    | .ok style =>
      let following := if style.following = .toDirectories && style.recursive && style.arrangement = .long then .never else style.following
      { style with following }.printOperands (given.has 'd') (if operands.isEmpty then ["."] else operands)

def list : Work Nat := listFrom {}

end Utility

end BenchKernel
