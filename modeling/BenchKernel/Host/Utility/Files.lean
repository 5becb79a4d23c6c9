import BenchKernel.Host.Utility.Bytes
import BenchKernel.Host.Utility.Transfer

/-! # Programs that remove and make files

Programs that remove files and directories, cut files to a length, copy blocks of them, and make files whose names
nothing else has. -/

namespace BenchKernel

namespace Utility

/-! ### Removing -/

def kindText : Node → String
  | .directory _ => "directory"
  | .file content _ => if content.isEmpty then "regular empty file" else "regular file"
  | .link _ => "symbolic link"
  | .program _ => "regular file"
  | .fifo _ => "fifo"
  | .device (.stream _) => "symbolic link"
  | .device _ => "character special file"

def removeDirectory : Work Nat :=
  let long := [("ignore-fail-on-non-empty", 'Ā'), ("parents", 'p'), ("verbose", 'v')]
  withOptionSet { letters := "pvĀ", long } 1 fun given operands => do
    let call ← read
    let removeOne (isParent : Bool) (path : String) : Work Nat := do
      if given.has 'v' then print s!"{call.name}: removing directory, {shown path}\n"
      let fail (e : OsError) : Work Nat :=
        if e = .notEmpty && given.has 'Ā' then return 0
        else
          complain ("failed to remove " ++ (if isParent then "directory " else "") ++ s!"{shown path}: {e.description}")
      match ← findName path with
      | .error e => fail e
      | .ok (.directory _) =>
        let place := (← namePlace? path).getD []
        if (Path.names path).getLast? = some "." then fail .invalidArgument
        else if !((← get).files.entries place).isEmpty then fail .notEmpty
        else
          changeFiles fun fs => fs.erase place
          return 0
      | .ok _ => fail .notDirectory
    if operands.isEmpty then missingOperand
    else
      forEach operands fun path => do
        let status ← removeOne false path
        if status = 0 && given.has 'p' then
          let above := (pathsTo path).dropLast.reverse
          above.foldlM (fun status path => if status = 0 then removeOne true path else return status) 0
        else return status

/-- How files are removed. -/
structure Removal where
  tree : Bool
  empty : Bool
  forced : Bool
  asks : Bool
  verbose : Bool

/-- Removes a file or, with everything below it, a directory. -/
def Removal.remove (o : Removal) : (fuel : Nat) → String → Work Nat
  | 0, _ => return 0
  | fuel + 1, path => do
    let fail (e : OsError) : Work Nat := cannot "remove" path e
    match ← findName path with
    | .error e => if o.forced && (e = .notFound || e = .notDirectory) then return 0 else fail e
    | .ok (.directory _) =>
      let place := (← namePlace? path).getD []
      let entries ← entriesOf place
      let last := (Path.names path).getLast?
      if !o.tree && !o.empty then fail .isDirectory
      else if last = some "." || last = some ".." then
        complain s!"refusing to remove '.' or '..' directory: skipping {shown path}"
      else if place.isEmpty then
        let _ ← complain ("it is dangerous to operate recursively on '/'")
        complain "use --no-preserve-root to override this failsafe"
      else if !o.tree && !entries.isEmpty then fail .notEmpty
      else if !(← isAllowed (o.asks && o.tree && !entries.isEmpty) s!"descend into directory {shown path}") then return 0
      else
        let status ← forEach entries fun name => Removal.remove o fuel (Path.join path name)
        if !((← get).files.entries place).isEmpty then
          return status
        else if !(← isAllowed o.asks s!"remove directory {shown path}") then return status
        else
          changeFiles fun fs => fs.erase place
          if o.verbose then print s!"removed directory {shown path}\n"
          return status
    | .ok node =>
      let place := (← namePlace? path).getD []
      if !(← isAllowed o.asks s!"remove {kindText node} {shown path}") then return 0
      else
        modify fun m => m.unlink place
        if o.verbose then print s!"removed {shown path}\n"
        return 0

def remove : Work Nat :=
  let long := [("dir", 'd'), ("force", 'f'), ("interactive", 'Ā'), ("recursive", 'r'), ("verbose", 'v'),
    ("preserve-root", 'ā'), ("no-preserve-root", 'Ă'), ("one-file-system", 'ă')]
  withOptionSet { letters := "dfiIrRvĀ::ā::Ăă", long } 1 fun given operands => do
    let o : Removal :=
      { tree := given.has 'r' || given.has 'R', empty := given.has 'd',
        forced := given.last? ['f', 'i', 'I'] = some 'f', asks := given.last? ['f', 'i', 'I'] = some 'i',
        verbose := given.has 'v' }
    if operands.isEmpty then if o.forced then return 0 else missingOperand
    else
      let fuel := (← get).files.nodes.length + 1
      forEach operands (o.remove fuel)

def unlink : Work Nat := withOptions "" fun _ operands => do
  match operands with
  | [] => missingOperand
  | [path] =>
    let fail (e : OsError) : Work Nat := cannot "unlink" path e
    match ← findName path with
    | .error e => fail e
    | .ok (.directory _) => fail .isDirectory
    | .ok _ =>
      let place := (← namePlace? path).getD []
      modify fun m => m.unlink place
      return 0
  | _ :: extra :: _ => extraOperand extra

/-! ### Lengths -/

def lengthAfter? (text : String) (length : Nat) : Option Nat :=
  match text.toList with
  | '+' :: rest => (sizeOf? (String.ofList rest)).map (length + ·)
  | '-' :: rest => (sizeOf? (String.ofList rest)).map (length - ·)
  | '<' :: rest => (sizeOf? (String.ofList rest)).map (min length)
  | '>' :: rest => (sizeOf? (String.ofList rest)).map (max length)
  | '/' :: rest => (sizeOf? (String.ofList rest)).map fun n => length / n * n
  | '%' :: rest => (sizeOf? (String.ofList rest)).map fun n => (length + n - 1) / n * n
  | _ => sizeOf? text

def truncate : Work Nat :=
  let long := [("no-create", 'c'), ("size", 's'), ("reference", 'r'), ("io-blocks", 'o')]
  withOptionSet { letters := "cor:s:", long } 1 fun given operands => do
    let reference : Option Nat ←
      match given.value? 'r' with
      | some path => do
        match ← fileText path with
        | .ok text => pure (some text.length)
        | .error _ => pure none
      | none => pure none
    let text := (given.value? 's').getD (toString (reference.getD 0))
    if !given.has 's' && !given.has 'r' then misuse "you must specify either '--size' or '--reference'"
    else if (lengthAfter? text 0).isNone then complain s!"Invalid number: {shown text}"
    else if operands.isEmpty then misuse "missing file operand"
    else
      forEach operands fun path => do
        let found ← find path
        if (found matches .error .notFound) && given.has 'c' then return 0
        else
          match ← openPath path .append with
          | .error e => complain s!"cannot open {shown path} for writing: {e.description}"
          | .ok _ =>
            match ← place? path, ← find path with
            | some place, .ok (.file content marks) =>
              let length := (lengthAfter? text (reference.getD content.size)).getD 0
              let more := (List.replicate (length - content.size) (0 : UInt8)).toByteArray
              modify fun m => m.putFile place (content.extract 0 length ++ more) marks
              return 0
            | _, _ => return 0

/-! ### Names that nothing else has -/

def nameLetters : Array Char := "ABCDEFGHIJKLMNOPQRSTUVWXYZabcdefghijklmnopqrstuvwxyz0123456789".toList.toArray

def lettersFor : (length : Nat) → (number : Nat) → List Char
  | 0, _ => []
  | length + 1, number => (nameLetters[number % 62]?).getD 'A' :: lettersFor length (number / 62 + 7 * length)

def freshPath (before after : String) (length : Nat) : (tries : Nat) → (number : Nat) → Work String
  | 0, number => return before ++ String.ofList (lettersFor length number) ++ after
  | tries + 1, number => do
    let path := before ++ String.ofList (lettersFor length number) ++ after
    if (← findName path) matches .error _ then return path else freshPath before after length tries (number + 1)

def makeTemporary : Work Nat :=
  let long := [("directory", 'd'), ("quiet", 'q'), ("tmpdir", 'Ā'), ("suffix", 'ā'), ("dry-run", 'u')]
  withOptionSet { letters := "dp:qtuVĀ::ā:", long } 1 fun given operands => do
    let call ← read
    match operands with
    | _ :: _ :: _ => misuse "too many templates"
    | _ =>
      let template := operands.head?.getD "tmp.XXXXXXXXXX"
      let usual := (call.environment.lookup "TMPDIR").getD "/tmp"
      let directory? : Option String :=
        match given.value? 'p', given.value? 'Ā' with
        | some directory, _ => some (if directory.isEmpty then usual else directory)
        | none, some directory => some (if directory.isEmpty then usual else directory)
        | none, none => if operands.isEmpty || given.has 't' then some usual else none
      let cs := template.toList
      let after := (given.value? 'ā').getD (String.ofList ((cs.reverse.takeWhile (· != 'X')).reverse))
      let stem := if given.has 'ā' then cs else cs.take (cs.length - after.length)
      let run := (stem.reverse.takeWhile (· == 'X')).length
      if run < 3 then complain s!"too few X's in template {shown template}"
      else
        let name := String.ofList (stem.take (stem.length - run))
        let before := (directory?.map fun directory => Path.join directory name).getD name
        let path ← freshPath before after run 1000 call.process
        let fail (kind : String) (e : OsError) : Work Nat := do
          if given.has 'q' then return 1
          else
            let shownTemplate := shown (before ++ "".pushn 'X' run ++ after)
            complain s!"failed to create {kind} via template {shownTemplate}: {e.description}"
        let done : Work Nat := do
          print s!"{path}\n"
          return 0
        if given.has 'u' then done
        else if given.has 'd' then
          match ← makeOne none 448 path with
          | .ok () => done
          | .error e => fail "directory" e
        else
          match ← writeFile path "" with
          | .ok () =>
            match ← place? path with
            | some place => setMarks place fun marks => { marks with mode := 384 }
            | none => pure ()
            done
          | .error e => fail "file" e

/-! ### Blocks -/

def blockOperands (operands : List String) : Except String (List (String × String)) :=
  operands.mapM fun operand =>
    match Text.cutAt? '=' operand.toList with
    | some (name, value) =>
      if ["if", "of", "bs", "ibs", "obs", "cbs", "count", "skip", "seek", "conv", "status", "iflag", "oflag"].contains (String.ofList name) then
        .ok (String.ofList name, String.ofList value)
      else .error operand
    | none => .error operand

/-- How blocks are copied. -/
structure BlockCopy where
  inSize : Nat
  outSize : Nat
  isDirect : Bool
  isFull : Bool
  conversions : List String

/-- How many blocks were read and written. -/
structure BlockCounts where
  wholeIn : Nat := 0
  cutIn : Nat := 0
  wholeOut : Nat := 0
  cutOut : Nat := 0
  bytes : Nat := 0
  kept : String := ""

namespace BlockCopy

def swapped : List Char → List Char
  | x :: y :: rest => y :: x :: swapped rest
  | rest => rest

variable (b : BlockCopy)

def converted (block : String) : String :=
  let text := if b.conversions.contains "ucase" then String.ofList (block.toList.map Char.toUpper)
    else if b.conversions.contains "lcase" then String.ofList (block.toList.map Char.toLower) else block
  let text := if b.conversions.contains "swab" then String.ofList (swapped text.toList) else text
  if b.conversions.contains "sync" then text.pushn (Char.ofNat 0) (b.inSize - text.length) else text

def writeBlock (index : Nat) (block : String) (c : BlockCounts) : Work (Except OsError BlockCounts) := do
  whenOk (writeTo index block) fun () => do
    let isWhole := block.length = b.outSize
    return .ok { c with
      wholeOut := if isWhole then c.wholeOut + 1 else c.wholeOut, cutOut := if isWhole then c.cutOut else c.cutOut + 1
      bytes := c.bytes + block.length }

/-- Writes blocks as long as enough has been read. -/
def writeKept (index : Nat) : (fuel : Nat) → BlockCounts → Work (Except OsError BlockCounts)
  | 0, c => return .ok c
  | fuel + 1, c => do
    if c.kept.length < b.outSize then return .ok c
    else
      let cs := c.kept.toList
      let c := { c with kept := String.ofList (cs.drop b.outSize) }
      whenOk (b.writeBlock index (String.ofList (cs.take b.outSize)) c) (writeKept index fuel)

/-- Reads until a block is full. -/
def fillBlock (index size : Nat) : (tries : Nat) → ByteArray → Work (Except OsError ByteArray)
  | 0, read => return .ok read
  | tries + 1, read => do
    whenOk (readPart index (size - read.size)) fun part => do
      if part.isEmpty || size ≤ (read ++ part).size then return .ok (read ++ part)
      else fillBlock index size tries (read ++ part)

def readBlock (index : Nat) : Work (Except OsError ByteArray) :=
  if b.isFull then fillBlock index b.inSize b.inSize ByteArray.empty else readPart index b.inSize

def copy (source target : Nat) : (left : Nat) → BlockCounts → Work (Except OsError BlockCounts)
  | 0, c => return .ok c
  | left + 1, c => do
    whenOk (b.readBlock source) fun bytes => do
      if bytes.isEmpty then return .ok c
      else
        let c := if bytes.size = b.inSize then { c with wholeIn := c.wholeIn + 1 } else { c with cutIn := c.cutIn + 1 }
        let block := b.converted (Text.ofBytes bytes)
        let written :=
          if b.isDirect then b.writeBlock target block c
          else b.writeKept target (block.length + c.kept.length + 1) { c with kept := c.kept ++ block }
        whenOk written (copy source target left)

def skip (source : Nat) : (left : Nat) → Work Unit
  | 0 => return
  | left + 1 => do
    match ← b.readBlock source with
    | .error _ => return
    | .ok bytes => if bytes.isEmpty then return else skip source left

end BlockCopy

/-- Opens the file that blocks are written to, at a position. What comes after the position goes away if `cuts`. -/
def openTarget (path : Option String) (start : Nat) (cuts : Bool) : Work (Except OsError Nat) := do
  match path with
  | none =>
    match (← read).numbers.lookup 1 with
    | none => return .error .badNumber
    | some index => return .ok index
  | some path =>
    if start = 0 && cuts then openPath path .write
    else
      let before := ((← fileText path).toOption.getD "").toList
      let gap := List.replicate (start - before.length) (Char.ofNat 0)
      let kept := before.take start ++ gap ++ (if cuts then [] else before.drop start)
      whenOk (writeFile path (String.ofList kept)) fun () =>
        whenOk (openPath path .readWrite) fun index => do
          modify fun m => { m with openFiles := m.openFiles.modify index fun f => { f with position := start } }
          return .ok index

def blockConversions : List String :=
  ["ascii", "ebcdic", "ibm", "block", "unblock", "lcase", "ucase", "sparse", "swab", "sync", "excl", "nocreat", "notrunc", "noerror",
    "fdatasync", "fsync"]

def copyBlocks : Work Nat := withOptions "" fun _ operands => do
  match blockOperands operands with
  | .error operand => misuse s!"unrecognized operand {shown operand}"
  | .ok values =>
    let value (name : String) : Option String := values.reverse.lookup name
    let numbers := ["bs", "ibs", "obs", "count", "skip", "seek"].filterMap fun name => (value name).map fun text => (text, sizeOf? text)
    let listed (name : String) : List String := ((value name).map fun text => (Text.splitAt ',' text.toList).map String.ofList).getD []
    let conversions := listed "conv"
    match numbers.find? fun entry => entry.2.isNone, conversions.find? fun name => !blockConversions.contains name with
    | some (text, _), _ => complain s!"invalid number: {shown text}"
    | none, some name => misuse s!"invalid conversion: {shown name}"
    | none, none =>
      let number (name : String) (usual : Nat) : Nat := ((value name).bind sizeOf?).getD usual
      let b : BlockCopy :=
        { inSize := max 1 (number "bs" (number "ibs" 512)), outSize := max 1 (number "bs" (number "obs" 512))
          isDirect := (value "bs").isSome, isFull := (listed "iflag").contains "fullblock", conversions }
      match ← openOperand ((value "if").getD "-") with
      | .error e => complain ("failed to open " ++ shown ((value "if").getD "standard input") ++ ": " ++ e.description)
      | .ok source =>
        match ← openTarget (value "of") (number "seek" 0 * b.outSize) (!conversions.contains "notrunc") with
        | .error e => complain ("failed to open " ++ shown ((value "of").getD "standard output") ++ ": " ++ e.description)
        | .ok target =>
          b.skip source (number "skip" 0)
          let copied ← b.copy source target (number "count" patience) {}
          let finished : Except OsError BlockCounts ← match copied with
            | .ok c => if c.kept.isEmpty then pure (.ok c) else b.writeBlock target c.kept c
            | .error why => pure (.error why)
          match finished with
          | .error e => complain ("error reading " ++ shown ((value "if").getD "standard input") ++ ": " ++ e.description)
          | .ok c =>
            if value "status" = some "none" then return 0
            else
              let records := s!"{c.wholeIn}+{c.cutIn} records in\n{c.wholeOut}+" ++
                s!"{c.cutOut} records out\n"
              let size := toString c.bytes ++ (if c.bytes = 1 then " byte" else " bytes")
              let rate := if value "status" = some "noxfer" then "" else size ++ " copied, 0.0001 s, " ++ toString (c.bytes / 100) ++ " MB/s\n"
              write 2 (records ++ rate)
              return 0

end Utility

end BenchKernel
