import BenchKernel.Host.FileStore
import BenchKernel.Host.ProcessTable

/-! # Machines

A machine is a file store with its processes, a clock and everything that the processes have open. A process knows its
open files by numbers; two numbers may stand for the same open file and then share its position. -/

namespace BenchKernel

/-- Where the bytes of an open file come from and go to. -/
inductive Channel
  | pipe (index : Nat)
  | file (place : Place)
  | nameless (index : Nat)
  | directory
  | null
  | zero
  | full
  | noise
  deriving DecidableEq, Repr

/-- Something that is open, with how far it has been read or written. -/
structure OpenFile where
  channel : Channel
  position : Nat := 0
  appends : Bool := false
  readable : Bool := true
  writable : Bool := true
  deriving DecidableEq, Repr

/-- The open files that a process knows, by number. -/
abbrev Numbers := List (Nat × Nat)

def Numbers.bind (ns : Numbers) (number index : Nat) : Numbers :=
  (number, index) :: ns.filter fun entry => entry.1 != number

def Numbers.close (ns : Numbers) (number : Nat) : Numbers := ns.filter fun entry => entry.1 != number

inductive Access
  | read
  | write
  | append
  | readWrite
  deriving DecidableEq, Repr

structure Pipe where
  bytes : ByteArray := ByteArray.empty
  /-- Whether someone outside of the machine takes away all that is written. -/
  isSink : Bool := false
  /-- How often it was opened by its name for reading and for writing. -/
  openings : Nat × Nat := (0, 0)

/-- How many bytes a pipe takes before those who write have to wait. -/
def Pipe.capacity : Nat := 65536

structure Machine where
  files : FileStore
  pipes : Array Pipe := #[]
  openFiles : Array OpenFile := #[]
  nameless : Array ByteArray := #[]
  /-- The places that are names of one file, for the files that have several. -/
  twins : List (List Place) := []
  fifos : List (Place × Nat) := []
  table : ProcessTable := {}
  clock : Nat := presentTime.toNat * 1000000000

namespace Machine

/-- The steps of the clock for files, in nanoseconds. -/
def timeGrain : Nat := 4000000

variable (m : Machine)

def fileTime : Int := ((m.clock / timeGrain * timeGrain : Nat) : Int)

def seconds : Int := ((m.clock / 1000000000 : Nat) : Int)

def after (duration : Nat) : Machine := { m with clock := m.clock + duration }

def add (file : OpenFile) : Nat × Machine :=
  (m.openFiles.size, { m with openFiles := m.openFiles.push file })

/-- Makes a pipe and opens both of its ends. -/
def addPipe : (Nat × Nat) × Machine :=
  let index := m.pipes.size
  let m := { m with pipes := m.pipes.push {} }
  let (reading, m) := m.add { channel := .pipe index, writable := false }
  let (writing, m) := m.add { channel := .pipe index, readable := false }
  ((reading, writing), m)

/-- Makes a pipe whose bytes are for someone outside of the machine. -/
def addSink : Nat × Machine :=
  { m with pipes := m.pipes.push { isSink := true } }.add { channel := .pipe m.pipes.size, readable := false }

/-- Opens bytes for reading that have no place in the file store. -/
def addText (bytes : ByteArray) : Nat × Machine :=
  { m with nameless := m.nameless.push bytes }.add { channel := .nameless m.nameless.size, writable := false }

def addScratch : Nat × Machine :=
  { m with nameless := m.nameless.push ByteArray.empty }.add { channel := .nameless m.nameless.size, readable := false }

variable (index : Nat)

def scratch : ByteArray :=
  match m.openFiles[index]? with
  | some { channel := .nameless index, .. } => (m.nameless[index]?).getD ByteArray.empty
  | _ => ByteArray.empty

def pipe : ByteArray := ((m.pipes[index]?).map Pipe.bytes).getD ByteArray.empty

variable (pipe : Nat)

/-- Whether an open file is an end of a pipe, one for reading or writing as is meant. -/
def isEndOf (isMeant : OpenFile → Bool) (index : Nat) : Bool :=
  (m.openFiles[index]?).any fun file => file.channel = .pipe pipe && isMeant file

def hasWriter : Bool := m.table.isHeld (m.isEndOf pipe OpenFile.writable)

def hasReader : Bool :=
  ((m.pipes[pipe]?).any Pipe.isSink) || m.table.isHeld (m.isEndOf pipe OpenFile.readable)

def room : Nat := Pipe.capacity - (m.pipe pipe).size

/-- Whether writing would not have to wait. -/
def canWrite : Bool :=
  match m.openFiles[index]? with
  | some { channel := .pipe pipe, .. } =>
    ((m.pipes[pipe]?).any Pipe.isSink) || 0 < m.room pipe || !m.hasReader pipe
  | _ => true

/-- A content with bytes written over it from a position on. A gap before them is filled with zeros. -/
def overwritten (content : ByteArray) (position : Nat) (bytes : ByteArray) : ByteArray :=
  let start := content.extract 0 position
  let gap := (List.replicate (position - start.size) (0 : UInt8)).toByteArray
  start ++ gap ++ bytes ++ content.extract (position + bytes.size) content.size

variable (place : Place)

/-- All places that are names of the file at a place. -/
def namesOf : List Place := (m.twins.find? (·.contains place)).getD [place]

def putFile (content : ByteArray) (marks : Marks) : Machine :=
  { m with files := (m.namesOf place).foldl (fun fs name => fs.put name (.file content marks)) m.files }

/-- Tells the open files what has become of their places. -/
def redirect (change : Place → Channel) : Machine :=
  let changed (file : OpenFile) : OpenFile :=
    match file.channel with
    | .file place => { file with channel := change place }
    | _ => file
  { m with openFiles := m.openFiles.map changed }

/-- Takes a name away. An open file without a name keeps its bytes. -/
def unlink : Machine :=
  let erased := { m with files := m.files.erase place }
  match m.twins.find? (·.contains place) with
  | some group =>
    let others := group.filter (· != place)
    let twins := (m.twins.filter (· != group)) ++ (if 1 < others.length then [others] else [])
    let heir := others.head?.getD place
    { erased with twins := twins }.redirect fun found => .file (if found = place then heir else found)
  | none =>
    match m.files.get? place with
    | some (.file content _) =>
      let index := m.nameless.size
      { erased with nameless := m.nameless.push content }.redirect fun found =>
        if found = place then .nameless index else .file found
    | _ => erased

def movedPlace (source target place : Place) : Place :=
  if source.isPrefixOf place then target ++ place.drop source.length else place

def rename (source target : Place) : Machine :=
  let m := if (m.files.get? target).isSome then m.unlink target else m
  let moved := movedPlace source target
  let nodes := m.files.nodes.map fun (place, node) => (moved place, node)
  { m with files := { m.files with nodes := nodes }, twins := m.twins.map (List.map moved) }.redirect (.file ∘ moved)

/-- Gives a file another name. -/
def addName (place name : Place) (node : Node) : Machine :=
  let group := m.namesOf place
  let files := m.files.put name node
  match node with
  | .file _ _ => { m with files, twins := (group ++ [name]) :: m.twins.filter (· != group) }
  | _ => { m with files }

/-- Writes to an open file and says how many bytes it took. -/
def write (bytes : ByteArray) : Except OsError (Nat × Machine) :=
  match m.openFiles[index]? with
  | none => .error .badNumber
  | some file =>
    let position (content : ByteArray) : Nat := if file.appends then content.size else file.position
    let advanced (m : Machine) (start : Nat) : Machine :=
      { m with openFiles := m.openFiles.modify index fun f => { f with position := start + bytes.size } }
    if !file.writable then .error .badNumber
    else
      match file.channel with
      | .null | .zero | .noise => .ok (bytes.size, m)
      | .directory => .error .badNumber
      | .full => if bytes.isEmpty then .ok (0, m) else .error .noSpace
      | .pipe pipe =>
        if !m.hasReader pipe then .error .brokenPipe
        else
          let count := if (m.pipes[pipe]?).any Pipe.isSink then bytes.size else min bytes.size (m.room pipe)
          let added := bytes.extract 0 count
          .ok (count, { m with pipes := m.pipes.modify pipe fun p => { p with bytes := p.bytes ++ added } })
      | .nameless index =>
        let content := (m.nameless[index]?).getD ByteArray.empty
        let changed := overwritten content (position content) bytes
        .ok (bytes.size, advanced { m with nameless := m.nameless.modify index fun _ => changed } (position content))
      | .file place =>
        match m.files.get? place with
        | some (.file content marks) =>
          let start := position content
          let marks := { marks with modified := m.fileTime }
          .ok (bytes.size, advanced (m.putFile place (overwritten content start bytes) marks) start)
        | _ => .ok (bytes.size, m)

def portion : Nat := 65536

def noiseAt (position : Nat) : UInt8 :=
  let a := (position.toUInt64 + 0x9e3779b97f4a7c15) * 0xbf58476d1ce4e5b9
  let b := (a ^^^ (a >>> 31)) * 0x94d049bb133111eb
  (b ^^^ (b >>> 29)).toUInt8

/-- The next bytes of an open file, and whether they are all that will come. -/
def peek (index limit : Nat) : Except OsError (ByteArray × Bool) :=
  match m.openFiles[index]? with
  | none => .error .badNumber
  | some file =>
    let part (content : ByteArray) : ByteArray × Bool :=
      (content.extract file.position (file.position + limit), content.size ≤ file.position + limit)
    if !file.readable then .error .badNumber
    else
      match file.channel with
      | .null => .ok (ByteArray.empty, true)
      | .zero | .full => .ok ((List.replicate (min limit portion) (0 : UInt8)).toByteArray, false)
      | .noise => .ok ((((List.range (min limit portion)).map fun i => noiseAt (file.position + i))).toByteArray, false)
      | .directory => .error .isDirectory
      | .pipe pipe =>
        let content := m.pipe pipe
        .ok (content.extract 0 limit, content.size ≤ limit && !m.hasWriter pipe)
      | .nameless index => .ok (part ((m.nameless[index]?).getD ByteArray.empty))
      | .file place =>
        match m.files.get? place with
        | some (.file content _) => .ok (part content)
        | _ => .ok (ByteArray.empty, true)

def greatestPortion : Nat := 1000000000000

def available : Except OsError (ByteArray × Bool) := m.peek index greatestPortion

def canRead : Bool :=
  match m.peek index 1 with
  | .error _ => true
  | .ok (bytes, isLast) => isLast || !bytes.isEmpty

/-- Takes bytes that have been looked at as read. -/
def skip (index count : Nat) : Machine :=
  match m.openFiles[index]? with
  | some { channel := .pipe pipe, .. } =>
    { m with pipes := m.pipes.modify pipe fun p => { p with bytes := p.bytes.extract count p.bytes.size } }
  | _ => { m with openFiles := m.openFiles.modify index fun f => { f with position := f.position + count } }

/-- Takes back that some of the bytes of an open file were read. What was read from a pipe is gone. -/
def giveBack (index count : Nat) : Machine :=
  match m.openFiles[index]? with
  | some { channel := .file _, .. } | some { channel := .nameless _, .. } =>
    { m with openFiles := m.openFiles.modify index fun f => { f with position := f.position - count } }
  | _ => m

variable (access : Access)

def openPlace : Nat × Machine :=
  m.add { channel := .file place, appends := access = .append, readable := access = .read || access = .readWrite,
          writable := access != .read }

def emptied : Machine :=
  match access, m.files.get? place with
  | .write, some (.file _ marks) => m.putFile place ByteArray.empty { marks with modified := m.fileTime }
  | _, _ => m

/-- Opens again what a process has open under a number. -/
def reopen (numbers : Numbers) (number : Nat) (access : Access) : Except OsError (Nat × Machine) :=
  match numbers.lookup number with
  | none => .error .notFound
  | some index =>
    match m.openFiles[index]? with
    | some { channel := .file place, .. } => .ok ((m.emptied place access).openPlace place access)
    | some file => .ok (m.add { file with readable := access = .read, writable := access != .read })
    | none => .error .notFound

/-! ### Processes -/

def addProcess (parent : Nat) (held : List Nat) : Nat × Machine :=
  let (number, table) := m.table.add parent held
  (number, { m with table })

variable (number : Nat)

def modifyProcess (change : ProcessState → ProcessState) : Machine :=
  { m with table := m.table.modify number change }

def setHeld (held : List Nat) : Machine :=
  m.modifyProcess number fun p => { p with held }

def finish (status : ExitStatus) : Machine := { m with table := m.table.finish number status }

def send (number signal : Nat) : Except OsError Machine :=
  match m.table.find? number with
  | none => .error .noProcess
  | some _ => .ok (m.modifyProcess number fun p => p.receive signal)

/-- Opens a pipe by its name. -/
def openFifo : Nat × Machine :=
  let (pipe, m) :=
    match m.fifos.lookup place with
    | some pipe => (pipe, m)
    | none => (m.pipes.size, { m with pipes := m.pipes.push {}, fifos := (place, m.pipes.size) :: m.fifos })
  let reads := access = .read || access = .readWrite
  let writes := access != .read
  let count (p : Pipe) : Pipe :=
    { p with openings := (p.openings.1 + (if reads then 1 else 0), p.openings.2 + (if writes then 1 else 0)) }
  { m with pipes := m.pipes.modify pipe count }.add { channel := .pipe pipe, readable := reads, writable := writes }

/-- Whether an open file is a pipe with a name whose other end nobody has opened since `before`. -/
def isAlone (before : Nat × Nat) (index : Nat) : Bool :=
  match m.openFiles[index]? with
  | some { channel := .pipe pipe, readable, writable, .. } =>
    let now := ((m.pipes[pipe]?).map Pipe.openings).getD (0, 0)
    if (readable && writable) || now = (0, 0) then false
    else if readable then !m.hasWriter pipe && now.2 = before.2
    else !m.hasReader pipe && now.1 = before.1
  | _ => false

def openingsOf : Nat × Nat :=
  match m.openFiles[index]? with
  | some { channel := .pipe pipe, .. } => ((m.pipes[pipe]?).map Pipe.openings).getD (0, 0)
  | _ => (0, 0)

def maskedMode (mask mode : Nat) : Nat := mode - (mode &&& mask)

/-- Opens a path for a process. The mask of the process takes rights from files that are made. -/
def openPath (numbers : Numbers) (mask : Nat) (cwd : Place) (path : String) (access : Access) :
    Except OsError (Nat × Machine) := do
  let place ← m.files.locate cwd path
  if access != .read && FileStore.namesDirectory path then throw .isDirectory
  match m.files.get? place with
  | some (.directory _) =>
    if access = .read then return m.add { channel := .directory, writable := false } else throw .isDirectory
  | some (.file _ _) =>
    if FileStore.namesDirectory path then throw .notDirectory else return (m.emptied place access).openPlace place access
  | some (.link _) => throw .tooManyLinks
  | some (.fifo _) => if FileStore.namesDirectory path then throw .notDirectory else return m.openFifo place access
  | some (.program _) =>
    if FileStore.namesDirectory path then throw .notDirectory
    else if access = .read then return m.openPlace place access
    else throw .permissionDenied
  | some (.device device) =>
    if FileStore.namesDirectory path then throw .notDirectory
    else
      match device with
      | .null => return m.add { channel := .null }
      | .zero => return m.add { channel := .zero }
      | .full => return m.add { channel := .full }
      | .noise => return m.add { channel := .noise, position := m.openFiles.size * 1000003 }
      | .terminal => throw .noDevice
      | .stream number => m.reopen numbers number access
  | none =>
    if access != .read && FileStore.takesNew place then
      let node := Node.file ByteArray.empty { mode := maskedMode mask 438, modified := m.fileTime }
      return { m with files := m.files.put place node }.openPlace place access
    else throw .notFound

end Machine

end BenchKernel
