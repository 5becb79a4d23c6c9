import BenchKernel.Host.OsError
import BenchKernel.Host.Path

/-! # File stores

A file store is a tree of directories, files and links as a process sees it, with the errors that the operating
system gives for accesses that it does not allow. Every file can be read and written, whatever its mode. Devices
are at fixed places. -/

namespace BenchKernel

/-- What the system provides at fixed places and keeps no bytes. -/
inductive Device
  | null
  | zero
  | full
  | noise
  | terminal
  | stream (number : Nat)
  deriving DecidableEq, Repr

def presentTime : Int := 1767225600

structure Marks where
  /-- Who may read, write and run it: three bits each for its owner, its group and others. -/
  mode : Nat := 420
  modified : Int := presentTime * 1000000000
  deriving DecidableEq, Repr

def Marks.plain (executable : Bool) : Marks := { mode := if executable then 493 else 420 }

def Marks.open : Marks := { mode := 493 }

def Marks.seconds (m : Marks) : Int := m.modified / 1000000000

def Marks.isExecutable (m : Marks) : Bool := m.mode &&& 73 != 0

/-- What can be at a place. -/
inductive Node
  | directory (marks : Marks)
  | file (content : ByteArray) (marks : Marks)
  | link (target : String)
  | program (name : String)
  | device (device : Device)
  | fifo (marks : Marks)

def Node.plainFile (content : ByteArray) (executable : Bool) : Node := .file content (.plain executable)

def Node.isDirectory : Node → Bool
  | directory _ => true
  | _ => false

/-- The names that lead from the root to something. -/
abbrev Place := List String

def Device.number? (name : String) : Option Nat := name.toNat?.filter fun n => toString n == name

def Device.at? : Place → Option Device
  | ["dev", name] =>
    [("null", null), ("zero", zero), ("full", full), ("random", noise), ("urandom", noise), ("tty", terminal),
      ("stdin", stream 0), ("stdout", stream 1), ("stderr", stream 2)].lookup name
  | ["dev", "fd", name] | ["proc", "self", "fd", name] => (number? name).map stream
  | _ => none

structure FileStore where
  nodes : List (Place × Node) := []
  out : ByteArray := ByteArray.empty
  err : ByteArray := ByteArray.empty

namespace FileStore

def longestName : Nat := 255

def longestPath : Nat := 4095

variable (fs : FileStore) (place : Place)

/-- What is at a place. The root and the devices are always there. -/
def get? : Option Node :=
  if place.isEmpty then some (.directory .open)
  else
    match Device.at? place with
    | some device => some (.device device)
    | none => fs.nodes.lookup place

def put (node : Node) : FileStore :=
  if (fs.nodes.lookup place).isSome then
    { fs with nodes := fs.nodes.map fun entry => if entry.1 = place then (place, node) else entry }
  else { fs with nodes := fs.nodes ++ [(place, node)] }

def erase : FileStore :=
  { fs with nodes := fs.nodes.filter fun entry => entry.1 != place }

/-- Goes from a directory to what has a name in it. -/
def descend (name : String) : Except OsError Place :=
  match fs.get? place with
  | none => .error .notFound
  | some (.directory _) =>
    if longestName < name.utf8ByteSize then .error .nameTooLong
    else .ok (if name = "." then place else if name = ".." then place.dropLast else place ++ [name])
  | some _ => .error .notDirectory

/-- How far names lead before a link has to be followed. -/
inductive Way
  | reached (place : Place)
  | linked (directory : Place) (target : String) (rest : List String)

variable (whole : Bool)

/-- Goes down from a place by names, up to the first link. The last name is looked at as a link only with
    `whole`. -/
def advance : Place → List String → Except OsError Way
  | place, [] => .ok (.reached place)
  | place, name :: rest => do
    let next ← fs.descend place name
    match fs.get? next with
    | some (.link target) => if whole || !rest.isEmpty then return .linked place target rest else return .reached next
    | _ => advance next rest

def mostLinks : Nat := 40

/-- Goes down by names and follows the links on the way, if there are not too many. -/
def follow : (links : Nat) → Place → List String → Except OsError Place
  | links, place, names => do
    match ← fs.advance whole place names with
    | .reached place => return place
    | .linked directory target rest =>
      match links with
      | 0 => throw .tooManyLinks
      | links + 1 => follow links (if Path.isAbsolute target then [] else directory) (Path.names target ++ rest)

def namesDirectory (path : String) : Bool := path.toList.getLast? == some '/'

/-- The place to which a path leads. All its names but the last have to lead to directories. -/
def trace (cwd : Place) (path : String) : Except OsError Place :=
  if path.toList.any (·.toNat == 0) then .error .zeroInPath
  else if path.isEmpty then .error .notFound
  else if longestPath < path.utf8ByteSize then .error .nameTooLong
  else fs.follow whole mostLinks (if Path.isAbsolute path then [] else cwd) (Path.names path)

variable (cwd : Place)

def locate (path : String) : Except OsError Place := fs.trace true cwd path

/-- The place at which the last name of a path stands, even if it is a link. A slash at the end asks for what the
    link stands for. -/
def locateName (path : String) : Except OsError Place :=
  fs.trace (namesDirectory path) cwd path

/-- Whether something new can be made at a place. The directory of the processes takes no new entries. -/
def takesNew : Bool := place.head? != some "proc"

/-- What a path stands for at a place. A slash at its end asks for a directory. -/
def nodeAt (path : String) (place : Place) : Except OsError Node :=
  match fs.get? place with
  | none => .error .notFound
  | some (.directory marks) => .ok (.directory marks)
  | some node => if namesDirectory path then .error .notDirectory else .ok node

def find (path : String) : Except OsError Node := do
  fs.nodeAt path (← fs.locate cwd path)

def findName (path : String) : Except OsError Node := do
  fs.nodeAt path (← fs.locateName cwd path)

def isDirectory (path : String) : Bool :=
  match fs.find cwd path with
  | .ok node => node.isDirectory
  | _ => false

def isExecutable (path : String) : Bool :=
  match fs.find cwd path with
  | .ok (.file _ marks) => marks.isExecutable
  | .ok (.program _) => true
  | _ => false

def read (path : String) : Except OsError ByteArray := do
  match ← fs.find cwd path with
  | .directory _ => throw .isDirectory
  | .file content _ => return content
  | .program _ | .link _ | .fifo _ => return ByteArray.empty
  | .device .terminal => throw .noDevice
  | .device _ => return ByteArray.empty

def readText (path : String) : Except OsError String := do
  match String.fromUTF8? (← fs.read cwd path) with
  | some text => return text
  | none => throw .invalidText

def writeDevice (device : Device) (content : ByteArray) : Except OsError FileStore :=
  match device with
  | .null | .zero | .noise => .ok fs
  | .full => if content.isEmpty then .ok fs else .error .noSpace
  | .terminal => .error .noDevice
  | .stream 0 => .ok fs
  | .stream 1 => .ok { fs with out := fs.out ++ content }
  | .stream 2 => .ok { fs with err := fs.err ++ content }
  | .stream _ => .error .notFound

/-- Gives a file new bytes: all of them or, with an error, none. A file that was not there becomes one that cannot be
    run. -/
def write (path : String) (content : ByteArray) : Except OsError FileStore := do
  let place ← fs.locate cwd path
  if namesDirectory path then throw .isDirectory
  match fs.get? place with
  | some (.directory _) => throw .isDirectory
  | some (.file _ marks) => return fs.put place (.file content { marks with modified := presentTime * 1000000000 })
  | some (.program _) | some (.link _) => throw .permissionDenied
  | some (.fifo _) => return fs
  | some (.device device) => fs.writeDevice device content
  | none => if takesNew place then return fs.put place (.plainFile content false) else throw .notFound

def makeDirectory (path : String) : Except OsError FileStore := do
  let place ← fs.locateName cwd path
  match fs.get? place with
  | some _ => throw .alreadyExists
  | none => if takesNew place then return fs.put place (.directory .open) else throw .notFound

/-- Makes the directory of a path, and the directories above it, which are given by their parts, last one first.
    What was made stays made when a later step fails. -/
def makeAll (path : String) : List Path.Component → Except OsError Unit × FileStore
  | [] =>
    match fs.makeDirectory cwd path with
    | .ok fs => (.ok (), fs)
    | .error e => (if fs.isDirectory cwd path then .ok () else .error e, fs)
  | part :: above =>
    match fs.makeDirectory cwd path with
    | .ok fs => (.ok (), fs)
    | .error .notFound =>
      match makeAll (Path.ofComponents (part :: above).reverse) above with
      | (.error e, fs) => (.error e, fs)
      | (.ok (), fs) =>
        match fs.makeDirectory cwd path with
        | .ok fs => (.ok (), fs)
        | .error e => (if fs.isDirectory cwd path then .ok () else .error e, fs)
    | .error e => (if fs.isDirectory cwd path then .ok () else .error e, fs)

def makeDirectories (path : String) : Except OsError Unit × FileStore :=
  if path.isEmpty then (.ok (), fs) else makeAll fs cwd path (Path.components path).dropLast.reverse

def entries : List String :=
  (fs.nodes.filterMap fun entry =>
    if entry.1.length = place.length + 1 ∧ entry.1.take place.length = place then entry.1.getLast? else none)

end FileStore

end BenchKernel
