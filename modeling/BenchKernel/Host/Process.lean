import BenchKernel.Host.Schedule
import BenchKernel.Host.Script.Run
import BenchKernel.ObjectFile.Exports
import BenchKernel.ObjectFile.Loading

/-! # Processes

A host knows its working directory, its search path, and how to find and run programs and to load and read objects.
What it finds and what its programs do is left open: a host is given by functions. The scripting host runs the scripts
of the store and some programs of its own, and fails on everything else as the operating system does. -/

namespace BenchKernel

structure Invocation where
  program : String
  arguments : List String
  deriving DecidableEq, Repr

/-- An argument as it is shown in messages. -/
def shownArgument (text : String) : String :=
  if text.toList.any (·.toNat == 0) then "<string-with-nul>" else text

def Invocation.text (i : Invocation) : String :=
  " ".intercalate ((i.program :: i.arguments).map shownArgument)

def Invocation.hasZero (i : Invocation) : Bool :=
  (i.program :: i.arguments).any fun text => text.toList.any (·.toNat == 0)

/-- What a process leaves: how it ended and what it printed. -/
structure ProcessResult where
  status : ExitStatus
  out : ByteArray
  err : ByteArray

def ProcessResult.text (r : ProcessResult) : String := Text.lossyText r.out ++ Text.lossyText r.err

structure Host where
  cwd : String
  /-- The directories in which programs are searched, separated by colons, if they are set. -/
  searchPath : Option String
  /-- The path of the program with a name, for directories that are separated by colons. -/
  which : FileStore → Option String → String → Option String
  /-- Runs a program on a file store, or says why it cannot be started. -/
  launch : Invocation → FileStore → Except OsError ProcessResult × FileStore
  /-- Whether the object at a path can be loaded. -/
  loads : FileStore → String → Bool
  /-- Whether the object at a path, once loaded, has a routine of a name. -/
  finds : FileStore → String → String → Bool
  /-- The symbols of an object file, if its bytes are those of one. -/
  symbols : ByteArray → Option ObjectFile.Symbols

def Host.place (h : Host) : Place := Path.names h.cwd

/-! ### The scripting host -/

namespace ScriptHost

def defaultSearchPath : String := "/bin:/usr/bin"

def bound : Nat := 10000000

/-- Files with the three streams of a first program: no input, and outputs that are kept. -/
def machine (fs : FileStore) : Numbers × Machine :=
  let (input, m) := ({ files := fs } : Machine).add { channel := .null }
  let (out, m) := m.addSink
  let (err, m) := m.addSink
  ([(0, input), (1, out), (2, err)], m)

/-- Whether a process goes on, or another one can still print something. -/
def isWanted (number : Nat) (m : Machine) : Bool :=
  let isOutput (index : Nat) : Bool :=
    match m.openFiles[index]? with
    | some { channel := .pipe pipe, .. } => (m.pipes[pipe]?).any Pipe.isSink
    | _ => false
  m.table.isAlive number || m.table.isHeld isOutput

/-- Runs the program at a path until it ends, and what it has started with it. -/
def runFile (cwd : Place) (environment : List (String × String)) (path : String) (i : Invocation) (fs : FileStore) :
    Except OsError ProcessResult × FileStore :=
  let (numbers, m) := machine fs
  let launch : Launch :=
    { path := Script.Shell.ofPath path, name := Script.Shell.ofPath i.program,
      arguments := i.arguments.map Script.Shell.ofPath, environment, cwd, numbers }
  match (Script.Engine.bounded bound).execute 0 launch m with
  | .error e => (.error e, fs)
  | .ok program =>
    let (number, m) := m.addProcess ProcessState.observer launch.held
    let start : Waiting := { number, pause := .turn, resume := fun m => (program number m).toProcess number }
    let m := Schedule.run (isWanted number) bound m [start]
    (.ok ⟨(m.table.status? number).getD (.exited 0), m.pipe 0, m.pipe 1⟩, m.files)

/-- Runs the first of some files that can be run. One that may not be run is passed over, and remembered. -/
def runFirst (cwd : Place) (environment : List (String × String)) (i : Invocation) (fs : FileStore) :
    (failure : OsError) → List String → Except OsError ProcessResult × FileStore
  | failure, [] => (.error failure, fs)
  | failure, path :: rest =>
    match runFile cwd environment path i fs with
    | (.error .permissionDenied, _) => runFirst cwd environment i fs .permissionDenied rest
    | (.error .notFound, _) | (.error .notDirectory, _) => runFirst cwd environment i fs failure rest
    | done => done

def launch (cwd : Place) (environment : List (String × String)) (i : Invocation) (fs : FileStore) :
    Except OsError ProcessResult × FileStore :=
  if i.hasZero then (.error .zeroInArgument, fs)
  else if i.program.toList.contains '/' then runFile cwd environment i.program i fs
  else if i.program.isEmpty then (.error .notFound, fs)
  else
    let searchPath := ((environment.lookup "PATH").map Script.Shell.path).getD defaultSearchPath
    let dirs := (Text.splitAt ':' searchPath.toList).map String.ofList
    runFirst cwd environment i fs .notFound (dirs.map (Path.join · i.program))

def home : String := "/root"

/-- A directory with a leading tilde put in place of the home directory. -/
def expandHome (dir : String) : String :=
  match Path.components dir with
  | .name "~" :: rest => if rest.isEmpty then home else Path.join home (Path.ofComponents rest)
  | _ => dir

/-- A name of several components is taken as a path, and any other name is searched. -/
def which (cwd : String) (fs : FileStore) (searchPath : Option String) (name : String) : Option String :=
  let dirs := (searchPath.map fun text => (Text.splitAt ':' text.toList).map String.ofList).getD []
  let paths :=
    if 1 < (Path.components name).length then [Path.join cwd name]
    else dirs.map fun dir => Path.join (expandHome dir) name
  paths.find? (fs.isExecutable (Path.names cwd) ·)

/-- Whether the object at a path passes a test. A path without a slash would name a library of the system, of which
    there are none. -/
def holdsObject (cwd : Place) (test : ByteArray → Bool) (fs : FileStore) (path : String) : Bool :=
  path.toList.contains '/' && (fs.read cwd path).toOption.any test

end ScriptHost

/-- The host that runs shell scripts, with the variables that they see. Their values are texts of bytes. -/
def scriptHost (cwd : String) (environment : List (String × String)) : Host where
  cwd := cwd
  searchPath := (environment.lookup "PATH").map Script.Shell.path
  which := ScriptHost.which cwd
  launch := ScriptHost.launch (Path.names cwd) environment
  loads := ScriptHost.holdsObject (Path.names cwd) ObjectFile.isLoadable
  finds fs path name := ScriptHost.holdsObject (Path.names cwd) (ObjectFile.defines · name) fs path
  symbols := ObjectFile.symbols?

def standardDirectories : List Place :=
  [["boot"], ["dev"], ["dev", "fd"], ["etc"], ["home"], ["media"], ["mnt"], ["opt"], ["proc"], ["proc", "self"],
    ["proc", "self", "fd"], ["root"], ["run"], ["srv"], ["sys"], ["tmp"], ["usr"], ["usr", "bin"], ["usr", "lib"],
    ["usr", "lib64"], ["usr", "local"], ["usr", "local", "bin"], ["usr", "local", "lib"], ["usr", "local", "sbin"],
    ["usr", "sbin"], ["usr", "share"], ["var"], ["var", "tmp"]]

def standardLinks : List (Place × String) :=
  [(["bin"], "usr/bin"), (["lib"], "usr/lib"), (["lib64"], "usr/lib64"), (["sbin"], "usr/sbin"), (["usr", "bin", "sh"], "dash"),
    (["usr", "bin", "rbash"], "bash")]

def standardTexts : List (Place × String) :=
  [(["etc", "group"], "root:x:0:\n"), (["etc", "passwd"], "root:x:0:0:root:/root:/bin/bash\n")]

def standardFiles : FileStore :=
  let programs := Script.Engine.shells.map Prod.fst ++ Utility.programNames
  { nodes := (standardDirectories.map fun place => (place, Node.directory .open)) ++
      (standardLinks.map fun (place, target) => (place, Node.link target)) ++
      (standardTexts.map fun (place, text) => (place, Node.plainFile text.toUTF8 false)) ++
      programs.map fun name => (["usr", "bin", name], Node.program name) }

end BenchKernel
