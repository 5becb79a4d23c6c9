import BenchKernel.Target.Emission
import BenchKernel.Toolchain.Compile

/-! # Loaded routines

An artifact is a thread's routine with its files: the object is loaded and the routine found in it by name.
After teardown the files stay, and the routine can no longer be called. -/

namespace BenchKernel

structure Artifact where
  thread : Nat
  assembly : String
  object : String
  compiler : String
  symbol : String
  loaded : Bool := true
  deriving DecidableEq, Repr

namespace Artifact

def callable (a : Artifact) : Bool := a.loaded

def teardown (a : Artifact) : Artifact := { a with loaded := false }

def describe (a : Artifact) : String :=
  Text.showRecord "RuntimeTestArtifact"
    [("thread_id", toString a.thread), ("asm_path", Text.quoted a.assembly),
      ("object_path", Text.quoted a.object), ("compiler", Text.quoted a.compiler),
      ("symbol", Text.quoted a.symbol), ("loaded", toString a.loaded)]

end Artifact

namespace Host

/-- The names that an object file exports; a file that cannot be read exports none. -/
def exportsOf (h : Host) (path : String) (fs : FileStore) : List String :=
  match fs.read h.place path with
  | .ok content => ObjectFile.exportedNames (h.symbols content)
  | .error _ => []

/-- Loads an object and finds a routine in it. -/
def loadObject (h : Host) (path symbol : String) (fs : FileStore) : Except ToolchainError Unit :=
  if !h.loads fs path then .error (.load path)
  else if h.finds fs path symbol then .ok ()
  else .error (.symbol symbol path (h.exportsOf path fs))

/-- Writes, compiles and loads the routine of a thread. -/
def assemble (h : Host) (compiler : String) (arch : Arch) (lines : List String) (name : String) (thread : Nat)
    (dir : String) (w : Workspace) : Except ToolchainError Artifact × Workspace :=
  let assembly := assemblyPath dir name thread
  let object := objectPath dir name thread
  match h.writeRoutine assembly lines w with
  | (.error e, w) => (.error e, w)
  | (.ok (), w) =>
    match h.compile compiler arch.objectFlags assembly object w with
    | (.error e, w) => (.error e, w)
    | (.ok (), w) =>
      match h.loadObject object name w.files with
      | .error e => (.error e, w)
      | .ok () => (.ok { thread, assembly, object, compiler, symbol := name }, w)

end Host

end BenchKernel
