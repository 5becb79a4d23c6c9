import BenchKernel.Host.Workspace
import BenchKernel.Toolchain.Error

/-! # Compiling a routine

The lines of a routine go to a file, one per line, and a compiler makes a shared object of it. -/

namespace BenchKernel

def assemblyText (lines : List String) : String := Text.joinLines lines ++ "\n"

def artifactStem (name : String) (thread : Nat) : String := s!"{name}_{thread}"

def assemblyPath (dir name : String) (thread : Nat) : String := Path.join dir (artifactStem name thread ++ ".s")

def objectPath (dir name : String) (thread : Nat) : String := Path.join dir (artifactStem name thread ++ ".so")

def sharedFlags : List String := ["-fPIC", "-shared"]

def compileInvocation (compiler : String) (flags : List String) (assembly object : String) : Invocation :=
  ⟨compiler, sharedFlags ++ flags ++ [assembly, "-o", object]⟩

namespace Host

def writeRoutine (h : Host) (path : String) (lines : List String) (w : Workspace) :
    Except ToolchainError Unit × Workspace :=
  match h.writeText path (assemblyText lines) w with
  | (.ok (), w) => (.ok (), w)
  | (.error e, w) => (.error (.unwritable path e), w)

/-- Makes a shared object. What a successful compiler prints is ignored. -/
def compile (h : Host) (compiler : String) (flags : List String) (assembly object : String) (w : Workspace) :
    Except ToolchainError Unit × Workspace :=
  let command := compileInvocation compiler flags assembly object
  match h.run command w with
  | (.error e, w) => (.error (.spawn command.text e), w)
  | (.ok result, w) =>
    (if result.status.success then .ok () else .error (.compilerFailed command.text result.status result.text), w)

end Host

end BenchKernel
