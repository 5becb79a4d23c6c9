import BenchKernel.Routine
import BenchKernel.Settings
import BenchKernel.Toolchain.Artifact
import BenchKernel.Toolchain.Discovery

/-! # Kernels

A kernel is a template expanded for the target of its settings. It gives the routine of each thread and builds
the routines one after another, each thread with an outcome of its own. -/

namespace BenchKernel

structure Kernel where
  template : Template
  settings : Settings
  skeleton : Skeleton
  deriving DecidableEq, Repr

/-- Why a thread's routine could not be built. -/
inductive BuildError
  | setup (cause : SetupError)
  | toolchain (cause : ToolchainError)
  deriving DecidableEq, Repr

def BuildError.name : BuildError → String
  | setup cause => cause.name
  | toolchain cause => cause.name

def BuildError.message : BuildError → String
  | setup cause => cause.message
  | toolchain cause => cause.message

namespace Kernel

def ofTemplate (template : Template) (settings : Settings) : Except (Stop RoutineError) Kernel :=
  match template.skeleton settings.arch with
  | .ok skeleton => .ok ⟨template, settings, skeleton⟩
  | .error stop => .error stop

def specialize (k : Kernel) (worker : Worker) : Except SetupError (List String) :=
  k.skeleton.specialize k.template k.settings.arch worker

/-- Builds the routine of a thread. The routine and the compiler are settled before anything is written. -/
def build (k : Kernel) (h : Host) (worker : Worker) (w : Workspace) :
    Except BuildError Artifact × Workspace :=
  match k.specialize worker with
  | .error e => (.error (.setup e), w)
  | .ok lines =>
    match resolveCompiler (h.lookup w.files k.settings.searchPath) k.settings.compilers with
    | .error e => (.error (.toolchain e), w)
    | .ok compiler =>
      match h.makeDirectories k.settings.directory w with
      | (.error e, w) => (.error (.toolchain (.unwritable k.settings.directory e)), w)
      | (.ok (), w) =>
        match h.assemble compiler k.settings.arch lines k.template.name worker.thread k.settings.directory w with
        | (.error e, w) => (.error (.toolchain e), w)
        | (.ok artifact, w) => (.ok artifact, w)

/-- Builds the routines of some threads in order. One that fails does not stop the ones after it. -/
def buildAll (k : Kernel) (h : Host) : List Worker → Workspace → List (Except BuildError Artifact) × Workspace
  | [], w => ([], w)
  | worker :: rest, w =>
    let (outcome, w) := k.build h worker w
    let (outcomes, w) := buildAll k h rest w
    (outcome :: outcomes, w)

end Kernel

end BenchKernel
