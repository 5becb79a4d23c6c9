import BenchKernel.Host.ExitStatus
import BenchKernel.Host.OsError

/-! # Toolchain errors

What can go wrong between the lines of a routine and the loaded routine. -/

namespace BenchKernel

inductive ToolchainError
  | compilerNotFound (candidates : List String)
  | spawn (command : String) (cause : OsError)
  | compilerFailed (command : String) (status : ExitStatus) (output : String)
  /-- A file or directory could not be written. -/
  | unwritable (path : String) (cause : OsError)
  | load (path : String)
  | symbol (routine path : String) (exported : List String)
  deriving DecidableEq, Repr

namespace ToolchainError

def name : ToolchainError → String
  | compilerNotFound .. => "CompilerNotFound"
  | spawn .. => "Spawn"
  | compilerFailed .. => "CompilerFailed"
  | unwritable .. => "Io"
  | load .. => "Load"
  | symbol .. => "Symbol"

def message : ToolchainError → String
  | compilerNotFound candidates => s!"no compiler found, tried {Text.quotedList candidates}"
  | spawn command cause => s!"failed to spawn `{command}`: {cause.message}"
  | compilerFailed command status output => s!"`{command}` exited with {status.message}:\n{output}"
  | unwritable path cause => s!"failed to write {path}: {cause.message}"
  | load path => s!"failed to load {path}"
  | symbol routine path exported =>
    s!"symbol `{routine}` not found in {path} (exports: {Text.quotedList exported})"

end ToolchainError

end BenchKernel
