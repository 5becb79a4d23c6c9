import BenchKernel.Host.Process
import BenchKernel.Toolchain.Error

/-! # Compiler discovery

The compilers that a caller prefers are tried before the usual ones, and the first that a lookup resolves is
taken. The host looks a name up in the directories of the caller or in its own. -/

namespace BenchKernel

/-- The compilers tried after the preferred ones. -/
def usualCompilers : List String := ["gcc", "cc", "clang"]

/-- The names to try, each once, in the order in which they first occur. -/
def compilerNames (preferred : List String) : List String := (preferred ++ usualCompilers).eraseDups

def resolveCompiler (lookup : String → Option String) (preferred : List String) : Except ToolchainError String :=
  match (compilerNames preferred).findSome? lookup with
  | some path => .ok path
  | none => .error (.compilerNotFound (compilerNames preferred))

namespace Host

/-- The text of a list of directories, which no directory with a colon can stand in. -/
def searchText? (dirs : List String) : Option String :=
  if dirs.any (·.toList.contains ':') then none else some (":".intercalate dirs)

/-- The path of the program with a name, if there is one in the given directories. Where none are given, or they cannot
    be listed, those of the host are searched. -/
def lookup (h : Host) (fs : FileStore) (dirs? : Option (List String)) (name : String) : Option String :=
  h.which fs ((dirs?.bind searchText?).or h.searchPath) name

end Host

end BenchKernel
