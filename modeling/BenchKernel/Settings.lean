import BenchKernel.Template.Error
import BenchKernel.Text.Utf8

/-! # Settings

What every thread of a build shares: the target, the directory of its files and the compilers to try. The
environment gives the settings of a run. -/

namespace BenchKernel

/-- The variables of an environment. A value is any sequence of bytes. -/
abbrev Environment := List (String × ByteArray)

/-- The value of a variable that holds text. -/
def Environment.text? (env : Environment) (name : String) : Option String :=
  (env.lookup name).bind String.fromUTF8?

structure Settings where
  arch : Arch
  directory : String := "/tmp"
  /-- The compilers tried before the usual ones. -/
  compilers : List String := []
  /-- The directories searched for compilers in place of the host's. -/
  searchPath : Option (List String) := none
  deriving DecidableEq, Repr

namespace Settings

def addCompiler (s : Settings) (compiler : String) : Settings := { s with compilers := s.compilers ++ [compiler] }

/-- The directory for temporary files where nothing else is said. -/
def systemDirectory (env : Environment) : String := ((env.lookup "TMPDIR").map Text.lossyText).getD "/tmp"

def environmentArch (env : Environment) : Except SetupError Arch :=
  match env.text? "KGEN_ARCH" with
  | some name => if Text.isBlankText name then .ok .default else Arch.parse name
  | none => .ok .default

/-- The settings that an environment asks for. A value that is no text counts as unset, except for the directory,
    and so does a blank target and an empty directory. -/
def ofEnvironment (env : Environment) : Except SetupError Settings := do
  let arch ← environmentArch env
  let directory :=
    match env.lookup "KGEN_TMPDIR" with
    | some value => if value.isEmpty then systemDirectory env else Text.lossyText value
    | none => systemDirectory env
  return { arch, directory, compilers := ((env.text? "KGEN_COMPILER").map Text.words).getD [] }

end Settings

end BenchKernel
