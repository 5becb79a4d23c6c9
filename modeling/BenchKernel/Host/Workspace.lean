import BenchKernel.Host.Process

/-! # Workspaces

A workspace is what a build works on: the files and a journal of the programs that the host was asked to
run. Every operation gives its outcome together with the workspace that it leaves, also when it fails. -/

namespace BenchKernel

structure Workspace where
  files : FileStore
  launched : List Invocation := []

namespace Host

/-- Runs a program. The journal has it also if it cannot be started. -/
def run (h : Host) (i : Invocation) (w : Workspace) : Except OsError ProcessResult × Workspace :=
  ((h.launch i w.files).1, ⟨(h.launch i w.files).2, w.launched ++ [i]⟩)

def writeText (h : Host) (path text : String) (w : Workspace) : Except OsError Unit × Workspace :=
  match w.files.write h.place path text.toUTF8 with
  | .ok files => (.ok (), { w with files })
  | .error e => (.error e, w)

def makeDirectories (h : Host) (path : String) (w : Workspace) : Except OsError Unit × Workspace :=
  ((w.files.makeDirectories h.place path).1, { w with files := (w.files.makeDirectories h.place path).2 })

end Host

end BenchKernel
