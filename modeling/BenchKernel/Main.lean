import BenchKernel.CommandLine.Run

/-! # The command line program

Reads the files that a run needs into a store, runs the command line on it, and writes the changed files back. No
program is started from here, so a build finds no compiler. -/

namespace BenchKernel.Main

/-- The variables that settings come from. -/
def settingNames : List String := ["KGEN_ARCH", "KGEN_TMPDIR", "KGEN_COMPILER", "TMPDIR"]

def environment : IO Environment := do
  let values ← settingNames.mapM fun name => return (← IO.getEnv name).map fun value => (name, value.toUTF8)
  return values.filterMap id

def pathText (place : Place) : String := "/" ++ "/".intercalate place

/-- Puts a place into a store as it is on the disk. A directory can be opened, and fails when it is read. -/
def readPlace (fs : FileStore) (place : Place) : IO FileStore := do
  match ← (IO.FS.readBinFile (pathText place)).toBaseIO with
  | .ok content => return fs.put place (.plainFile content false)
  | .error (.inappropriateType none _ _) => return fs.put place (.directory .open)
  | .error _ => return fs

/-- The places on the way to a path, itself included. -/
def placesTo (cwd path : String) : List Place :=
  let place := Path.names (Path.join cwd path)
  (List.range place.length).map fun i => place.take (i + 1)

def pathsOf (request : Except CommandLine.UsageError CommandLine.Request) : List String :=
  match request with
  | .ok (.run options) => ["", options.body] ++ options.output.toList ++ options.tmp.toList
  | _ => []

def writeNode (before : FileStore) (entry : Place × Node) : IO Unit := do
  match entry.2, before.get? entry.1 with
  | .directory _, some (.directory _) => return
  | .directory _, _ => IO.FS.createDirAll (pathText entry.1)
  | .file content _, some (.file old _) =>
    if content.toList != old.toList then IO.FS.writeBinFile (pathText entry.1) content
  | .file content _, _ => IO.FS.writeBinFile (pathText entry.1) content
  | .link _, _ | .program _, _ | .device _, _ | .fifo _, _ => return

end BenchKernel.Main

open BenchKernel in
/-- Runs the command line on the files of the disk. -/
def main (args : List String) : IO UInt32 := do
  let cwd := (← IO.currentDir).toString
  let places := (Main.pathsOf (CommandLine.parse args)).flatMap (Main.placesTo cwd)
  let before ← places.foldlM Main.readPlace {}
  let searchPath := (← IO.getEnv "PATH").map fun value => ("PATH", Script.Shell.ofPath value)
  let host := scriptHost cwd searchPath.toList
  let address (thread stream : Nat) : Nat := 0x7f0000000000 + 0x100000000 * thread + 0x1000000 * stream
  let (report, after) := CommandLine.execute args host (← Main.environment) address ⟨before, []⟩
  after.files.nodes.forM (Main.writeNode before)
  IO.print report.out
  IO.eprint report.err
  return report.exit.toUInt32
