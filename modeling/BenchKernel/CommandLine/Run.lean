import BenchKernel.CommandLine.Parse
import BenchKernel.Kernel
import BenchKernel.Stream.Buffer

/-! # Running a command line

A run reads the body, expands it and allocates the streams of every thread. It then either builds the routines
or writes them out, all of them or none. -/

namespace BenchKernel.CommandLine

inductive RunError
  | file (cause : OsError)
  | noName
  | setup (cause : SetupError)
  | routine (cause : RoutineError)
  | missingSize (token : String)
  | badSize (token value : String) (cause : Number.ReadError)
  | threadsFailed (failed total : Nat)
  deriving DecidableEq, Repr

def RunError.describe : RunError → String
  | file cause => cause.describe
  | noName => Text.quoted "cannot derive a benchmark name from the body path"
  | setup cause => cause.describe
  | routine cause => cause.describe
  | missingSize token => Text.quoted s!"no --size given for token `{token}`"
  | badSize token value cause => Text.quoted s!"size `{token}={value}`: {cause.message}"
  | threadsFailed failed total => Text.quoted s!"{failed} of {total} threads failed"

structure Report where
  exit : Nat := 0
  out : String := ""
  err : String := ""
  deriving DecidableEq, Repr

namespace Options

/-- The name of the routines: the chosen one, or that of the body's file. -/
def routineName (o : Options) : Except RunError String :=
  match o.name.or (Path.fileStem? o.body) with
  | some name => .ok name
  | none => .error .noName

def template (o : Options) (name text : String) : Template :=
  { name, body := Text.lines text, streams := o.streams, constants := o.constants, vars := o.vars }

/-- The settings of a run: those of the environment, where no option says otherwise. Compilers given as options are
    tried before those of the environment. -/
def settings (o : Options) (s : Settings) : Settings :=
  { s with arch := o.arch.getD s.arch, directory := o.tmp.getD s.directory, compilers := o.compilers ++ s.compilers }

def kernel (o : Options) (env : Environment) (text : String) : Except (Stop RunError) Kernel := do
  let name ← reported o.routineName
  let settings ←
    match Settings.ofEnvironment env with
    | .ok s => .ok (o.settings s)
    | .error e => .error (.error (.setup e))
  match Kernel.ofTemplate (o.template name text) settings with
  | .ok k => .ok k
  | .error stop => .error (stop.map .routine)

/-- The extent that a size token stands for: the first size given for it. -/
def extent (o : Options) (token : String) : Except RunError Nat :=
  match o.sizes.lookup token with
  | none => .error (.missingSize token)
  | some value =>
    match Number.readWord value with
    | .ok n => .ok n
    | .error e => .error (.badSize token value e)

def buffer (o : Options) (address : Nat) (s : Stream) : Except (Stop RunError) Buffer := do
  let extents ← reported (s.dims.mapM o.extent)
  match Buffer.allocate address s.type extents with
  | .ok b => .ok b
  | .error stop => .error (stop.map .setup)

/-- The buffers of a thread; `address` gives where each stream starts. -/
def buffers (o : Options) (address : Nat → Nat) : Except (Stop RunError) (List Buffer) :=
  o.streams.zipIdx.mapM fun (s, i) => o.buffer (address i) s

/-- What a thread is told about its buffers and its place among the threads. The number of their bytes always is a word of
    64 bits, since all buffers of a thread lie side by side in one memory. -/
def workerOf (o : Options) (thread : Nat) (buffers : List Buffer) : Worker :=
  { thread
    group := 0
    threads := o.threads
    iterations := o.iterations
    bytesPerIteration := buffers.foldl (fun n b => n + b.length * b.type.size) 0
    streams := buffers.map Buffer.placement }

/-- The workers of all threads; `address` gives where each stream of each thread starts. -/
def workers (o : Options) (address : Nat → Nat → Nat) : Except (Stop RunError) (List Worker) :=
  (List.range o.threads).mapM fun thread => do
    let buffers ← o.buffers (address thread)
    return o.workerOf thread buffers

/-! ### Writing routines out -/

/-- Lines, each with a newline at its end. -/
def endedLines (lines : List String) : String := String.join (lines.map (· ++ "\n"))

/-- The text of a thread's routine, under a comment that names the thread if there are several. -/
def threadListing (o : Options) (k : Kernel) (worker : Worker) : Except SetupError String := do
  let lines ← k.specialize worker
  let heading := if 1 < o.threads then [k.settings.arch.comment s!"thread {worker.thread}"] else []
  return endedLines (heading ++ lines)

def listing (o : Options) (k : Kernel) (workers : List Worker) : Except RunError String :=
  match workers.mapM (o.threadListing k) with
  | .ok texts => .ok (String.join texts)
  | .error e => .error (.routine (.setup e))

/-- Puts the text of all routines where it was asked for. -/
def writeListing (o : Options) (h : Host) (text : String) (w : Workspace) : Except RunError Report × Workspace :=
  match o.output with
  | none => (.ok { out := text }, w)
  | some path =>
    match h.writeText path text w with
    | (.ok (), w) => (.ok {}, w)
    | (.error e, w) => (.error (.file e), w)

/-! ### Building routines -/

/-- What is printed about a built routine. -/
def builtLines (o : Options) (a : Artifact) : List String :=
  s!"thread {a.thread}: {a.assembly} -> {a.object}" :: if o.run then [s!"thread {a.thread}: ran `{a.symbol}`"] else []

def buildReport (o : Options) (outcomes : List (Except BuildError Artifact)) : Report :=
  let built := outcomes.filterMap fun
    | .ok a => some a
    | .error _ => none
  let errors := outcomes.filterMap fun
    | .ok _ => none
    | .error e => some s!"error: {e.message}"
  let failure :=
    if errors.isEmpty then [] else ["Error: " ++ (RunError.threadsFailed errors.length o.threads).describe]
  { exit := if errors.isEmpty then 0 else 1
    out := endedLines (built.flatMap o.builtLines)
    err := endedLines (errors ++ failure) }

end Options

/-- The exit status of a run that ends in a fault. -/
def faultExit : Nat := 101

def stopReport : Stop RunError → Report
  | .error e => { exit := 1, err := s!"Error: {e.describe}\n" }
  | .fault _ => { exit := faultExit }

def Options.prepare (o : Options) (h : Host) (env : Environment) (address : Nat → Nat → Nat) (fs : FileStore) :
    Except (Stop RunError) (Kernel × List Worker) :=
  match fs.readText h.place o.body with
  | .error e => .error (.error (.file e))
  | .ok text => do
    let k ← o.kernel env text
    let workers ← o.workers address
    return (k, workers)

def Options.execute (o : Options) (h : Host) (env : Environment) (address : Nat → Nat → Nat) (w : Workspace) :
    Report × Workspace :=
  match o.prepare h env address w.files with
  | .error stop => (stopReport stop, w)
  | .ok (k, workers) =>
    if o.compile || o.run then
      let (outcomes, w) := k.buildAll h workers w
      (o.buildReport outcomes, w)
    else
      match o.listing k workers with
      | .error e => (stopReport (.error e), w)
      | .ok text =>
        match o.writeListing h text w with
        | (.ok report, w) => (report, w)
        | (.error e, w) => (stopReport (.error e), w)

def versionText : String := "kgen 0.1.0\n"

def helpText : String :=
  "Micro-benchmark kernel compiler\n\nUsage: kgen [OPTIONS] <BODY>\n\nOptions:\n" ++
    Options.endedLines (Field.longNames.map fun (_, field) => "  " ++ field.usage)

/-- A report after what the run wrote to the standard streams by their paths. -/
def Report.after (r : Report) (fs : FileStore) : Report :=
  { r with out := Text.lossyText fs.out ++ r.out, err := Text.lossyText fs.err ++ r.err }

def execute (args : List String) (h : Host) (env : Environment) (address : Nat → Nat → Nat) (w : Workspace) :
    Report × Workspace :=
  match parse args with
  | .error e => ({ exit := 2, err := e.message }, w)
  | .ok .version => ({ out := versionText }, w)
  | .ok .help => ({ out := helpText }, w)
  | .ok (.run options) =>
    let (report, w) := options.execute h env address w
    (report.after w.files, w)

end BenchKernel.CommandLine
