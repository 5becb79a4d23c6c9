import BenchKernel.Stream.Worker
import BenchKernel.Substitution.Table
import BenchKernel.Target.Emission
import BenchKernel.Template.Error

/-! # The table of a worker

For one thread the template's name, its streams and their sizes, the thread's own numbers and the template's
constants and variables are bound to texts, in this order. A stream's name is bound to a register that the
body does not name. -/

namespace BenchKernel

/-- The identifiers that some lines name, in lower case. -/
def usedWords (lines : List String) : List String := lines.flatMap Text.identifiers

/-- The registers of a target that are not among the used words, in table order. -/
def Arch.freeRegisters (arch : Arch) (used : List String) : List String :=
  arch.registers.filter fun r => !used.contains r

def takeRegisters (arch : Arch) (used : List String) (count : Nat) : Except SetupError (List String) :=
  let free := arch.freeRegisters used
  if free.length < count then .error (.registersExhausted arch count free.length) else .ok (free.take count)

/-- A declared stream with its placement and its register. -/
structure BoundStream where
  stream : Stream
  placement : Placement
  register : String

namespace BoundStream

/-- The entries of a stream: its name with the register, and each size token with its extent. -/
def entries (b : BoundStream) : List (String × String) :=
  (b.stream.name, b.register) :: (b.stream.dims.zip b.placement.extents).map fun (token, n) => (token, toString n)

def loads (arch : Arch) (b : BoundStream) : List String := arch.streamLoads b.register b.placement.address

/-- A stream needs one extent for each dimension. -/
def check (b : BoundStream) : Except SetupError Unit :=
  if b.stream.dims.length = b.placement.extents.length then .ok ()
  else .error (.extentMismatch b.stream.name b.stream.dims.length b.placement.extents.length)

end BoundStream

/-- The streams of a template with their placements and the registers that the lines leave free. -/
def placeStreams (t : Template) (arch : Arch) (lines : List String) (worker : Worker) :
    Except SetupError (List BoundStream) := do
  unless t.streams.length = worker.streams.length do
    throw (.streamCount t.streams.length worker.streams.length)
  let registers ← takeRegisters arch (usedWords lines) t.streams.length
  let bound := ((t.streams.zip worker.streams).zip registers).map fun ((s, b), r) => BoundStream.mk s b r
  bound.forM BoundStream.check
  return bound

def loadEntry (arch : Arch) (bound : List BoundStream) : List (String × String) :=
  if bound.isEmpty then [] else [(streamMark, Text.joinLines (bound.flatMap (BoundStream.loads arch)))]

def threadEntries (b : Worker) : List (String × String) :=
  [("NUM_THREADS", toString b.threads), ("THREAD_ID", toString b.thread), ("GROUP_ID", toString b.group),
    ("ITERATIONS", toString b.iterations), ("BYTES_PER_ITERATION", toString b.bytesPerIteration)]

/-- The table of a thread; `lines` are those in which registers must not be taken. -/
def Table.ofWorker (t : Template) (arch : Arch) (lines : List String) (worker : Worker) :
    Except SetupError Table := do
  let bound ← placeStreams t arch lines worker
  return ⟨("NAME", t.name) :: bound.flatMap BoundStream.entries ++ loadEntry arch bound ++ threadEntries worker ++
    t.constants ++ t.vars⟩

end BenchKernel
