/-! # Faults

A fault is a stop that no error describes: an operation was asked for a value that it does not have, such
as the negation of the least word or an element outside a buffer. Errors are reported to the caller by
their cause; a fault ends the run. -/

namespace BenchKernel

inductive Fault
  /-- A literal whose negation does not fit in a signed word of 64 bits. -/
  | negation (literal : String)
  /-- An element or byte outside a buffer. -/
  | access (index : Nat)
  /-- A buffer larger than a process can address. -/
  | capacity (bytes : Nat)
  deriving DecidableEq, Repr

/-- Why a computation has no result: an error that it reports, or a fault. -/
inductive Stop (ε : Type)
  | error (cause : ε)
  | fault (cause : Fault)
  deriving DecidableEq, Repr

namespace Stop

def map {ε δ : Type} (f : ε → δ) : Stop ε → Stop δ
  | error cause => error (f cause)
  | fault cause => fault cause

end Stop

def reported {ε α : Type} : Except ε α → Except (Stop ε) α
  | .ok a => .ok a
  | .error e => .error (.error e)

def faulting {ε α : Type} : Except Fault α → Except (Stop ε) α
  | .ok a => .ok a
  | .error f => .error (.fault f)

end BenchKernel
