import BenchKernel.Host.Machine

/-! # Work that can wait

A process works on the machine until it has to wait, or until it lets others go first. Then it hands the machine over,
together with what it is to do with the machine that it gets back. So several processes can be run in turn. -/

namespace BenchKernel

/-- What a process waits for: something about the machine, or a time. -/
structure Pause where
  ready : Machine → Bool
  time : Option Nat := none

namespace Pause

def turn : Pause := { ready := fun _ => true }

def till (time : Nat) : Pause := { ready := fun _ => false, time }

end Pause

/-- What a process still has to do. -/
inductive Process
  | ended (machine : Machine)
  | paused (machine : Machine) (pause : Pause) (resume : Machine → Process)
  | forked (machine : Machine) (number : Nat) (child : Machine → Process) (resume : Machine → Process)

/-- Work with a result that can wait and start other processes on the way. -/
inductive Flow (α : Type) : Type
  | done (value : α)
  | paused (machine : Machine) (pause : Pause) (resume : Machine → Flow α)
  | forked (machine : Machine) (number : Nat) (child : Machine → Process) (resume : Machine → Flow α)

namespace Flow

variable {α β : Type}

def andThen (next : α → Flow β) : Flow α → Flow β
  | done value => next value
  | paused machine pause resume => .paused machine pause fun m => andThen next (resume m)
  | forked machine number child resume => .forked machine number child fun m => andThen next (resume m)

@[inline] def bind (work : Flow α) (next : α → Flow β) : Flow β :=
  match work with
  | done value => next value
  | paused machine pause resume => .paused machine pause fun m => andThen next (resume m)
  | forked machine number child resume => .forked machine number child fun m => andThen next (resume m)

instance : Monad Flow where
  pure := done
  bind := bind

/-- Work whose result is how a process ends. -/
def toProcess (number : Nat) : Flow (ExitStatus × Machine) → Process
  | done (status, machine) => .ended (machine.finish number status)
  | paused machine pause resume => .paused machine pause fun m => toProcess number (resume m)
  | forked machine child start resume => .forked machine child start fun m => toProcess number (resume m)

end Flow

/-- What a program does as the process with a number. -/
abbrev Program := (number : Nat) → Machine → Flow (ExitStatus × Machine)

end BenchKernel
