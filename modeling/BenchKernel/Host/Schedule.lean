import BenchKernel.Host.Flow

/-! # Running processes in turn

Of several processes the one that could go on first does so until it waits. When all of them wait, time passes until one
of them can go on. -/

namespace BenchKernel

structure Waiting where
  number : Nat
  pause : Pause
  resume : Machine → Process

namespace Waiting

/-- Whether a process can be taken up. One that a signal is to end is taken up for that. -/
def isReady (w : Waiting) (m : Machine) : Bool :=
  let isDue := w.pause.time.any (· ≤ m.clock) || w.pause.ready m
  if m.table.alerted.contains w.number then
    (m.table.find? w.number).all fun p => p.killed.isSome || (!p.stopped && isDue)
  else isDue

/-- The time at which a process goes on. One that rests does not. -/
def time? (w : Waiting) (m : Machine) : Option Nat :=
  if m.table.alerted.contains w.number then none else w.pause.time

end Waiting

namespace Schedule

def nextTime (m : Machine) (waiting : List Waiting) : Option Nat :=
  waiting.foldl (fun first w =>
    match first, w.time? m with
    | some a, some b => some (min a b)
    | none, time => time
    | time, none => time) none

/-- Lets a process work until it waits or ends. The ones that it starts wait for their turn. -/
def advance (number : Nat) (waiting : List Waiting) : Process → Machine × List Waiting
  | .ended machine => (machine, waiting)
  | .paused machine pause resume => (machine, waiting ++ [⟨number, pause, resume⟩])
  | .forked machine child start resume => advance number (waiting ++ [⟨child, .turn, start⟩]) (resume machine)

def takeUp (m : Machine) (w : Waiting) (others : List Waiting) : Machine × List Waiting :=
  match m.table.find? w.number with
  | none => (m, others)
  | some p =>
    match p.killed with
    | some signal => (m.finish w.number (.signaled signal), others)
    | none => advance w.number others (w.resume m)

/-- Runs processes as long as `isWanted` says of the machine, at most so many times in turn. The processes that can go on
    stand first, in the order in which they became able to. -/
def run (isWanted : Machine → Bool) : (turns : Nat) → Machine → List Waiting → Machine
  | 0, m, _ => m
  | turns + 1, m, waiting =>
    if !isWanted m then m
    else
      match waiting.partition (·.isReady m) with
      | (w :: ready, blocked) =>
        let (m, waiting) := takeUp m w (ready ++ blocked)
        run isWanted turns m waiting
      | ([], blocked) =>
        match nextTime m blocked with
        | some time => run isWanted turns { m with clock := max m.clock time } blocked
        | none => m

end Schedule

end BenchKernel
