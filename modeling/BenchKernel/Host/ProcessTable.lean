import BenchKernel.Host.ExitStatus

/-! # Tables of processes

What a machine knows about its processes: who has started whom, what they have open, the signals that they have got,
and how they have ended. A process that has ended stays in the table until the one that started it has asked how. -/

namespace BenchKernel

/-- What is known about a process. -/
structure ProcessState where
  number : Nat
  parent : Nat
  held : List Nat := []
  caught : List Nat := []
  ignored : List Nat := []
  /-- The signals that it handles itself, and that it has not looked at. -/
  arrived : List Nat := []
  killed : Option Nat := none
  stopped : Bool := false
  status : Option ExitStatus := none
  deriving Repr

namespace ProcessState

def isAlive (p : ProcessState) : Bool := p.status.isNone

/-- The signals that stop a process which does not handle them. -/
def restingSignals : List Nat := [20, 21, 22]

/-- A process gets a signal: it ignores or notes it, stops or is to end. -/
def receive (p : ProcessState) (signal : Nat) : ProcessState :=
  if signal = 0 || !p.isAlive then p
  else if signal = 9 then { p with killed := some 9 }
  else if signal = 19 then { p with stopped := true }
  else
    let p := if signal = 18 then { p with stopped := false } else p
    if p.ignored.contains signal then p
    else if p.caught.contains signal then
      { p with arrived := if p.arrived.contains signal then p.arrived else p.arrived ++ [signal] }
    else if ExitStatus.harmlessSignals.contains signal then p
    else if restingSignals.contains signal then { p with stopped := true }
    else { p with killed := p.killed <|> some signal }

end ProcessState

/-- The process to which those belong whose parent has ended. -/
def ProcessState.adopter : Nat := 1

/-- The process that starts the first program. -/
def ProcessState.observer : Nat := 4710

structure ProcessTable where
  processes : List ProcessState := [{ number := ProcessState.observer, parent := ProcessState.adopter }]
  ended : List ProcessState := []
  alerted : List Nat := []
  next : Nat := ProcessState.observer + 1

namespace ProcessTable

variable (t : ProcessTable)

variable (number : Nat)

def find? : Option ProcessState :=
  (t.processes.find? (·.number == number)).orElse fun _ => t.ended.find? (·.number == number)

variable (change : ProcessState → ProcessState)

/-- Changes a process, and says whether it is to end or rest. -/
def modifyIn : List ProcessState → List ProcessState × Bool
  | [] => ([], false)
  | p :: rest =>
    if p.number == number then
      let changed := change p
      (changed :: rest, changed.killed.isSome || changed.stopped)
    else
      let (rest, isAlerted) := modifyIn rest
      (p :: rest, isAlerted)

def modify : ProcessTable :=
  let (processes, isAlerted) := modifyIn number change t.processes
  let others := t.alerted.filter (· != number)
  { t with processes, alerted := if isAlerted then number :: others else others }

def add (parent : Nat) (held : List Nat) : Nat × ProcessTable :=
  let ignored := ((t.find? parent).map ProcessState.ignored).getD []
  (t.next, { t with processes := { number := t.next, parent, held, ignored } :: t.processes, next := t.next + 1 })

def isAlive : Bool := t.processes.any (·.number == number)

/-- Ends a process. The ones that it has started are adopted, and the one that has started it gets a signal. -/
def finish (status : ExitStatus) : ProcessTable :=
  match t.processes.find? (·.number == number) with
  | none => t
  | some own =>
    let others := (t.processes.filter fun p => p.number != number).map fun p =>
      if p.parent == number then { p with parent := ProcessState.adopter } else p
    let left := t.ended.filter fun p => p.parent != number
    let ended := { own with status := some status, held := [], arrived := [], killed := none, stopped := false }
    let isAsked := others.any fun p => p.number == own.parent
    let t := { t with processes := others, alerted := t.alerted.filter (· != number), ended := if isAsked then ended :: left else left }
    t.modify own.parent (·.receive 17)

/-- Takes a process that has ended out of the table. -/
def forget : ProcessTable :=
  { t with ended := t.ended.filter fun p => p.number != number }

/-- How a process has ended, if it has. One that is not in the table counts as ended. -/
def status? : Option ExitStatus :=
  if t.isAlive number then none
  else (((t.ended.find? (·.number == number)).bind ProcessState.status)).orElse fun _ => some (.exited 127)

def hasOthers : Bool :=
  t.processes.any fun p => p.number != number && p.number != ProcessState.observer

def endedChildren : List (Nat × ExitStatus) :=
  (t.ended.filterMap fun p => if p.parent == number then p.status.map fun status => (p.number, status) else none).mergeSort
    fun a b => decide (a.1 ≤ b.1)

def hasEndedChild : Bool := t.ended.any fun p => p.parent == number

def hasChildren : Bool := (t.processes ++ t.ended).any fun p => p.parent == number

def offspringWithin : (depth : Nat) → (number : Nat) → List Nat
  | 0, _ => []
  | depth + 1, number =>
    let children := (t.processes.filter fun p => p.parent == number && p.number != number).map ProcessState.number
    children ++ children.flatMap (offspringWithin depth)

/-- The processes that a process has started, directly or through others. -/
def offspring : List Nat := t.offspringWithin (t.processes.length + 1) number

def isHeld (isMeant : Nat → Bool) : Bool := t.processes.any fun p => p.held.any isMeant

end ProcessTable

end BenchKernel
