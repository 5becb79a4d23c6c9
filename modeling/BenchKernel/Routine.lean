import BenchKernel.Grammar.Expansion
import BenchKernel.Substitution.Worker

/-! # Routines

A template is expanded once into a skeleton that no thread depends on: the target's header and footer around
the expanded body. A thread's routine is the skeleton with the thread's table applied to the body and to the
stream mark. -/

namespace BenchKernel

structure Skeleton where
  header : List String
  body : List String
  footer : List String
  deriving DecidableEq, Repr

def Skeleton.lines (s : Skeleton) : List String := s.header ++ s.body ++ s.footer

/-- An error of expansion, with the name of the template, or of configuration. -/
inductive RoutineError
  | grammar (template : String) (cause : GrammarError)
  | setup (cause : SetupError)
  deriving DecidableEq, Repr

namespace RoutineError

def message : RoutineError → String
  | grammar template cause => s!"grammar error in template `{template}`: {cause.message}"
  | setup cause => cause.message

def describe : RoutineError → String
  | grammar template cause =>
    Text.showRecord "Grammar" [("template", Text.quoted template), ("source", cause.describe)]
  | setup cause => Text.showWrapped "Config" cause.describe

end RoutineError

def Template.skeleton (t : Template) (arch : Arch) : Except (Stop RoutineError) Skeleton :=
  match t.expanded arch with
  | .ok body => .ok ⟨arch.header t.name, body, arch.footer t.name⟩
  | .error stop => .error (stop.map (RoutineError.grammar t.name))

/-- Header lines for a thread: the stream mark gives way to the loads, or to nothing without streams, and every
    other line stays as it is. -/
def Table.onHeader (table : Table) (hasStreams : Bool) (header : List String) : List String :=
  header.flatMap fun line =>
    if Text.trimmed line != streamMark then [line] else if hasStreams then table.onLines [line] else []

def Skeleton.specialize (s : Skeleton) (t : Template) (arch : Arch) (worker : Worker) :
    Except SetupError (List String) := do
  let table ← Table.ofWorker t arch s.body worker
  return table.onHeader (!t.streams.isEmpty) s.header ++ table.onCode (some arch.commentMark) s.body ++ s.footer

end BenchKernel
