import BenchKernel.Kernel
import BenchKernel.Proofs.Grammar.Origin
import BenchKernel.Proofs.Guarded.Expansion
import BenchKernel.Proofs.Machine.Operand

/-! # Kernels without a breach

A template is expanded by line numbers and the routine of a thread is put together with registers cut from a table and
addresses read as operands. Both come to the outcome of the definitions that run, for every template and every thread,
so neither has a breach. What is left is the fault of a POWER loop in the template that asks for the negation of the
least word. -/

namespace BenchKernel

namespace Guarded

/-! ### Routines of threads -/

/-- The first `count` free registers. -/
def takeRegisters (arch : Arch) (used : List String) (count : Nat) : Guarded SetupError (List String) :=
  let free := arch.freeRegisters used
  if free.length < count then throw (.registersExhausted arch count free.length) else slice free 0 count

/-- The streams of a template with their placements and registers. -/
def placeStreams (t : Template) (arch : Arch) (lines : List String) (worker : Worker) :
    Guarded SetupError (List BoundStream) := do
  unless t.streams.length = worker.streams.length do
    throw (.streamCount t.streams.length worker.streams.length)
  let registers ← takeRegisters arch (usedWords lines) t.streams.length
  let bound := ((t.streams.zip worker.streams).zip registers).map fun ((s, b), r) => BoundStream.mk s b r
  plain (bound.forM BoundStream.check)
  return bound

/-- The lines that load an address. POWER reads it as an operand. -/
def streamLoads (arch : Arch) (reg : String) (address : Nat) : Guarded Fault (List String) :=
  match arch with
  | .ppc64 => do return (← plain (Power.load reg ("0x" ++ Text.hexDigits address))).map Power.Op.write
  | arch => pure (arch.streamLoads reg address)

def tableOf (t : Template) (arch : Arch) (lines : List String) (worker : Worker) : Guarded (Stop SetupError) Table := do
  let bound ← reported (placeStreams t arch lines worker)
  let loads ← bound.mapM fun b => faulting (streamLoads arch b.register b.placement.address)
  let entry := if bound.isEmpty then [] else [(streamMark, Text.joinLines loads.flatten)]
  return ⟨("NAME", t.name) :: bound.flatMap BoundStream.entries ++ entry ++ threadEntries worker ++ t.constants ++
    t.vars⟩

/-- The routine of a thread. -/
def specialize (k : Kernel) (worker : Worker) : Guarded (Stop SetupError) (List String) := do
  let table ← tableOf k.template k.settings.arch k.skeleton.body worker
  return table.onHeader (!k.template.streams.isEmpty) k.skeleton.header ++
    table.onCode (some k.settings.arch.commentMark) k.skeleton.body ++ k.skeleton.footer

theorem agrees_takeRegisters (arch : Arch) (used : List String) (count : Nat) :
    Agrees Eq (takeRegisters arch used count) (BenchKernel.takeRegisters arch used count) := by
  unfold takeRegisters BenchKernel.takeRegisters
  dsimp only
  split
  · exact agrees_throw _
  · rename_i hcount
    rw [slice, if_pos (by omega), List.drop_zero]
    exact agrees_pure rfl

theorem agrees_placeStreams (t : Template) (arch : Arch) (lines : List String) (worker : Worker) :
    Agrees Eq (placeStreams t arch lines worker) (BenchKernel.placeStreams t arch lines worker) := by
  unfold placeStreams BenchKernel.placeStreams
  split
  · refine (agrees_takeRegisters arch _ _).bind fun registers registers' _ hregisters => ?_
    subst hregisters
    refine (agrees_plain _).bind fun _ _ _ _ => ?_
    exact agrees_pure rfl
  · exact agrees_throw _

/-- The text of an address reads back as the address, or is a symbol if a signed word does not hold it. -/
theorem load_hexDigits (reg : String) (address : Nat) :
    Power.load reg ("0x" ++ Text.hexDigits address) = .ok (Power.loadAddress reg address) := by
  have hhead : ("0x" ++ Text.hexDigits address).toList.head? ≠ some '-' := by simp [String.toList_append]
  have hword : Number.twoPow 63 = 2 ^ 63 := by decide
  rw [Power.load_eq reg (Assembler.value?_of_magnitude? hhead (Assembler.magnitude?_hexDigits address)),
    Power.loadAddress, hword]
  rfl

theorem streamLoads_eq (arch : Arch) (reg : String) (address : Nat) :
    streamLoads arch reg address = pure (arch.streamLoads reg address) := by
  cases arch with
  | ppc64 =>
    rw [streamLoads, load_hexDigits]
    rfl
  | _ => rfl

theorem agrees_tableOf (t : Template) (arch : Arch) (lines : List String) (worker : Worker) :
    Agrees Eq (tableOf t arch lines worker) (BenchKernel.reported (Table.ofWorker t arch lines worker)) := by
  rw [tableOf, Table.ofWorker, reported_bind]
  refine (agrees_placeStreams t arch lines worker).reported.bind fun bound bound' _ hbound => ?_
  subst hbound
  have hloads : (bound.mapM fun b => faulting (streamLoads arch b.register b.placement.address)) =
      (pure (bound.map (BoundStream.loads arch)) : Guarded (Stop SetupError) _) := by
    simp only [streamLoads_eq]
    exact List.mapM_pure
  rw [hloads, pure_bind, ← List.flatMap_def]
  exact agrees_pure rfl

theorem specialize_eq (k : Kernel) (worker : Worker) :
    specialize k worker = plain (BenchKernel.reported (k.specialize worker)) := by
  apply eq_plain_of_agrees
  rw [specialize, Kernel.specialize, Skeleton.specialize, reported_bind]
  refine (agrees_tableOf _ _ _ worker).bind fun table table' _ htable => ?_
  subst htable
  exact agrees_pure rfl

/-! ### Kernels -/

/-- The renderings of the built-in keywords. -/
def renders : List Render := [renderLoop, renderBlock]

/-- Expands a template. -/
def ofTemplate (template : Template) (settings : Settings) : Guarded (Stop RoutineError) Kernel := do
  let arch := settings.arch
  let body ← mapError (Stop.map (RoutineError.grammar template.name))
    (expandWithin Keyword.builtin renders { arch, template } nestingLimit template.body)
  return ⟨template, settings, ⟨arch.header template.name, body, arch.footer template.name⟩⟩

theorem rendersAll_builtin : RendersAll Keyword.builtin renders :=
  .cons agrees_renderLoop (.cons agrees_renderBlock .nil)

theorem ofTemplate_eq (template : Template) (settings : Settings) :
    ofTemplate template settings = plain (Kernel.ofTemplate template settings) := by
  rw [ofTemplate, eq_plain_of_agrees (agrees_expandWithin rendersAll_builtin _ _)]
  unfold Kernel.ofTemplate Template.skeleton Template.expanded expand
  cases Registry.expandWithin Keyword.builtin { arch := settings.arch, template := template } nestingLimit template.body
  <;> rfl

end Guarded

namespace Kernel

theorem ofTemplate_eq_fault {template : Template} {settings : Settings} {f : Fault}
    (h : ofTemplate template settings = .error (.fault f)) :
    expand Keyword.builtin { arch := settings.arch, template } template.body = .error (.fault f) := by
  unfold ofTemplate Template.skeleton Template.expanded at h
  cases hexpand : expand Keyword.builtin { arch := settings.arch, template := template } template.body with
  | ok body =>
    rw [hexpand] at h
    cases h
  | error stop =>
    rw [hexpand] at h
    cases stop with
    | error e => cases h
    | fault g =>
      cases h
      rfl

/-- Expanding a template and putting together the routine of a thread, with all lookups, cuts and counters guarded,
    come to the outcome of the definitions that run, so they end with a result or with what those report. The only
    fault among that is met on POWER, and only if the template has a loop that passes every check and has an operand
    that asks for the negation of the least word. -/
theorem generation_has_no_breach (template : Template) (settings : Settings) :
    Guarded.ofTemplate template settings = Guarded.plain (ofTemplate template settings) ∧
    (∀ (k : Kernel) (worker : Worker),
      Guarded.specialize k worker = Guarded.plain (reported (k.specialize worker))) ∧
    ∀ f, ofTemplate template settings = .error (.fault f) →
      settings.arch = .ppc64 ∧ ∃ lines l operand, lines <:+: template.body ∧
        Keyword.ReadsLoop settings.arch lines l ∧ operand ∈ [l.start, l.stop, l.step] ∧
        Literal.NegatesLeast operand ∧ f = .negation operand := by
  refine ⟨Guarded.ofTemplate_eq template settings, Guarded.specialize_eq, fun f hf => ?_⟩
  exact expand_eq_fault (ofTemplate_eq_fault hf)

/-- A template with a loop that starts at the negation of the least word. -/
def negatedLeast : Template where
  name := "k"
  body := ["LOOP(l, r3=--9223372036854775808, <, r4=5, 1)", "nop", "LOOPEND(l)"]

theorem negatedLeast_faults :
    ofTemplate negatedLeast { arch := .ppc64 } = .error (.fault (.negation "--9223372036854775808")) ∧
      ∃ lines l operand, lines <:+: negatedLeast.body ∧ Keyword.ReadsLoop .ppc64 lines l ∧
        operand ∈ [l.start, l.stop, l.step] ∧ Literal.NegatesLeast operand ∧
        Fault.negation "--9223372036854775808" = .negation operand := by
  have h : ofTemplate negatedLeast { arch := .ppc64 } = .error (.fault (.negation "--9223372036854775808")) := by
    decide +kernel
  exact ⟨h, ((generation_has_no_breach negatedLeast { arch := .ppc64 }).2.2 _ h).2⟩

end Kernel

end BenchKernel
