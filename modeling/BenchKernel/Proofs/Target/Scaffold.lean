import BenchKernel.Proofs.Outcome
import BenchKernel.Target.Emission

/-! # The lines around a loop

The lines before a loop body are instructions and, as the last one, the label of the loop. On POWER these lines exist
when the three operands have a value or are symbols; on the other targets they always exist. -/

namespace BenchKernel

/-! ### Literals without a value -/

/-- An operand that asks for the negation of the least word of 64 bits. -/
def Literal.NegatesLeast (text : String) : Prop :=
  ∃ digits, Text.trim text.toList = '-' :: digits ∧ readMagnitude digits = .ok (-Int.ofNat (Number.twoPow 63))

theorem Literal.value?_eq_error {text : String} {f : Fault} (h : value? text = .error f) :
    NegatesLeast text ∧ f = .negation text := by
  unfold value? at h
  split at h
  · rename_i digits htrim
    split at h
    · cases h
    · rename_i n hn
      split at h
      · rename_i hleast
        cases h
        exact ⟨⟨digits, htrim, hleast ▸ hn⟩, rfl⟩
      · cases h
  · split at h <;> cases h

/-! ### POWER operations from known operands -/

namespace Power

/-- What is added to the distance before it is divided by a known step, so that the quotient is rounded up and counts
    an inclusive bound. -/
def bias (l : Loop) (step : Nat) : Nat := if l.direction.isInclusive then step else step - 1

/-- Adds a number to the scratch register, with no line for zero. -/
def addBias (n : Nat) : List Op := if n = 0 then [] else [.addic scratch scratch (Int.ofNat n)]

/-- The division of the distance by a known step, once the values of the step and of the end are known. -/
def divideByKnown (l : Loop) (step : Nat) (stepValue stopValue : Option Int) : List Op :=
  if step = 1 then addBias (bias l step)
  else
    match exponent? step with
    | some k => addBias (bias l step) ++ [.sradi scratch scratch k]
    | none =>
      addBias (bias l step) ++ loadKnown l.limit l.step stepValue ++ [.divd scratch scratch l.limit] ++
        loadKnown l.limit l.stop stopValue

/-- The division of the distance by a step that only the assembler knows. -/
def divideBySymbolKnown (l : Loop) (stepValue stopValue : Option Int) : List Op :=
  loadKnown l.limit l.step stepValue ++ [.add scratch scratch l.limit] ++
    (if l.direction.isInclusive then [] else [.addic scratch scratch (-1)]) ++ [.divd scratch scratch l.limit] ++
    loadKnown l.limit l.stop stopValue

def passesKnown (l : Loop) (stepValue stopValue : Option Int) : List Op :=
  match stepValue.filter fun n => decide (1 ≤ n) && decide (n ≤ 32767) with
  | some n => divideByKnown l n.toNat stepValue stopValue
  | none => divideBySymbolKnown l stepValue stopValue

/-- The operations before a loop body, up to the label. -/
def setupKnown (l : Loop) (startValue stopValue stepValue : Option Int) : List Op :=
  loadKnown l.counter l.start startValue ++ loadKnown l.limit l.stop stopValue ++ [distance l] ++
    passesKnown l stepValue stopValue ++ [.cmpdi scratch 0, .ble (afterLabel l.label), .mtctr scratch, .align]

theorem load_eq {text : String} {value : Option Int} (reg : String) (h : Literal.value? text = .ok value) :
    load reg text = .ok (loadKnown reg text value) := by
  unfold load
  rw [h]
  rfl

theorem passes_eq {l : Loop} {stepValue stopValue : Option Int} (hstep : Literal.value? l.step = .ok stepValue)
    (hstop : Literal.value? l.stop = .ok stopValue) : passes l = .ok (passesKnown l stepValue stopValue) := by
  unfold passes passesKnown
  rw [hstep, ok_bind]
  cases stepValue.filter fun n => decide (1 ≤ n) && decide (n ≤ 32767) with
  | none =>
    simp only [divideBySymbol, load_eq l.limit hstep, load_eq l.limit hstop, ok_bind, divideBySymbolKnown]
    rfl
  | some n =>
    simp only [divideBy, divideByKnown, addBias, bias, load_eq l.limit hstep, load_eq l.limit hstop, ok_bind]
    by_cases hone : n.toNat = 1
    · simp only [hone, ↓reduceIte]
      rfl
    · simp only [hone, ↓reduceIte]
      cases exponent? n.toNat <;> rfl

/-- The operations before a loop body exist exactly when no operand asks for the negation of the least word. -/
theorem header_eq_ok_iff {l : Loop} {ops : List Op} :
    header l = .ok ops ↔ ∃ startValue stopValue stepValue, Literal.value? l.start = .ok startValue ∧
      Literal.value? l.stop = .ok stopValue ∧ Literal.value? l.step = .ok stepValue ∧
      ops = setupKnown l startValue stopValue stepValue ++ [.label l.label] := by
  constructor
  · intro h
    unfold header at h
    obtain ⟨start, hstart, h⟩ := bind_eq_ok.mp h
    obtain ⟨stop, hstop, h⟩ := bind_eq_ok.mp h
    obtain ⟨count, hcount, h⟩ := bind_eq_ok.mp h
    obtain ⟨startValue, hstartValue, hstart⟩ := bind_eq_ok.mp hstart
    obtain ⟨stopValue, hstopValue, hstop⟩ := bind_eq_ok.mp hstop
    obtain ⟨stepValue, hstepValue, -⟩ := bind_eq_ok.mp hcount
    rw [passes_eq hstepValue hstopValue] at hcount
    cases hstart
    cases hstop
    cases hcount
    cases h
    exact ⟨startValue, stopValue, stepValue, hstartValue, hstopValue, hstepValue, by simp [setupKnown]⟩
  · rintro ⟨startValue, stopValue, stepValue, hstart, hstop, hstep, rfl⟩
    unfold header
    rw [load_eq l.counter hstart, load_eq l.limit hstop, passes_eq hstep hstop]
    simp only [ok_bind, setupKnown, List.append_assoc, List.cons_append, List.nil_append]
    rfl

theorem load_eq_error {reg text : String} {f : Fault} (h : load reg text = .error f) :
    Literal.value? text = .error f := by
  rcases bind_eq_error.mp h with h | ⟨_, -, h⟩
  · exact h
  · cases h

theorem header_eq_error {l : Loop} {f : Fault} (h : header l = .error f) :
    ∃ operand ∈ [l.start, l.stop, l.step], Literal.value? operand = .error f := by
  unfold header at h
  rcases bind_eq_error.mp h with h | ⟨_, -, h⟩
  · exact ⟨l.start, by simp, load_eq_error h⟩
  rcases bind_eq_error.mp h with h | ⟨_, hstop, h⟩
  · exact ⟨l.stop, by simp, load_eq_error h⟩
  rcases bind_eq_error.mp h with h | ⟨_, -, h⟩
  · -- The end has a value, so only the step can have stopped the count.
    obtain ⟨stopValue, hstopValue, -⟩ := bind_eq_ok.mp hstop
    rcases bind_eq_error.mp h with hstep | ⟨stepValue, hstepValue, -⟩
    · exact ⟨l.step, by simp, hstep⟩
    · rw [passes_eq hstepValue hstopValue] at h
      cases h
  · cases h

/-! ### Labels -/

def Op.isLabel : Op → Bool
  | .label _ => true
  | _ => false

theorem isLabel_loadKnown {reg text : String} {value : Option Int} :
    ∀ op ∈ loadKnown reg text value, op.isLabel = false := by
  unfold loadKnown
  split <;> simp [Op.isLabel]

theorem isLabel_addBias {n : Nat} : ∀ op ∈ addBias n, op.isLabel = false := by
  unfold addBias
  split <;> simp [Op.isLabel]

theorem isLabel_passesKnown {l : Loop} {stepValue stopValue : Option Int} :
    ∀ op ∈ passesKnown l stepValue stopValue, op.isLabel = false := by
  intro op hop
  unfold passesKnown at hop
  split at hop
  · unfold divideByKnown at hop
    split at hop
    · exact isLabel_addBias op hop
    · split at hop
      · simp only [List.mem_append, List.mem_singleton] at hop
        rcases hop with hop | rfl
        · exact isLabel_addBias op hop
        · rfl
      · simp only [List.mem_append, List.mem_singleton] at hop
        rcases hop with ((hop | hop) | rfl) | hop
        · exact isLabel_addBias op hop
        · exact isLabel_loadKnown op hop
        · rfl
        · exact isLabel_loadKnown op hop
  · unfold divideBySymbolKnown at hop
    simp only [List.mem_append, List.mem_singleton] at hop
    rcases hop with (((hop | rfl) | hop) | rfl) | hop
    · exact isLabel_loadKnown op hop
    · rfl
    · split at hop <;> simp_all [Op.isLabel]
    · rfl
    · exact isLabel_loadKnown op hop

theorem isLabel_setupKnown {l : Loop} {startValue stopValue stepValue : Option Int} :
    ∀ op ∈ setupKnown l startValue stopValue stepValue, op.isLabel = false := by
  intro op hop
  simp only [setupKnown, List.mem_append, List.mem_cons, List.not_mem_nil, or_false] at hop
  rcases hop with (((hop | hop) | rfl) | hop) | rfl | rfl | rfl | rfl
  · exact isLabel_loadKnown op hop
  · exact isLabel_loadKnown op hop
  · unfold distance
    split
    · rfl
    · split <;> rfl
  · exact isLabel_passesKnown op hop
  all_goals rfl

end Power

namespace Branching

def Op.isLabel : Op → Bool
  | .label _ => true
  | _ => false

/-- The lane predicates that a loop starts with, where it uses them. -/
def firstLanes (vector : Bool) (l : Loop) : List Op :=
  match if vector then lanePredicate? l.direction else none with
  | some inclusive => .allLanes :: updateLanes inclusive l
  | none => []

/-- The operations before a loop body, up to the label. -/
def setup (vector : Bool) (l : Loop) : List Op :=
  [start l, .load l.limit l.stop] ++ firstLanes vector l ++ [.align]

theorem header_eq (vector : Bool) (l : Loop) : header vector l = setup vector l ++ [.label l.label] := by
  unfold header setup firstLanes
  cases if vector then lanePredicate? l.direction else none <;> simp

theorem isLabel_updateLanes {inclusive : Bool} {l : Loop} :
    ∀ op ∈ updateLanes inclusive l, op.isLabel = false := by
  simp [updateLanes, laneCopies, Op.isLabel]

theorem isLabel_firstLanes {vector : Bool} {l : Loop} : ∀ op ∈ firstLanes vector l, op.isLabel = false := by
  intro op hop
  unfold firstLanes at hop
  split at hop
  · rcases List.mem_cons.mp hop with rfl | hop
    · rfl
    · exact isLabel_updateLanes op hop
  · cases hop

theorem isLabel_setup {vector : Bool} {l : Loop} : ∀ op ∈ setup vector l, op.isLabel = false := by
  intro op hop
  simp only [setup, List.mem_append, List.mem_cons, List.not_mem_nil, or_false] at hop
  rcases hop with ((rfl | rfl) | hop) | rfl
  · unfold start
    split <;> rfl
  · rfl
  · exact isLabel_firstLanes op hop
  · rfl

theorem isLabel_footer {vector : Bool} {l : Loop} : ∀ op ∈ footer vector l, op.isLabel = false := by
  intro op hop
  unfold footer at hop
  split at hop
  · simp only [List.mem_cons, List.mem_append, List.not_mem_nil, or_false] at hop
    rcases hop with rfl | hop | rfl
    · rfl
    · exact isLabel_updateLanes op hop
    · rfl
  · simp only [List.mem_cons, List.not_mem_nil, or_false] at hop
    rcases hop with rfl | rfl | rfl <;> rfl

end Branching

theorem Arch.loopPrologue_eq_error {arch : Arch} {l : Loop} {f : Fault} (h : arch.loopPrologue l = .error f) :
    arch = .ppc64 ∧ ∃ operand ∈ [l.start, l.stop, l.step], Literal.NegatesLeast operand ∧ f = .negation operand := by
  unfold Arch.loopPrologue at h
  cases arch with
  | ppc64 =>
    cases hheader : Power.header l with
    | ok ops =>
      rw [hheader] at h
      cases h
    | error g =>
      rw [hheader] at h
      cases h
      obtain ⟨operand, hoperand, hvalue⟩ := Power.header_eq_error hheader
      exact ⟨rfl, operand, hoperand, Literal.value?_eq_error hvalue⟩
  | _ => cases h

end BenchKernel
