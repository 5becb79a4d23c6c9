import BenchKernel.Proofs.Machine.Assembler
import BenchKernel.Target.Loop
import Mathlib.Data.BitVec
import Mathlib.Tactic.MkIffOfInductiveProp

/-! # How often a loop should run

A loop with constant operands stands for the values that its register is to take: the start, and on from there by the
step, as long as the value compares with the end as the direction says. This file counts these values. Since the step
is positive, they are the first so many of the sequence. -/

namespace BenchKernel

/-- A number is a signed one of `w` bits. -/
def Fits (w : Nat) (n : Int) : Prop := -2 ^ (w - 1) ≤ n ∧ n < 2 ^ (w - 1)

instance (w : Nat) (n : Int) : Decidable (Fits w n) := inferInstanceAs (Decidable (_ ∧ _))

theorem toInt_ofInt {w : Nat} (hw : 0 < w) {n : Int} (h : Fits w n) : (BitVec.ofInt w n).toInt = n :=
  BitVec.toInt_ofInt_eq_self hw h.1 h.2

namespace Direction

/-- Whether two numbers compare as the direction says. -/
def holds : Direction → Int → Int → Bool
  | less, a, b => a < b
  | lessEqual, a, b => a ≤ b
  | greater, a, b => b < a
  | greaterEqual, a, b => b ≤ a
  | equal, a, b => a = b
  | notEqual, a, b => a ≠ b

/-- Whether the direction is an order, and neither an equality nor an inequality. -/
def isOrder : Direction → Bool
  | equal | notEqual => false
  | _ => true

end Direction

namespace Loop

/-! ### Values -/

def startValue (l : Loop) : Int := (Assembler.constant? l.start).getD 0

def stopValue (l : Loop) : Int := (Assembler.constant? l.stop).getD 0

def stepValue (l : Loop) : Int := (Assembler.constant? l.step).getD 0

/-- The value of the loop register on a pass, counted from zero. -/
def value (l : Loop) (pass : Nat) : Int :=
  if l.direction.countsDown then l.startValue - pass * l.stepValue else l.startValue + pass * l.stepValue

/-- The number of values of the loop register that compare with the end as the direction says. With a positive step
    none of them comes after as many passes as the start and the end are apart. -/
def trips (l : Loop) : Nat :=
  (List.range ((l.stopValue - l.startValue).natAbs + 1)).countP fun pass =>
    l.direction.holds (l.value pass) l.stopValue

/-- The operands are constants, the step is positive and the direction is an order. -/
@[mk_iff]
structure Countable (l : Loop) : Prop where
  start : (Assembler.constant? l.start).isSome
  stop : (Assembler.constant? l.stop).isSome
  step : (Assembler.constant? l.step).isSome
  positive : 1 ≤ l.stepValue
  order : l.direction.isOrder = true

instance (l : Loop) : Decidable l.Countable := decidable_of_iff _ (countable_iff l).symm

variable {l : Loop}

namespace Countable

theorem constant_start (h : l.Countable) : Assembler.constant? l.start = some l.startValue := by
  obtain ⟨n, hn⟩ := Option.isSome_iff_exists.mp h.start
  rw [startValue, hn, Option.getD_some]

theorem constant_stop (h : l.Countable) : Assembler.constant? l.stop = some l.stopValue := by
  obtain ⟨n, hn⟩ := Option.isSome_iff_exists.mp h.stop
  rw [stopValue, hn, Option.getD_some]

theorem constant_step (h : l.Countable) : Assembler.constant? l.step = some l.stepValue := by
  obtain ⟨n, hn⟩ := Option.isSome_iff_exists.mp h.step
  rw [stepValue, hn, Option.getD_some]

end Countable

/-! ### Counting -/

/-- How far the end is from the start, in the direction of the loop. -/
def distance (l : Loop) : Int :=
  if l.direction.countsDown then l.startValue - l.stopValue else l.stopValue - l.startValue

theorem holds_value_iff (h : l.Countable) (pass : Nat) :
    l.direction.holds (l.value pass) l.stopValue = true ↔
      if l.direction.isInclusive then pass * l.stepValue ≤ l.distance else pass * l.stepValue < l.distance := by
  have horder := h.order
  unfold value distance
  cases hd : l.direction <;> simp [hd, Direction.isOrder, Direction.holds, Direction.isInclusive, Direction.countsDown]
    at horder ⊢ <;> omega

end Loop

/-- Of a property that no number has after one that lacks it, counting finds the first number that lacks it. -/
theorem lt_countP_range_iff {P : Nat → Bool} (hP : ∀ k, P (k + 1) = true → P k = true) {k n : Nat} :
    k < (List.range n).countP P ↔ k < n ∧ P k = true := by
  have hdown : ∀ j k, P (k + j) = true → P k = true := by
    intro j
    induction j with
    | zero => exact fun _ h => h
    | succ j ih => exact fun k h => ih k (hP _ h)
  induction n generalizing k with
  | zero => simp
  | succ n ih =>
    rw [List.range_succ, List.countP_append, List.countP_singleton]
    cases hn : P n
    · simp only [Bool.false_eq_true, ↓reduceIte, Nat.add_zero, ih]
      constructor
      · exact fun h => ⟨by omega, h.2⟩
      · rintro ⟨hk, hPk⟩
        refine ⟨?_, hPk⟩
        rcases Nat.lt_or_eq_of_le (Nat.le_of_lt_succ hk) with hlt | rfl
        · exact hlt
        · rw [hn] at hPk
          cases hPk
    · have hall : ∀ k ≤ n, P k = true := fun k hk => hdown (n - k) k (by rwa [Nat.add_sub_cancel' hk])
      have hcount : (List.range n).countP P = n := by
        have hle : (List.range n).countP P ≤ n := by simpa using @List.countP_le_length _ P (List.range n)
        by_contra hne
        have hlt : (List.range n).countP P < n := by omega
        have := ih.mpr ⟨hlt, hall _ hlt.le⟩
        omega
      simp only [↓reduceIte, hcount]
      constructor
      · exact fun h => ⟨h, hall k (by omega)⟩
      · exact fun h => h.1

namespace Loop
variable {l : Loop}

/-- The values that compare as the direction says are those of the first `trips` passes. -/
theorem lt_trips_iff (h : l.Countable) {pass : Nat} :
    pass < l.trips ↔ l.direction.holds (l.value pass) l.stopValue = true := by
  have hstep := h.positive
  have hdown : ∀ k, l.direction.holds (l.value (k + 1)) l.stopValue = true →
      l.direction.holds (l.value k) l.stopValue = true := by
    intro k
    rw [holds_value_iff h, holds_value_iff h, Int.natCast_succ, Int.add_mul, Int.one_mul]
    split <;> omega
  rw [trips, lt_countP_range_iff hdown, and_iff_right_iff_imp, holds_value_iff h]
  have hmul : (pass : Int) * 1 ≤ pass * l.stepValue := Int.mul_le_mul_of_nonneg_left hstep (by omega)
  unfold distance
  split <;> split <;> omega

end Loop

end BenchKernel
