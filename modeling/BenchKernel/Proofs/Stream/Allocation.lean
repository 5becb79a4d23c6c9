import BenchKernel.Proofs.Outcome
import BenchKernel.Stream.Buffer
import Mathlib.Algebra.BigOperators.Ring.List
import Mathlib.Algebra.Order.Ring.Nat

/-! # Which buffers are allocated

A buffer needs the bytes of its elements and one alignment step more. It is refused when this is no word of 64 bits, and
also when the extents, multiplied from left to right, leave the words before a zero among them makes the product zero.
So the order of extents without a zero does not count, while a list with a zero may fit in one order only. -/

namespace BenchKernel.Buffer

variable {product count padded : Nat} {extents : List Nat} {type : ElementType}

/-- Some first extents have a product that is no word. -/
def Overflows (extents : List Nat) : Prop := ∃ first, first <+: extents ∧ 2 ^ 64 ≤ first.prod

/-- The bytes of storage for a buffer, as a number without bound. -/
def paddedSize (type : ElementType) (extents : List Nat) : Nat := extents.prod * type.size + 64

theorem wordMax_lt_iff {n : Nat} : Number.wordMax < n ↔ 2 ^ 64 ≤ n := by
  have h : Number.wordMax = 2 ^ 64 - 1 := by decide
  omega

theorem le_wordMax_iff {n : Nat} : n ≤ Number.wordMax ↔ n < 2 ^ 64 := by
  rw [← not_lt, wordMax_lt_iff, not_le]

/-- The count is the product when no product on the way leaves the words. -/
theorem elementCount?_eq_some_iff (h : product < 2 ^ 64) : elementCount? product extents = some count ↔
    count = product * extents.prod ∧ ∀ first, first <+: extents → product * first.prod < 2 ^ 64 := by
  induction extents generalizing product with
  | nil =>
    simp only [elementCount?, List.prefix_nil, List.prod_nil, Nat.mul_one, forall_eq, h, and_true,
      Option.some.injEq, eq_comm]
  | cons n rest ih =>
    rw [elementCount?]
    simp only [List.prefix_cons_iff, List.prod_cons, ← Nat.mul_assoc]
    split
    · rename_i hover
      rw [wordMax_lt_iff] at hover
      refine ⟨fun h => (by cases h), fun ⟨_, hall⟩ => ?_⟩
      have := hall [n] (Or.inr ⟨[], rfl, List.nil_prefix⟩)
      simp only [List.prod_cons, List.prod_nil, Nat.mul_one] at this
      omega
    · rename_i hfits
      rw [wordMax_lt_iff, not_le] at hfits
      rw [ih hfits]
      refine and_congr_right fun _ => ⟨?_, ?_⟩
      · rintro hall first (rfl | ⟨first, rfl, hfirst⟩)
        · simpa using h
        · rw [List.prod_cons, ← Nat.mul_assoc]
          exact hall first hfirst
      · intro hall first hfirst
        have := hall (n :: first) (Or.inr ⟨first, rfl, hfirst⟩)
        rwa [List.prod_cons, ← Nat.mul_assoc] at this

theorem not_overflows_iff : ¬Overflows extents ↔ ∀ first, first <+: extents → first.prod < 2 ^ 64 := by
  simp only [Overflows, not_exists, not_and, not_le]

/-- The two checks of the size in bytes are one: the padded size is the larger. -/
theorem sizes?_eq (type : ElementType) (extents : List Nat) : sizes? type extents =
    (elementCount? 1 extents).bind fun count =>
      if count * type.size + 64 < 2 ^ 64 then some (count, count * type.size + 64) else none := by
  unfold sizes?
  cases elementCount? 1 extents with
  | none => rfl
  | some count =>
    simp only [Option.bind_eq_bind, Option.bind_some, guard, le_wordMax_iff, bufferAlignment]
    by_cases hpadded : count * type.size + 64 < 2 ^ 64
    · rw [if_pos hpadded, if_pos (by omega), if_pos hpadded]
      rfl
    · rw [if_neg hpadded, if_neg hpadded]
      split <;> rfl

theorem sizes?_eq_some_iff : sizes? type extents = some (count, padded) ↔ ¬Overflows extents ∧
    paddedSize type extents < 2 ^ 64 ∧ count = extents.prod ∧ padded = paddedSize type extents := by
  have hcount : ∀ n, elementCount? 1 extents = some n ↔ n = extents.prod ∧ ¬Overflows extents := by
    intro n
    rw [elementCount?_eq_some_iff (by decide), not_overflows_iff]
    simp only [Nat.one_mul]
  rw [sizes?_eq, Option.bind_eq_some_iff]
  constructor
  · rintro ⟨n, hn, h⟩
    obtain ⟨rfl, hfits⟩ := (hcount n).mp hn
    split at h
    · rename_i hsmall
      cases h
      exact ⟨hfits, hsmall, rfl, rfl⟩
    · cases h
  · rintro ⟨hfits, hsmall, rfl, rfl⟩
    exact ⟨extents.prod, (hcount _).mpr ⟨rfl, hfits⟩, if_pos hsmall⟩

theorem size_pos (type : ElementType) : 0 < type.size := by
  cases type <;> decide

/-- Without a zero the product of all extents is at least that of the first ones. -/
theorem Overflows.le_paddedSize (h : Overflows extents) (hzero : 0 ∉ extents) : 2 ^ 64 ≤ paddedSize type extents := by
  obtain ⟨first, ⟨rest, rfl⟩, hfirst⟩ := h
  have hrest : 0 < rest.prod :=
    Nat.pos_of_ne_zero fun h => hzero (List.mem_append_right _ (List.prod_eq_zero_iff.mp h))
  calc 2 ^ 64 ≤ first.prod := hfirst
    _ ≤ first.prod * rest.prod := Nat.le_mul_of_pos_right _ hrest
    _ ≤ first.prod * rest.prod * type.size := Nat.le_mul_of_pos_right _ (size_pos type)
    _ ≤ paddedSize type (first ++ rest) := by
      rw [paddedSize, List.prod_append]
      omega

theorem paddedSize_of_zero (h : 0 ∈ extents) : paddedSize type extents = 64 := by
  rw [paddedSize, List.prod_eq_zero_iff.mpr h, Nat.zero_mul, Nat.zero_add]

/-- The sizes are words just when the padded size is one, unless the extents leave the words before a zero. -/
theorem sizes?_eq_none_iff :
    sizes? type extents = none ↔ 2 ^ 64 ≤ paddedSize type extents ∨ 0 ∈ extents ∧ Overflows extents := by
  rw [Option.eq_none_iff_forall_ne_some]
  constructor
  · intro h
    by_contra hnot
    rw [not_or, not_le, not_and] at hnot
    refine h (extents.prod, paddedSize type extents) (sizes?_eq_some_iff.mpr ⟨fun hover => ?_, hnot.1, rfl, rfl⟩)
    by_cases hzero : 0 ∈ extents
    · exact hnot.2 hzero hover
    · exact absurd (hover.le_paddedSize hzero) (not_le.mpr hnot.1)
  · rintro h ⟨count, padded⟩ hsome
    obtain ⟨hfits, hsmall, -, -⟩ := sizes?_eq_some_iff.mp hsome
    rcases h with h | ⟨-, h⟩
    · omega
    · exact hfits h

/-- A buffer of zero bytes whose sizes are not bounded. -/
def zeroed (address : Nat) (type : ElementType) (extents : List Nat) : Buffer where
  type := type
  extents := extents
  length := extents.prod
  address := address
  offset := alignOffset address
  storage := List.replicate (paddedSize type extents) 0

/-- Allocation has three outcomes: an error, a fault and a buffer of zeros. -/
theorem allocate_cases (address : Nat) (type : ElementType) (extents : List Nat) :
    (sizes? type extents = none ∧ allocate address type extents = .error (.error (.streamTooLarge type extents))) ∨
    (sizes? type extents ≠ none ∧ 2 ^ 63 ≤ paddedSize type extents ∧
      allocate address type extents = .error (.fault (.capacity (paddedSize type extents)))) ∨
    (sizes? type extents ≠ none ∧ paddedSize type extents < 2 ^ 63 ∧
      allocate address type extents = .ok (zeroed address type extents)) := by
  have hword : Number.twoPow 63 = 2 ^ 63 := by decide
  unfold allocate
  cases h : sizes? type extents with
  | none => exact Or.inl ⟨rfl, rfl⟩
  | some sizes =>
    obtain ⟨-, -, hcount, hpadded⟩ := sizes?_eq_some_iff.mp h
    simp only [hword, hcount, hpadded]
    by_cases hlarge : 2 ^ 63 ≤ paddedSize type extents
    · exact Or.inr (Or.inl ⟨by simp, hlarge, if_pos hlarge⟩)
    · exact Or.inr (Or.inr ⟨by simp, not_le.mp hlarge, if_neg hlarge⟩)

theorem allocate_eq_ok_iff {address : Nat} {b : Buffer} : allocate address type extents = .ok b ↔
    b = zeroed address type extents ∧ paddedSize type extents < 2 ^ 63 ∧ ¬(0 ∈ extents ∧ Overflows extents) := by
  have hnone := not_congr (@sizes?_eq_none_iff extents type)
  rw [not_or, not_le] at hnone
  rcases allocate_cases address type extents with ⟨hs, h⟩ | ⟨hs, hsize, h⟩ | ⟨hs, hsize, h⟩ <;> rw [h]
  · refine ⟨fun h => (by cases h), fun ⟨_, hsize, hfits⟩ => absurd hs (hnone.mpr ⟨by omega, hfits⟩)⟩
  · exact ⟨fun h => (by cases h), fun ⟨_, hsmall, _⟩ => by omega⟩
  · rw [Except.ok.injEq, eq_comm]
    exact ⟨fun h => ⟨h, hsize, (hnone.mp hs).2⟩, fun h => h.1⟩

theorem allocate_eq_capacity_iff {address : Nat} :
    allocate address type extents = .error (.fault (.capacity (paddedSize type extents))) ↔
      2 ^ 63 ≤ paddedSize type extents ∧ paddedSize type extents < 2 ^ 64 := by
  rcases allocate_cases address type extents with ⟨hs, h⟩ | ⟨hs, hsize, h⟩ | ⟨hs, hsize, h⟩ <;> rw [h]
  · refine ⟨fun h => (by cases h), fun ⟨hlarge, hsmall⟩ => ?_⟩
    rcases sizes?_eq_none_iff.mp hs with hbound | ⟨hzero, -⟩
    · omega
    · rw [paddedSize_of_zero hzero] at hlarge
      omega
  · have hsmall := not_le.mp fun hle => hs (sizes?_eq_none_iff.mpr (Or.inl hle))
    exact ⟨fun _ => ⟨hsize, hsmall⟩, fun _ => rfl⟩
  · exact ⟨fun h => (by cases h), fun ⟨hlarge, _⟩ => by omega⟩

/-- Which buffers are refused, which are allocated and which are faults. A buffer that fits is refused just when its
    extents leave the words before a zero; so without a zero their order does not count. -/
theorem allocation_outcome (address : Nat) (type : ElementType) (extents : List Nat) :
    (allocate address type extents = .error (.error (.streamTooLarge type extents)) ↔
      2 ^ 64 ≤ paddedSize type extents ∨ 0 ∈ extents ∧ Overflows extents) ∧
    ((∃ b, allocate address type extents = .ok b ∧ b.length = extents.prod) ↔
      paddedSize type extents < 2 ^ 63 ∧ ¬(0 ∈ extents ∧ Overflows extents)) ∧
    (allocate address type extents = .error (.fault (.capacity (paddedSize type extents))) ↔
      2 ^ 63 ≤ paddedSize type extents ∧ paddedSize type extents < 2 ^ 64) ∧
    (0 ∉ extents → ∀ others : List Nat, others.Perm extents →
      ((∃ b, allocate address type others = .ok b) ↔ ∃ b, allocate address type extents = .ok b)) := by
  refine ⟨?_, ⟨?_, fun h => ?_⟩, allocate_eq_capacity_iff, fun hzero others hperm => ?_⟩
  · rw [← sizes?_eq_none_iff]
    rcases allocate_cases address type extents with ⟨hs, h⟩ | ⟨hs, -, h⟩ | ⟨hs, -, h⟩ <;> simp [h, hs]
  · rintro ⟨b, hb, -⟩
    exact (allocate_eq_ok_iff.mp hb).2
  · exact ⟨zeroed address type extents, allocate_eq_ok_iff.mpr ⟨rfl, h⟩, rfl⟩
  · have hsize : paddedSize type others = paddedSize type extents := by rw [paddedSize, paddedSize, hperm.prod_eq]
    simp only [allocate_eq_ok_iff, hsize, hzero, hperm.mem_iff, false_and, exists_eq_left]

/-- A buffer without elements is refused when its zero comes last, and allocated when it comes first. -/
theorem zero_extent_order :
    allocate 0 .int [2 ^ 32, 2 ^ 32, 0] = .error (.error (.streamTooLarge .int [2 ^ 32, 2 ^ 32, 0])) ∧
      (∃ b, allocate 0 .int [0, 2 ^ 32, 2 ^ 32] = .ok b ∧ b.length = [0, 2 ^ 32, 2 ^ 32].prod) ∧
      ((∃ b, allocate 0 .double [5, 2 ^ 32] = .ok b) ↔ ∃ b, allocate 0 .double [2 ^ 32, 5] = .ok b) := by
  have hover : Overflows [2 ^ 32, 2 ^ 32, 0] := ⟨[2 ^ 32, 2 ^ 32], ⟨[0], rfl⟩, by decide⟩
  have hfits : ¬Overflows [0, 2 ^ 32, 2 ^ 32] := by
    rintro ⟨first, hfirst, hlarge⟩
    rcases List.prefix_cons_iff.mp hfirst with rfl | ⟨rest, rfl, -⟩
    · exact absurd hlarge (by decide)
    · rw [List.prod_cons, Nat.zero_mul] at hlarge
      exact absurd hlarge (by decide)
  exact ⟨(allocation_outcome 0 .int _).1.mpr (Or.inr ⟨by decide, hover⟩),
    (allocation_outcome 0 .int _).2.1.mpr ⟨by decide, fun h => hfits h.2⟩,
    (allocation_outcome 0 .double [2 ^ 32, 5]).2.2.2 (by decide) [5, 2 ^ 32] (List.Perm.swap ..)⟩

end BenchKernel.Buffer
