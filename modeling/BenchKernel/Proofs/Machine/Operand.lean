import BenchKernel.Proofs.Machine.Assembler
import BenchKernel.Text.Quoted
import Mathlib.Data.BitVec

/-! # Numbers as texts

Two readers of numbers have to agree. The assembler reads the constants in a line, and the emitter reads the operands
of a loop to choose lines for them. A number that is written into a line is read back by the assembler; and what the
assembler takes for a constant within a signed word is a literal of the same value for the emitter, but for the least
word, which the emitter leaves to the assembler. -/

namespace BenchKernel.Assembler

/-! ### Written numbers -/

theorem digitsFrom?_append {base read : Nat} (cs ds : List Char) :
    digitsFrom? base read (cs ++ ds) = (digitsFrom? base read cs).bind fun n => digitsFrom? base n ds := by
  induction cs generalizing read with
  | nil => rfl
  | cons c cs ih =>
    rw [List.cons_append, digitsFrom?, digitsFrom?]
    cases Number.digit? base c with
    | none => rfl
    | some d => exact ih

theorem digitsFrom?_toDigits {base : Nat} (hbase : 1 < base)
    (hdigit : ∀ d < base, Number.digit? base d.digitChar = some d) (n : Nat) :
    digitsFrom? base 0 (Nat.toDigits base n) = some n := by
  induction n using Nat.strongRecOn with
  | _ n ih =>
    by_cases hn : n < base
    · rw [Nat.toDigits_of_lt_base hn]
      simp [digitsFrom?, hdigit n hn]
    · rw [Nat.toDigits_of_base_le hbase (by omega), digitsFrom?_append,
        ih (n / base) (Nat.div_lt_self (by omega) hbase)]
      simp only [Option.bind_some, digitsFrom?, hdigit _ (Nat.mod_lt n (by omega)), Nat.div_add_mod']

theorem head?_toDigits {n : Nat} (hne : n ≠ 0) : (Nat.toDigits 10 n).head? ≠ some '0' := by
  induction n using Nat.strongRecOn with
  | _ n ih =>
    by_cases hn : n < 10
    · rw [Nat.toDigits_of_lt_base hn]
      have hhead : ∀ d < 10, d ≠ 0 → d.digitChar ≠ '0' := by decide
      exact fun heq => hhead n hn hne (Option.some.inj heq)
    · rw [Nat.toDigits_of_base_le (by decide) (by omega), List.head?_append_of_ne_nil _ Nat.toDigits_ne_nil]
      exact ih (n / 10) (by omega) (by omega)

theorem magnitude?_of_head {cs : List Char} (hne : cs ≠ []) (h : cs.head? ≠ some '0') :
    magnitude? cs = digitsFrom? 10 0 cs := by
  unfold magnitude?
  split
  · exact absurd rfl hne
  · exact absurd rfl h
  · exact absurd rfl h
  · exact absurd rfl h
  · exact absurd rfl h
  · rfl

theorem magnitude?_toDigits (n : Nat) : magnitude? (Nat.toDigits 10 n) = some n := by
  by_cases hn : n = 0
  · rw [hn]
    rfl
  · rw [magnitude?_of_head Nat.toDigits_ne_nil (head?_toDigits hn), digitsFrom?_toDigits (by decide) (by decide)]

theorem magnitude?_hexDigits (n : Nat) : magnitude? ("0x" ++ Text.hexDigits n).toList = some n := by
  have hlist : ("0x" ++ Text.hexDigits n).toList = '0' :: 'x' :: Nat.toDigits 16 n := by
    simp [Text.hexDigits, String.toList_append]
  have hdigits := digitsFrom?_toDigits (show 1 < 16 by decide) (by decide) n
  rw [hlist]
  cases hn : Nat.toDigits 16 n with
  | nil => exact absurd hn Nat.toDigits_ne_nil
  | cons c cs =>
    rw [hn] at hdigits
    exact hdigits

theorem constant?_of_head {text : String} (h : text.toList.head? ≠ some '-') :
    constant? text = (magnitude? text.toList).map fun n : Nat => (n : Int) := by
  unfold constant?
  split
  · rename_i cs hcs
    rw [hcs] at h
    exact absurd rfl h
  · rfl

theorem constant?_minus (text : String) :
    constant? ("-" ++ text) = (magnitude? text.toList).map fun n : Nat => -(n : Int) := by
  have hlist : ("-" ++ text).toList = '-' :: text.toList := by simp
  rw [constant?, hlist]
  rfl

theorem constant?_cases {text : String} {n : Int} (h : constant? text = some n) :
    ∃ m, (∃ cs, text.toList = '-' :: cs ∧ magnitude? cs = some m ∧ n = -(m : Int)) ∨
      text.toList.head? ≠ some '-' ∧ magnitude? text.toList = some m ∧ n = m := by
  by_cases hhead : text.toList.head? = some '-'
  · obtain ⟨cs, hcs⟩ := List.head?_eq_some_iff.mp hhead
    rw [constant?, hcs] at h
    obtain ⟨m, hm, hn⟩ := Option.map_eq_some_iff.mp h
    exact ⟨m, Or.inl ⟨cs, hcs, hm, hn.symm⟩⟩
  · rw [constant?_of_head hhead] at h
    obtain ⟨m, hm, hn⟩ := Option.map_eq_some_iff.mp h
    exact ⟨m, Or.inr ⟨hhead, hm, hn.symm⟩⟩

theorem constant?_neg {text : String} {n : Int} (h : constant? text = some n) (hpos : 0 < n) :
    constant? ("-" ++ text) = some (-n) := by
  obtain ⟨m, ⟨_, _, _, rfl⟩ | ⟨-, hm, rfl⟩⟩ := constant?_cases h
  · omega
  · rw [constant?_minus, hm, Option.map_some]

theorem constant?_toString_nat (n : Nat) : constant? (toString n) = some (n : Int) := by
  have hlist : (toString n).toList = Nat.toDigits 10 n := by
    rw [Nat.toString_eq_ofList_toDigits, String.toList_ofList]
  have hminus : (toString n).toList.head? ≠ some '-' := by
    rw [hlist]
    intro h
    have hdigit := Nat.isDigit_of_mem_toDigits (by decide) (by decide) (List.mem_of_head? h)
    exact absurd hdigit (by decide)
  rw [constant?_of_head hminus, hlist, magnitude?_toDigits]
  rfl

theorem constant?_toString (n : Int) : constant? (toString n) = some n := by
  cases n with
  | ofNat n => exact constant?_toString_nat n
  | negSucc n =>
    show constant? ("-" ++ toString (n + 1)) = _
    rw [constant?_minus, Nat.toString_eq_ofList_toDigits, String.toList_ofList, magnitude?_toDigits]
    rfl

/-! ### Literals -/

theorem le_of_digitsFrom? {base read n : Nat} {cs : List Char} (hbase : 1 ≤ base)
    (h : digitsFrom? base read cs = some n) : read ≤ n := by
  induction cs generalizing read with
  | nil => exact Nat.le_of_eq (Option.some.inj h)
  | cons c cs ih =>
    unfold digitsFrom? at h
    split at h
    · cases h
    · have hmul : read * 1 ≤ read * base := Nat.mul_le_mul_left read hbase
      have := ih h
      omega

/-- Reading digits with a limit gives the number that they stand for, unless it is above the limit. -/
theorem readDigits_eq {base limit read n : Nat} {overflow : Number.ReadError} {cs : List Char} (hbase : 1 ≤ base)
    (h : digitsFrom? base read cs = some n) (hread : read ≤ limit) :
    Number.readDigits base limit overflow read cs = if n ≤ limit then .ok n else .error overflow := by
  induction cs generalizing read with
  | nil =>
    cases h
    rw [if_pos hread]
    rfl
  | cons c cs ih =>
    unfold digitsFrom? at h
    unfold Number.readDigits
    cases hd : Number.digit? base c with
    | none =>
      rw [hd] at h
      cases h
    | some d =>
      rw [hd] at h
      have hle := le_of_digitsFrom? hbase h
      dsimp only
      by_cases hlimit : limit < read * base + d
      · rw [if_pos hlimit, if_neg (by omega)]
      · rw [if_neg hlimit]
        exact ih h (by omega)

theorem readSigned_eq {base n : Nat} {cs : List Char} (hbase : 1 ≤ base) (hne : cs ≠ [])
    (h : digitsFrom? base 0 cs = some n) :
    Number.readSigned base cs = if n < 2 ^ 63 then .ok (n : Int) else .error .tooLarge := by
  have hlimit : Number.twoPow 63 - 1 = 2 ^ 63 - 1 := by decide
  unfold Number.readSigned
  split
  · exact absurd rfl hne
  · cases h
  · cases h
  · cases h
  · cases h
  · rw [readDigits_eq hbase h (Nat.zero_le _), hlimit]
    by_cases hn : n < 2 ^ 63
    · rw [if_pos hn, if_pos (by omega)]
      rfl
    · rw [if_neg hn, if_neg (by omega)]
      rfl

theorem readMagnitude_eq {n : Nat} {cs : List Char} (h : magnitude? cs = some n) :
    Literal.readMagnitude cs = if n < 2 ^ 63 then .ok (n : Int) else .error .tooLarge := by
  unfold magnitude? at h
  split at h
  · cases h
  · cases h
    rfl
  · exact readSigned_eq (by decide) (by simp) h
  · exact readSigned_eq (by decide) (by simp) h
  · cases h
  · rename_i hne _ _ _ hzero
    unfold Literal.readMagnitude
    split
    · exact absurd rfl (hzero _)
    · exact absurd rfl (hzero _)
    · exact readSigned_eq (by decide) hne h

/-- A constant without a sign is a literal of the same value if a signed word holds it, and a symbol otherwise. -/
theorem value?_of_magnitude? {text : String} {n : Nat} (hhead : text.toList.head? ≠ some '-')
    (h : magnitude? text.toList = some n) : Literal.value? text = .ok (if n < 2 ^ 63 then some (n : Int) else none) := by
  have hconstant : constant? text = some (n : Int) := by rw [constant?_of_head hhead, h, Option.map_some]
  unfold Literal.value?
  rw [trim_of_isWord (isWord_of_constant? hconstant)]
  split
  · rename_i digits hdigits
    rw [hdigits] at hhead
    exact absurd rfl hhead
  · simp only [readMagnitude_eq h]
    by_cases hn : n < 2 ^ 63
    · rw [if_pos hn, if_pos hn]
    · rw [if_neg hn, if_neg hn]

/-- A constant within a signed word is a literal of the same value, but for the least word. -/
theorem value?_of_constant? {text : String} {n : Int} (h : constant? text = some n) (hlow : -2 ^ 63 ≤ n)
    (hhigh : n < 2 ^ 63) : Literal.value? text = .ok (if n = -2 ^ 63 then none else some n) := by
  obtain ⟨m, ⟨cs, hcs, hm, rfl⟩ | ⟨hhead, hm, rfl⟩⟩ := constant?_cases h
  · have hleast : -Int.ofNat (Number.twoPow 63) = -2 ^ 63 := by decide
    unfold Literal.value?
    rw [trim_of_isWord (isWord_of_constant? h), hleast]
    simp only [hcs, readMagnitude_eq hm]
    by_cases hlt : m < 2 ^ 63
    · simp only [hlt, ↓reduceIte]
      rw [if_neg (by omega), if_neg (by omega)]
    · simp only [hlt, ↓reduceIte]
      rw [if_pos (by omega)]
  · rw [value?_of_magnitude? hhead hm, if_pos (by omega), if_neg (by omega)]

end BenchKernel.Assembler
