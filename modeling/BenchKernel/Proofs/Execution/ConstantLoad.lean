import BenchKernel.Proofs.Execution.PassCount

/-! # Loading constants on POWER

A constant is loaded by one line if the emitter reads it as a short number, and from its four fields otherwise. The
emitter reads signed words only: constants from `2 ^ 63` on and the least signed word are symbols to it, which the
assembler knows. In every case the register ends up with the constant as a word of 64 bits, and nothing else changes. -/

namespace BenchKernel

/-- A constant that a word holds, signed or unsigned, is a literal of the same value if a signed word holds both it and
    its negation, and a symbol otherwise. -/
theorem Assembler.value?_of_word {text : String} {n : Int} (h : constant? text = some n) (hlow : -2 ^ 63 ≤ n)
    (hhigh : n < 2 ^ 64) : Literal.value? text = .ok (if -2 ^ 63 < n ∧ n < 2 ^ 63 then some n else none) := by
  by_cases hsigned : n < 2 ^ 63
  · rw [value?_of_constant? h hlow hsigned]
    by_cases hleast : n = -2 ^ 63
    · rw [if_pos hleast, if_neg (by omega)]
    · rw [if_neg hleast, if_pos (by omega)]
  · obtain ⟨m, ⟨_, _, _, rfl⟩ | ⟨hhead, hm, rfl⟩⟩ := constant?_cases h
    · omega
    · rw [value?_of_magnitude? hhead hm, if_neg (by omega), if_neg (by omega)]

theorem Assembler.constant?_hexDigits (n : Nat) : constant? ("0x" ++ Text.hexDigits n) = some (n : Int) := by
  have hhead : ("0x" ++ Text.hexDigits n).toList.head? ≠ some '-' := by simp [String.toList_append]
  rw [constant?_of_head hhead, magnitude?_hexDigits, Option.map_some]

namespace Power
open Machine

variable {ρ : Type} {other : String → Action (State ρ)} {reg text : String} {n : Int}

/-- From any state some lines come to their end, and there a register has a value and all else is as it was. -/
def LeaveIn (other : String → Action (State ρ)) (reg : String) (value : BitVec 64) (lines : List String) : Prop :=
  ∀ s, ∃ trace, Crosses (lines.map (read other)) 0 lines.length s trace (s.put reg value)

theorem Puts.leaveIn {ops : List Op} {value : BitVec 64} (h : Puts other ops reg fun _ => value) :
    LeaveIn other reg value (ops.map Op.write) := by
  obtain ⟨gs, hgs, hset⟩ := h
  intro s
  obtain ⟨trace, hcross, -⟩ := crosses_effects (placed_self (gs.map .effect)) s
  have hlength : (ops.map Op.write).length = gs.length := by simpa using congrArg List.length hgs
  rw [hset, Nat.zero_add] at hcross
  rw [hgs, hlength]
  exact ⟨trace, hcross⟩

theorem length_loadKnown (reg text : String) (literal : Option Int) :
    (loadKnown reg text literal).length = if literal.any isShort then 1 else 5 := by
  unfold loadKnown
  cases literal with
  | none => rfl
  | some n => cases h : isShort n <;> simp [Option.filter, h]

/-- On POWER any address of 64 bits ends up in the register that its lines load. So does the value of any constant from
    `-2 ^ 63` to `2 ^ 64 - 1`, by one line if it is short and by five otherwise. -/
theorem constants_loaded {ρ : Type} (other : String → Action (State ρ)) (reg : String) (hreg : reg ∈ registers) :
    (∀ address : BitVec 64, LeaveIn other reg address (Arch.ppc64.streamLoads reg address.toNat)) ∧
    ∀ (text : String) (n : Int), Assembler.constant? text = some n → -2 ^ 63 ≤ n → n < 2 ^ 64 →
      ∃ ops, load reg text = .ok ops ∧ ops.length = (if -2 ^ 15 ≤ n ∧ n < 2 ^ 15 then 1 else 5) ∧
        LeaveIn other reg (BitVec.ofInt 64 n) (ops.map Op.write) := by
  refine ⟨fun address => ?_, fun text n htext hlow hhigh => ?_⟩
  · have hload := @puts_load ρ other _ _ _ (if address.toNat < Number.twoPow 63 then some (Int.ofNat address.toNat)
      else none) hreg (Assembler.constant?_hexDigits address.toNat) (by split <;> simp)
    rw [BitVec.ofInt_natCast, BitVec.ofNat_toNat, BitVec.setWidth_eq] at hload
    exact hload.leaveIn
  · have hvalue := Assembler.value?_of_word htext hlow hhigh
    refine ⟨_, load_eq reg hvalue, ?_, (puts_load hreg htext (by split <;> simp)).leaveIn⟩
    rw [length_loadKnown]
    have hshort : (if -2 ^ 63 < n ∧ n < 2 ^ 63 then some n else none).any isShort = true ↔ -2 ^ 15 ≤ n ∧ n < 2 ^ 15 := by
      split <;> simp [isShort] <;> omega
    simp only [hshort]

/-- The least signed word is built from its fields, as no literal has its value; so are the addresses of this size. -/
theorem leastWord_loaded :
    LeaveIn (ρ := Unit) (fun _ => .effect id) "r5" (BitVec.intMin 64) (Arch.ppc64.streamLoads "r5" (2 ^ 63)) ∧
      ∃ ops, load "r0" "-9223372036854775808" = .ok ops ∧ ops.length = 5 ∧
        LeaveIn (ρ := Unit) (fun _ => .effect id) "r0" (BitVec.intMin 64) (ops.map Op.write) := by
  obtain ⟨ops, hops, hlength, hleave⟩ := (constants_loaded (ρ := Unit) (fun _ => .effect id) "r0" (by decide)).2
    "-9223372036854775808" (-2 ^ 63) (by decide) (by decide) (by decide)
  exact ⟨(constants_loaded _ "r5" (by decide)).1 (BitVec.intMin 64), ops, hops, hlength.trans (by decide), hleave⟩

end Power

end BenchKernel
