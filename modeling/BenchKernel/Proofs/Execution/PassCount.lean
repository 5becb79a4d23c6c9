import BenchKernel.Proofs.Execution.Counting
import BenchKernel.Proofs.Machine.Power

/-! # How POWER counts passes

Before the body of a loop POWER loads the two registers of the loop and computes from them how many passes there are to
be: the distance to the end, increased so that the quotient is rounded up, over the step. A step that is a power of two
is a shift, which rounds down; any other step is a division, which rounds towards zero. The two differ below zero only,
where there is no pass. -/

namespace BenchKernel

namespace Loop
variable {l : Loop}

/-! ### The quotient -/

/-- The distance that is divided by the step. -/
def biased (l : Loop) : Int := l.distance + Power.bias l l.stepValue.toNat

theorem lt_trips_iff_le (h : l.Countable) {pass : Nat} :
    pass < l.trips ↔ ((pass + 1 : Nat) : Int) * l.stepValue ≤ l.biased := by
  have hpos := h.positive
  rw [lt_trips_iff h, holds_value_iff h, Int.natCast_succ, Int.add_mul, Int.one_mul, biased, Power.bias]
  split <;> omega

theorem toNat_ediv_biased (h : l.Countable) : (l.biased / l.stepValue).toNat = l.trips := by
  have hpos : 0 < l.stepValue := h.positive
  refine Nat.le_antisymm (Nat.le_of_not_lt fun hlt => ?_) (Nat.le_of_not_lt fun hlt => ?_)
  · have hle : ((l.trips + 1 : Nat) : Int) ≤ l.biased / l.stepValue := by omega
    exact absurd ((lt_trips_iff_le h).mpr ((Int.le_ediv_iff_mul_le hpos).mp hle)) (Nat.lt_irrefl _)
  · have hle := (Int.le_ediv_iff_mul_le hpos).mpr ((lt_trips_iff_le h).mp hlt)
    omega

theorem toNat_tdiv_biased (h : l.Countable) : (l.biased.tdiv l.stepValue).toNat = l.trips := by
  have hpos : 0 < l.stepValue := h.positive
  rcases Int.le_total 0 l.biased with hle | hle
  · rw [Int.tdiv_eq_ediv_of_nonneg hle, toNat_ediv_biased h]
  · have hneg := Int.tdiv_nonneg (Int.neg_nonneg_of_nonpos hle) hpos.le
    have hediv := Int.ediv_nonpos_of_nonpos_of_neg hle hpos
    rw [Int.neg_tdiv] at hneg
    rw [← toNat_ediv_biased h]
    omega

end Loop

namespace Power
open Machine

/-! ### Straight-line code -/

abbrev Registers := String → BitVec 64

section Straight
variable {ρ : Type} {other : String → Action (State ρ)} {op : Op} {ops ops' : List Op} {instr : Instr}
  {F G : Registers → Registers} {v w : BitVec 64 → BitVec 64} {reg text : String} {n : Int}

/-- Lines that only have effects, that change the general registers in a known way and not the count register. -/
def Computes (other : String → Action (State ρ)) (ops : List Op) (F : Registers → Registers) : Prop :=
  ∃ gs : List (State ρ → State ρ), (ops.map Op.write).map (read other) = gs.map .effect ∧
    ∀ s, (inTurn gs s).regs = F s.regs ∧ (inTurn gs s).ctr = s.ctr

theorem computes_nil (other : String → Action (State ρ)) : Computes other [] id := ⟨[], rfl, fun _ => ⟨rfl, rfl⟩⟩

theorem computes_single {g : State ρ → State ρ} (h : Means op instr) (hact : instr.act = .effect g)
    (hg : ∀ s, (g s).regs = F s.regs ∧ (g s).ctr = s.ctr) : Computes other [op] F :=
  ⟨[g], by simp [read_write h, hact], hg⟩

theorem Computes.append (h : Computes other ops F) (h' : Computes other ops' G) :
    Computes other (ops ++ ops') (G ∘ F) := by
  obtain ⟨gs, hgs, hset⟩ := h
  obtain ⟨gs', hgs', hset'⟩ := h'
  refine ⟨gs ++ gs', by rw [List.map_append, List.map_append, hgs, hgs', ← List.map_append], fun s => ?_⟩
  have hturn : inTurn (gs ++ gs') s = inTurn gs' (inTurn gs s) := List.foldl_append
  rw [hturn, (hset' _).1, (hset' _).2, (hset s).1, (hset s).2]
  exact ⟨rfl, rfl⟩

/-- Lines that only change one register, by a function of its own value. -/
def Updates (other : String → Action (State ρ)) (ops : List Op) (reg : String) (v : BitVec 64 → BitVec 64) : Prop :=
  Computes other ops fun regs => Function.update regs reg (v (regs reg))

/-- Lines that only put a new value into one register, and leave all else in the state as it was. -/
def Puts (other : String → Action (State ρ)) (ops : List Op) (reg : String) (v : BitVec 64 → BitVec 64) : Prop :=
  ∃ gs : List (State ρ → State ρ), (ops.map Op.write).map (read other) = gs.map .effect ∧
    ∀ s, inTurn gs s = s.put reg (v (s.regs reg))

theorem puts_single (h : Means op instr) (hact : instr.act = .effect fun s : State ρ => s.put reg (v (s.regs reg))) :
    Puts other [op] reg v :=
  ⟨[fun s => s.put reg (v (s.regs reg))], by simp [read_write h, hact], fun _ => rfl⟩

theorem Puts.of_eq (h : Puts other ops reg v) (hv : ∀ x, v x = w x) : Puts other ops reg w := by
  rwa [← funext hv]

theorem Puts.append (h : Puts other ops reg v) (h' : Puts other ops' reg w) : Puts other (ops ++ ops') reg (w ∘ v) := by
  obtain ⟨gs, hgs, hset⟩ := h
  obtain ⟨gs', hgs', hset'⟩ := h'
  refine ⟨gs ++ gs', by rw [List.map_append, List.map_append, hgs, hgs', ← List.map_append], fun s => ?_⟩
  have hturn : inTurn (gs ++ gs') s = inTurn gs' (inTurn gs s) := List.foldl_append
  rw [hturn, hset', hset]
  simp [State.put]

theorem Puts.updates (h : Puts other ops reg v) : Updates other ops reg v := by
  obtain ⟨gs, hgs, hset⟩ := h
  refine ⟨gs, hgs, fun s => ?_⟩
  rw [hset]
  exact ⟨rfl, rfl⟩

/-! ### Loading a constant -/

/-- The four fields of a constant, put together again as the lines of a load do it. -/
theorem fields_together (n : Int) :
    ((field 48 n).signExtend 64 <<< 16 ||| (field 32 n).setWidth 64).rotateLeft 32 &&& BitVec.allOnes 64 <<< 32 |||
      (field 16 n).setWidth 64 <<< 16 ||| (field 0 n).setWidth 64 = BitVec.ofInt 64 n := by
  refine BitVec.eq_of_getLsbD_eq fun i hi => ?_
  simp only [field, BitVec.getLsbD_or, BitVec.getLsbD_and, BitVec.getLsbD_rotateLeft, BitVec.getLsbD_shiftLeft,
    BitVec.getLsbD_setWidth, BitVec.getLsbD_signExtend, BitVec.getLsbD_ushiftRight, BitVec.getLsbD_allOnes]
  -- Each bit comes from the field in whose range it is; the sign of the highest field is shifted out.
  rcases (by omega : i < 16 ∨ 16 ≤ i ∧ i < 32 ∨ 32 ≤ i ∧ i < 48 ∨ 48 ≤ i) with h | ⟨h, h'⟩ | ⟨h, h'⟩ | h
  · simp [show i < 32 by omega, hi, h]
  · simp [show ¬i < 16 by omega, h', hi, show i - 16 < 64 by omega, show i - 16 < 16 by omega,
      show 16 + (i - 16) = i by omega]
  · simp [show ¬i < 32 by omega, show ¬i < 16 by omega, hi, show i - 32 < 16 by omega, show i - 32 < 64 by omega,
      show ¬i - 16 < 16 by omega, show 32 + (i - 32) = i by omega]
  · simp [show ¬i < 32 by omega, show ¬i < 16 by omega, hi, show ¬i - 32 < 16 by omega, show i - 32 < 64 by omega,
      show ¬i - 16 < 16 by omega, show i - 32 - 16 < 16 by omega, show i - 32 - 16 < 64 by omega,
      show 48 + (i - 32 - 16) = i by omega]

theorem puts_load {value : Option Int} (hreg : reg ∈ registers) (h : Assembler.constant? text = some n)
    (hvalue : value = none ∨ value = some n) :
    Puts other (loadKnown reg text value) reg fun _ => BitVec.ofInt 64 n := by
  unfold loadKnown
  split
  · rename_i m hm
    obtain ⟨rfl, hshort⟩ : m = n ∧ isShort m = true := by
      obtain ⟨hm, hshort⟩ := Option.filter_eq_some_iff.mp hm
      rcases hvalue with rfl | rfl
      · cases hm
      · exact ⟨(Option.some.inj hm).symm, hshort⟩
    exact puts_single (.li hreg hshort) rfl
  · have h₁ : Puts other [.lisHighest reg text] reg fun _ => (field 48 n).signExtend 64 <<< 16 :=
      puts_single (.lisHighest hreg h) rfl
    have h₂ : Puts other [.oriHigher reg text] reg fun x => x ||| (field 32 n).setWidth 64 :=
      puts_single (.oriHigher hreg h) rfl
    have h₃ : Puts other [.shiftHigh reg] reg fun x => x.rotateLeft 32 &&& BitVec.allOnes 64 <<< 32 :=
      puts_single (.shiftHigh hreg) rfl
    have h₄ : Puts other [.orisHigh reg text] reg fun x => x ||| (field 16 n).setWidth 64 <<< 16 :=
      puts_single (.orisHigh hreg h) rfl
    have h₅ : Puts other [.oriLow reg text] reg fun x => x ||| (field 0 n).setWidth 64 :=
      puts_single (.oriLow hreg h) rfl
    have hall := h₁.append (h₂.append (h₃.append (h₄.append h₅)))
    exact hall.of_eq fun _ => fields_together n

theorem updates_load {value : Option Int} (hreg : reg ∈ registers) (h : Assembler.constant? text = some n)
    (hvalue : value = none ∨ value = some n) :
    Updates other (loadKnown reg text value) reg fun _ => BitVec.ofInt 64 n :=
  (puts_load hreg h hvalue).updates

/-! ### The number of passes -/

/-- A loop on POWER with constant operands, a symbol for its label and registers of its own, in which no number
    overflows: not the start, not the end, not their distance and not what is divided by the step. -/
@[mk_iff]
structure Fitting (l : Loop) : Prop where
  countable : l.Countable
  step_le : l.stepValue ≤ 32767
  label : Assembler.isSymbol l.label = true
  counter : l.counter ∈ registers
  limit : l.limit ∈ registers
  counter_ne : l.counter ≠ scratch
  limit_ne : l.limit ≠ scratch
  distinct : l.counter ≠ l.limit
  start_fits : Fits 64 l.startValue
  stop_fits : Fits 64 l.stopValue
  distance_fits : Fits 64 l.distance
  biased_fits : Fits 64 l.biased

instance (l : Loop) : Decidable (Fitting l) := decidable_of_iff _ (fitting_iff l).symm

/-- What is known of the registers before some lines gives what is known of them behind. -/
def Establishes (other : String → Action (State ρ)) (P : Registers → Prop) (ops : List Op) (Q : Registers → Prop) :
    Prop :=
  ∃ F, Computes other ops F ∧ ∀ regs, P regs → Q (F regs)

variable {P Q R : Registers → Prop} {l : Loop} {startValue stopValue : Option Int}

theorem Establishes.append (h : Establishes other P ops Q) (h' : Establishes other Q ops' R) :
    Establishes other P (ops ++ ops') R := by
  obtain ⟨F, hF, hPQ⟩ := h
  obtain ⟨G, hG, hQR⟩ := h'
  exact ⟨G ∘ F, hF.append hG, fun regs hP => hQR _ (hPQ regs hP)⟩

theorem Updates.establishes (h : Updates other ops reg v)
    (hQ : ∀ regs : Registers, P regs → Q (Function.update regs reg (v (regs reg)))) : Establishes other P ops Q :=
  ⟨_, h, hQ⟩

/-- The two registers of a loop hold its start and its end. -/
structure Loaded (l : Loop) (regs : Registers) : Prop where
  counter : regs l.counter = BitVec.ofInt 64 l.startValue
  limit : regs l.limit = BitVec.ofInt 64 l.stopValue

/-- The scratch register holds a number as well. -/
structure Measured (l : Loop) (n : Int) (regs : Registers) : Prop extends Loaded l regs where
  scratch : regs scratch = BitVec.ofInt 64 n

/-- The scratch register holds the number of passes; where there are none, it may hold a negative number. -/
structure Counted (l : Loop) (regs : Registers) : Prop extends Loaded l regs where
  passes : (regs Power.scratch).toInt.toNat = l.trips

theorem Loaded.update_scratch {regs : Registers} (h : Fitting l) (hregs : Loaded l regs) (x : BitVec 64) :
    Loaded l (Function.update regs scratch x) where
  counter := by rw [Function.update_of_ne h.counter_ne, hregs.counter]
  limit := by rw [Function.update_of_ne h.limit_ne, hregs.limit]

theorem scratch_mem : scratch ∈ registers := by decide

theorem establishes_loads (h : Fitting l) (hstart : startValue = none ∨ startValue = some l.startValue)
    (hstop : stopValue = none ∨ stopValue = some l.stopValue) :
    Establishes other (fun _ => True) (loadKnown l.counter l.start startValue ++ loadKnown l.limit l.stop stopValue)
      (Loaded l) := by
  have hcounter := @updates_load ρ other _ _ _ _ h.counter h.countable.constant_start hstart
  have hlimit := @updates_load ρ other _ _ _ _ h.limit h.countable.constant_stop hstop
  refine ⟨_, Computes.append hcounter hlimit, fun regs _ => ⟨?_, ?_⟩⟩
  · rw [Function.comp_apply, Function.update_of_ne h.distinct, Function.update_self]
  · rw [Function.comp_apply, Function.update_self]

theorem ofInt_sub (a b : Int) : BitVec.ofInt 64 a - BitVec.ofInt 64 b = BitVec.ofInt 64 (a - b) := by
  rw [BitVec.sub_eq_add_neg, ← BitVec.ofInt_neg, ← BitVec.ofInt_add, Int.sub_eq_add_neg]

theorem establishes_distance (h : Fitting l) :
    Establishes other (Loaded l) [distance l] (Measured l l.distance) := by
  unfold distance Loop.distance
  split
  · have hsub : Computes other [.subf scratch l.limit l.counter] fun regs =>
        Function.update regs scratch (regs l.counter - regs l.limit) :=
      computes_single (.subf scratch_mem h.limit h.counter) rfl fun _ => ⟨rfl, rfl⟩
    refine ⟨_, hsub, fun regs hregs => ⟨hregs.update_scratch h _, ?_⟩⟩
    rw [Function.update_self, hregs.counter, hregs.limit, ofInt_sub]
  · split
    · rename_i hzero
      have hstart : l.startValue = 0 := Assembler.constant?_of_isZero h.countable.constant_start hzero
      have hmove : Computes other [.mr scratch l.limit] fun regs => Function.update regs scratch (regs l.limit) :=
        computes_single (.mr scratch_mem h.limit) rfl fun _ => ⟨rfl, rfl⟩
      refine ⟨_, hmove, fun regs hregs => ⟨hregs.update_scratch h _, ?_⟩⟩
      rw [Function.update_self, hregs.limit, hstart, Int.sub_zero]
    · have hsub : Computes other [.subf scratch l.counter l.limit] fun regs =>
          Function.update regs scratch (regs l.limit - regs l.counter) :=
        computes_single (.subf scratch_mem h.counter h.limit) rfl fun _ => ⟨rfl, rfl⟩
      refine ⟨_, hsub, fun regs hregs => ⟨hregs.update_scratch h _, ?_⟩⟩
      rw [Function.update_self, hregs.counter, hregs.limit, ofInt_sub]

theorem bias_le (h : Fitting l) : bias l l.stepValue.toNat ≤ 32767 := by
  have := h.step_le
  unfold bias
  split <;> omega

theorem establishes_bias (h : Fitting l) :
    Establishes other (Measured l l.distance) (addBias (bias l l.stepValue.toNat)) (Measured l l.biased) := by
  unfold Loop.biased addBias
  have hle := bias_le h
  generalize bias l l.stepValue.toNat = n at *
  split
  · rename_i hzero
    refine ⟨_, computes_nil other, fun regs hregs => ?_⟩
    rw [hzero, Int.natCast_zero, Int.add_zero]
    exact hregs
  · have hshort : isShort (Int.ofNat n) = true := by
      simp only [isShort, Bool.and_eq_true, decide_eq_true_eq, Int.ofNat_eq_natCast]
      omega
    have hadd : Updates other [.addic scratch scratch (Int.ofNat n)] scratch fun x => x + BitVec.ofInt 64 n :=
      computes_single (.addic scratch_mem scratch_mem hshort) rfl fun _ => ⟨rfl, rfl⟩
    refine hadd.establishes fun regs hregs => ⟨hregs.toLoaded.update_scratch h _, ?_⟩
    rw [Function.update_self, hregs.scratch, BitVec.ofInt_add]

theorem exponent?_eq_some {step k : Nat} (h : exponent? step = some k) : k < 64 ∧ 2 ^ k = step := by
  unfold exponent? at h
  have hpow := List.find?_some h
  exact ⟨List.mem_range.mp (List.mem_of_find?_eq_some h), of_decide_eq_true hpow⟩

/-- What is known of a loop when its end register holds the divisor, and the scratch register a number. -/
structure Dividing (l : Loop) (n : Int) (regs : Registers) : Prop where
  counter : regs l.counter = BitVec.ofInt 64 l.startValue
  limit : regs l.limit = BitVec.ofInt 64 l.stepValue
  scratch : regs scratch = BitVec.ofInt 64 n

/-- What is known of a loop when its quotient has been computed but its end register holds the divisor. -/
structure Divided (l : Loop) (regs : Registers) : Prop where
  counter : regs l.counter = BitVec.ofInt 64 l.startValue
  passes : (regs scratch).toInt.toNat = l.trips

theorem establishes_divisor (h : Fitting l) {stepValue : Option Int}
    (hstep : stepValue = none ∨ stepValue = some l.stepValue) (n : Int) :
    Establishes other (Measured l n) (loadKnown l.limit l.step stepValue) (Dividing l n) := by
  have hload := @updates_load ρ other _ _ _ _ h.limit h.countable.constant_step hstep
  refine hload.establishes fun regs hregs => ⟨?_, ?_, ?_⟩
  · rw [Function.update_of_ne h.distinct, hregs.counter]
  · rw [Function.update_self]
  · rw [Function.update_of_ne h.limit_ne.symm, hregs.scratch]

theorem establishes_quotient (h : Fitting l) :
    Establishes other (Dividing l l.biased) [.divd scratch scratch l.limit] (Divided l) := by
  have hdiv : Computes other [.divd scratch scratch l.limit] fun regs =>
      Function.update regs scratch ((regs scratch).sdiv (regs l.limit)) :=
    computes_single (.divd scratch_mem scratch_mem h.limit) rfl fun _ => ⟨rfl, rfl⟩
  have hfits : Fits 64 l.stepValue := by
    have := h.countable.positive
    have := h.step_le
    unfold Fits
    omega
  have hne : BitVec.ofInt 64 l.stepValue ≠ -1#64 := by
    intro heq
    have hint := toInt_ofInt (by decide) hfits
    rw [heq] at hint
    have := h.countable.positive
    have : (-1#64).toInt = -1 := by decide
    omega
  refine ⟨_, hdiv, fun regs hregs => ⟨?_, ?_⟩⟩
  · rw [Function.update_of_ne h.counter_ne, hregs.counter]
  · rw [Function.update_self, hregs.scratch, hregs.limit, BitVec.toInt_sdiv_of_ne_or_ne _ _ (Or.inr hne),
      toInt_ofInt (by decide) h.biased_fits, toInt_ofInt (by decide) hfits, Loop.toNat_tdiv_biased h.countable]

theorem establishes_reload (h : Fitting l) (hstop : stopValue = none ∨ stopValue = some l.stopValue) :
    Establishes other (Divided l) (loadKnown l.limit l.stop stopValue) (Counted l) := by
  have hreload := @updates_load ρ other _ _ _ _ h.limit h.countable.constant_stop hstop
  refine hreload.establishes fun regs hregs => ⟨⟨?_, ?_⟩, ?_⟩
  · rw [Function.update_of_ne h.distinct, hregs.counter]
  · rw [Function.update_self]
  · rw [Function.update_of_ne h.limit_ne.symm, hregs.passes]

theorem establishes_divideBy (h : Fitting l) (hstop : stopValue = none ∨ stopValue = some l.stopValue) :
    Establishes other (Measured l l.distance) (divideByKnown l l.stepValue.toNat (some l.stepValue) stopValue)
      (Counted l) := by
  have hpos := h.countable.positive
  have hbias := @establishes_bias ρ other l h
  simp only [divideByKnown]
  split
  · rename_i hone
    obtain ⟨F, hF, hmeasured⟩ := hbias
    refine ⟨F, by rwa [hone] at hF ⊢, fun regs hregs => ⟨(hmeasured regs hregs).toLoaded, ?_⟩⟩
    have hstep : l.stepValue = 1 := by omega
    rw [(hmeasured regs hregs).scratch, toInt_ofInt (by decide) h.biased_fits, ← Loop.toNat_ediv_biased h.countable,
      hstep, Int.ediv_one]
  · split
    · rename_i k hk
      obtain ⟨hlt, hpow⟩ := exponent?_eq_some hk
      have hshift : Updates other [.sradi scratch scratch k] scratch fun x => x.sshiftRight k :=
        computes_single (.sradi scratch_mem scratch_mem hlt) rfl fun _ => ⟨rfl, rfl⟩
      refine hbias.append (hshift.establishes fun regs hregs => ⟨hregs.toLoaded.update_scratch h _, ?_⟩)
      have hstep : ((2 ^ k : Nat) : Int) = l.stepValue := by omega
      rw [Function.update_self, hregs.scratch, BitVec.toInt_sshiftRight, Int.shiftRight_eq_div_pow, hstep,
        toInt_ofInt (by decide) h.biased_fits, Loop.toNat_ediv_biased h.countable]
    · exact ((hbias.append (establishes_divisor h (Or.inr rfl) _)).append (establishes_quotient h)).append
        (establishes_reload h hstop)

/-- A step that only the assembler knows is loaded first, so that it can be added to the distance. -/
theorem establishes_addStep (h : Fitting l) :
    Establishes other (Dividing l l.distance)
      ([.add scratch scratch l.limit] ++ if l.direction.isInclusive then [] else [.addic scratch scratch (-1)])
      (Dividing l l.biased) := by
  have hpos := h.countable.positive
  have hadd : Computes other [.add scratch scratch l.limit] fun regs =>
      Function.update regs scratch (regs scratch + regs l.limit) :=
    computes_single (.add scratch_mem scratch_mem h.limit) rfl fun _ => ⟨rfl, rfl⟩
  have hstep : Establishes other (Dividing l l.distance) [.add scratch scratch l.limit]
      (Dividing l (l.distance + l.stepValue)) := by
    refine ⟨_, hadd, fun regs hregs => ⟨?_, ?_, ?_⟩⟩
    · rw [Function.update_of_ne h.counter_ne, hregs.counter]
    · rw [Function.update_of_ne h.limit_ne, hregs.limit]
    · rw [Function.update_self, hregs.scratch, hregs.limit, BitVec.ofInt_add]
  refine hstep.append ?_
  by_cases hinclusive : l.direction.isInclusive = true
  · have hbiased : l.biased = l.distance + l.stepValue := by
      rw [Loop.biased, bias, if_pos hinclusive]
      omega
    rw [if_pos hinclusive, hbiased]
    exact ⟨_, computes_nil other, fun _ hregs => hregs⟩
  · have hbiased : l.biased = l.distance + l.stepValue + -1 := by
      rw [Loop.biased, bias, if_neg hinclusive]
      omega
    have hless : Updates other [.addic scratch scratch (-1)] scratch fun x => x + BitVec.ofInt 64 (-1) :=
      computes_single (.addic scratch_mem scratch_mem rfl) rfl fun _ => ⟨rfl, rfl⟩
    rw [if_neg hinclusive, hbiased]
    refine hless.establishes fun regs hregs => ⟨?_, ?_, ?_⟩
    · rw [Function.update_of_ne h.counter_ne, hregs.counter]
    · rw [Function.update_of_ne h.limit_ne, hregs.limit]
    · rw [Function.update_self, hregs.scratch, ← BitVec.ofInt_add]

theorem establishes_divideBySymbol (h : Fitting l) (hstop : stopValue = none ∨ stopValue = some l.stopValue) :
    Establishes other (Measured l l.distance) (divideBySymbolKnown l none stopValue) (Counted l) := by
  have hdivision := (((@establishes_divisor ρ other l h none (Or.inl rfl) _).append (establishes_addStep h)).append
    (establishes_quotient h)).append (establishes_reload h hstop)
  simpa only [divideBySymbolKnown, List.append_assoc] using hdivision

theorem establishes_passes (h : Fitting l) {stepValue : Option Int}
    (hstep : stepValue = none ∨ stepValue = some l.stepValue)
    (hstop : stopValue = none ∨ stopValue = some l.stopValue) :
    Establishes other (Measured l l.distance) (passesKnown l stepValue stopValue) (Counted l) := by
  rcases hstep with rfl | rfl
  · exact establishes_divideBySymbol h hstop
  · have hshort : (some l.stepValue).filter (fun n => decide (1 ≤ n) && decide (n ≤ 32767)) = some l.stepValue := by
      have := h.countable.positive
      have := h.step_le
      simp [*]
    unfold passesKnown
    rw [hshort]
    exact establishes_divideBy h hstop

/-- The lines before the test of a loop put the number of passes into the scratch register. -/
theorem establishes_setup (h : Fitting l) (hstart : startValue = none ∨ startValue = some l.startValue)
    (hstop : stopValue = none ∨ stopValue = some l.stopValue) {stepValue : Option Int}
    (hstep : stepValue = none ∨ stepValue = some l.stepValue) :
    Establishes other (fun _ => True)
      (loadKnown l.counter l.start startValue ++ loadKnown l.limit l.stop stopValue ++ [distance l] ++
        passesKnown l stepValue stopValue) (Counted l) :=
  ((establishes_loads h hstart hstop).append (establishes_distance h)).append (establishes_passes h hstep hstop)

end Straight

end Power

end BenchKernel
