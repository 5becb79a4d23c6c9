import BenchKernel.Proofs.Execution.PassCount

/-! # Loops that count in the count register

The lines before a loop body on POWER compute the number of passes, leave the loop if it is not positive and put it into
the count register. The lines behind the body move the loop register on and count down. This file has what these lines
do as code, and what a loop does from its first line to its exit label around a body that leaves its registers alone: it
makes as many passes as the loop stands for, and the loop register takes the values that it is to take. -/

namespace BenchKernel

/-! ### Values of the loop register -/

namespace Loop
variable {l : Loop}

/-- What a pass adds to the loop register. -/
def stride (l : Loop) : Int := if l.direction.countsDown then -l.stepValue else l.stepValue

theorem value_zero (l : Loop) : l.value 0 = l.startValue := by
  unfold value
  split <;> simp

theorem value_succ (l : Loop) (k : Nat) : l.value (k + 1) = l.value k + l.stride := by
  unfold value stride
  split <;> rw [Int.natCast_succ, Int.add_mul, Int.one_mul] <;> omega

theorem value_fits (h : l.Countable) (hstart : Fits 64 l.startValue) (hstop : Fits 64 l.stopValue) {k : Nat}
    (hk : k < l.trips) : Fits 64 (l.value k) := by
  have hholds := (holds_value_iff h k).mp ((lt_trips_iff h).mp hk)
  have hnonneg : (0 : Int) ≤ k * l.stepValue := Int.mul_nonneg (by omega) (by have := h.positive; omega)
  unfold Fits at *
  unfold distance at hholds
  unfold value
  split <;> split at hholds <;> omega

end Loop

namespace Power
open Machine

variable {ρ : Type} {other : String → Action (State ρ)} {l : Loop}

/-! ### The lines around a body -/

theorem exists_value {text : String} {n : Int} (h : Assembler.constant? text = some n) (hfits : Fits 64 n) :
    ∃ value, Literal.value? text = .ok value ∧ (value = none ∨ value = some n) := by
  refine ⟨_, Assembler.value?_of_constant? h hfits.1 hfits.2, ?_⟩
  split
  · exact Or.inl rfl
  · exact Or.inr rfl

theorem step_value (h : Fitting l) : Literal.value? l.step = .ok (some l.stepValue) := by
  have hpos := h.countable.positive
  have hle := h.step_le
  rw [Assembler.value?_of_constant? h.countable.constant_step (by omega) (by omega), if_neg (by omega)]

theorem isSymbol_afterLabel (h : Fitting l) : Assembler.isSymbol (afterLabel l.label) = true :=
  Assembler.isSymbol_append h.label (by decide)

theorem Counted.toNat_scratch {regs : Registers} (h : Counted l regs) (hpos : l.trips ≠ 0) :
    (regs scratch).toNat = l.trips := by
  have hpasses := h.passes
  have hint := BitVec.toInt_eq_toNat_cond (regs scratch)
  have hlt := (regs scratch).isLt
  split at hint <;> omega

theorem Counted.skips_iff {regs : Registers} (h : Counted l regs) :
    (compare (regs scratch).toInt 0 != .gt) = decide (l.trips = 0) := by
  have hpasses := h.passes
  rw [Bool.eq_iff_iff, bne_iff_ne, decide_eq_true_eq, ne_eq, compare_gt_iff_gt]
  omega

/-- What the lines before the test of a loop have done when the test is made. -/
structure Prepared (l : Loop) (s t : State ρ) : Prop extends Loaded l t.regs where
  ctr : t.ctr = s.ctr
  skips : (t.order != .gt) = decide (l.trips = 0)
  passes : l.trips ≠ 0 → (t.regs scratch).toNat = l.trips

/-- The lines before a body compute the number of passes, test it and set the count register. -/
theorem setup_code (h : Fitting l) {startValue stopValue stepValue : Option Int}
    (hstart : startValue = none ∨ startValue = some l.startValue)
    (hstop : stopValue = none ∨ stopValue = some l.stopValue)
    (hstep : stepValue = none ∨ stepValue = some l.stepValue) :
    ∃ gs : List (State ρ → State ρ),
      ((setupKnown l startValue stopValue stepValue).map Op.write).map (read other) =
        gs.map .effect ++ [.branch id (fun s => s.order != .gt) (afterLabel l.label),
          .effect (fun s => { s with ctr := s.regs scratch }), .effect id] ∧
      ∀ s, Prepared l s (inTurn gs s) := by
  obtain ⟨F, ⟨gs, hgs, hset⟩, hcounted⟩ := @establishes_setup ρ other l _ _ h hstart hstop _ hstep
  refine ⟨gs ++ [fun s => { s with order := compare (s.regs scratch).toInt 0 }], ?_, fun s => ?_⟩
  · have hcompare : read other (Op.cmpdi scratch 0).write = _ := read_write (.cmpdi scratch_mem rfl)
    have htest : read other (Op.ble (afterLabel l.label)).write = _ := read_write (.ble (isSymbol_afterLabel h))
    have hcount : read other (Op.mtctr scratch).write = _ := read_write (.mtctr scratch_mem)
    have halign : read other Op.align.write = _ := read_write .align
    rw [setupKnown, List.map_append, List.map_append, hgs]
    simp [hcompare, htest, hcount, halign, Instr.act]
  · have hturn : inTurn (gs ++ [fun s => { s with order := compare (s.regs scratch).toInt 0 }]) s =
        { inTurn gs s with order := compare ((inTurn gs s).regs scratch).toInt 0 } := by
      simp [inTurn]
    have hcounted : Counted l (inTurn gs s).regs := by
      rw [(hset s).1]
      exact hcounted s.regs trivial
    rw [hturn]
    exact ⟨hcounted.toLoaded, (hset s).2, hcounted.skips_iff, hcounted.toNat_scratch⟩

/-- The loop register has been moved on, and nothing else has changed that counts. -/
structure Advanced (l : Loop) (s t : State ρ) : Prop where
  ctr : t.ctr = s.ctr
  regs : t.regs = Function.update s.regs l.counter (s.regs l.counter + BitVec.ofInt 64 l.stride)

theorem read_advance (h : Fitting l) :
    ∃ g, read other (Op.addi l.counter l.counter (if l.direction.countsDown then "-" ++ l.step else l.step)).write =
      .effect g ∧ ∀ s, Advanced l s (g s) := by
  have hpos := h.countable.positive
  have hle := h.step_le
  have hshort : ∀ n : Int, n = l.stepValue ∨ n = -l.stepValue → isShort n = true := by
    intro n hn
    simp only [isShort, Bool.and_eq_true, decide_eq_true_eq]
    omega
  have hbase : l.counter ≠ "r0" := h.counter_ne
  have hadvanced : ∀ s : State ρ, Advanced l s
      (s.put l.counter ((if l.counter = "r0" then 0 else s.regs l.counter) + BitVec.ofInt 64 l.stride)) :=
    fun s => ⟨rfl, by rw [if_neg hbase]; rfl⟩
  unfold Loop.stride at hadvanced
  split
  case isTrue hdown =>
    rw [if_pos hdown] at hadvanced
    have hconstant := Assembler.constant?_neg h.countable.constant_step (by omega)
    exact ⟨_, read_write (.addi h.counter h.counter hconstant (hshort _ (Or.inr rfl))), hadvanced⟩
  case isFalse hup =>
    rw [if_neg hup] at hadvanced
    exact ⟨_, read_write (.addi h.counter h.counter h.countable.constant_step (hshort _ (Or.inl rfl))), hadvanced⟩

/-- The lines behind a body move the loop register on, count down and end in the exit label. -/
theorem footer_code (h : Fitting l) :
    ∃ g : State ρ → State ρ, ((footer l).map Op.write).map (read other) =
      [.effect g, .branch (fun s => { s with ctr := s.ctr - 1 }) (fun s => s.ctr != 0) l.label,
        .label (afterLabel l.label)] ∧ ∀ s, Advanced l s (g s) := by
  obtain ⟨g, hg, hadvanced⟩ := @read_advance ρ other l h
  have hbranch : read other (Op.bdnz l.label).write = _ := read_write (.bdnz h.label)
  have hexit : read other (Op.label (afterLabel l.label)).write = _ := read_label (isSymbol_afterLabel h)
  refine ⟨g, ?_, hadvanced⟩
  simp only [footer, List.map_cons, List.map_nil, hbranch, hexit]
  exact congrArg (· :: _) hg

/-! ### Passes -/

theorem count_down {ctr : BitVec 64} {n k : Nat} (hk : k < n) (h : ctr.toNat = n - k) :
    (ctr - 1).toNat = n - (k + 1) ∧ (ctr - 1 != 0) = decide (k + 1 < n) := by
  have hone : (1 : BitVec 64).toNat = 1 := rfl
  have hzero : (0 : BitVec 64).toNat = 0 := rfl
  have hcount : (ctr - 1).toNat = n - (k + 1) := by
    rw [BitVec.toNat_sub_of_le (by rw [BitVec.le_def]; omega), h, hone]
    omega
  refine ⟨hcount, ?_⟩
  rw [Bool.eq_iff_iff, bne_iff_ne, decide_eq_true_eq, ne_eq, ← BitVec.toNat_inj, hcount, hzero]
  omega

/-- Some lines are crossed wherever they stand, and leave the count register and some registers as they found them. -/
def Passable (kept : List String) (body : List (Action (State ρ))) : Prop :=
  ∀ code line, (labels code).Nodup → Placed code line body → ∀ s, ∃ trace t,
    Crosses code line (line + body.length) s trace t ∧ t.ctr = s.ctr ∧ ∀ r ∈ kept, t.regs r = s.regs r

theorem passable_effects {kept : List String} {fs : List (State ρ → State ρ)}
    (h : ∀ f ∈ fs, ∀ s, (f s).ctr = s.ctr ∧ ∀ r ∈ kept, (f s).regs r = s.regs r) : Passable kept (fs.map .effect) := by
  intro code line _ hplaced s
  obtain ⟨trace, hcross, hkeeps⟩ := crosses_effects hplaced s
  rw [List.length_map]
  refine ⟨trace, _, hcross, (hkeeps (fun t => t.ctr = s.ctr ∧ ∀ r ∈ kept, t.regs r = s.regs r) (fun f hf t ht => ?_)
    ⟨rfl, fun _ _ => rfl⟩).1⟩
  exact ⟨(h f hf t).1.trans ht.1, fun r hr => ((h f hf t).2 r hr).trans (ht.2 r hr)⟩

/-- The code of a loop that counts: effects, the test that leaves it, the count, the label in line `first`, the body and
    the lines that close it. -/
def IsCounted (l : Loop) (body : List (Action (State ρ))) (first : Nat) (code : List (Action (State ρ))) : Prop :=
  ∃ gs g, gs.length + 3 = first ∧ (∀ s, Prepared l s (inTurn gs s)) ∧ (∀ s, Advanced l s (g s)) ∧
    code = gs.map .effect ++ (.branch id (fun s => s.order != .gt) (afterLabel l.label) ::
      .effect (fun s => { s with ctr := s.regs scratch }) :: .effect id :: .label l.label ::
      (body ++ [.effect g, .branch (fun s => { s with ctr := s.ctr - 1 }) (fun s => s.ctr != 0) l.label,
        .label (afterLabel l.label)]))

theorem isCounted (h : Fitting l) {startValue stopValue stepValue : Option Int}
    (hstart : startValue = none ∨ startValue = some l.startValue)
    (hstop : stopValue = none ∨ stopValue = some l.stopValue)
    (hstep : stepValue = none ∨ stepValue = some l.stepValue) (body : List String) :
    IsCounted l (body.map (read other)) (setupKnown l startValue stopValue stepValue).length
      (((setupKnown l startValue stopValue stepValue ++ [Op.label l.label]).map Op.write ++ body ++
        (footer l).map Op.write).map (read other)) := by
  obtain ⟨gs, hsetup, hprepared⟩ := @setup_code ρ other l h _ _ _ hstart hstop hstep
  obtain ⟨g, hfooter, hadvanced⟩ := @footer_code ρ other l h
  have hlabel : read other (Op.label l.label).write = .label l.label := read_label h.label
  refine ⟨gs, g, ?_, hprepared, hadvanced, ?_⟩
  · have hlength := congrArg List.length hsetup
    simpa using hlength.symm
  · simp only [List.map_append, hsetup, hfooter, List.map_cons, List.map_nil, hlabel]
    simp

theorem IsCounted.labels_eq {body code : List (Action (State ρ))} {first : Nat} (h : IsCounted l body first code) :
    labels code = l.label :: (labels body ++ [afterLabel l.label]) := by
  obtain ⟨gs, g, -, -, -, rfl⟩ := h
  simp

/-- At the label before pass `k` the count register holds the passes that are left. -/
structure Ready (l : Loop) (k : Nat) (s : State ρ) : Prop where
  ctr : s.ctr.toNat = l.trips - k
  counter : s.regs l.counter = BitVec.ofInt 64 (l.value k)
  limit : s.regs l.limit = BitVec.ofInt 64 l.stopValue

/-- The trace of one pass from the label through a body of `n` lines to the branch. At the label the loop register and
    the end register hold these numbers. -/
def IsPass (code : List (Action (State ρ))) (counter limit : String) (first n : Nat) (value stop : Int)
    (trace : List (Config (State ρ))) : Prop :=
  ∃ s inside t u, trace = [(first, s)] ++ inside ++ [(first + 1 + n, t)] ++ [(first + 1 + n + 1, u)] ∧
    Crosses code (first + 1) (first + 1 + n) s inside t ∧
    (s.regs counter).toInt = value ∧ (s.regs limit).toInt = stop

/-- From a state the code of a loop comes to its exit label, in passes over a body of `n` lines behind the label in line
    `first`. The loop register takes some values in turn, the last of which it keeps at the exit. -/
def RunsPasses (code : List (Action (State ρ))) (l : Loop) (first n : Nat) (value : Nat → Int) (stop : Int)
    (passes : Nat) (s : State ρ) : Prop :=
  ∃ setup loop t, Run code (0, s) (setup ++ loop) (first + 1 + n + 2, t) ∧
    code[first + 1 + n + 2]? = some (.label (afterLabel l.label)) ∧ (∀ c ∈ setup, c.1 < first) ∧
    Passes (fun k => IsPass code l.counter l.limit first n (value k) stop) 0 passes loop ∧
    t.regs l.counter = BitVec.ofInt 64 (value passes) ∧ t.regs l.limit = BitVec.ofInt 64 stop

section Passes
variable {body code : List (Action (State ρ))} {first n : Nat} {s t : State ρ}

/-- The lines of a loop from its label on, with a body that is crossed in any state. -/
structure LabelLines (l : Loop) (code : List (Action (State ρ))) (first n : Nat) : Prop where
  label : code[first]? = some (.label l.label)
  target : target? code l.label = some first
  body : ∀ s, ∃ trace t, Crosses code (first + 1) (first + 1 + n) s trace t ∧ t.ctr = s.ctr ∧
    t.regs l.counter = s.regs l.counter ∧ t.regs l.limit = s.regs l.limit
  advance : ∃ g, code[first + 1 + n]? = some (.effect g) ∧ ∀ s, Advanced l s (g s)
  branch : code[first + 1 + n + 1]? =
    some (.branch (fun s => { s with ctr := s.ctr - 1 }) (fun s => s.ctr != 0) l.label)

/-- A pass leads from the label to the branch, which goes back unless it was the last. -/
theorem LabelLines.pass (hlines : LabelLines l code first n) (h : Fitting l) {k : Nat} (hk : k < l.trips)
    (hs : Ready l k s) :
    ∃ trace t, Crosses code first (first + 1 + n + 1) s trace t ∧
      IsPass code l.counter l.limit first n (l.value k) l.stopValue (trace ++ [(first + 1 + n + 1, t)]) ∧
      Ready l (k + 1) { t with ctr := t.ctr - 1 } ∧ (t.ctr - 1 != 0) = decide (k + 1 < l.trips) := by
  obtain ⟨inside, t, hinside, hctr, hcounter, hlimit⟩ := hlines.body s
  obtain ⟨g, hg, hadvanced⟩ := hlines.advance
  have hmoved := hadvanced t
  have hleft : (g t).ctr.toNat = l.trips - k := by rw [hmoved.ctr, hctr, hs.ctr]
  obtain ⟨hcount, hback⟩ := count_down hk hleft
  refine ⟨_, g t, ((crosses_label hlines.label s).trans hinside).trans (crosses_effect hg t),
    ⟨s, inside, t, g t, rfl, hinside, ?_, ?_⟩, ⟨hcount, ?_, ?_⟩, hback⟩
  · rw [hs.counter, toInt_ofInt (by decide) (Loop.value_fits h.countable h.start_fits h.stop_fits hk)]
  · rw [hs.limit, toInt_ofInt (by decide) h.stop_fits]
  · rw [hmoved.regs, Function.update_self, hcounter, hs.counter, Loop.value_succ, BitVec.ofInt_add]
  · rw [hmoved.regs, Function.update_of_ne h.distinct.symm, hlimit, hs.limit]

/-- The lines of a loop from its test, which leads to the exit label in line `stop`, up to the label. -/
structure TestLines (l : Loop) (code : List (Action (State ρ))) (line stop : Nat) : Prop where
  test : code[line]? = some (.branch id (fun s => s.order != .gt) (afterLabel l.label))
  count : code[line + 1]? = some (.effect fun s => { s with ctr := s.regs scratch })
  align : code[line + 2]? = some (.effect id)
  exit : code[stop]? = some (.label (afterLabel l.label))
  target : target? code (afterLabel l.label) = some stop

theorem TestLines.skips {line stop : Nat} (hlines : TestLines l code line stop) (ht : Prepared l s t)
    (hzero : l.trips = 0) : Run code (line, t) [(line, t)] (stop, t) := by
  refine .single ?_
  simp [step, hlines.test, ht.skips, hzero, hlines.target]

/-- With passes to make, their number is in the count register at the label. -/
theorem TestLines.enters {line stop : Nat} (hlines : TestLines l code line stop) (ht : Prepared l s t)
    (hsome : l.trips ≠ 0) :
    ∃ trace, Crosses code line (line + 3) t trace { t with ctr := t.regs scratch } ∧
      Ready l 0 { t with ctr := t.regs scratch } := by
  have hstep : step code (line, t) = some (line + 1, t) := by simp [step, hlines.test, ht.skips, hsome]
  refine ⟨_, ((Crosses.of_step hstep (Nat.lt_succ_self _)).trans (crosses_effect hlines.count t)).trans
    (crosses_effect hlines.align _), ht.passes hsome, ?_, ht.limit⟩
  rw [Loop.value_zero]
  exact ht.counter

/-- The lines of a loop, one after the other, with a body that can be passed. -/
theorem IsCounted.exists_lines (hcode : IsCounted l body first code)
    (hlabels : (l.label :: afterLabel l.label :: labels body).Nodup) (hbody : Passable [l.counter, l.limit] body) :
    ∃ gs : List (State ρ → State ρ), gs.length + 3 = first ∧ (∀ s, Prepared l s (inTurn gs s)) ∧
      Placed code 0 (gs.map .effect) ∧ TestLines l code gs.length (first + 1 + body.length + 2) ∧
      LabelLines l code first body.length := by
  have hnodup : (labels code).Nodup := by
    rw [hcode.labels_eq]
    exact ((List.perm_append_singleton _ _).cons _).nodup_iff.mpr hlabels
  obtain ⟨gs, g, rfl, hprepared, hadvanced, hlist⟩ := hcode
  have hplaced : Placed code 0 code := placed_self code
  nth_rewrite 2 [hlist] at hplaced
  have htest := hplaced.right
  rw [List.length_map, Nat.zero_add] at htest
  have hlabel := htest.tail.tail.tail
  have hclosing := hlabel.tail.right
  have hexit := hclosing.tail.tail
  refine ⟨gs, rfl, hprepared, hplaced.left,
    ⟨htest.head, htest.tail.head, htest.tail.tail.head, hexit.head, target?_of_placed hnodup hexit⟩,
    ⟨hlabel.head, target?_of_placed hnodup hlabel, fun s => ?_, ⟨g, hclosing.head, hadvanced⟩, hclosing.tail.head⟩⟩
  obtain ⟨trace, t, hcross, hctr, hkept⟩ := hbody code _ hnodup hlabel.tail.left s
  exact ⟨trace, t, hcross, hctr, hkept l.counter (by simp), hkept l.limit (by simp)⟩

theorem IsCounted.runs (hcode : IsCounted l body first code) (h : Fitting l)
    (hlabels : (l.label :: afterLabel l.label :: labels body).Nodup) (hbody : Passable [l.counter, l.limit] body)
    (s : State ρ) :
    RunsPasses code l first body.length l.value l.stopValue l.trips s := by
  obtain ⟨gs, rfl, hprepared, heffects, htest, hlines⟩ := hcode.exists_lines hlabels hbody
  obtain ⟨before, hbefore, -⟩ := crosses_effects heffects s
  rw [Nat.zero_add] at hbefore
  have hs := hprepared s
  by_cases hzero : l.trips = 0
  · refine ⟨before ++ [(gs.length, inTurn gs s)], [], inTurn gs s, ?_, htest.exit, ?_, ?_, ?_, hs.limit⟩
    · rw [List.append_nil]
      exact hbefore.run.trans (htest.skips hs hzero)
    · refine List.forall_mem_append.mpr ⟨fun c hc => ?_, ?_⟩
      · exact Nat.lt_of_lt_of_le (hbefore.within c hc).2 (Nat.le_add_right _ _)
      · rw [List.forall_mem_singleton]
        exact Nat.lt_add_of_pos_right (by decide)
    · rw [hzero]
      exact .done 0
    · rw [hs.counter, hzero, Loop.value_zero]
  · obtain ⟨entry, henter, hready⟩ := htest.enters hs hzero
    have hsetup := hbefore.trans henter
    obtain ⟨passes, t, hloop, hpasses, hlast⟩ := crosses_loop hlines.branch hlines.target
      (fun k hk s hs => hlines.pass h hk hs) (Nat.pos_of_ne_zero hzero) hready
    exact ⟨_, passes, t, hsetup.run.trans hloop.run, htest.exit, fun c hc => (hsetup.within c hc).2, hpasses,
      hlast.counter, hlast.limit⟩

end Passes

end Power

end BenchKernel
