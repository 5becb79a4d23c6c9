import BenchKernel.Proofs.Execution.CompareBranch
import BenchKernel.Proofs.Machine.Lanes

/-! # Loops with and without lanes

With lanes a loop goes on as long as its register is below the end as an unsigned number, and without them as long as it
is below it as a signed one. Apart from this test the two forms do the same. So they make the same passes exactly if all
values that are compared with the end have the sign of the end: where the first one differs from it, the test with lanes
ends a loop that is to go on, or goes on with a loop that is to end. -/

namespace BenchKernel

theorem Loop.passes_pos (l : Loop) : 0 < l.passes := Nat.lt_of_lt_of_le Nat.one_pos (Nat.le_max_left _ _)

/-- All values of the loop register that are compared with the end have the sign of the end. -/
def Loop.OneSided (l : Loop) : Prop := ∀ k < l.passes, 0 ≤ l.value (k + 1) ↔ 0 ≤ l.stopValue

namespace Lanes
open Machine CompareBranch

variable {ρ : Type}

/-! ### The two tests -/

/-- Unsigned numbers compare as signed ones of the same sign, and otherwise the other way round. -/
theorem isBelow_ofInt {w : Nat} (hw : 0 < w) {d : Direction} {inclusive : Bool}
    (hd : Branching.lanePredicate? d = some inclusive) {a b : Int} (ha : Fits w a) (hb : Fits w b) :
    isBelow inclusive (BitVec.ofInt w a) (BitVec.ofInt w b) =
      if 0 ≤ a ↔ 0 ≤ b then d.holds a b else decide (0 ≤ a) := by
  have hmsb : ∀ {n : Int}, Fits w n → (BitVec.ofInt w n).msb = !decide (0 ≤ n) := fun {n} hn => by
    rw [BitVec.msb_eq_toInt, toInt_ofInt hw hn, ← decide_not, decide_eq_decide, Int.not_le]
  have hslt : ∀ {m n : Int}, Fits w m → Fits w n → (BitVec.ofInt w m).slt (BitVec.ofInt w n) = decide (m < n) :=
    fun hm hn => by rw [BitVec.slt_eq_decide, toInt_ofInt hw hm, toInt_ofInt hw hn]
  have hult : ∀ {m n : Int}, Fits w m → Fits w n →
      (BitVec.ofInt w m).ult (BitVec.ofInt w n) = if 0 ≤ m ↔ 0 ≤ n then decide (m < n) else decide (0 ≤ m) := by
    intro m n hm hn
    have h := @BitVec.slt_eq_ult w (BitVec.ofInt w m) (BitVec.ofInt w n)
    rw [hslt hm hn, hmsb hm, hmsb hn] at h
    generalize (BitVec.ofInt w m).ult (BitVec.ofInt w n) = below at h ⊢
    by_cases h₁ : 0 ≤ m <;> by_cases h₂ : 0 ≤ n <;> simp only [h₁, h₂, decide_true, decide_false] at h ⊢ <;>
      cases below <;> simp at h ⊢ <;> omega
  cases d <;> cases hd
  · exact hult ha hb
  · rw [isBelow, if_pos rfl, BitVec.ule_eq_not_ult, hult hb ha]
    have hle : (!decide (b < a)) = decide (a ≤ b) := by rw [← decide_not, decide_eq_decide, Int.not_lt]
    by_cases h₁ : 0 ≤ a <;> by_cases h₂ : 0 ≤ b <;> simp only [h₁, h₂, Direction.holds] <;> simp [hle]

/-! ### Code of a loop -/

/-- The lines of a loop around a body. -/
def around (arch : Arch) (l : Loop) (body : List String) : List String :=
  (Frame.loop l).header arch ++ body ++ (Frame.loop l).footer arch

/-- The registers of a loop at its label before pass `k`. -/
structure Ready {w : Nat} (l : Loop) (k : Nat) (s : State w ρ) : Prop where
  counter : s.regs l.counter = BitVec.ofInt w (l.value k)
  limit : s.regs l.limit = BitVec.ofInt w l.stopValue

/-- The effects behind a body move the loop register on, and the branch behind them compares it with the end. -/
def Closes {w : Nat} (l : Loop) (test : BitVec w → BitVec w → Bool) (hs : List (State w ρ → State w ρ))
    (taken : State w ρ → Bool) : Prop :=
  ∀ s, (inTurn hs s).regs =
      Function.update s.regs l.counter (advanceBy l.direction.countsDown l.stepValue (s.regs l.counter)) ∧
    taken (inTurn hs s) = test ((inTurn hs s).regs l.counter) ((inTurn hs s).regs l.limit)

/-- The code of a loop that goes on by a test: effects, the label in line `first`, the body, effects and a branch. -/
def IsLoop {w : Nat} (l : Loop) (test : BitVec w → BitVec w → Bool) (body : List (Action (State w ρ))) (first : Nat)
    (code : List (Action (State w ρ))) : Prop :=
  ∃ gs hs taken, gs.length = first ∧ (∀ s, Ready l 0 (inTurn gs s)) ∧ Closes l test hs taken ∧
    code = gs.map .effect ++ (.label l.label :: (body ++ (hs.map .effect ++ [.branch id taken l.label])))

section Code
variable (other : String → Action (State (width .armv8) ρ)) {l : Loop} {inclusive : Bool}

/-- The test of a loop without lanes, by the flags of a comparison. -/
def signedTest {w : Nat} (l : Loop) (a b : BitVec w) : Bool := l.direction.taken (Flags.compare a b)

theorem isLoop_plain (h : Fitting .armv8 l) (hne : l.counter ≠ l.limit) (body : List String) :
    IsLoop l (signedTest l) (body.map (read other)) (((Frame.loop l).header .armv8).length - 1)
      ((around .armv8 l body).map (read other)) := by
  have harch : Arch.armv8 ∈ targets := by decide
  have hdialect : Arch.armv8.dialect? = some .arm64 := rfl
  obtain ⟨gs, hgs, hthree, -, hset⟩ := @setup_effects _ .armv8 (readLanes other) l harch _ hdialect h hne
  obtain ⟨g, hg, hadvance⟩ := @read_advance _ _ .armv8 _ (readLanes other) _ _ harch hdialect h.counter _
    h.countable.constant_step l.direction.countsDown
  refine ⟨gs, [g, fun s => { s with flags := .compare (s.regs l.counter) (s.regs l.limit) }],
    fun s => l.direction.taken s.flags, by rw [hthree, length_header harch],
    fun s => ⟨(hset s).1, (hset s).2⟩, fun s => ⟨hadvance s, rfl⟩, ?_⟩
  rw [← hgs, around, header_eq harch hdialect, footer_eq harch hdialect]
  simp only [List.map_append, List.map_cons, List.map_nil, read, read_label harch h.label, hg,
    read_compare harch hdialect h.counter h.limit, read_branch harch hdialect h.label]
  simp

theorem header_lanes (hd : Branching.lanePredicate? l.direction = some inclusive) :
    (Frame.loop l).header .armv8Sve =
      [Branching.start l, .load l.limit l.stop, .allLanes].map Branching.Dialect.arm64.write ++
        (Branching.updateLanes inclusive l).map Branching.Dialect.arm64.write ++
        [Branching.Dialect.arm64.write .align, l.label ++ ":"] := by
  simp [Frame.header, Arch.loopPrologue, Arch.dialect?, Arch.isVector, Branching.header, hd, Frame.write_label]

theorem footer_lanes (hd : Branching.lanePredicate? l.direction = some inclusive) :
    (Frame.loop l).footer .armv8Sve =
      Branching.Dialect.arm64.write (.advance l.direction.countsDown l.counter l.step) ::
        (Branching.updateLanes inclusive l).map Branching.Dialect.arm64.write ++
        [Branching.Dialect.arm64.write (.branchFirst l.label)] := by
  simp [Frame.footer, Arch.loopEpilogue, Arch.dialect?, Arch.isVector, Branching.footer, hd]

/-- Computing the predicates writes no general register, and leaves in the flags whether the first lane is active. -/
theorem updateLanes_effects (h : Fitting .armv8 l) (inclusive : Bool) :
    ∃ us : List (State (width .armv8) ρ → State (width .armv8) ρ),
      (Branching.updateLanes inclusive l).map (fun op => read other (Branching.Dialect.arm64.write op)) =
        us.map .effect ∧
      ∀ s, (inTurn us s).regs = s.regs ∧
        (inTurn us s).flags.negative = isBelow inclusive (s.regs l.counter) (s.regs l.limit) := by
  refine ⟨(fun s => { setPredicate "p1" (lanesBelow inclusive (s.regs l.counter) (s.regs l.limit)) s with
      flags := flagsOfLanes (lanesBelow inclusive (s.regs l.counter) (s.regs l.limit)) }) ::
    Branching.laneCopies.map fun p s => setPredicate p (s.rest.1 "p1") s, ?_, fun s => ⟨rfl, ?_⟩⟩
  · rw [Branching.updateLanes, List.map_cons, read_lanes inclusive h.counter h.limit, List.map_map, List.map_cons,
      List.map_map]
    exact congrArg _ (List.map_congr_left fun p hp => read_copyLanes hp)
  · exact lanesBelow_zero inclusive _ _

theorem isLoop_lanes (h : Fitting .armv8 l) (hne : l.counter ≠ l.limit)
    (hd : Branching.lanePredicate? l.direction = some inclusive) (body : List String) :
    IsLoop l (isBelow inclusive) (body.map (read other)) (((Frame.loop l).header .armv8Sve).length - 1)
      ((around .armv8Sve l body).map (read other)) := by
  have harch : Arch.armv8 ∈ targets := by decide
  have hdialect : Arch.armv8.dialect? = some .arm64 := rfl
  have halign : read other (Branching.Dialect.arm64.write .align) = .effect id := read_align harch hdialect
  have hlabel : read other (l.label ++ ":") = .label l.label := read_label harch h.label
  obtain ⟨gs, hgs, hthree, -, hset⟩ := @setup_effects _ .armv8 (readLanes other) l harch _ hdialect h hne
  obtain ⟨g₁, g₂, g₃, rfl⟩ := List.length_eq_three.mp hthree
  simp only [List.map_cons, List.map_nil, List.cons.injEq, and_true] at hgs
  obtain ⟨(hg₁ : read other _ = _), (hg₂ : read other _ = _), (hg₃ : read other _ = _)⟩ := hgs
  obtain rfl : g₃ = id := Action.effect.inj (hg₃.symm.trans halign)
  obtain ⟨g, (hg : read other _ = _), hadvance⟩ := @read_advance _ _ .armv8 _ (readLanes other) _ _ harch hdialect
    h.counter _ h.countable.constant_step l.direction.countsDown
  obtain ⟨us, (hus : List.map (read other ∘ _) _ = _), hupdate⟩ := updateLanes_effects other h inclusive
  refine ⟨[g₁, g₂, setPredicate "p0" fun _ => true] ++ us ++ [id], g :: us, fun s => s.flags.negative, ?_,
    fun s => ?_, fun s => ⟨(hupdate _).1.trans (hadvance s), ?_⟩, ?_⟩
  · have hlength := congrArg List.length hus
    simp only [List.length_map] at hlength
    simp [header_lanes hd, hlength]
  · have hregs : (inTurn ([g₁, g₂, setPredicate "p0" fun _ => true] ++ us ++ [id]) s).regs = (g₂ (g₁ s)).regs := by
      simp only [inTurn, List.foldl_append]
      exact (hupdate _).1
    exact ⟨by rw [hregs]; exact (hset s).1, by rw [hregs]; exact (hset s).2⟩
  · show (inTurn us (g s)).flags.negative = isBelow inclusive ((inTurn us (g s)).regs _) ((inTurn us (g s)).regs _)
    rw [(hupdate _).1, (hupdate _).2]
  · rw [around, header_lanes hd, footer_lanes hd]
    simp [hg₁, hg₂, hg, hus, halign, hlabel, read_allLanes, read_branchFirst h.label]

end Code

/-! ### Passes -/

/-- Some lines are crossed wherever they stand, and leave some registers as they found them. -/
def Passable {w : Nat} (kept : List String) (body : List (Action (State w ρ))) : Prop :=
  ∀ code line, (labels code).Nodup → Placed code line body → ∀ s, ∃ trace t,
    Crosses code line (line + body.length) s trace t ∧ Agrees kept s t

theorem passable_effects {w : Nat} {kept : List String} {fs : List (State w ρ → State w ρ)}
    (h : ∀ f ∈ fs, ∀ s, Agrees kept s (f s)) : Passable kept (fs.map .effect) := by
  intro code line _ hplaced s
  obtain ⟨trace, hcross, hkeeps⟩ := crosses_effects hplaced s
  rw [List.length_map]
  exact ⟨trace, _, hcross, (hkeeps (Agrees kept s) (fun f hf t ht r hr => (h f hf t r hr).trans (ht r hr))
    fun _ _ => rfl).1⟩

/-- The value of the loop register at the start of pass `k`, as the register holds it. -/
def held (w : Nat) (l : Loop) (k : Nat) : Int := (BitVec.ofInt w (l.value k)).toInt

/-- Whether a loop goes on after pass `k`. -/
def goesOn {w : Nat} (l : Loop) (test : BitVec w → BitVec w → Bool) (k : Nat) : Bool :=
  test (BitVec.ofInt w (l.value (k + 1))) (BitVec.ofInt w l.stopValue)

section Passes
variable {w : Nat} {l : Loop} {test : BitVec w → BitVec w → Bool} {body code : List (Action (State w ρ))}
  {first n : Nat}

/-- The values of the loop register at the label, one for each pass that starts. -/
def starts (l : Loop) (first : Nat) (trace : List (Config (State w ρ))) : List Int :=
  visits first (fun s => (s.regs l.counter).toInt) trace

theorem starts_append (l : Loop) (first : Nat) (trace trace' : List (Config (State w ρ))) :
    starts l first (trace ++ trace') = starts l first trace ++ starts l first trace' :=
  visits_append first _ trace trace'

/-- The trace of pass `k` starts this one pass. -/
def StartsOne (l : Loop) (first k : Nat) (trace : List (Config (State w ρ))) : Prop :=
  starts l first trace = [held w l k]

theorem IsLoop.pass (h : IsLoop l test body first code) (hne : l.counter ≠ l.limit) (hnodup : (labels code).Nodup)
    (hbody : Passable [l.counter, l.limit] body) :
    ∃ line taken, code[line]? = some (.branch id taken l.label) ∧ target? code l.label = some first ∧
      code.length = line + 1 ∧
      (∀ s, ∃ trace t, Crosses code 0 first s trace t ∧ Ready l 0 t) ∧
      ∀ k s, Ready l k s → ∃ trace t, Crosses code first line s trace t ∧
        StartsOne l first k (trace ++ [(line, t)]) ∧ Ready l (k + 1) (id t) ∧
        taken (id t) = goesOn l test k := by
  obtain ⟨gs, hs, taken, rfl, hopens, hcloses, hcode⟩ := h
  have hplaced : Placed code 0 code := placed_self code
  nth_rewrite 2 [hcode] at hplaced
  have hfirst := hplaced.right
  rw [List.length_map, Nat.zero_add] at hfirst
  have hbehind := hfirst.tail.right
  have hbranch := hbehind.right
  rw [List.length_map] at hbranch
  refine ⟨gs.length + 1 + body.length + hs.length, taken, hbranch.head, target?_of_placed hnodup hfirst, ?_, ?_, ?_⟩
  · simp [hcode]
    omega
  · intro s
    obtain ⟨trace, hcross, -⟩ := crosses_effects hplaced.left s
    rw [Nat.zero_add] at hcross
    exact ⟨trace, _, hcross, hopens s⟩
  · intro k s hready
    obtain ⟨inside, t, hinside, hagrees⟩ := hbody code _ hnodup hfirst.tail.left s
    obtain ⟨closing, hclosing, -⟩ := crosses_effects hbehind.left t
    have hlabel := crosses_label hfirst.head s
    obtain ⟨hregs, htaken⟩ := hcloses t
    have hcounter : (inTurn hs t).regs l.counter = BitVec.ofInt w (l.value (k + 1)) := by
      rw [hregs, Function.update_self, hagrees l.counter (by simp), hready.counter, advanceBy_value]
    have hlimit : (inTurn hs t).regs l.limit = BitVec.ofInt w l.stopValue := by
      rw [hregs, Function.update_of_ne hne.symm, hagrees l.limit (by simp), hready.limit]
    refine ⟨_, _, (hlabel.trans hinside).trans hclosing, ?_, ⟨hcounter, hlimit⟩, ?_⟩
    · rw [StartsOne, starts, visits_append, visits_append, visits_append, visits_single (gs.length, s),
        hinside.visits_eq_nil _ (by omega), hclosing.visits_eq_nil _ (by omega), visits_single_of_ne (by simp; omega),
        hready.counter]
      rfl
    · rw [id, htaken, hcounter, hlimit]
      rfl

/-- If the test goes on after all of `n` passes but the last, the loop makes these passes and ends. -/
theorem IsLoop.ends (h : IsLoop l test body first code) (hne : l.counter ≠ l.limit) (hnodup : (labels code).Nodup)
    (hbody : Passable [l.counter, l.limit] body) (hpos : 0 < n) (htest : ∀ k < n, goesOn l test k = decide (k + 1 < n))
    (s : State w ρ) :
    ∃ trace t, Run code (0, s) trace (code.length, t) ∧ starts l first trace = (List.range n).map (held w l) := by
  obtain ⟨line, taken, hbranch, htarget, hlength, hsetup, hpass⟩ := h.pass hne hnodup hbody
  obtain ⟨setup, t, hcross, hready⟩ := hsetup s
  obtain ⟨trace, u, hloop, hpasses, -⟩ := crosses_loop hbranch htarget (fun k hk s hs => by
    obtain ⟨trace, t, hcross, hstarts, hready, htaken⟩ := hpass k s hs
    exact ⟨trace, t, hcross, hstarts, hready, htaken.trans (htest k hk)⟩) hpos hready
  rw [hlength]
  refine ⟨_, _, hcross.run.trans hloop.run, ?_⟩
  rw [starts, visits_append, hcross.visits_eq_nil _ (by omega), hpasses.visits_eq fun _ _ hp => hp]
  simp [List.range_eq_range', List.map_eq_flatMap]

theorem IsLoop.goes_on (h : IsLoop l test body first code) (hne : l.counter ≠ l.limit) (hnodup : (labels code).Nodup)
    (hbody : Passable [l.counter, l.limit] body) (htest : ∀ k < n, goesOn l test k = true) (s : State w ρ) :
    ∃ trace d, Run code (0, s) trace d ∧ (starts l first trace).length = n + 1 := by
  obtain ⟨line, taken, hbranch, htarget, -, hsetup, hpass⟩ := h.pass hne hnodup hbody
  obtain ⟨setup, t, hcross, hready⟩ := hsetup s
  obtain ⟨trace, u, hback, hpasses, hlast⟩ := runs_back hbranch htarget (fun k hk s hs => by
    obtain ⟨trace, t, hcross, hstarts, hready, htaken⟩ := hpass k s hs
    exact ⟨trace, t, hcross, hstarts, hready, htaken.trans (htest k hk)⟩) (Nat.zero_le n) hready
  obtain ⟨more, v, hmore, hstarts, -⟩ := hpass n u hlast
  obtain ⟨d, hd⟩ : ∃ d, step code (line, v) = some d := by
    simp only [step, hbranch, htarget, Option.map_some]
    exact ⟨_, (apply_ite some _ _ _).symm⟩
  refine ⟨_, d, (hcross.run.trans hback).trans (hmore.run.trans (.single hd)), ?_⟩
  have hbefore : starts l first trace = (List.range' 0 n).flatMap fun k => [held w l k] :=
    hpasses.visits_eq fun _ _ hp => hp
  have hsetupStarts : starts l first setup = [] := hcross.visits_eq_nil _ (by omega)
  rw [starts_append, starts_append, hsetupStarts, hbefore, hstarts]
  simp [← List.map_eq_flatMap]

/-- Any two runs of the same code to its end start the same passes, and no run starts more. -/
theorem starts_of_end {s t : State w ρ} {d : Config (State w ρ)} {trace trace' : List (Config (State w ρ))}
    (h : Run code (0, s) trace (code.length, t)) (h' : Run code (0, s) trace' d) :
    starts l first trace' <+: starts l first trace := by
  obtain ⟨rest, rfl⟩ := h.extends_to_stop (step_end code t) h'
  rw [starts_append]
  exact List.prefix_append _ _

end Passes

/-! ### Both forms compared -/

section Forms
variable {l : Loop} {inclusive : Bool}

theorem value_of_lanePredicate (hd : Branching.lanePredicate? l.direction = some inclusive) (k : Nat) :
    l.value k = l.startValue + k * l.stepValue := by
  have hup : l.direction.countsDown = false := by
    cases hdir : l.direction <;> rw [hdir] at hd <;> cases hd <;> rfl
  simp [Loop.value, hup]

theorem holds_value (h : Fitting .armv8 l) (k : Nat) :
    l.direction.holds (l.value (k + 1)) l.stopValue = decide (k + 1 < l.passes) := by
  rw [Bool.eq_iff_iff, ← Loop.lt_trips_iff h.countable, decide_eq_true_eq, Loop.passes]
  omega

theorem goesOn_plain (h : Fitting .armv8 l) {k : Nat} (hk : k < l.passes) :
    goesOn l (signedTest (w := width .armv8) l) k = decide (k + 1 < l.passes) :=
  taken_value h hk

theorem goesOn_lanes (h : Fitting .armv8 l) (hd : Branching.lanePredicate? l.direction = some inclusive) {k : Nat}
    (hk : k < l.passes) :
    goesOn l (isBelow (w := width .armv8) inclusive) k =
      if 0 ≤ l.value (k + 1) ↔ 0 ≤ l.stopValue then decide (k + 1 < l.passes) else decide (0 ≤ l.value (k + 1)) := by
  rw [goesOn, isBelow_ofInt (width_pos _) hd (h.value_fits hk) h.stop_fits, holds_value h]

theorem map_held (h : Fitting .armv8 l) {n : Nat} (hn : n ≤ l.passes) :
    (List.range n).map (held (width .armv8) l) = (List.range n).map l.value := by
  refine List.map_congr_left fun k hk => ?_
  have hk := List.mem_range.mp hk
  exact toInt_ofInt (width_pos _) (h.value_fits (by omega))

/-- Since a loop counts up, its first value compared with the end has the sign of an end that is not negative, or its
    last one that of a negative end, if all of them have. -/
theorem oneSided_iff (h : Fitting .armv8 l) (hd : Branching.lanePredicate? l.direction = some inclusive) :
    l.OneSided ↔ if 0 ≤ l.stopValue then 0 ≤ l.value 1 else l.value l.passes < 0 := by
  have hstep := h.countable.positive
  have hmono : ∀ {j k : Nat}, j ≤ k → l.value j ≤ l.value k := by
    intro j k hjk
    rw [value_of_lanePredicate hd, value_of_lanePredicate hd]
    have : (j : Int) * l.stepValue ≤ k * l.stepValue := Int.mul_le_mul_of_nonneg_right (by omega) (by omega)
    omega
  have hpos := l.passes_pos
  unfold Loop.OneSided
  split
  case isTrue hstop =>
    refine ⟨fun hall => (hall 0 hpos).mpr hstop, fun hone k _ => ⟨fun _ => hstop, fun _ => ?_⟩⟩
    exact hone.trans (hmono (by omega))
  case isFalse hstop =>
    constructor
    · intro hall
      have hlast := hall (l.passes - 1) (by omega)
      rw [Nat.sub_add_cancel hpos] at hlast
      omega
    · intro hlast k hk
      have hle : l.value (k + 1) ≤ l.value l.passes := hmono hk
      constructor <;> intro hnonneg <;> omega

/-- A run of the code of a loop around some lines comes to its end, and the values of the loop register at the starts of
    its passes are these. -/
def MakesPasses (arch : Arch) (other : String → Action (State (width .armv8) ρ)) (l : Loop) (body : List String)
    (s : State (width .armv8) ρ) (values : List Int) : Prop :=
  let code := (around arch l body).map (read other)
  ∃ trace t, Run code (0, s) trace (code.length, t) ∧
    starts l (((Frame.loop l).header arch).length - 1) trace = values

section Compared
variable {other : String → Action (State (width .armv8) ρ)} {body : List String}

theorem MakesPasses.unique {arch : Arch} {s : State (width .armv8) ρ} {values values' : List Int}
    (h : MakesPasses arch other l body s values) (h' : MakesPasses arch other l body s values') : values = values' := by
  obtain ⟨trace, t, hrun, rfl⟩ := h
  obtain ⟨trace', t', hrun', rfl⟩ := h'
  exact ((starts_of_end hrun' hrun).eq_of_length_le (starts_of_end hrun hrun').length_le)

/-- The labels of a loop around some lines are its own and those of the lines. -/
theorem nodup_labels {w first : Nat} {test : BitVec w → BitVec w → Bool} {lines code : List (Action (State w ρ))}
    (h : IsLoop l test lines first code) (hlabels : (l.label :: labels lines).Nodup) : (labels code).Nodup := by
  obtain ⟨gs, hs, taken, -, -, -, rfl⟩ := h
  simpa using hlabels

variable (h : Fitting .armv8 l) (hne : l.counter ≠ l.limit)
  (hd : Branching.lanePredicate? l.direction = some inclusive)
  (hlabels : (l.label :: labels (body.map (read other))).Nodup)
  (hbody : Passable [l.counter, l.limit] (body.map (read other)))
include h hne hlabels hbody

theorem makesPasses_plain (s : State (width .armv8) ρ) :
    MakesPasses .armv8 other l body s ((List.range l.passes).map l.value) := by
  have hloop := isLoop_plain other h hne body
  rw [← map_held h (Nat.le_refl _)]
  exact hloop.ends hne (nodup_labels hloop hlabels) hbody l.passes_pos (fun k hk => goesOn_plain h hk) s

include hd

theorem makesPasses_lanes (hsided : l.OneSided) (s : State (width .armv8) ρ) :
    MakesPasses .armv8Sve other l body s ((List.range l.passes).map l.value) := by
  have hloop := isLoop_lanes other h hne hd body
  rw [← map_held h (Nat.le_refl _)]
  exact hloop.ends hne (nodup_labels hloop hlabels) hbody l.passes_pos
    (fun k hk => by rw [goesOn_lanes h hd hk, if_pos (hsided k hk)]) s

/-- Below zero the test with lanes ends a loop after one pass that is to go on up to an end that is not negative. -/
theorem makesPasses_lanes_once (hstop : 0 ≤ l.stopValue) (hone : l.value 1 < 0) (s : State (width .armv8) ρ) :
    MakesPasses .armv8Sve other l body s [l.value 0] := by
  have hloop := isLoop_lanes other h hne hd body
  have hheld : [l.value 0] = (List.range 1).map (held (width .armv8) l) := (map_held h l.passes_pos).symm
  rw [hheld]
  refine hloop.ends hne (nodup_labels hloop hlabels) hbody Nat.one_pos (fun k hk => ?_) s
  obtain rfl : k = 0 := by omega
  rw [goesOn_lanes h hd l.passes_pos, Nat.zero_add, if_neg (by omega), decide_eq_false (by omega)]
  rfl

/-- Before a negative end the test with lanes goes on with a loop that has passed zero and is to end. -/
theorem lanes_go_on (hstop : l.stopValue < 0) (hlast : 0 ≤ l.value l.passes) {s : State (width .armv8) ρ}
    {values : List Int} (hmakes : MakesPasses .armv8Sve other l body s values) : l.passes < values.length := by
  have hloop := isLoop_lanes other h hne hd body
  have htest : ∀ k < l.passes, goesOn l (isBelow (w := width .armv8) inclusive) k = true := by
    intro k hk
    rw [goesOn_lanes h hd hk]
    -- All values but the last compare with the end, so they are negative like it.
    rcases Nat.lt_or_eq_of_le (show k + 1 ≤ l.passes from hk) with hlt | heq
    · have hholds := (holds_value h k).trans (decide_eq_true hlt)
      have hle : l.value (k + 1) ≤ l.stopValue := by
        cases hdir : l.direction <;> rw [hdir] at hd hholds <;> cases hd <;>
          simp only [Direction.holds, decide_eq_true_eq] at hholds <;> omega
      rw [if_pos (by omega), decide_eq_true hlt]
    · rw [← heq] at hlast
      rw [if_neg (by omega), decide_eq_true hlast]
  obtain ⟨trace, d, hrun, hlength⟩ := hloop.goes_on hne (nodup_labels hloop hlabels) hbody htest s
  obtain ⟨trace', t, hend, rfl⟩ := hmakes
  rw [← Nat.succ_le_iff, ← Nat.add_one, ← hlength]
  exact (starts_of_end hend hrun).length_le

end Compared

end Forms

/-- A loop that counts up makes the same passes with and without lanes, with the same values of its register, exactly if
    all values compared with the end have the sign of the end; without lanes it makes those that it stands for. In
    particular both forms agree on a loop from a start that is not negative to an end that is not negative. The lines in
    the loop may do anything that leaves its two registers as they were and comes to the line behind them. -/
theorem same_passes_iff_oneSided (other : String → Action (State (width .armv8) ρ)) (l : Loop) (h : Fitting .armv8 l)
    (hne : l.counter ≠ l.limit) (hd : l.direction = .less ∨ l.direction = .lessEqual) (body : List String)
    (hlabels : (l.label :: labels (body.map (read other))).Nodup)
    (hbody : Passable [l.counter, l.limit] (body.map (read other))) (s s' : State (width .armv8) ρ) :
    MakesPasses .armv8 other l body s ((List.range l.passes).map l.value) ∧
      ((∃ values, MakesPasses .armv8 other l body s values ∧ MakesPasses .armv8Sve other l body s' values) ↔
        l.OneSided) ∧
      (0 ≤ l.startValue → 0 ≤ l.stopValue → l.OneSided) := by
  obtain ⟨inclusive, hinclusive⟩ : ∃ inclusive, Branching.lanePredicate? l.direction = some inclusive := by
    rcases hd with hd | hd <;> rw [hd] <;> exact ⟨_, rfl⟩
  have hplain := makesPasses_plain h hne hlabels hbody s
  refine ⟨hplain, ⟨?_, fun hsided => ⟨_, hplain, makesPasses_lanes h hne hinclusive hlabels hbody hsided s'⟩⟩, ?_⟩
  · rintro ⟨values, hvalues, hlanes⟩
    obtain rfl := hplain.unique hvalues
    rw [oneSided_iff h hinclusive]
    split
    case isTrue hstop =>
      by_contra hone
      -- One pass would be all, but the value after it is still below the end.
      have honce := hlanes.unique (makesPasses_lanes_once h hne hinclusive hlabels hbody hstop (by omega) s')
      have hcount : l.passes = 1 := by simpa using congrArg List.length honce
      have hholds := holds_value h 0
      rw [hcount, Nat.zero_add, decide_eq_false (by omega)] at hholds
      rcases hd with hd | hd <;> simp only [hd, Direction.holds, decide_eq_false_iff_not] at hholds <;> omega
    case isFalse hstop =>
      by_contra hlast
      have hmore := lanes_go_on h hne hinclusive hlabels hbody (by omega) (by omega) hlanes
      simp at hmore
  · intro hstart hstop
    rw [oneSided_iff h hinclusive, if_pos hstop, value_of_lanePredicate hinclusive]
    have := h.countable.positive
    omega

/-- A state in which all registers are zero. -/
def cleared : State (width .armv8) Unit := ⟨fun _ => 0, ⟨false, false, false⟩, (fun _ _ => false, ())⟩

theorem passable_nop (kept : List String) :
    Passable kept (["nop"].map (read fun _ => (.effect id : Action (State (width .armv8) Unit)))) :=
  @passable_effects _ _ kept [id] fun f hf s r _ => by rw [List.mem_singleton.mp hf]; rfl

/-- Three passes from zero on are made in both forms. -/
theorem same_passes_from_zero :
    ∃ values, MakesPasses .armv8 (fun _ => .effect id) ⟨"l", "x0", "0", "x1", "3", .less, "1"⟩ ["nop"] cleared values ∧
      MakesPasses .armv8Sve (fun _ => .effect id) ⟨"l", "x0", "0", "x1", "3", .less, "1"⟩ ["nop"] cleared values := by
  obtain ⟨-, hsame, hsided⟩ := same_passes_iff_oneSided (fun _ => .effect id) ⟨"l", "x0", "0", "x1", "3", .less, "1"⟩
    (by decide) (by decide) (.inl rfl) ["nop"] (by decide) (passable_nop _) cleared cleared
  exact hsame.mpr (hsided (by decide) (by decide))

/-- From minus two to two a loop makes four passes without lanes, and one with lanes. -/
theorem lanes_end_below_zero :
    MakesPasses .armv8 (fun _ => .effect id) ⟨"l", "x0", "-2", "x1", "2", .less, "1"⟩ ["nop"] cleared [-2, -1, 0, 1] ∧
      MakesPasses .armv8Sve (fun _ => .effect id) ⟨"l", "x0", "-2", "x1", "2", .less, "1"⟩ ["nop"] cleared [-2] :=
  ⟨makesPasses_plain (by decide) (by decide) (by decide) (passable_nop _) cleared,
    makesPasses_lanes_once (by decide) (by decide) rfl (by decide) (passable_nop _) (by decide) (by decide) cleared⟩

end Lanes

end BenchKernel
