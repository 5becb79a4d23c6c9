import BenchKernel.Proofs.Execution.Site
import BenchKernel.Proofs.Grammar.Structure
import BenchKernel.Proofs.Machine.CompareBranch

/-! # Loop nests that compare and branch

The code of a nest of loops, run from any state, falls through to its end. On the way it executes each plain line as
often as the loops around it have passes together, and each time the loop registers have the values that the loops
stand for. A loop tests behind its body, so it makes one pass even where it stands for none. -/

namespace BenchKernel

/-- The passes that a loop makes which tests behind its body. -/
def Loop.passes (l : Loop) : Nat := max 1 l.trips

namespace CompareBranch
open Machine

/-! ### What a nest has to satisfy -/

/-- A loop with constant operands, a symbol for its label and full registers, in which no number overflows: not the
    start, not the end, and not the value after the last pass. -/
@[mk_iff]
structure Fitting (arch : Arch) (l : Loop) : Prop where
  countable : l.Countable
  label : Assembler.isSymbol l.label = true
  counter : l.counter ∈ registers arch
  limit : l.limit ∈ registers arch
  start_fits : Fits (width arch) l.startValue
  stop_fits : Fits (width arch) l.stopValue
  last_fits : Fits (width arch) (l.value l.passes)

instance (arch : Arch) (l : Loop) : Decidable (Fitting arch l) := decidable_of_iff _ (fitting_iff arch l).symm

section Nests
variable {ρ : Type} {arch : Arch} {other : String → Action (State (width arch) ρ)} {l : Loop} {f : Forest}
  {kept : List String}

/-- Plain lines neither branch nor define labels, and write no register of a loop around them. The two registers of a
    loop differ from each other and from those of the loops around it. The registers in `kept` are those around. -/
def Respects (arch : Arch) (other : String → Action (State (width arch) ρ)) : (kept : List String) → Forest → Prop
  | _, .nil => True
  | kept, .plain line rest =>
    (∃ g, read arch other line = .effect g ∧ ∀ s, ∀ r ∈ kept, (g s).regs r = s.regs r) ∧ Respects arch other kept rest
  | kept, .region (.block _) _ _ inside rest => Respects arch other kept inside ∧ Respects arch other kept rest
  | kept, .region (.loop l) _ _ inside rest =>
    (l.counter ∉ kept ∧ l.limit ∉ kept ∧ l.counter ≠ l.limit) ∧
      Respects arch other (l.counter :: l.limit :: kept) inside ∧ Respects arch other kept rest

/-- What a nest needs so that its code means what its loops say. -/
structure Runnable (arch : Arch) (other : String → Action (State (width arch) ρ)) (f : Forest) : Prop where
  labels : (f.loops.map Loop.label).Nodup
  loops : ∀ l ∈ f.loops, Fitting arch l
  respects : Respects arch other [] f

/-! ### What a run shows -/

/-- The values of the registers of some loops. -/
def view {w : Nat} (around : List Loop) (s : State w ρ) : List (Int × Int) :=
  around.map fun l => ((s.regs l.counter).toInt, (s.regs l.limit).toInt)

/-- The values that the registers of some loops take one after the other, the first loop being the outermost. -/
def schedule : List Loop → List (List (Int × Int))
  | [] => [[]]
  | l :: around => (List.range l.passes).flatMap fun k => (schedule around).map ((l.value k, l.stopValue) :: ·)

theorem length_schedule (around : List Loop) : (schedule around).length = (around.map Loop.passes).prod := by
  induction around with
  | nil => rfl
  | cons l around ih => simp [schedule, List.length_flatMap, ih]

/-! ### Numbers in registers -/

theorem width_pos (arch : Arch) : 0 < width arch := by cases arch <;> decide

theorem Fitting.value_fits (h : Fitting arch l) {k : Nat} (hk : k ≤ l.passes) : Fits (width arch) (l.value k) := by
  have hstart := h.start_fits
  have hlast := h.last_fits
  have hpos := h.countable.positive
  have hmul : (k : Int) * l.stepValue ≤ l.passes * l.stepValue := Int.mul_le_mul_of_nonneg_right (by omega) (by omega)
  have hnonneg : 0 ≤ (k : Int) * l.stepValue := Int.mul_nonneg (by omega) (by omega)
  unfold Fits Loop.value at *
  cases hdown : l.direction.countsDown <;> simp only [hdown, Bool.false_eq_true, ↓reduceIte] at hlast ⊢ <;> omega

theorem advanceBy_value {w : Nat} (l : Loop) (k : Nat) :
    advanceBy l.direction.countsDown l.stepValue (BitVec.ofInt w (l.value k)) = BitVec.ofInt w (l.value (k + 1)) := by
  have hmul : ((k + 1 : Nat) : Int) * l.stepValue = k * l.stepValue + l.stepValue := by
    rw [Int.natCast_succ, Int.add_mul, Int.one_mul]
  unfold advanceBy Loop.value
  rw [hmul]
  split
  · rw [BitVec.sub_eq_add_neg, ← BitVec.ofInt_neg, ← BitVec.ofInt_add, ← Int.sub_eq_add_neg, Int.sub_sub]
  · rw [← BitVec.ofInt_add, Int.add_assoc]

theorem taken_value (h : Fitting arch l) {k : Nat} (hk : k < l.passes) :
    l.direction.taken (Flags.compare (BitVec.ofInt (width arch) (l.value (k + 1)))
      (BitVec.ofInt (width arch) l.stopValue)) = decide (k + 1 < l.passes) := by
  rw [taken_compare (width_pos arch), toInt_ofInt (width_pos arch) (h.value_fits hk),
    toInt_ofInt (width_pos arch) h.stop_fits, Bool.eq_iff_iff, ← Loop.lt_trips_iff h.countable, decide_eq_true_eq,
    Loop.passes]
  omega

/-! ### The lines around a body -/

/-- One state has the same values as another in some registers. -/
def Agrees {w : Nat} (kept : List String) (s t : State w ρ) : Prop := ∀ r ∈ kept, t.regs r = s.regs r

/-- A run has left some registers alone, all the way. -/
def Keeps {w : Nat} (kept : List String) (s : State w ρ) (trace : List (Config (State w ρ))) (t : State w ρ) : Prop :=
  Agrees kept s t ∧ ∀ c ∈ trace, Agrees kept s c.2

theorem Keeps.trans {w : Nat} {s t u : State w ρ} {trace trace' : List (Config (State w ρ))}
    (h : Keeps kept s trace t) (h' : Keeps kept t trace' u) : Keeps kept s (trace ++ trace') u :=
  ⟨fun r hr => (h'.1 r hr).trans (h.1 r hr),
    List.forall_mem_append.mpr ⟨h.2, fun d hd r hr => (h'.2 d hd r hr).trans (h.1 r hr)⟩⟩

/-- A step has left some registers alone if it ends with the same values in them. -/
theorem keeps_single {w : Nat} {s t : State w ρ} (h : Agrees kept s t) (line : Nat) : Keeps kept s [(line, s)] t :=
  ⟨h, List.forall_mem_singleton.mpr fun _ _ => rfl⟩

theorem header_eq (harch : arch ∈ targets) {dialect : Branching.Dialect} (hdialect : arch.dialect? = some dialect)
    (l : Loop) : (Frame.loop l).header arch =
      [dialect.write (Branching.start l), dialect.write (.load l.limit l.stop), dialect.write .align,
        l.label ++ ":"] := by
  have hvector : arch.isVector = false := by
    rcases mem_targets.mp harch with rfl | rfl | rfl | rfl <;> rfl
  simp only [Frame.header, Arch.loopPrologue, hdialect, hvector, Branching.header]
  simp [Frame.write_label]

theorem footer_eq (harch : arch ∈ targets) {dialect : Branching.Dialect} (hdialect : arch.dialect? = some dialect)
    (l : Loop) : (Frame.loop l).footer arch =
      [dialect.write (.advance l.direction.countsDown l.counter l.step), dialect.write (.compare l.counter l.limit),
        dialect.write (.branch l.direction l.label)] := by
  have hvector : arch.isVector = false := by
    rcases mem_targets.mp harch with rfl | rfl | rfl | rfl <;> rfl
  simp [Frame.footer, Arch.loopEpilogue, hdialect, hvector, Branching.footer]

theorem exists_dialect (harch : arch ∈ targets) : ∃ dialect, arch.dialect? = some dialect := by
  rcases mem_targets.mp harch with rfl | rfl | rfl | rfl <;> exact ⟨_, rfl⟩

theorem length_header (harch : arch ∈ targets) (l : Loop) : ((Frame.loop l).header arch).length = 4 := by
  obtain ⟨dialect, hdialect⟩ := exists_dialect harch
  rw [header_eq harch hdialect]
  rfl

theorem length_footer (harch : arch ∈ targets) (l : Loop) : ((Frame.loop l).footer arch).length = 3 := by
  obtain ⟨dialect, hdialect⟩ := exists_dialect harch
  rw [footer_eq harch hdialect]
  rfl

theorem setup_effects (harch : arch ∈ targets) {dialect : Branching.Dialect} (hdialect : arch.dialect? = some dialect)
    (h : Fitting arch l) (hne : l.counter ≠ l.limit) :
    ∃ gs : List (State (width arch) ρ → State (width arch) ρ),
      [dialect.write (Branching.start l), dialect.write (.load l.limit l.stop), dialect.write .align].map
        (read arch other) = gs.map .effect ∧ gs.length = 3 ∧
      (∀ g ∈ gs, ∀ s, ∀ r, r ≠ l.counter → r ≠ l.limit → (g s).regs r = s.regs r) ∧
      ∀ s, (inTurn gs s).regs l.counter = BitVec.ofInt _ (l.value 0) ∧
        (inTurn gs s).regs l.limit = BitVec.ofInt _ l.stopValue := by
  have hzero : l.value 0 = l.startValue := by simp [Loop.value]
  obtain ⟨g₁, hg₁, hset₁⟩ : Sets l.counter (fun _ => BitVec.ofInt _ l.startValue)
      (read arch other (dialect.write (Branching.start l))) := by
    unfold Branching.start
    cases hfrom : l.fromZero
    · exact read_load harch hdialect h.counter h.countable.constant_start
    · have hstart : l.startValue = 0 := Assembler.constant?_of_isZero h.countable.constant_start hfrom
      have hword : BitVec.ofInt (width arch) l.startValue = 0 := by simp [hstart]
      rw [hword]
      exact read_clear harch hdialect h.counter
  obtain ⟨g₂, hg₂, hset₂⟩ := @read_load _ ρ arch dialect other l.limit l.stop harch hdialect h.limit _
    h.countable.constant_stop
  refine ⟨[g₁, g₂, id], ?_, rfl, ?_, fun s => ?_⟩
  · simp only [List.map_cons, List.map_nil, hg₁, hg₂, read_align harch hdialect]
  · intro g hg s r hr hr'
    simp only [List.mem_cons, List.not_mem_nil, or_false] at hg
    rcases hg with rfl | rfl | rfl
    · rw [hset₁, Function.update_of_ne hr]
    · rw [hset₂, Function.update_of_ne hr']
    · rfl
  · simp only [inTurn, List.foldl_cons, List.foldl_nil, id, hset₂, hset₁, hzero, Function.update_self]
    rw [Function.update_of_ne hne, Function.update_self]
    exact ⟨rfl, trivial⟩

/-- The code of a loop around any interior: effects that set it up, the label, and behind the interior the step, the
    comparison and the branch. -/
theorem wrap_loop_code (harch : arch ∈ targets) (h : Fitting arch l) (hne : l.counter ≠ l.limit) (o c : String)
    (interior : List String) :
    ∃ (gs : List (State (width arch) ρ → State (width arch) ρ)) (g : State (width arch) ρ → State (width arch) ρ),
      ((Frame.loop l).wrap arch o c interior).map (read arch other) =
        (id :: gs).map .effect ++ (.label l.label :: (interior.map (read arch other) ++
          [.effect g, .effect fun s => { s with flags := .compare (s.regs l.counter) (s.regs l.limit) },
            .branch id (fun s => l.direction.taken s.flags) l.label, .effect id])) ∧
      gs.length = 3 ∧ (∀ g ∈ gs, ∀ s, ∀ r, r ≠ l.counter → r ≠ l.limit → (g s).regs r = s.regs r) ∧
      (∀ s, (inTurn gs s).regs l.counter = BitVec.ofInt _ (l.value 0) ∧
        (inTurn gs s).regs l.limit = BitVec.ofInt _ l.stopValue) ∧
      ∀ s, (g s).regs =
        Function.update s.regs l.counter (advanceBy l.direction.countsDown l.stepValue (s.regs l.counter)) := by
  obtain ⟨dialect, hdialect⟩ := exists_dialect harch
  obtain ⟨gs, hgs, hthree, hothers, hset⟩ := @setup_effects ρ arch other l harch dialect hdialect h hne
  obtain ⟨g, hg, hadvance⟩ := @read_advance _ ρ arch dialect other l.counter l.step harch hdialect h.counter _
    h.countable.constant_step l.direction.countsDown
  refine ⟨gs, g, ?_, hthree, hothers, hset, hadvance⟩
  simp only [Frame.wrap, header_eq harch hdialect l, footer_eq harch hdialect l, List.map_append, List.map_cons,
    List.map_nil, read_comment harch, read_label harch h.label, hg, read_compare harch hdialect h.counter h.limit,
    read_branch harch hdialect h.label]
  rw [← hgs]
  simp

/-! ### One pass -/

/-- The lines of a loop from its label on, with a body of `n` lines. -/
structure LoopLines {w : Nat} (code : List (Action (State w ρ))) (first n : Nat) (l : Loop) : Prop where
  label : code[first]? = some (.label l.label)
  advance : ∃ g, code[first + 1 + n]? = some (.effect g) ∧
    ∀ s, (g s).regs = Function.update s.regs l.counter (advanceBy l.direction.countsDown l.stepValue (s.regs l.counter))
  compare : code[first + 1 + n + 1]? =
    some (.effect fun s => { s with flags := .compare (s.regs l.counter) (s.regs l.limit) })
  branch : code[first + 1 + n + 2]? = some (.branch id (fun s => l.direction.taken s.flags) l.label)

/-- The state at the label before pass `k`. -/
structure AtPass (arch : Arch) (l : Loop) (kept : List String) (s₀ : State (width arch) ρ) (k : Nat)
    (s : State (width arch) ρ) : Prop where
  counter : s.regs l.counter = BitVec.ofInt _ (l.value k)
  limit : s.regs l.limit = BitVec.ofInt _ l.stopValue
  agrees : Agrees kept s₀ s

/-- What pass `k` of a loop shows at its label and in its body. -/
structure PassShows (l : Loop) (kept : List String) (first n : Nat)
    (Shows : List (Config (State (width arch) ρ)) → Prop) (s₀ : State (width arch) ρ) (k : Nat)
    (trace : List (Config (State (width arch) ρ))) : Prop where
  agrees : ∀ c ∈ trace, Agrees kept s₀ c.2
  atLabel : visits first (view [l]) trace = [[(l.value k, l.stopValue)]]
  inBody : ∀ i around V, i < n → (∀ trace, Shows trace → visits (first + 1 + i) (view around) trace = V) →
    visits (first + 1 + i) (view (l :: around)) trace = V.map ((l.value k, l.stopValue) :: ·)

section Pass
variable {code : List (Action (State (width arch) ρ))} {first n k : Nat}
  {Shows : List (Config (State (width arch) ρ)) → Prop} {s₀ s : State (width arch) ρ}
  {part : List (Action (State (width arch) ρ))}

theorem AtPass.view_eq (h : Fitting arch l) (hs : AtPass arch l kept s₀ k s) (hk : k < l.passes) (around : List Loop)
    {t : State (width arch) ρ} (ht : Agrees (l.counter :: l.limit :: kept) s t) :
    view (l :: around) t = (l.value k, l.stopValue) :: view around t := by
  have hcounter := ht l.counter (by simp)
  have hlimit := ht l.limit (by simp)
  rw [hs.counter] at hcounter
  rw [hs.limit] at hlimit
  simp only [view, List.map_cons, hcounter, hlimit, toInt_ofInt (width_pos arch) (h.value_fits hk.le),
    toInt_ofInt (width_pos arch) h.stop_fits]

theorem crosses_pass (h : Fitting arch l) (hcounter : l.counter ∉ kept) (hne : l.counter ≠ l.limit)
    (hlines : LoopLines code first n l)
    (hbody : Forest.Traverses code (first + 1) (first + 1 + n) (Keeps (l.counter :: l.limit :: kept)) Shows)
    (hk : k < l.passes) (hs : AtPass arch l kept s₀ k s) :
    ∃ trace t, Crosses code first (first + 1 + n + 2) s trace t ∧
      PassShows l kept first n Shows s₀ k (trace ++ [(first + 1 + n + 2, t)]) ∧
      AtPass arch l kept s₀ (k + 1) (id t) ∧ l.direction.taken (id t).flags = decide (k + 1 < l.passes) := by
  obtain ⟨inside, t₁, hinside, ⟨ht₁, hagrees⟩, hshows⟩ := hbody s
  obtain ⟨g, hg, hset⟩ := hlines.advance
  have hstart := crosses_label hlines.label s
  have hadvance := crosses_effect hg t₁
  have hcompare := crosses_effect hlines.compare (g t₁)
  have hkept : Agrees kept s₀ t₁ := fun r hr => (ht₁ r (by simp [hr])).trans (hs.agrees r hr)
  have hkept₂ : Agrees kept s₀ (g t₁) := by
    intro r hr
    have hr' : r ≠ l.counter := fun heq => hcounter (heq ▸ hr)
    rw [hset, Function.update_of_ne hr']
    exact hkept r hr
  have hcounter₁ : (g t₁).regs l.counter = BitVec.ofInt _ (l.value (k + 1)) := by
    rw [hset, Function.update_self, ht₁ l.counter (by simp), hs.counter, advanceBy_value]
  have hlimit₁ : (g t₁).regs l.limit = BitVec.ofInt _ l.stopValue := by
    rw [hset, Function.update_of_ne hne.symm, ht₁ l.limit (by simp), hs.limit]
  refine ⟨_, _, ((hstart.trans hinside).trans hadvance).trans hcompare, ⟨?_, ?_, ?_⟩, ⟨hcounter₁, hlimit₁, hkept₂⟩, ?_⟩
  · simp only [List.forall_mem_append, List.forall_mem_singleton]
    exact ⟨⟨⟨⟨hs.agrees, fun c hc r hr => (hagrees c hc r (by simp [hr])).trans (hs.agrees r hr)⟩, hkept⟩, hkept₂⟩,
      hkept₂⟩
  · have hview := hs.view_eq h hk [] (fun _ _ => rfl)
    rw [visits_append, visits_append, visits_append, visits_append, visits_single (first, s), hview,
      hinside.visits_eq_nil _ (by omega), hadvance.visits_eq_nil _ (by omega), hcompare.visits_eq_nil _ (by omega),
      visits_single_of_ne (show first + 1 + n + 2 ≠ first by omega)]
    rfl
  · intro i around V hi hV
    have hmap : visits (first + 1 + i) (view (l :: around)) inside = V.map ((l.value k, l.stopValue) :: ·) := by
      rw [← hV inside hshows]
      exact visits_map fun c hc => hs.view_eq h hk around (hagrees c hc)
    rw [visits_append, visits_append, visits_append, visits_append, hmap, hstart.visits_eq_nil _ (by omega),
      hadvance.visits_eq_nil _ (by omega), hcompare.visits_eq_nil _ (by omega),
      visits_single_of_ne (show first + 1 + n + 2 ≠ first + 1 + i by omega)]
    simp
  · show l.direction.taken (Flags.compare ((g t₁).regs l.counter) ((g t₁).regs l.limit)) = _
    rw [hcounter₁, hlimit₁, taken_value h hk]

theorem crosses_passes (h : Fitting arch l) (hcounter : l.counter ∉ kept) (hne : l.counter ≠ l.limit)
    (hnodup : (labels code).Nodup) (hplaced : Placed code first (.label l.label :: part))
    (hlines : LoopLines code first n l)
    (hbody : Forest.Traverses code (first + 1) (first + 1 + n) (Keeps (l.counter :: l.limit :: kept)) Shows)
    (hs : AtPass arch l kept s₀ 0 s) :
    ∃ trace t, Crosses code first (first + 1 + n + 3) s trace t ∧ Agrees kept s₀ t ∧
      (∀ c ∈ trace, Agrees kept s₀ c.2) ∧ visits first (view [l]) trace = schedule [l] ∧
      ∀ i around, i < n → (∀ trace, Shows trace → visits (first + 1 + i) (view around) trace = schedule around) →
        visits (first + 1 + i) (view (l :: around)) trace = schedule (l :: around) := by
  have hpos : 0 < l.passes := by
    unfold Loop.passes
    omega
  obtain ⟨trace, t, hcross, hpasses, hlast⟩ := crosses_loop hlines.branch (target?_of_placed hnodup hplaced)
    (fun k hk s hs => crosses_pass h hcounter hne hlines hbody hk hs) hpos hs
  refine ⟨trace, t, hcross, hlast.agrees, hpasses.forall fun _ _ hp => hp.agrees, ?_, fun i around hi hV => ?_⟩
  · rw [hpasses.visits_eq fun k trace hp => hp.atLabel]
    simp [schedule, List.range_eq_range']
  · rw [hpasses.visits_eq fun k trace hp => hp.inBody i around _ hi hV]
    simp [schedule, List.range_eq_range']

end Pass

/-! ### Nests -/

/-- At every site of a forest the registers of the loops around have taken the values that the loops stand for. -/
abbrev Shown (arch : Arch) : Forest → Nat → List (Config (State (width arch) ρ)) → Prop :=
  Forest.Shown arch view schedule

/-- The same for the sites inside a frame. -/
abbrev ShownWithin (arch : Arch) : Frame → Forest → Nat → List (Config (State (width arch) ρ)) → Prop :=
  Forest.ShownWithin arch view schedule

section Forests
variable {code : List (Action (State (width arch) ρ))} {line : Nat} {o c : String} {inside : Forest}

theorem traverses_loop (harch : arch ∈ targets) (h : Fitting arch l) (hcounter : l.counter ∉ kept)
    (hlimit : l.limit ∉ kept) (hne : l.counter ≠ l.limit) (hnodup : (labels code).Nodup)
    (hplaced : Placed code line (((Frame.loop l).wrap arch o c (inside.render arch)).map (read arch other)))
    (hinside : Forest.Traverses code (line + 5) (line + 5 + (inside.render arch).length)
      (Keeps (l.counter :: l.limit :: kept)) (Shown arch inside (line + 5))) :
    Forest.Traverses code line (line + ((Frame.loop l).wrap arch o c (inside.render arch)).length) (Keeps kept)
      (ShownWithin arch (.loop l) inside line) := by
  intro s
  obtain ⟨gs, g, hmap, hthree, hothers, hset, hadvance⟩ :=
    @wrap_loop_code ρ arch other l harch h hne o c (inside.render arch)
  rw [hmap] at hplaced
  generalize hn : (inside.render arch).length = n at *
  obtain ⟨setup, hsetup, hkeeps⟩ := crosses_effects hplaced.left s
  have hfour : (id :: gs).length = 4 := by rw [List.length_cons, hthree]
  rw [hfour] at hsetup
  have hlines := hplaced.right
  rw [List.length_map, hfour] at hlines
  have hbehind := hlines.tail.right
  rw [List.length_map, hn] at hbehind
  obtain ⟨hkept₀, hagrees₀⟩ := hkeeps (Agrees kept s) (fun g hg t ht r hr => by
    rcases List.mem_cons.mp hg with rfl | hg
    · exact ht r hr
    · rw [hothers g hg t r (fun heq => hcounter (heq ▸ hr)) (fun heq => hlimit (heq ▸ hr))]
      exact ht r hr) (fun _ _ => rfl)
  obtain ⟨trace, t, hcross, hkept, hagrees, hlabel, hbody⟩ := crosses_passes h hcounter hne hnodup hlines
    ⟨hlines.head, ⟨g, hbehind.head, hadvance⟩, hbehind.tail.head, hbehind.tail.tail.head⟩ hinside
    ⟨(hset s).1, (hset s).2, hkept₀⟩
  have hclose := crosses_effect hbehind.tail.tail.tail.head t
  have hlength : line + ((Frame.loop l).wrap arch o c (inside.render arch)).length = line + 4 + 1 + n + 3 + 1 := by
    rw [Forest.length_wrap, length_header harch, length_footer harch, hn]
    omega
  rw [hlength]
  refine ⟨_, t, (hsetup.trans hcross).trans hclose, ⟨hkept, ?_⟩, .loop (by rw [length_header harch])
    (fun d hd => (hsetup.within d hd).2) hlabel (fun i text around hsite => ?_) fun d hd => ?_⟩
  · simp only [List.forall_mem_append, List.forall_mem_singleton]
    exact ⟨⟨hagrees₀, hagrees⟩, hkept⟩
  · have hi := hsite.lt_length
    exact hbody i around (by omega) fun trace hshown => hshown i text around hsite
  · have := (hclose.within d hd).1
    omega

/-- The code of a nest is crossed from any state, and shows at every site what the loops around it stand for. -/
theorem traverses_forest (harch : arch ∈ targets) (hnodup : (labels code).Nodup)
    (hloops : ∀ l ∈ f.loops, Fitting arch l) (hrespects : Respects arch other kept f)
    (hplaced : Placed code line ((f.render arch).map (read arch other))) :
    Forest.Traverses code line (line + (f.render arch).length) (Keeps kept) (Shown arch f line) := by
  induction f generalizing kept line with
  | nil => exact Forest.traverses_nil fun s => ⟨fun _ _ => rfl, fun _ hc => by cases hc⟩
  | plain text rest ih =>
    obtain ⟨⟨g, hg, hkeeps⟩, hrest⟩ := hrespects
    rw [Forest.render, List.map_cons, hg] at hplaced
    exact .plain hplaced.head (ih hloops hrest hplaced.tail) (fun _ => rfl) fun s trace t h =>
      (keeps_single (hkeeps s) line).trans h
  | region frame o c inside rest ihin ihrest =>
    rw [Forest.render, List.map_append] at hplaced
    have hrest := hplaced.right
    rw [List.length_map] at hrest
    obtain ⟨hframe, hin, hout⟩ := Forest.forall_loops_region.mp hloops
    have hinside := Forest.placed_interior hplaced.left
    cases frame with
    | block label =>
      have hblock := Forest.Traverses.block (read_comment harch) hplaced.left (ihin hin hrespects.1 hinside)
        fun s trace t h => ((keeps_single (fun _ _ => rfl) line).trans h).trans (keeps_single (fun _ _ => rfl) _)
      exact hblock.region (ihrest hout hrespects.2 hrest) fun _ _ _ _ _ => Keeps.trans
    | loop l =>
      obtain ⟨⟨hcounter, hlimit, hne⟩, hrin, hrout⟩ := hrespects
      have hl : Fitting arch l := hframe l List.mem_cons_self
      rw [length_header harch l] at hinside
      have hloop := traverses_loop harch hl hcounter hlimit hne hnodup hplaced.left (ihin hin hrin hinside)
      exact hloop.region (ihrest hout hrout hrest) fun _ _ _ _ _ => Keeps.trans

theorem readable_of_targets (harch : arch ∈ targets) (f : Forest) : f.Readable arch := by
  have hne : arch ≠ .ppc64 := by
    rintro rfl
    exact absurd harch (by decide)
  induction f with
  | nil => trivial
  | plain _ _ ih => exact ih
  | region frame _ _ _ _ ihin ihrest =>
    refine ⟨?_, ihin, ihrest⟩
    cases frame with
    | block _ => trivial
    | loop l => exact fun h => absurd h hne

theorem labels_code (harch : arch ∈ targets) (hloops : ∀ l ∈ f.loops, Fitting arch l)
    (hrespects : Respects arch other kept f) :
    labels ((f.render arch).map (read arch other)) = f.loops.map Loop.label := by
  induction f generalizing kept with
  | nil => rfl
  | plain text rest ih =>
    obtain ⟨⟨g, hg, -⟩, hrest⟩ := hrespects
    rw [Forest.render, List.map_cons, hg]
    exact ih hloops hrest
  | region frame o c inside rest ihin ihrest =>
    obtain ⟨hframe, hin, hout⟩ := Forest.forall_loops_region.mp hloops
    rw [Forest.render, List.map_append, labels_append]
    cases frame with
    | block label =>
      simp [Forest.wrap_block_code (read_comment harch), ihin hin hrespects.1, ihrest hout hrespects.2, Forest.loops,
        Frame.loops]
    | loop l =>
      obtain ⟨⟨-, -, hne⟩, hrin, hrout⟩ := hrespects
      obtain ⟨gs, g, hmap, -⟩ := @wrap_loop_code ρ arch other l harch
        (hframe l List.mem_cons_self) hne o c (inside.render arch)
      rw [hmap]
      simp [ihin hin hrin, ihrest hout hrout, Forest.loops, Frame.loops]

end Forests

end Nests

/-- The code of a nest of loops means what the nest says. From any state it falls through to its end; each plain line
    is executed as often as the loops around it have passes together, a loop that stands for no pass making one; and
    on each pass the registers of these loops hold the value for that pass and the end value, the innermost loop
    counting first. -/
theorem expanded_nest_runs {ρ : Type} (ctx : Context) (harch : ctx.arch ∈ targets)
    (other : String → Action (State (width ctx.arch) ρ)) (f : Forest) (hf : f.InGrammar ctx.arch)
    (hrun : Runnable ctx.arch other f) (s : State (width ctx.arch) ρ) :
    ∃ out trace t, expand Keyword.builtin ctx f.lines = .ok out ∧
      Run (out.map (read ctx.arch other)) (0, s) trace (out.length, t) ∧
      ∀ i text around, Forest.Site ctx.arch f i text around → out[i]? = some text ∧
        (trace.countP fun c => c.1 = i) = (around.map Loop.passes).prod ∧
        visits i (view around) trace = schedule around := by
  have hreadable := readable_of_targets harch f
  have hnodup : (labels ((f.render ctx.arch).map (read ctx.arch other))).Nodup := by
    rw [labels_code harch hrun.loops hrun.respects]
    exact hrun.labels
  obtain ⟨trace, t, hcross, -, hshown⟩ :=
    traverses_forest harch hnodup hrun.loops hrun.respects (placed_self _) s
  rw [Nat.zero_add] at hcross
  refine ⟨f.render ctx.arch, trace, t, Forest.expand_lines hf hreadable, hcross.run, fun i text around hsite => ?_⟩
  have hvisits := hshown i text around hsite
  rw [Nat.zero_add] at hvisits
  refine ⟨hsite.getElem?_render hreadable, ?_, hvisits⟩
  rw [← length_visits i (view around), hvisits, length_schedule]

/-- Two passes around a loop that counts down from five to one by two. -/
def sampleNest : Forest :=
  .region (.loop ⟨"outer", "rcx", "0", "rdx", "2", .less, "1"⟩) "LOOP(outer, rcx=0, <, rdx=2, 1)" "LOOPEND(outer)"
    (.region (.loop ⟨"inner", "rsi", "5", "rdi", "1", .greaterEqual, "2"⟩) "LOOP(inner, rsi=5, >=, rdi=1, 2)"
      "LOOPEND(inner)" (.plain "nop" .nil) .nil) .nil

theorem inGrammar_sampleNest : sampleNest.InGrammar .x8664 where
  marked := by
    refine ⟨⟨⟨rfl, "rcx=0", "<", "rdx=2", rfl, rfl, rfl, rfl, rfl⟩, ⟨rfl, rfl⟩, trivial, ?_⟩,
      ⟨⟨⟨rfl, "rsi=5", ">=", "rdi=1", rfl, rfl, rfl, rfl, rfl⟩, ⟨rfl, rfl⟩, trivial, ?_⟩, ⟨?_, trivial⟩, trivial⟩,
      trivial⟩
    · rintro l h
      cases h
      decide
    · rintro l h
      cases h
      decide
    · decide
  nested := ⟨by decide, ⟨by decide, trivial, trivial⟩, trivial⟩
  depth_le := by decide

theorem runnable_sampleNest : Runnable (ρ := Unit) .x8664 (fun _ => .effect id) sampleNest where
  labels := by decide
  loops := by decide
  respects := ⟨by decide, ⟨by decide, ⟨⟨id, rfl, fun _ _ _ => rfl⟩, trivial⟩, trivial⟩, trivial⟩

/-- The line inside both loops of the sample is executed six times. -/
theorem sampleNest_runs :
    ∃ out trace u, expand Keyword.builtin { arch := .x8664, template := {} } sampleNest.lines = .ok out ∧
      Run (out.map (read .x8664 fun _ => .effect id))
        (0, (⟨fun _ => 0, ⟨false, false, false⟩, ()⟩ : State 64 Unit)) trace (out.length, u) ∧
      out[10]? = some "nop" ∧ (trace.countP fun c => c.1 = 10) = 6 := by
  obtain ⟨out, trace, u, hexpand, hrun, hsites⟩ := expanded_nest_runs { arch := .x8664, template := {} }
    (show Arch.x8664 ∈ targets by decide) (fun _ => .effect id) sampleNest inGrammar_sampleNest runnable_sampleNest
    ⟨fun _ => 0, ⟨false, false, false⟩, ()⟩
  obtain ⟨htext, hcount, -⟩ := hsites _ _ _ (.inside (.inside .here))
  exact ⟨out, trace, u, hexpand, hrun, htext, hcount.trans (by decide)⟩

end CompareBranch

end BenchKernel
