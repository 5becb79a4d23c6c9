import BenchKernel.Proofs.Execution.CountedLoop
import BenchKernel.Proofs.Execution.Site
import BenchKernel.Proofs.Grammar.Structure

/-! # Loop nests on POWER

POWER has one count register, and all loops of a nest count in it. A loop that has made its passes leaves the register
at zero. Inside another loop this makes the branch of the outer loop count on from zero, which never comes back to zero
at that branch: the nest runs on forever. So a nest means what it says exactly when no loop with a pass to make lies
inside another one. -/

namespace BenchKernel

/-! ### Nests that count in one register -/

namespace Forest

/-- No loop that lies in no other one makes a pass, so that nothing is counted. -/
def keepsCount : Forest → Bool
  | nil => true
  | plain _ rest => rest.keepsCount
  | region (.block _) _ _ inside rest => inside.keepsCount && rest.keepsCount
  | region (.loop l) _ _ _ rest => l.trips == 0 && rest.keepsCount

/-- Nothing is counted inside a loop that makes passes. -/
def countsOnce : Forest → Bool
  | nil => true
  | plain _ rest => rest.countsOnce
  | region (.block _) _ _ inside rest => inside.countsOnce && rest.countsOnce
  | region (.loop l) _ _ inside rest => (l.trips == 0 || inside.keepsCount) && rest.countsOnce

variable {arch : Arch} {f : Forest}

theorem countsOnce_of_keepsCount (h : f.keepsCount = true) : f.countsOnce = true := by
  induction f with
  | nil => rfl
  | plain _ rest ih => exact ih h
  | region frame _ _ inside rest ihin ihrest =>
    cases frame with
    | block _ =>
      rw [keepsCount, Bool.and_eq_true] at h
      rw [countsOnce, ihin h.1, ihrest h.2]
      rfl
    | loop l =>
      rw [keepsCount, Bool.and_eq_true] at h
      rw [countsOnce, h.1, ihrest h.2]
      rfl

/-- What is to hold at all sites of a region holds at its label, inside it and behind it. -/
theorem forall_site_region {P : List Loop → Prop} {frame : Frame} {o c : String} {inside rest : Forest} :
    (∀ i text around, Site arch (region frame o c inside rest) i text around → P around) ↔
      (∀ l, frame = .loop l → P [l]) ∧ (∀ i text around, Site arch inside i text around → P (frame.loops ++ around)) ∧
        ∀ i text around, Site arch rest i text around → P around := by
  constructor
  · refine fun h => ⟨?_, fun i text around hsite => h _ _ _ (.inside hsite),
      fun i text around hsite => h _ _ _ (.behind hsite)⟩
    rintro l rfl
    exact h _ _ _ .label
  · rintro ⟨hlabel, hinside, hrest⟩ i text around hsite
    cases hsite with
    | label => exact hlabel _ rfl
    | inside hsite => exact hinside _ _ _ hsite
    | behind hsite => exact hrest _ _ _ hsite

theorem forall_site_plain {P : List Loop → Prop} {line : String} {rest : Forest} :
    (∀ i text around, Site arch (plain line rest) i text around → P around) ↔
      P [] ∧ ∀ i text around, Site arch rest i text around → P around := by
  constructor
  · exact fun h => ⟨h _ _ _ .here, fun i text around hsite => h _ _ _ (.later hsite)⟩
  · rintro ⟨hhere, hrest⟩ i text around hsite
    cases hsite with
    | here => exact hhere
    | later hsite => exact hrest _ _ _ hsite

theorem keepsCount_iff (arch : Arch) (f : Forest) : f.keepsCount = true ↔
    ∀ i text around, Site arch f i text around → around ≠ [] → ∃ l ∈ around, l.trips = 0 := by
  induction f with
  | nil => exact ⟨fun _ i text around hsite => (by cases hsite), fun _ => rfl⟩
  | plain _ rest ih =>
    rw [forall_site_plain, keepsCount, ih]
    exact (and_iff_right fun h => absurd rfl h).symm
  | region frame _ _ inside rest ihin ihrest =>
    rw [forall_site_region]
    cases frame with
    | block _ =>
      rw [keepsCount, Bool.and_eq_true, ihin, ihrest]
      exact (and_iff_right fun l hl => by cases hl).symm
    | loop l =>
      rw [keepsCount, Bool.and_eq_true, ihrest, beq_iff_eq]
      constructor
      · rintro ⟨hzero, hrest⟩
        refine ⟨fun l' hl' _ => ?_, fun i text around _ _ => ⟨l, List.mem_cons_self, hzero⟩, hrest⟩
        cases hl'
        exact ⟨l, List.mem_cons_self, hzero⟩
      · rintro ⟨hlabel, -, hrest⟩
        obtain ⟨l', hl', hzero⟩ := hlabel l rfl (List.cons_ne_nil l [])
        rw [List.mem_singleton.mp hl'] at hzero
        exact ⟨hzero, hrest⟩

/-- Nothing is counted inside a loop that makes passes exactly when wherever loops lie inside one another, one of them
    makes none. -/
theorem countsOnce_iff (arch : Arch) (f : Forest) : f.countsOnce = true ↔
    ∀ i text around, Site arch f i text around → 2 ≤ around.length → ∃ l ∈ around, l.trips = 0 := by
  induction f with
  | nil => exact ⟨fun _ i text around hsite => (by cases hsite), fun _ => rfl⟩
  | plain _ rest ih =>
    rw [forall_site_plain, countsOnce, ih]
    exact (and_iff_right fun h => absurd h (by decide)).symm
  | region frame _ _ inside rest ihin ihrest =>
    rw [forall_site_region]
    cases frame with
    | block _ =>
      rw [countsOnce, Bool.and_eq_true, ihin, ihrest]
      exact (and_iff_right fun l hl => by cases hl).symm
    | loop l =>
      rw [countsOnce, Bool.and_eq_true, ihrest, Bool.or_eq_true, beq_iff_eq, keepsCount_iff arch inside]
      refine Iff.trans (and_congr_left' ?_) (and_iff_right fun l' _ h => absurd h (by simp)).symm
      constructor
      · rintro (hzero | hkeeps) i text around hsite hlength
        · exact ⟨l, List.mem_cons_self, hzero⟩
        · have hne : around ≠ [] := by
            rintro rfl
            exact absurd hlength (by simp [Frame.loops])
          obtain ⟨l', hl', hzero⟩ := hkeeps i text around hsite hne
          exact ⟨l', List.mem_cons_of_mem l hl', hzero⟩
      · intro hinside
        refine or_iff_not_imp_left.mpr fun hpos i text around hsite hne => ?_
        have hlength := List.length_pos_iff.mpr hne
        obtain ⟨l', hl', hzero⟩ := hinside i text around hsite (Nat.succ_le_succ hlength)
        rcases List.mem_cons.mp hl' with rfl | hl'
        · exact absurd hzero hpos
        · exact ⟨l', hl', hzero⟩

end Forest

namespace Power
open Machine

/-! ### What a nest has to satisfy -/

section Nests
variable {ρ : Type} {other : String → Action (State ρ)} {l : Loop} {f : Forest}

/-- Plain lines neither branch nor define labels, and leave the count register alone. -/
def Respects (other : String → Action (State ρ)) : Forest → Prop
  | .nil => True
  | .plain line rest => (∃ g, read other line = .effect g ∧ ∀ s, (g s).ctr = s.ctr) ∧ Respects other rest
  | .region _ _ _ inside rest => Respects other inside ∧ Respects other rest

/-- What a nest needs so that all its loops count well and no two labels are the same. -/
structure Runnable (other : String → Action (State ρ)) (f : Forest) : Prop where
  labels : (f.loops.map Loop.label).Nodup
  exits : ∀ l ∈ f.loops, ∀ l' ∈ f.loops, l.label ≠ afterLabel l'.label
  loops : ∀ l ∈ f.loops, Fitting l
  respects : Respects other f

/-! ### The lines around a body -/

theorem readable_loop (h : Fitting l) : (Frame.loop l).Readable .ppc64 := by
  intro _ text htext
  simp only [List.mem_cons, List.not_mem_nil, or_false] at htext
  rcases htext with rfl | rfl | rfl
  · obtain ⟨value, hvalue, -⟩ := exists_value h.countable.constant_start h.start_fits
    exact ⟨value, hvalue⟩
  · obtain ⟨value, hvalue, -⟩ := exists_value h.countable.constant_stop h.stop_fits
    exact ⟨value, hvalue⟩
  · exact ⟨_, step_value h⟩

theorem header_eq (h : Fitting l) :
    ∃ startValue stopValue, (startValue = none ∨ startValue = some l.startValue) ∧
      (stopValue = none ∨ stopValue = some l.stopValue) ∧
      (Frame.loop l).header .ppc64 =
        (setupKnown l startValue stopValue (some l.stepValue) ++ [Op.label l.label]).map Op.write := by
  obtain ⟨startValue, hstart, hstart'⟩ := exists_value h.countable.constant_start h.start_fits
  obtain ⟨stopValue, hstop, hstop'⟩ := exists_value h.countable.constant_stop h.stop_fits
  have hheader := header_eq_ok_iff.mpr ⟨startValue, stopValue, _, hstart, hstop, step_value h, rfl⟩
  have hlines : Arch.ppc64.loopPrologue l =
      .ok ((setupKnown l startValue stopValue (some l.stepValue) ++ [Op.label l.label]).map Op.write) := by
    unfold Arch.loopPrologue
    rw [hheader]
    rfl
  exact ⟨startValue, stopValue, hstart', hstop', Frame.header_loop hlines⟩

theorem footer_eq (l : Loop) : (Frame.loop l).footer .ppc64 = (footer l).map Op.write := rfl

theorem wrap_loop_code (h : Fitting l) (o c : String) (interior : List String) :
    ∃ (gs : List (State ρ → State ρ)) (g : State ρ → State ρ),
      ((Frame.loop l).wrap .ppc64 o c interior).map (read other) =
        gs.map .effect ++ (.branch id (fun s => s.order != .gt) (afterLabel l.label) ::
          .effect (fun s => { s with ctr := s.regs scratch }) :: .effect id :: .label l.label ::
          (interior.map (read other) ++ [.effect g,
            .branch (fun s => { s with ctr := s.ctr - 1 }) (fun s => s.ctr != 0) l.label,
            .label (afterLabel l.label), .effect id])) ∧
      gs.length + 3 = ((Frame.loop l).header .ppc64).length ∧ (∀ s, Prepared l s (inTurn gs s)) ∧
      ∀ s, (g s).ctr = s.ctr := by
  obtain ⟨startValue, stopValue, hstart, hstop, hheader⟩ := header_eq h
  obtain ⟨gs, hsetup, hprepared⟩ := @setup_code ρ other l h _ _ _ hstart hstop (Or.inr rfl)
  obtain ⟨g, hfooter, hadvanced⟩ := @footer_code ρ other l h
  have hlabel : read other (Op.label l.label).write = .label l.label := read_label h.label
  refine ⟨id :: gs, g, ?_, ?_, hprepared, fun s => (hadvanced s).ctr⟩
  · simp only [Frame.wrap, hheader, footer_eq, List.map_append, List.map_cons, List.map_nil, read_comment, hsetup,
      hfooter, hlabel]
    simp
  · have hlength := congrArg List.length hsetup
    rw [hheader]
    simp only [List.length_map, List.length_append, List.length_cons, List.length_nil] at hlength ⊢
    omega

/-! ### One loop -/

/-- One turn for each time that a line inside some loops is to be executed. -/
def turns : List Loop → List Unit
  | [] => [()]
  | l :: around => (List.range l.trips).flatMap fun _ => turns around

theorem length_turns (around : List Loop) : (turns around).length = (around.map Loop.trips).prod := by
  induction around with
  | nil => rfl
  | cons l around ih => simp [turns, List.length_flatMap, ih]

/-- The lines of a loop from its label on, with a body of `n` lines. -/
structure LoopLines (code : List (Action (State ρ))) (first n : Nat) (l : Loop) : Prop where
  label : code[first]? = some (.label l.label)
  target : target? code l.label = some first
  advance : ∃ g, code[first + 1 + n]? = some (.effect g) ∧ ∀ s, (g s).ctr = s.ctr
  branch : code[first + 1 + n + 1]? =
    some (.branch (fun s => { s with ctr := s.ctr - 1 }) (fun s => s.ctr != 0) l.label)

/-- A run has left the count register as it was, or else at zero. -/
def Counts (keeps : Bool) (s : State ρ) (_ : List (Config (State ρ))) (t : State ρ) : Prop :=
  t.ctr = if keeps then s.ctr else 0

theorem Counts.trans {keeps keeps' : Bool} {s t u : State ρ} {trace trace' : List (Config (State ρ))}
    (h : Counts keeps s trace t) (h' : Counts keeps' t trace' u) : Counts (keeps && keeps') s (trace ++ trace') u := by
  unfold Counts at *
  rw [h', h]
  cases keeps <;> cases keeps' <;> rfl

section Loops
variable {code : List (Action (State ρ))} {first n : Nat} {s t : State ρ} {trace : List (Config (State ρ))}
  {Shows : List (Config (State ρ)) → Prop}

theorem crosses_pass (hlines : LoopLines code first n l) (hbody : Crosses code (first + 1) (first + 1 + n) s trace t) :
    ∃ u, Crosses code first (first + 1 + n + 1) s ([(first, s)] ++ trace ++ [(first + 1 + n, t)]) u ∧
      u.ctr = t.ctr := by
  obtain ⟨g, hg, hctr⟩ := hlines.advance
  exact ⟨g t, ((crosses_label hlines.label s).trans hbody).trans (crosses_effect hg t), hctr t⟩

/-- If the body clears the count register, the branch finds it at minus one and goes back, however often it comes to
    it. -/
theorem diverges_loop (hlines : LoopLines code first n l)
    (hbody : Forest.Traverses code (first + 1) (first + 1 + n) (Counts false) Shows) (s : State ρ) :
    Diverges code (first, s) := by
  refine Diverges.of_return (fun s => ?_) s
  obtain ⟨trace, t, hcross, hctr, -⟩ := hbody s
  obtain ⟨u, hpass, hu⟩ := crosses_pass hlines hcross
  have hzero : u.ctr = 0 := hu.trans hctr
  have hback : step code (first + 1 + n + 1, u) = some (first, { u with ctr := u.ctr - 1 }) := by
    simp [step, hlines.branch, hlines.target, hzero]
  exact ⟨_, _, hpass.run.trans (.single hback), by simp⟩

/-- What one pass shows at the label of a loop and in its body. -/
structure PassShows (first n : Nat) (Shows : List (Config (State ρ)) → Prop) (trace : List (Config (State ρ))) :
    Prop where
  atLabel : visits first (fun _ => ()) trace = [()]
  inBody : ∀ i V, i < n → (∀ trace, Shows trace → visits (first + 1 + i) (fun _ => ()) trace = V) →
    visits (first + 1 + i) (fun _ => ()) trace = V

theorem passShows_of_body {u : State ρ} (hbody : Crosses code (first + 1) (first + 1 + n) s trace t)
    (hshows : Shows trace) :
    PassShows first n Shows ([(first, s)] ++ trace ++ [(first + 1 + n, t)] ++ [(first + 1 + n + 1, u)]) where
  atLabel := by
    rw [visits_append, visits_append, visits_append, visits_single (first, s), hbody.visits_eq_nil _ (by omega),
      visits_single_of_ne (show first + 1 + n ≠ first by omega),
      visits_single_of_ne (show first + 1 + n + 1 ≠ first by omega)]
    rfl
  inBody i V hi hV := by
    rw [visits_append, visits_append, visits_append, visits_single_of_ne (show first ≠ first + 1 + i by omega),
      visits_single_of_ne (show first + 1 + n ≠ first + 1 + i by omega),
      visits_single_of_ne (show first + 1 + n + 1 ≠ first + 1 + i by omega), hV trace hshows]
    simp

/-- Before pass `k` the count register holds the passes that are left, and the branch goes back unless it was the
    last. -/
theorem crosses_counted_pass (hlines : LoopLines code first n l)
    (hbody : Forest.Traverses code (first + 1) (first + 1 + n) (Counts true) Shows) {k : Nat} (hk : k < l.trips)
    (hs : s.ctr.toNat = l.trips - k) :
    ∃ trace t, Crosses code first (first + 1 + n + 1) s trace t ∧
      PassShows first n Shows (trace ++ [(first + 1 + n + 1, t)]) ∧ (t.ctr - 1).toNat = l.trips - (k + 1) ∧
      (t.ctr - 1 != 0) = decide (k + 1 < l.trips) := by
  obtain ⟨trace, t, hcross, hctr, hshows⟩ := hbody s
  obtain ⟨u, hpass, hu⟩ := crosses_pass hlines hcross
  have hleft : u.ctr.toNat = l.trips - k := by rw [hu, hctr, if_pos rfl, hs]
  exact ⟨_, u, hpass, passShows_of_body hcross hshows, count_down hk hleft⟩

/-- If the body keeps the count register, the loop makes the passes that were counted, and leaves zero. -/
theorem crosses_passes (hlines : LoopLines code first n l)
    (hbody : Forest.Traverses code (first + 1) (first + 1 + n) (Counts true) Shows) (hpos : l.trips ≠ 0)
    (hs : s.ctr.toNat = l.trips) :
    ∃ trace t, Crosses code first (first + 1 + n + 2) s trace t ∧ t.ctr = 0 ∧
      visits first (fun _ => ()) trace = turns [l] ∧
      ∀ i around, i < n →
        (∀ trace, Shows trace → visits (first + 1 + i) (fun _ => ()) trace = turns around) →
        visits (first + 1 + i) (fun _ => ()) trace = turns (l :: around) := by
  obtain ⟨trace, t, hcross, hpasses, hlast⟩ := @crosses_loop _ (fun _ => PassShows first n Shows) 0 l.trips _ code first
    _ _ _ (fun k s => s.ctr.toNat = l.trips - k) hlines.branch hlines.target
    (fun k hk s hs => crosses_counted_pass hlines hbody hk hs) (Nat.pos_of_ne_zero hpos) s hs
  refine ⟨trace, t, hcross, ?_, ?_, fun i around hi hV => ?_⟩
  · rw [Nat.sub_self] at hlast
    exact BitVec.eq_of_toNat_eq hlast
  · rw [hpasses.visits_eq fun k trace hp => hp.atLabel]
    simp [turns, List.range_eq_range']
  · rw [hpasses.visits_eq fun k trace hp => hp.inBody i _ hi hV]
    simp [turns, List.range_eq_range']

end Loops

/-! ### Frames -/

/-- At every site of a forest each line has had its turns. -/
abbrev Shown : Forest → Nat → List (Config (State ρ)) → Prop := Forest.Shown .ppc64 (fun _ _ => ()) turns

/-- The same for the sites inside a frame. -/
abbrev ShownWithin : Frame → Forest → Nat → List (Config (State ρ)) → Prop :=
  Forest.ShownWithin .ppc64 (fun _ _ => ()) turns

section Frames
variable {code : List (Action (State ρ))} {line : Nat} {frame : Frame} {o c : String} {inside rest : Forest}

/-- What the code of a whole loop does before its label and behind its branch. -/
structure FrameLines (code : List (Action (State ρ))) (line first n last : Nat) (l : Loop) : Prop
    extends LoopLines code first n l where
  enters : l.trips ≠ 0 → ∀ s, ∃ trace t, Crosses code line first s trace t ∧ t.ctr.toNat = l.trips
  skips : l.trips = 0 → ∀ s, ∃ trace t, Crosses code line (first + 1 + n + 2) s trace t ∧ t.ctr = s.ctr ∧
    ∀ d ∈ trace, d.1 < first
  leaves : ∀ s, ∃ trace, Crosses code (first + 1 + n + 2) last s trace s

theorem frameLines_of_placed (h : Fitting l) (hnodup : (labels code).Nodup)
    (hplaced : Placed code line (((Frame.loop l).wrap .ppc64 o c (inside.render .ppc64)).map (read other))) :
    FrameLines code line (line + ((Frame.loop l).header .ppc64).length) (inside.render .ppc64).length
      (line + ((Frame.loop l).wrap .ppc64 o c (inside.render .ppc64)).length) l := by
  obtain ⟨gs, g, hmap, hlength, hprepared, hctr⟩ := @wrap_loop_code ρ other l h o c (inside.render .ppc64)
  rw [hmap] at hplaced
  rw [Forest.length_wrap, ← hlength]
  generalize hn : (inside.render .ppc64).length = n
  have htest := hplaced.right
  rw [List.length_map] at htest
  have hlabel := htest.tail.tail.tail
  have hbehind := hlabel.tail.right
  rw [List.length_map, hn] at hbehind
  have hexit := hbehind.tail.tail
  have hsetup := fun s => crosses_effects hplaced.left s
  refine ⟨⟨hlabel.head, target?_of_placed hnodup hlabel, ⟨g, hbehind.head, hctr⟩, hbehind.tail.head⟩, ?_, ?_, ?_⟩
  · intro hpos s
    obtain ⟨trace, hcross, -⟩ := hsetup s
    have hs := hprepared s
    have hstep : step code (line + gs.length, inTurn gs s) = some (line + gs.length + 1, inTurn gs s) := by
      simp [step, htest.head, hs.skips, hpos]
    have hcount := crosses_effect htest.tail.head (inTurn gs s)
    have halign := crosses_effect htest.tail.tail.head { inTurn gs s with ctr := (inTurn gs s).regs scratch }
    exact ⟨_, _, ((hcross.trans (.of_step hstep (Nat.lt_succ_self _))).trans hcount).trans halign, hs.passes hpos⟩
  · intro hzero s
    obtain ⟨trace, hcross, -⟩ := hsetup s
    have hs := hprepared s
    have hstep : step code (line + gs.length, inTurn gs s) =
        some (line + (gs.length + 3) + 1 + n + 2, inTurn gs s) := by
      have htarget : target? code (afterLabel l.label) = some (line + (gs.length + 3) + 1 + n + 2) :=
        target?_of_placed hnodup hexit
      simp [step, htest.head, hs.skips, hzero, htarget]
    refine ⟨_, _, hcross.trans (.of_step hstep (by omega)), hs.ctr, List.forall_mem_append.mpr ⟨fun d hd => ?_, ?_⟩⟩
    · have := (hcross.within d hd).2
      omega
    · rw [List.forall_mem_singleton]
      omega
  · intro s
    have hfooter : ((Frame.loop l).footer .ppc64).length = 3 := rfl
    have hlast : line + (gs.length + 3 + 1 + n + 3 + 1) = line + (gs.length + 3) + 1 + n + 2 + 1 + 1 := by omega
    rw [hfooter, hlast]
    exact ⟨_, (crosses_label hexit.head s).trans (crosses_effect hexit.tail.head s)⟩

/-- A loop whose body keeps the count register falls through, after the passes that it stands for. -/
theorem traverses_loop {first last : Nat} (hfirst : first = line + ((Frame.loop l).header .ppc64).length)
    (hlines : FrameLines code line first (inside.render .ppc64).length last l)
    (hinside : l.trips ≠ 0 →
      Forest.Traverses code (first + 1) (first + 1 + (inside.render .ppc64).length) (Counts true)
        (Shown inside (first + 1))) :
    Forest.Traverses code line last (Counts (l.trips == 0)) (ShownWithin (.loop l) inside line) := by
  intro s
  by_cases hzero : l.trips = 0
  · obtain ⟨before, t, hskip, hctr, hbefore⟩ := hlines.skips hzero s
    obtain ⟨after, hafter⟩ := hlines.leaves t
    have hnone : ∀ around, turns (l :: around) = [] := fun around => by simp [turns, hzero]
    have hwithin : ShownWithin (.loop l) inside line (before ++ [] ++ after) :=
      .loop hfirst hbefore (hnone []).symm (fun i text around _ => (hnone around).symm) fun d hd => by
        have := (hafter.within d hd).1
        omega
    rw [List.append_nil] at hwithin
    exact ⟨_, t, hskip.trans hafter, by rw [Counts, hctr, if_pos (beq_iff_eq.mpr hzero)], hwithin⟩
  · obtain ⟨before, t, henter, hcount⟩ := hlines.enters hzero s
    obtain ⟨trace, u, hcross, hctr, hlabel, hbody⟩ := crosses_passes hlines.toLoopLines (hinside hzero) hzero hcount
    obtain ⟨after, hafter⟩ := hlines.leaves u
    refine ⟨_, u, (henter.trans hcross).trans hafter, by rw [Counts, hctr, if_neg (by simp [hzero])], .loop hfirst
      (fun d hd => (henter.within d hd).2) hlabel (fun i text around hsite => ?_) fun d hd => ?_⟩
    · exact hbody i around hsite.lt_length fun trace hshown => hshown i text around hsite
    · have := (hafter.within d hd).1
      omega

/-! ### Nests -/

/-- Code that is said to end is crossed from any state, and other code never ends. -/
def Runs (code : List (Action (State ρ))) (line last : Nat) (ends keeps : Bool)
    (Shows : List (Config (State ρ)) → Prop) : Prop :=
  (ends = true → Forest.Traverses code line last (Counts keeps) Shows) ∧ (ends = false → ∀ s, Diverges code (line, s))

theorem Runs.region {ends keeps : Bool}
    (hwrap : Runs code line (line + (frame.wrap .ppc64 o c (inside.render .ppc64)).length) ends keeps
      (ShownWithin frame inside line))
    (hrest : Runs code (line + (frame.wrap .ppc64 o c (inside.render .ppc64)).length)
      (line + (frame.wrap .ppc64 o c (inside.render .ppc64)).length + (rest.render .ppc64).length) rest.countsOnce
      rest.keepsCount (Shown rest (line + (frame.wrap .ppc64 o c (inside.render .ppc64)).length))) :
    Runs code line (line + ((Forest.region frame o c inside rest).render .ppc64).length) (ends && rest.countsOnce)
      (keeps && rest.keepsCount) (Shown (.region frame o c inside rest) line) := by
  refine ⟨fun h => ?_, fun h s => ?_⟩
  · rw [Bool.and_eq_true] at h
    exact (hwrap.1 h.1).region (hrest.1 h.2) fun _ _ _ _ _ => Counts.trans
  · cases hends : ends with
    | false => exact hwrap.2 hends s
    | true =>
      rw [hends, Bool.true_and] at h
      exact (hwrap.1 hends).diverges (hrest.2 h) s

theorem runs_block {label : String}
    (hplaced : Placed code line (((Frame.block label).wrap .ppc64 o c (inside.render .ppc64)).map (read other)))
    (hinside : Runs code (line + 1) (line + 1 + (inside.render .ppc64).length) inside.countsOnce inside.keepsCount
      (Shown inside (line + 1))) :
    Runs code line (line + ((Frame.block label).wrap .ppc64 o c (inside.render .ppc64)).length) inside.countsOnce
      inside.keepsCount (ShownWithin (.block label) inside line) := by
  refine ⟨fun h => .block read_comment hplaced (hinside.1 h) fun _ _ _ hcounts => hcounts, fun h s => ?_⟩
  rw [Forest.wrap_block_code read_comment] at hplaced
  exact .of_run (crosses_effect hplaced.head s).run (hinside.2 h s)

/-- A loop ends if it makes no pass or its body keeps the count register. -/
theorem runs_loop {first last : Nat} (hfirst : first = line + ((Frame.loop l).header .ppc64).length)
    (hlines : FrameLines code line first (inside.render .ppc64).length last l)
    (hinside : Runs code (first + 1) (first + 1 + (inside.render .ppc64).length) inside.countsOnce inside.keepsCount
      (Shown inside (first + 1))) :
    Runs code line last (l.trips == 0 || inside.keepsCount) (l.trips == 0) (ShownWithin (.loop l) inside line) := by
  refine ⟨fun h => traverses_loop hfirst hlines fun hpos => ?_, fun h s => ?_⟩
  · have hkeeps : inside.keepsCount = true := by simpa [hpos] using h
    have hbody := hinside.1 (Forest.countsOnce_of_keepsCount hkeeps)
    rwa [hkeeps] at hbody
  · obtain ⟨hpos, hclears⟩ := Bool.or_eq_false_iff.mp h
    obtain ⟨trace, t, henter, -⟩ := hlines.enters (beq_eq_false_iff_ne.mp hpos) s
    -- The body clears the count register, unless it does not even come to its end.
    cases hends : inside.countsOnce with
    | false => exact .of_run (henter.trans (crosses_label hlines.label t)).run (hinside.2 hends t)
    | true =>
      have hbody := hinside.1 hends
      rw [hclears] at hbody
      exact .of_run henter.run (diverges_loop hlines.toLoopLines hbody t)

/-- The code of a nest is crossed from any state, and gives every line its turns, if nothing is counted inside a loop
    that makes passes; otherwise it never ends. -/
theorem runs_forest (hnodup : (labels code).Nodup) (hloops : ∀ l ∈ f.loops, Fitting l) (hrespects : Respects other f)
    (hplaced : Placed code line ((f.render .ppc64).map (read other))) :
    Runs code line (line + (f.render .ppc64).length) f.countsOnce f.keepsCount (Shown f line) := by
  induction f generalizing line with
  | nil => exact ⟨fun _ => Forest.traverses_nil fun _ => rfl, fun h => by cases h⟩
  | plain text rest ih =>
    obtain ⟨⟨g, hg, hkeeps⟩, hrest⟩ := hrespects
    rw [Forest.render, List.map_cons, hg] at hplaced
    obtain ⟨hcrosses, hdiverges⟩ := ih hloops hrest hplaced.tail
    refine ⟨fun h => .plain hplaced.head (hcrosses h) (fun _ => rfl) fun s trace t hcounts => ?_,
      fun h s => .of_run (crosses_effect hplaced.head s).run (hdiverges h (g s))⟩
    unfold Counts at hcounts ⊢
    rw [hcounts, hkeeps]
    rfl
  | region frame o c inside rest ihin ihrest =>
    rw [Forest.render, List.map_append] at hplaced
    have hbehind := hplaced.right
    rw [List.length_map] at hbehind
    obtain ⟨hframe, hin, hout⟩ := Forest.forall_loops_region.mp hloops
    have hinside := ihin hin hrespects.1 (Forest.placed_interior hplaced.left)
    have hrest := ihrest hout hrespects.2 hbehind
    cases frame with
    | block label => exact (runs_block hplaced.left hinside).region hrest
    | loop l =>
      have hlines := frameLines_of_placed (hframe l List.mem_cons_self) hnodup hplaced.left
      exact (runs_loop rfl hlines hinside).region hrest

/-! ### Labels -/

theorem afterLabel_injective : Function.Injective afterLabel := by
  intro a b h
  have hlist := congrArg String.toList h
  rw [show afterLabel a = a ++ "_exit" from rfl, show afterLabel b = b ++ "_exit" from rfl, String.toList_append,
    String.toList_append] at hlist
  exact String.toList_injective (List.append_cancel_right hlist)

theorem count_labels (hloops : ∀ l ∈ f.loops, Fitting l) (hrespects : Respects other f) (name : String) :
    (labels ((f.render .ppc64).map (read other))).count name =
      (f.loops.map Loop.label).count name + (f.loops.map fun l => afterLabel l.label).count name := by
  induction f with
  | nil => rfl
  | plain text rest ih =>
    obtain ⟨⟨g, hg, -⟩, hrest⟩ := hrespects
    rw [Forest.render, List.map_cons, hg]
    exact ih hloops hrest
  | region frame o c inside rest ihin ihrest =>
    obtain ⟨hframe, hin, hout⟩ := Forest.forall_loops_region.mp hloops
    rw [Forest.render, List.map_append, labels_append, List.count_append, ihrest hout hrespects.2]
    cases frame with
    | block label =>
      have hlabels : labels (((Frame.block label).wrap .ppc64 o c (inside.render .ppc64)).map (read other)) =
          labels ((inside.render .ppc64).map (read other)) := by
        simp [Forest.wrap_block_code read_comment]
      have hboth : (Forest.region (.block label) o c inside rest).loops = inside.loops ++ rest.loops := rfl
      rw [hlabels, ihin hin hrespects.1, hboth]
      simp only [List.map_append, List.count_append]
      omega
    | loop l =>
      obtain ⟨gs, g, hmap, -⟩ := @wrap_loop_code ρ other l (hframe l List.mem_cons_self) o c
        (inside.render .ppc64)
      have hlabels : labels (((Frame.loop l).wrap .ppc64 o c (inside.render .ppc64)).map (read other)) =
          l.label :: (labels ((inside.render .ppc64).map (read other)) ++ [afterLabel l.label]) := by
        rw [hmap]
        simp
      have hboth : (Forest.region (.loop l) o c inside rest).loops = l :: (inside.loops ++ rest.loops) := rfl
      rw [hlabels, hboth]
      simp only [List.map_cons, List.map_append, List.count_cons, List.count_append, List.count_nil,
        ihin hin hrespects.1]
      omega

theorem nodup_labels (h : Runnable other f) : (labels ((f.render .ppc64).map (read other))).Nodup := by
  have hboth : (f.loops.map Loop.label ++ f.loops.map fun l => afterLabel l.label).Nodup := by
    have hexits : (f.loops.map fun l => afterLabel l.label).Nodup := by
      have := h.labels.map afterLabel_injective
      rwa [List.map_map] at this
    refine List.nodup_append.mpr ⟨h.labels, hexits, fun a ha b hb heq => ?_⟩
    obtain ⟨l, hl, rfl⟩ := List.mem_map.mp ha
    obtain ⟨l', hl', rfl⟩ := List.mem_map.mp hb
    exact h.exits l hl l' hl' heq
  rw [List.nodup_iff_count_le_one] at hboth ⊢
  intro name
  rw [count_labels h.loops h.respects, ← List.count_append]
  exact hboth name

theorem readable_forest (hloops : ∀ l ∈ f.loops, Fitting l) : f.Readable .ppc64 := by
  induction f with
  | nil => trivial
  | plain _ _ ih => exact ih hloops
  | region frame _ _ inside rest ihin ihrest =>
    obtain ⟨hframe, hin, hout⟩ := Forest.forall_loops_region.mp hloops
    refine ⟨?_, ihin hin, ihrest hout⟩
    cases frame with
    | block _ => trivial
    | loop l => exact readable_loop (hframe l List.mem_cons_self)

end Frames

end Nests

/-- The code of a nest of loops means what the nest says exactly when no two loops that make passes lie inside one
    another: then it falls through to its end from any state, and each plain line is executed as often as the loops
    around it have passes together. Otherwise it runs on forever, since all loops count in the one count register. -/
theorem expanded_nest_ends_iff {ρ : Type} (ctx : Context) (harch : ctx.arch = .ppc64)
    (other : String → Action (State ρ)) (f : Forest) (hf : f.InGrammar .ppc64) (hrun : Runnable other f) (s : State ρ) :
    ∃ out, expand Keyword.builtin ctx f.lines = .ok out ∧
      ((∃ trace t, Run (out.map (read other)) (0, s) trace (out.length, t) ∧
        ∀ i text around, Forest.Site .ppc64 f i text around → out[i]? = some text ∧
          (trace.countP fun c => c.1 = i) = (around.map Loop.trips).prod) ↔
        ∀ i text around, Forest.Site .ppc64 f i text around → 2 ≤ around.length → ∃ l ∈ around, l.trips = 0) ∧
      ((∃ i text around, Forest.Site .ppc64 f i text around ∧ 2 ≤ around.length ∧ ∀ l ∈ around, l.trips ≠ 0) →
        Diverges (out.map (read other)) (0, s)) := by
  have hreadable := readable_forest hrun.loops
  have hexpand := @Forest.expand_lines ctx f (harch ▸ hf) (harch ▸ hreadable)
  rw [harch] at hexpand
  obtain ⟨hcrosses, hdiverges⟩ := runs_forest (nodup_labels hrun) hrun.loops hrun.respects (placed_self _)
  refine ⟨f.render .ppc64, hexpand, ⟨?_, fun hapart => ?_⟩, ?_⟩
  · rintro ⟨trace, t, hends, -⟩
    rw [← Forest.countsOnce_iff .ppc64 f]
    by_contra hcounts
    have hlast := step_end ((f.render .ppc64).map (read other)) t
    rw [List.length_map] at hlast
    exact (hdiverges (Bool.eq_false_iff.mpr hcounts) s).not_stops hends hlast
  · obtain ⟨trace, t, hcross, -, hshown⟩ := hcrosses ((Forest.countsOnce_iff .ppc64 f).mpr hapart) s
    rw [Nat.zero_add] at hcross
    refine ⟨trace, t, hcross.run, fun i text around hsite => ⟨hsite.getElem?_render hreadable, ?_⟩⟩
    have hvisits := hshown i text around hsite
    rw [Nat.zero_add] at hvisits
    rw [← length_visits i (fun _ => ()), hvisits, length_turns]
  · rintro ⟨i, text, around, hsite, hlength, hpasses⟩
    refine hdiverges (Bool.eq_false_iff.mpr fun hcounts => ?_) s
    obtain ⟨l, hl, hzero⟩ := (Forest.countsOnce_iff .ppc64 f).mp hcounts i text around hsite hlength
    exact hpasses l hl hzero

/-- Two passes around a loop of three passes. -/
def stuckNest : Forest :=
  .region (.loop ⟨"outer", "r3", "0", "r4", "2", .less, "1"⟩) "LOOP(outer, r3=0, <, r4=2, 1)" "LOOPEND(outer)"
    (.region (.loop ⟨"inner", "r5", "0", "r6", "3", .less, "1"⟩) "LOOP(inner, r5=0, <, r6=3, 1)" "LOOPEND(inner)"
      (.plain "nop" .nil) .nil) .nil

theorem inGrammar_stuckNest : stuckNest.InGrammar .ppc64 where
  marked := by
    refine ⟨⟨⟨rfl, "r3=0", "<", "r4=2", rfl, rfl, rfl, rfl, rfl⟩, ⟨rfl, rfl⟩, trivial, ?_⟩,
      ⟨⟨⟨rfl, "r5=0", "<", "r6=3", rfl, rfl, rfl, rfl, rfl⟩, ⟨rfl, rfl⟩, trivial, ?_⟩, ⟨?_, trivial⟩, trivial⟩, trivial⟩
    · rintro l h
      cases h
      decide
    · rintro l h
      cases h
      decide
    · decide
  nested := ⟨by decide, ⟨by decide, trivial, trivial⟩, trivial⟩
  depth_le := by decide

theorem runnable_stuckNest : Runnable (ρ := Unit) (fun _ => .effect id) stuckNest where
  labels := by decide
  exits := by decide
  loops := by decide
  respects := ⟨⟨⟨⟨id, rfl, fun _ => rfl⟩, trivial⟩, trivial⟩, trivial⟩

/-- The code of this nest exists and never ends. -/
theorem stuckNest_diverges :
    ∃ out, expand Keyword.builtin { arch := .ppc64, template := {} } stuckNest.lines = .ok out ∧
      Diverges (out.map (read fun _ => .effect id)) (0, (⟨fun _ => 0, 0, .eq, false, ()⟩ : State Unit)) := by
  obtain ⟨out, hexpand, -, hdiverges⟩ := expanded_nest_ends_iff { arch := .ppc64, template := {} } rfl
    (fun _ => .effect id) stuckNest inGrammar_stuckNest runnable_stuckNest ⟨fun _ => 0, 0, .eq, false, ()⟩
  exact ⟨out, hexpand, hdiverges ⟨_, _, _, .inside (.inside .here), by decide, by decide⟩⟩

end Power

end BenchKernel
