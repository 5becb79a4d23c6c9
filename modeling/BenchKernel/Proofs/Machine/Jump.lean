import Mathlib.Data.List.Nodup
import Mathlib.Data.List.Range

/-! # Jump machines

The code of a machine is a list of lines, each with an effect on the state, a label, or a branch to a label. A run is
recorded by the configurations in which it took its steps, so that it can be said how often a line was executed and
in which states. This file has the steps and the runs, what it means to cross a stretch of code from its first line
to the line behind it, and how crossing a loop body several times adds up. -/

namespace BenchKernel.Machine

variable {σ α β : Type}

/-- What a line of code does. A branch first changes the state and then looks at the new one. -/
inductive Action (σ : Type)
  | effect (f : σ → σ)
  | label (name : String)
  | branch (f : σ → σ) (taken : σ → Bool) (target : String)

def Action.labelName? : Action σ → Option String
  | label name => some name
  | _ => none

/-- The labels that some code defines, in order. -/
def labels (code : List (Action σ)) : List String := code.filterMap Action.labelName?

/-- The first line with a label. -/
def target? (code : List (Action σ)) (name : String) : Option Nat :=
  code.findIdx? fun action => action.labelName? == some name

/-- The line to be executed next, and the state. -/
abbrev Config (σ : Type) := Nat × σ

def step (code : List (Action σ)) (c : Config σ) : Option (Config σ) :=
  match code[c.1]? with
  | none => none
  | some (.effect f) => some (c.1 + 1, f c.2)
  | some (.label _) => some (c.1 + 1, c.2)
  | some (.branch f taken target) =>
    if taken (f c.2) then (target? code target).map fun line => (line, f c.2) else some (c.1 + 1, f c.2)

/-- A run from one configuration to another, with the configurations in which it took its steps. -/
inductive Run (code : List (Action σ)) : Config σ → List (Config σ) → Config σ → Prop
  | done (c : Config σ) : Run code c [] c
  | next {c d e : Config σ} {trace : List (Config σ)} (h : step code c = some d) (rest : Run code d trace e) :
      Run code c (c :: trace) e

/-- Runs of any length start in a configuration. -/
def Diverges (code : List (Action σ)) (c : Config σ) : Prop :=
  ∀ n, ∃ trace d, Run code c trace d ∧ n ≤ trace.length

/-- The state after some effects in turn. -/
def inTurn (fs : List (σ → σ)) (s : σ) : σ := fs.foldl (fun s f => f s) s

/-- What a run has seen of the states in which it executed a line. -/
def visits (line : Nat) (view : σ → α) (trace : List (Config σ)) : List α :=
  (trace.filter fun c => c.1 = line).map fun c => view c.2

section Runs
variable {code : List (Action σ)} {c d e : Config σ} {trace trace' : List (Config σ)}

/-! ### Runs -/

theorem Run.trans (h₁ : Run code c trace d) (h₂ : Run code d trace' e) : Run code c (trace ++ trace') e := by
  induction h₁ with
  | done _ => exact h₂
  | next h _ ih => exact .next h (ih h₂)

theorem Run.single (h : step code c = some d) : Run code c [c] d := .next h (.done d)

/-- A run that has come to a stop goes on from where any other run has come to. -/
theorem Run.extends_to_stop (h : Run code c trace d) (hstop : step code d = none) (h' : Run code c trace' e) :
    ∃ rest, trace = trace' ++ rest := by
  induction h generalizing trace' with
  | done c =>
    cases h' with
    | done _ => exact ⟨[], rfl⟩
    | next hs _ =>
      rw [hstop] at hs
      cases hs
  | next hs _ ih =>
    cases h' with
    | done _ => exact ⟨_, rfl⟩
    | next hs' rest =>
      rw [hs] at hs'
      cases hs'
      obtain ⟨more, hmore⟩ := ih hstop rest
      exact ⟨more, by rw [hmore, List.cons_append]⟩

theorem Run.length_le (h : Run code c trace d) (hstop : step code d = none) (h' : Run code c trace' e) :
    trace'.length ≤ trace.length := by
  obtain ⟨rest, rfl⟩ := h.extends_to_stop hstop h'
  rw [List.length_append]
  exact Nat.le_add_right _ _

theorem step_end (code : List (Action σ)) (s : σ) : step code (code.length, s) = none := by
  simp [step]

/-! ### Running on forever -/

theorem Diverges.of_run (h : Run code c trace d) (hd : Diverges code d) : Diverges code c := by
  intro n
  obtain ⟨trace', e, hrun, hlength⟩ := hd n
  exact ⟨trace ++ trace', e, h.trans hrun, by simp only [List.length_append]; omega⟩

theorem Diverges.not_stops (hd : Diverges code c) (h : Run code c trace d) : step code d ≠ none := by
  intro hstop
  obtain ⟨trace', e, hrun, hlength⟩ := hd (trace.length + 1)
  have := h.length_le hstop hrun
  omega

theorem Diverges.of_return {line : Nat}
    (hback : ∀ s, ∃ trace t, Run code (line, s) trace (line, t) ∧ trace ≠ []) (s : σ) : Diverges code (line, s) := by
  intro n
  induction n generalizing s with
  | zero => exact ⟨[], _, .done _, Nat.le_refl 0⟩
  | succ n ih =>
    obtain ⟨first, t, hrun, hne⟩ := hback s
    obtain ⟨rest, d, hrest, hlength⟩ := ih t
    have hpos := List.length_pos_iff.mpr hne
    exact ⟨first ++ rest, d, hrun.trans hrest, by simp only [List.length_append]; omega⟩

/-! ### Visits -/

theorem visits_append (line : Nat) (view : σ → α) (trace trace' : List (Config σ)) :
    visits line view (trace ++ trace') = visits line view trace ++ visits line view trace' := by
  simp [visits]

theorem visits_eq_nil {line : Nat} (view : σ → α) (h : ∀ c ∈ trace, c.1 ≠ line) : visits line view trace = [] := by
  simp only [visits, List.map_eq_nil_iff, List.filter_eq_nil_iff, decide_eq_true_eq]
  exact h

theorem visits_single (c : Config σ) (view : σ → α) : visits c.1 view [c] = [view c.2] := by
  simp [visits]

theorem visits_single_of_ne {line : Nat} {c : Config σ} (h : c.1 ≠ line) (view : σ → α) : visits line view [c] = [] :=
  visits_eq_nil view fun d hd => by rwa [List.mem_singleton.mp hd]

/-- What is seen of the states may be put together from what is seen otherwise. -/
theorem visits_map {line : Nat} {view : σ → α} {view' : σ → β} {g : α → β}
    (h : ∀ c ∈ trace, view' c.2 = g (view c.2)) : visits line view' trace = (visits line view trace).map g := by
  simp only [visits, List.map_map]
  exact List.map_congr_left fun c hc => h c (List.mem_filter.mp hc).1

theorem length_visits (line : Nat) (view : σ → α) (trace : List (Config σ)) :
    (visits line view trace).length = trace.countP fun c => c.1 = line := by
  rw [visits, List.length_map, ← List.countP_eq_length_filter]

end Runs

/-! ### Code in its place -/

/-- Some lines stand in the code from a line on. -/
def Placed (code : List (Action σ)) (line : Nat) (part : List (Action σ)) : Prop :=
  ∃ before after, code = before ++ part ++ after ∧ before.length = line

section Places
variable {code part part' : List (Action σ)} {line : Nat} {action : Action σ}

theorem placed_self (code : List (Action σ)) : Placed code 0 code := ⟨[], [], by simp, rfl⟩

theorem Placed.left (h : Placed code line (part ++ part')) : Placed code line part := by
  obtain ⟨before, after, rfl, hline⟩ := h
  exact ⟨before, part' ++ after, by simp, hline⟩

theorem Placed.right (h : Placed code line (part ++ part')) : Placed code (line + part.length) part' := by
  obtain ⟨before, after, rfl, hline⟩ := h
  exact ⟨before ++ part, after, by simp, by simp [hline]⟩

theorem Placed.head (h : Placed code line (action :: part)) : code[line]? = some action := by
  obtain ⟨before, after, rfl, rfl⟩ := h
  simp

theorem Placed.tail (h : Placed code line (action :: part)) : Placed code (line + 1) part :=
  Placed.right (show Placed code line ([action] ++ part) from h)

@[simp] theorem labels_nil : labels ([] : List (Action σ)) = [] := rfl

@[simp] theorem labels_cons_effect (f : σ → σ) (part : List (Action σ)) :
    labels (.effect f :: part) = labels part := rfl

@[simp] theorem labels_cons_label (name : String) (part : List (Action σ)) :
    labels (.label name :: part) = name :: labels part := rfl

@[simp] theorem labels_cons_branch (f : σ → σ) (taken : σ → Bool) (name : String) (part : List (Action σ)) :
    labels (.branch f taken name :: part) = labels part := rfl

@[simp] theorem labels_append (part part' : List (Action σ)) : labels (part ++ part') = labels part ++ labels part' :=
  List.filterMap_append

@[simp] theorem labels_effects (fs : List (σ → σ)) : labels (fs.map Action.effect) = [] := by
  induction fs with
  | nil => rfl
  | cons f fs ih => exact ih

theorem target?_of_placed {name : String} (hnodup : (labels code).Nodup)
    (h : Placed code line (.label name :: part)) : target? code name = some line := by
  obtain ⟨before, after, rfl, rfl⟩ := h
  have hbefore : name ∉ labels before := by
    have hlabels : labels (before ++ .label name :: part ++ after) =
        labels before ++ name :: labels (part ++ after) := by
      simp
    rw [hlabels, List.nodup_append] at hnodup
    exact fun hmem => hnodup.2.2 name hmem name List.mem_cons_self rfl
  rw [target?, List.append_assoc, List.findIdx?_append, List.findIdx?_eq_none_iff.mpr ?_]
  · simp [List.findIdx?_cons, Action.labelName?]
  · intro action haction
    rw [beq_eq_false_iff_ne]
    exact fun hname => hbefore (List.mem_filterMap.mpr ⟨action, haction, hname⟩)

end Places

/-! ### Crossing code -/

/-- A run through the lines from `first` up to `last`, which executes no other lines. -/
structure Crosses (code : List (Action σ)) (first last : Nat) (s : σ) (trace : List (Config σ)) (t : σ) : Prop where
  run : Run code (first, s) trace (last, t)
  le : first ≤ last
  within : ∀ c ∈ trace, first ≤ c.1 ∧ c.1 < last

section Crossing
variable {code : List (Action σ)} {first last line : Nat} {s t u : σ} {trace trace' : List (Config σ)}

theorem Crosses.refl (code : List (Action σ)) (line : Nat) (s : σ) : Crosses code line line s [] s :=
  ⟨.done _, Nat.le_refl _, fun _ hc => by cases hc⟩

theorem Crosses.trans (h₁ : Crosses code first line s trace t) (h₂ : Crosses code line last t trace' u) :
    Crosses code first last s (trace ++ trace') u where
  run := h₁.run.trans h₂.run
  le := Nat.le_trans h₁.le h₂.le
  within c hc := by
    have hle₁ := h₁.le
    have hle₂ := h₂.le
    rcases List.mem_append.mp hc with hc | hc
    · have := h₁.within c hc
      omega
    · have := h₂.within c hc
      omega

theorem Crosses.of_step (h : step code (first, s) = some (last, t)) (hlt : first < last) :
    Crosses code first last s [(first, s)] t where
  run := .single h
  le := Nat.le_of_lt hlt
  within c hc := by
    rw [List.mem_singleton.mp hc]
    exact ⟨Nat.le_refl _, hlt⟩

theorem Crosses.visits_eq_nil (h : Crosses code first last s trace t) (view : σ → α)
    (hline : line < first ∨ last ≤ line) : visits line view trace = [] := by
  refine Machine.visits_eq_nil view fun c hc heq => ?_
  have := h.within c hc
  omega

theorem crosses_label {name : String} (h : code[line]? = some (.label name)) (s : σ) :
    Crosses code line (line + 1) s [(line, s)] s :=
  .of_step (by simp [step, h]) (Nat.lt_succ_self line)

theorem crosses_effect {f : σ → σ} (h : code[line]? = some (.effect f)) (s : σ) :
    Crosses code line (line + 1) s [(line, s)] (f s) :=
  .of_step (by simp [step, h]) (Nat.lt_succ_self line)

/-- Effects in a row take place one after the other, and keep what each of them keeps. -/
theorem crosses_effects {fs : List (σ → σ)} (h : Placed code line (fs.map .effect)) (s : σ) :
    ∃ trace, Crosses code line (line + fs.length) s trace (inTurn fs s) ∧
      ∀ Keeps : σ → Prop, (∀ f ∈ fs, ∀ t, Keeps t → Keeps (f t)) → Keeps s →
        Keeps (inTurn fs s) ∧ ∀ c ∈ trace, Keeps c.2 := by
  induction fs generalizing line s with
  | nil => exact ⟨[], .refl code line s, fun _ _ hs => ⟨hs, fun _ hc => by cases hc⟩⟩
  | cons f fs ih =>
    rw [List.map_cons] at h
    obtain ⟨trace, hcross, hkeeps⟩ := ih h.tail (f s)
    have hlength : line + 1 + fs.length = line + (f :: fs).length := by
      rw [List.length_cons]
      omega
    rw [hlength] at hcross
    refine ⟨_, (crosses_effect h.head s).trans hcross, fun Keeps hf hs => ?_⟩
    rw [List.forall_mem_cons] at hf
    obtain ⟨hlast, hall⟩ := hkeeps Keeps hf.2 (hf.1 s hs)
    exact ⟨hlast, List.forall_mem_append.mpr ⟨fun c hc => by rw [List.mem_singleton.mp hc]; exact hs, hall⟩⟩

end Crossing

/-! ### Loops -/

/-- A trace made of the passes from number `k` up to number `n`. -/
inductive Passes (Pass : Nat → List (Config σ) → Prop) : Nat → Nat → List (Config σ) → Prop
  | done (n : Nat) : Passes Pass n n []
  | next {k n : Nat} {trace rest : List (Config σ)} (h : Pass k trace) (hrest : Passes Pass (k + 1) n rest) :
      Passes Pass k n (trace ++ rest)

section Loops
variable {Pass : Nat → List (Config σ) → Prop} {k n line : Nat} {trace : List (Config σ)}

theorem Passes.le (h : Passes Pass k n trace) : k ≤ n := by
  induction h with
  | done _ => exact Nat.le_refl _
  | next _ _ ih => omega

theorem Passes.visits_eq {view : σ → α} {V : Nat → List α} (h : Passes Pass k n trace)
    (hV : ∀ j trace, Pass j trace → visits line view trace = V j) :
    visits line view trace = (List.range' k (n - k)).flatMap V := by
  induction h with
  | done n => simp [visits]
  | @next k n trace rest h hrest ih =>
    have hcount : n - k = n - (k + 1) + 1 := by
      have := hrest.le
      omega
    rw [visits_append, hV k trace h, ih, hcount, List.range'_succ, List.flatMap_cons]

theorem Passes.forall {P : Config σ → Prop} (h : Passes Pass k n trace)
    (hP : ∀ j trace, Pass j trace → ∀ c ∈ trace, P c) : ∀ c ∈ trace, P c := by
  induction h with
  | done _ => exact fun _ hc => by cases hc
  | next h _ ih => exact List.forall_mem_append.mpr ⟨hP _ _ h, ih⟩

/-- If every pass leads from the first line of a loop to its branch, and the branch goes back after all passes but the
    last, the loop is crossed in as many passes. -/
theorem crosses_loop {code : List (Action σ)} {first : Nat} {f : σ → σ} {taken : σ → Bool} {name : String}
    {Inv : Nat → σ → Prop} (hbranch : code[line]? = some (.branch f taken name))
    (htarget : target? code name = some first)
    (hpass : ∀ k < n, ∀ s, Inv k s → ∃ trace t, Crosses code first line s trace t ∧ Pass k (trace ++ [(line, t)]) ∧
      Inv (k + 1) (f t) ∧ taken (f t) = decide (k + 1 < n))
    (hk : k < n) {s : σ} (hs : Inv k s) :
    ∃ trace t, Crosses code first (line + 1) s trace t ∧ Passes Pass k n trace ∧ Inv n t := by
  -- The induction is on the passes that are left.
  obtain ⟨left, hleft⟩ : ∃ left, n = k + 1 + left := ⟨n - (k + 1), by omega⟩
  induction left generalizing k s with
  | zero =>
    obtain ⟨trace, t, hcross, htrace, hinv, htaken⟩ := hpass k hk s hs
    have hstep : step code (line, t) = some (line + 1, f t) := by simp [step, hbranch, htaken, hleft]
    refine ⟨_, f t, hcross.trans (.of_step hstep (Nat.lt_succ_self line)), ?_, by rw [hleft]; exact hinv⟩
    have hlast := Passes.next htrace (.done (k + 1))
    rw [List.append_nil] at hlast
    rw [hleft]
    exact hlast
  | succ left ih =>
    obtain ⟨trace, t, hcross, htrace, hinv, htaken⟩ := hpass k hk s hs
    have hstep : step code (line, t) = some (first, f t) := by
      simp [step, hbranch, htaken, htarget, hleft, show k + 1 < k + 1 + (left + 1) by omega]
    obtain ⟨rest, u, hrest, hpasses, hlast⟩ := ih (by omega) hinv (by omega)
    have hwithin : ∀ c ∈ trace ++ [(line, t)], first ≤ c.1 ∧ c.1 < line + 1 := by
      have hle := hcross.le
      refine List.forall_mem_append.mpr ⟨fun c hc => ?_, fun c hc => ?_⟩
      · have := hcross.within c hc
        omega
      · rw [List.mem_singleton.mp hc]
        exact ⟨hle, Nat.lt_succ_self _⟩
    refine ⟨trace ++ [(line, t)] ++ rest, u, ⟨?_, hrest.le, ?_⟩, .next htrace hpasses, hlast⟩
    · exact (hcross.run.trans (.single hstep)).trans hrest.run
    · exact List.forall_mem_append.mpr ⟨hwithin, hrest.within⟩

/-- If the branch goes back after every pass, the loop is back at its first line after any number of passes. -/
theorem runs_back {code : List (Action σ)} {first : Nat} {f : σ → σ} {taken : σ → Bool} {name : String}
    {Inv : Nat → σ → Prop} (hbranch : code[line]? = some (.branch f taken name))
    (htarget : target? code name = some first)
    (hpass : ∀ k < n, ∀ s, Inv k s → ∃ trace t, Crosses code first line s trace t ∧ Pass k (trace ++ [(line, t)]) ∧
      Inv (k + 1) (f t) ∧ taken (f t) = true)
    (hk : k ≤ n) {s : σ} (hs : Inv k s) :
    ∃ trace t, Run code (first, s) trace (first, t) ∧ Passes Pass k n trace ∧ Inv n t := by
  obtain ⟨left, hleft⟩ : ∃ left, n = k + left := ⟨n - k, by omega⟩
  induction left generalizing k s with
  | zero =>
    obtain rfl : n = k := hleft
    exact ⟨[], s, .done _, .done n, hs⟩
  | succ left ih =>
    obtain ⟨trace, t, hcross, htrace, hinv, htaken⟩ := hpass k (by omega) s hs
    have hstep : step code (line, t) = some (first, f t) := by simp [step, hbranch, htaken, htarget]
    obtain ⟨rest, u, hrest, hpasses, hlast⟩ := ih (by omega) hinv (by omega)
    exact ⟨trace ++ [(line, t)] ++ rest, u, (hcross.run.trans (.single hstep)).trans hrest, .next htrace hpasses, hlast⟩

end Loops

end BenchKernel.Machine
