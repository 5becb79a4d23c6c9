import BenchKernel.Proofs.Grammar.Forest
import BenchKernel.Proofs.Machine.Jump

/-! # Where the lines of a forest go

Rendering puts the plain lines of a forest and the labels of its loops somewhere among other lines. This file says at
which line each of them stands, and which loops are around it. -/

namespace BenchKernel

/-- The loop that a frame is, if it is one. -/
def Frame.loops : Frame → List Loop
  | block _ => []
  | loop l => [l]

namespace Forest

/-- All loops of a forest, outer ones before those inside them. -/
def loops : Forest → List Loop
  | nil => []
  | plain _ rest => rest.loops
  | region frame _ _ inside rest => frame.loops ++ inside.loops ++ rest.loops

/-- Line number `i` of the rendered forest is a plain line of the forest, or the label with which a pass of a loop
    starts. The loops around it are listed from the outermost to the innermost; a label is inside its own loop. -/
inductive Site (arch : Arch) : Forest → (i : Nat) → (text : String) → (around : List Loop) → Prop
  | here {line : String} {rest : Forest} : Site arch (plain line rest) 0 line []
  | later {line text : String} {rest : Forest} {i : Nat} {around : List Loop} (h : Site arch rest i text around) :
      Site arch (plain line rest) (i + 1) text around
  | label {l : Loop} {o c : String} {inside rest : Forest} :
      Site arch (region (.loop l) o c inside rest) ((Frame.loop l).header arch).length (l.label ++ ":") [l]
  | inside {frame : Frame} {o c text : String} {inside rest : Forest} {i : Nat} {around : List Loop}
      (h : Site arch inside i text around) :
      Site arch (region frame o c inside rest) ((frame.header arch).length + 1 + i) text (frame.loops ++ around)
  | behind {frame : Frame} {o c text : String} {inside rest : Forest} {i : Nat} {around : List Loop}
      (h : Site arch rest i text around) :
      Site arch (region frame o c inside rest) ((frame.wrap arch o c (inside.render arch)).length + i) text around

variable {arch : Arch} {f : Forest} {i : Nat} {text : String} {around : List Loop}

theorem forall_loops_region {P : Loop → Prop} {frame : Frame} {o c : String} {inside rest : Forest} :
    (∀ l ∈ (region frame o c inside rest).loops, P l) ↔
      (∀ l ∈ frame.loops, P l) ∧ (∀ l ∈ inside.loops, P l) ∧ ∀ l ∈ rest.loops, P l := by
  simp only [loops, List.forall_mem_append, and_assoc]

theorem length_wrap (frame : Frame) (o c : String) (interior : List String) :
    (frame.wrap arch o c interior).length =
      (frame.header arch).length + 1 + interior.length + (frame.footer arch).length + 1 := by
  simp only [Frame.wrap, List.length_append, List.length_cons, List.length_nil]
  omega

theorem placed_interior {σ : Type} {code : List (Machine.Action σ)} {line : Nat} {read : String → Machine.Action σ}
    {frame : Frame} {o c : String} {interior : List String}
    (h : Machine.Placed code line ((frame.wrap arch o c interior).map read)) :
    Machine.Placed code (line + ((frame.header arch).length + 1)) (interior.map read) := by
  have hwrap : frame.wrap arch o c interior = ([arch.comment (Text.trimmed o)] ++ frame.header arch) ++
      (interior ++ (frame.footer arch ++ [arch.comment (Text.trimmed c)])) := by
    simp [Frame.wrap]
  rw [hwrap, List.map_append] at h
  have hright := h.right
  rw [List.length_map, List.length_append, List.length_singleton, Nat.add_comm 1, List.map_append] at hright
  exact hright.left

theorem Site.lt_length (h : Site arch f i text around) : i < (f.render arch).length := by
  induction h with
  | here => simp [render]
  | later _ ih =>
    rw [render, List.length_cons]
    omega
  | label =>
    rw [render, List.length_append, length_wrap]
    omega
  | inside _ ih =>
    rw [render, List.length_append, length_wrap]
    omega
  | behind _ ih =>
    rw [render, List.length_append]
    omega

theorem Site.getElem?_render (hr : f.Readable arch) (h : Site arch f i text around) :
    (f.render arch)[i]? = some text := by
  induction h with
  | here => rfl
  | later _ ih => exact ih hr
  | @label l o c inside rest =>
    obtain ⟨setup, hsetup, -⟩ := Frame.header_loop_eq hr.1
    simp [render, Frame.wrap, hsetup]
  | @inside frame o c text inside rest i around h ih =>
    have hi := h.lt_length
    rw [render, List.getElem?_append_left (by rw [length_wrap]; omega)]
    have hwrap : frame.wrap arch o c (inside.render arch) = ([arch.comment (Text.trimmed o)] ++ frame.header arch) ++
        (inside.render arch ++ (frame.footer arch ++ [arch.comment (Text.trimmed c)])) := by
      simp [Frame.wrap]
    have hlength : ([arch.comment (Text.trimmed o)] ++ frame.header arch).length = (frame.header arch).length + 1 := by
      simp
    rw [hwrap, ← hlength, List.getElem?_append_right (Nat.le_add_right _ _), Nat.add_sub_cancel_left,
      List.getElem?_append_left hi]
    exact ih hr.2.1
  | behind _ ih =>
    rw [render, List.getElem?_append_right (Nat.le_add_right _ _), Nat.add_sub_cancel_left]
    exact ih hr.2.2

/-! ### What a run shows at the sites -/

section Shown
open Machine
variable {σ α : Type} {code : List (Action σ)} {line last : Nat} {s t u : σ} {trace trace' : List (Config σ)}
  {view : List Loop → σ → α} {V : List Loop → List α} {frame : Frame} {o c : String} {inside rest : Forest}

/-- At every site of a forest a run has seen what it is to see there. What is looked at of a state depends on the loops
    around the site. -/
def Shown (arch : Arch) (view : List Loop → σ → α) (V : List Loop → List α) (f : Forest) (line : Nat)
    (trace : List (Config σ)) : Prop :=
  ∀ i text around, Site arch f i text around → visits (line + i) (view around) trace = V around

/-- The same for the sites inside a frame. -/
def ShownWithin (arch : Arch) (view : List Loop → σ → α) (V : List Loop → List α) (frame : Frame) (inside : Forest)
    (line : Nat) (trace : List (Config σ)) : Prop :=
  (∀ l, frame = .loop l → visits (line + (frame.header arch).length) (view [l]) trace = V [l]) ∧
    ∀ i text around, Site arch inside i text around →
      visits (line + ((frame.header arch).length + 1 + i)) (view (frame.loops ++ around)) trace =
        V (frame.loops ++ around)

theorem shown_nil (arch : Arch) (view : List Loop → σ → α) (V : List Loop → List α) (line : Nat)
    (trace : List (Config σ)) : Shown arch view V nil line trace := by
  rintro i text around ⟨⟩

theorem Shown.plain (hrest : Shown arch view V rest (line + 1) trace) (hcross : Crosses code (line + 1) last t trace u)
    (hV : V [] = [view [] s]) (text : String) : Shown arch view V (.plain text rest) line ([(line, s)] ++ trace) := by
  intro i text' around hsite
  rw [visits_append]
  cases hsite with
  | here =>
    rw [hcross.visits_eq_nil _ (by omega), List.append_nil, hV]
    exact visits_single (line, s) _
  | @later _ _ _ i _ hsite =>
    rw [visits_single_of_ne (show line ≠ line + (i + 1) by omega), List.nil_append,
      show line + (i + 1) = line + 1 + i by omega]
    exact hrest i text' around hsite

theorem Shown.region (hwithin : ShownWithin arch view V frame inside line trace)
    (hcross : Crosses code line (line + (frame.wrap arch o c (inside.render arch)).length) s trace t)
    (hrest : Shown arch view V rest (line + (frame.wrap arch o c (inside.render arch)).length) trace')
    (hcross' : Crosses code (line + (frame.wrap arch o c (inside.render arch)).length) last t trace' u) :
    Shown arch view V (.region frame o c inside rest) line (trace ++ trace') := by
  intro i text around hsite
  rw [visits_append]
  cases hsite with
  | label =>
    rw [hwithin.1 _ rfl, hcross'.visits_eq_nil _ (Or.inl (by rw [length_wrap]; omega)), List.append_nil]
  | inside h =>
    have hi := h.lt_length
    rw [hwithin.2 _ _ _ h, hcross'.visits_eq_nil _ (Or.inl (by rw [length_wrap]; omega)), List.append_nil]
  | behind h =>
    rw [hcross.visits_eq_nil _ (Or.inr (by omega)), List.nil_append, ← Nat.add_assoc]
    exact hrest _ _ _ h

theorem ShownWithin.block (hinside : Shown arch view V inside (line + 1) trace) (label : String) :
    ShownWithin arch view V (.block label) inside line
      ([(line, s)] ++ trace ++ [(line + 1 + (inside.render arch).length, t)]) := by
  refine ⟨fun l hl => (by cases hl), fun i text around hsite => ?_⟩
  have hi := hsite.lt_length
  have hline : line + (((Frame.block label).header arch).length + 1 + i) = line + 1 + i := by
    simp only [Frame.header, List.length_nil]
    omega
  rw [hline, visits_append, visits_append, visits_single_of_ne (show line ≠ line + 1 + i by omega),
    visits_single_of_ne (show line + 1 + (inside.render arch).length ≠ line + 1 + i by omega), List.nil_append,
    List.append_nil]
  exact hinside i text around hsite

theorem ShownWithin.loop {l : Loop} {first : Nat} {before after : List (Config σ)}
    (hfirst : first = line + ((Frame.loop l).header arch).length) (hbefore : ∀ d ∈ before, d.1 < first)
    (hlabel : visits first (view [l]) trace = V [l])
    (hinside : ∀ i text around, Site arch inside i text around →
      visits (first + 1 + i) (view (l :: around)) trace = V (l :: around))
    (hafter : ∀ d ∈ after, first + (inside.render arch).length < d.1) :
    ShownWithin arch view V (.loop l) inside line (before ++ trace ++ after) := by
  have hnil : ∀ i ≤ (inside.render arch).length, ∀ view : σ → α,
      visits (first + i) view (before ++ trace ++ after) = visits (first + i) view trace := by
    intro i hi view
    have hnone : visits (first + i) view before = [] := visits_eq_nil view fun d hd heq => by
      have := hbefore d hd
      omega
    have hnone' : visits (first + i) view after = [] := visits_eq_nil view fun d hd heq => by
      have := hafter d hd
      omega
    rw [visits_append, visits_append, hnone, hnone', List.nil_append, List.append_nil]
  refine ⟨fun l' hl' => ?_, fun i text around hsite => ?_⟩
  · cases hl'
    rw [← hfirst, ← Nat.add_zero first, hnil 0 (Nat.zero_le _), Nat.add_zero, hlabel]
  · have hi := hsite.lt_length
    rw [show line + (((Frame.loop l).header arch).length + 1 + i) = first + (1 + i) by omega, hnil (1 + i) (by omega),
      ← Nat.add_assoc]
    exact hinside i text around hsite

end Shown

/-! ### Traversing a forest -/

section Traversing
open Machine
variable {σ α : Type} {code : List (Action σ)} {read : String → Action σ} {line : Nat}
  {view : List Loop → σ → α} {V : List Loop → List α} {frame : Frame} {o c : String} {inside rest : Forest}
  {R R' R'' : σ → List (Config σ) → σ → Prop}

/-- From any state some code is crossed. `R` says what that did to the state, `Shows` what it has shown. -/
def Traverses (code : List (Action σ)) (first last : Nat) (R : σ → List (Config σ) → σ → Prop)
    (Shows : List (Config σ) → Prop) : Prop :=
  ∀ s, ∃ trace t, Crosses code first last s trace t ∧ R s trace t ∧ Shows trace

/-- What runs on forever behind some code that is crossed runs on forever from its first line on. -/
theorem Traverses.diverges {first last : Nat} {Shows : List (Config σ) → Prop}
    (h : Traverses code first last R Shows) (hlast : ∀ s, Diverges code (last, s)) (s : σ) :
    Diverges code (first, s) := by
  obtain ⟨trace, t, hcross, -⟩ := h s
  exact .of_run hcross.run (hlast t)

theorem traverses_nil (hR : ∀ s, R s [] s) :
    Traverses code line (line + (render arch nil).length) R (Shown arch view V nil line) :=
  fun s => ⟨[], s, .refl code line s, hR s, shown_nil arch view V line []⟩

theorem Traverses.plain {g : σ → σ} {text : String} (hline : code[line]? = some (.effect g))
    (hrest : Traverses code (line + 1) (line + 1 + (rest.render arch).length) R' (Shown arch view V rest (line + 1)))
    (hV : ∀ s, V [] = [view [] s]) (hR : ∀ s trace t, R' (g s) trace t → R s ([(line, s)] ++ trace) t) :
    Traverses code line (line + ((plain text rest).render arch).length) R
      (Shown arch view V (.plain text rest) line) := by
  intro s
  obtain ⟨trace, t, hcross, hrel, hshown⟩ := hrest (g s)
  have hlength : line + ((Forest.plain text rest).render arch).length = line + 1 + (rest.render arch).length := by
    rw [render, List.length_cons]
    omega
  rw [hlength]
  exact ⟨_, t, (crosses_effect hline s).trans hcross, hR s trace t hrel, hshown.plain hcross (hV s) text⟩

theorem Traverses.region
    (hwrap : Traverses code line (line + (frame.wrap arch o c (inside.render arch)).length) R
      (ShownWithin arch view V frame inside line))
    (hrest : Traverses code (line + (frame.wrap arch o c (inside.render arch)).length)
      (line + (frame.wrap arch o c (inside.render arch)).length + (rest.render arch).length) R'
      (Shown arch view V rest (line + (frame.wrap arch o c (inside.render arch)).length)))
    (hR : ∀ s trace t trace' u, R s trace t → R' t trace' u → R'' s (trace ++ trace') u) :
    Traverses code line (line + ((region frame o c inside rest).render arch).length) R''
      (Shown arch view V (.region frame o c inside rest) line) := by
  intro s
  obtain ⟨trace, t, hcross, hrel, hwithin⟩ := hwrap s
  obtain ⟨trace', u, hcross', hrel', hshown⟩ := hrest t
  have hlength : line + ((Forest.region frame o c inside rest).render arch).length =
      line + (frame.wrap arch o c (inside.render arch)).length + (rest.render arch).length := by
    rw [render, List.length_append, Nat.add_assoc]
  rw [hlength]
  exact ⟨_, u, hcross.trans hcross', hR s trace t trace' u hrel hrel', .region hwithin hcross hshown hcross'⟩

/-- Where comments do nothing, the code of a block is that of its inside between two lines that do nothing. -/
theorem wrap_block_code (hcomment : ∀ text, read (arch.comment text) = .effect id) (label o c : String)
    (interior : List String) :
    ((Frame.block label).wrap arch o c interior).map read = .effect id :: (interior.map read ++ [.effect id]) := by
  simp [Frame.wrap, Frame.header, Frame.footer, hcomment]

theorem Traverses.block {label : String} (hcomment : ∀ text, read (arch.comment text) = .effect id)
    (hplaced : Placed code line (((Frame.block label).wrap arch o c (inside.render arch)).map read))
    (hinside : Traverses code (line + 1) (line + 1 + (inside.render arch).length) R
      (Shown arch view V inside (line + 1)))
    (hR : ∀ s trace t, R s trace t → R s ([(line, s)] ++ trace ++ [(line + 1 + (inside.render arch).length, t)]) t) :
    Traverses code line (line + ((Frame.block label).wrap arch o c (inside.render arch)).length) R
      (ShownWithin arch view V (.block label) inside line) := by
  intro s
  obtain ⟨trace, t, hcross, hrel, hshown⟩ := hinside s
  rw [wrap_block_code hcomment] at hplaced
  have hclose := hplaced.tail.right
  rw [List.length_map] at hclose
  have hlength : line + ((Frame.block label).wrap arch o c (inside.render arch)).length =
      line + 1 + (inside.render arch).length + 1 := by
    rw [length_wrap]
    simp only [Frame.header, Frame.footer, List.length_nil]
    omega
  rw [hlength]
  exact ⟨_, t, ((crosses_effect hplaced.head s).trans hcross).trans (crosses_effect hclose.head t), hR s trace t hrel,
    .block hshown label⟩

end Traversing

end Forest

end BenchKernel
