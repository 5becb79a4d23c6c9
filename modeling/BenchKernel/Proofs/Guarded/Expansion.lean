import BenchKernel.Proofs.Guarded.Keyword
import BenchKernel.Proofs.Guarded.Scan

/-! # Expansion by line numbers

A pass that cuts the lines at the numbers which the two scans have found, and the expansion made of such passes. The
closing line stands behind the opening one and neither is beyond the last line, so all cuts are inside. -/

namespace BenchKernel.Guarded

variable {r : Registry} {ctx : Context}

/-- The lines that stand for a region, given with both its marker lines. -/
abbrev Render := Context → List String → Guarded (Stop GrammarError) (List String)

/-- The renderings of the keywords of a registry, by number. -/
def RendersAll (r : Registry) (renders : List Render) : Prop :=
  List.Forall₂ (fun k render => ∀ ctx lines, Agrees Eq (render ctx lines) (k.render ctx lines)) r renders

theorem RendersAll.at {renders : List Render} (h : RendersAll r renders) {number : Nat} {k : Keyword}
    (hk : r[number]? = some k) :
    ∃ render, renders[number]? = some render ∧ ∀ ctx lines, Agrees Eq (render ctx lines) (k.render ctx lines) := by
  induction h generalizing number with
  | nil => cases hk
  | cons hhead _ ih =>
    cases number with
    | zero =>
      cases hk
      exact ⟨_, rfl, hhead⟩
    | succ number => exact ih hk

/-! ### One pass -/

/-- One pass. `deeper` expands a rendering; without it no region may be opened. -/
def onePass (r : Registry) (renders : List Render) (ctx : Context)
    (deeper : Option (List String → Guarded (Stop GrammarError) (List String))) (lines : List String) :
    Guarded (Stop GrammarError) (Option (List String)) := do
  match ← reported (findOpening r 0 lines) with
  | none => return none
  | some (first, number, label) =>
    match deeper with
    | none => throw (.error (.noProgress (← item lines first)))
    | some expand =>
      let inside ← raise lines.length first 1
      let last ← reported (findClosing r [(number, label)] inside (lines.drop inside))
      let after ← raise lines.length last 1
      let render ← item renders number
      let produced ← render ctx (← slice lines first after)
      let expanded ← expand produced
      return some ((← slice lines 0 first) ++ expanded ++ (← slice lines after lines.length))

/-- The two ways to expand a rendering come to the same outcome. -/
def SameDeeper (deeper : Option (List String → Guarded (Stop GrammarError) (List String)))
    (deeper' : Option (List String → Rendered)) : Prop :=
  Option.Rel (fun expand expand' => ∀ lines, Agrees Eq (expand lines) (expand' lines)) deeper deeper'

theorem agrees_onePass {renders : List Render} (hrenders : RendersAll r renders)
    {deeper : Option (List String → Guarded (Stop GrammarError) (List String))}
    {deeper' : Option (List String → Rendered)} (hdeeper : SameDeeper deeper deeper') (lines : List String) :
    Agrees Eq (onePass r renders ctx deeper lines) (r.onePass ctx deeper' lines) := by
  unfold onePass Registry.onePass
  refine (agrees_findOpening r 0 lines).reported.bind fun found found' hfound hsame => ?_
  cases hsame with
  | none => exact agrees_pure rfl
  | @some number k before line label rest hnumber =>
    obtain ⟨rfl, -, -⟩ := Registry.firstOpening_eq_some (reported_eq_ok.mp hfound)
    dsimp only
    cases hdeeper with
    | none =>
      rw [item_eq (a := line) (by simp), pure_bind]
      exact agrees_throw _
    | some hexpand =>
      have hdrop : (before ++ line :: rest).drop (before.length + 1) = rest := by
        rw [← List.drop_drop, List.drop_left, List.drop_succ_cons, List.drop_zero]
      dsimp only
      rw [Nat.zero_add, raise_eq (by simp), pure_bind, hdrop]
      refine (agrees_findClosing (.cons ⟨rfl, hnumber⟩ .nil) (before.length + 1) rest).reported.bind
        fun last cut hcut hlast => ?_
      obtain ⟨inside, after⟩ := cut
      obtain ⟨rfl, -⟩ := Registry.closeRegion_eq_ok (reported_eq_ok.mp hcut)
      obtain ⟨render, hat, hrender⟩ := hrenders.at hnumber.1
      -- The line behind the region has as number the lines before it and those of the region.
      have hend : last + 1 = before.length + (line :: inside).length := by
        rw [List.length_cons]
        have : last + 1 = before.length + 1 + inside.length := hlast
        omega
      have hlines : before ++ line :: (inside ++ after) = before ++ (line :: inside) ++ after := by simp
      rw [hlines, raise_eq (by simp only [List.length_append]; omega), pure_bind, item_eq hat, pure_bind, hend,
        slice_append, pure_bind]
      refine (hrender ctx (line :: inside)).bind fun produced produced' _ hproduced => ?_
      subst hproduced
      refine (hexpand produced).bind fun expanded expanded' _ hexpanded => ?_
      subst hexpanded
      have hstart : (slice (before ++ (line :: inside) ++ after) 0 before.length :
          Guarded (Stop GrammarError) (List String)) = pure before := by
        rw [List.append_assoc]
        exact slice_start before _
      have hfinish : (slice (before ++ (line :: inside) ++ after) (before.length + (line :: inside).length)
          (before ++ (line :: inside) ++ after).length : Guarded (Stop GrammarError) (List String)) = pure after := by
        rw [← List.length_append]
        exact slice_end _ after
      rw [hstart, pure_bind, hfinish, pure_bind]
      exact agrees_pure rfl

/-! ### Passes in a row -/

/-- Passes until there is no marker. A pass that removes no marker line would not end, and is an error. -/
def settle (r : Registry) (pass : List String → Guarded (Stop GrammarError) (Option (List String)))
    (lines : List String) : Guarded (Stop GrammarError) (List String) := do
  match ← pass lines with
  | none => return lines
  | some next =>
    if _h : r.markerCount next < r.markerCount lines then settle r pass next
    else throw (.error (.noProgress ((lines.find? r.isMarker).getD "")))
termination_by r.markerCount lines

/-- Expansion with a number of levels to which regions may still nest. -/
def expandWithin (r : Registry) (renders : List Render) (ctx : Context) :
    (levels : Nat) → List String → Guarded (Stop GrammarError) (List String)
  | 0 => settle r (onePass r renders ctx none)
  | levels + 1 => settle r (onePass r renders ctx (some (expandWithin r renders ctx levels)))

theorem agrees_settle {pass : List String → Guarded (Stop GrammarError) (Option (List String))}
    {pass' : List String → Except (Stop GrammarError) (Option (List String))}
    (hpass : ∀ lines, Agrees Eq (pass lines) (pass' lines)) (lines : List String) :
    Agrees Eq (settle r pass lines) (Registry.settle r pass' lines) := by
  induction lines using Registry.settle.induct r pass' with
  | case1 lines e h =>
    rw [settle, Registry.settle, h, eq_plain_of_agrees (hpass lines), h]
    exact agrees_throw e
  | case2 lines h =>
    rw [settle, Registry.settle, h, eq_plain_of_agrees (hpass lines), h]
    exact agrees_pure rfl
  | case3 lines next h hless ih =>
    rw [settle, Registry.settle, h, eq_plain_of_agrees (hpass lines), h, plain_ok, pure_bind]
    simpa only [hless, ↓reduceDIte, ↓reduceIte] using ih
  | case4 lines next h hless =>
    rw [settle, Registry.settle, h, eq_plain_of_agrees (hpass lines), h, plain_ok, pure_bind]
    simpa only [hless, ↓reduceDIte, ↓reduceIte] using agrees_throw _

theorem agrees_expandWithin {renders : List Render} (hrenders : RendersAll r renders) (levels : Nat)
    (lines : List String) :
    Agrees Eq (expandWithin r renders ctx levels lines) (r.expandWithin ctx levels lines) := by
  induction levels generalizing lines with
  | zero => exact agrees_settle (agrees_onePass hrenders .none) lines
  | succ levels ih => exact agrees_settle (agrees_onePass hrenders (.some ih)) lines

end BenchKernel.Guarded
