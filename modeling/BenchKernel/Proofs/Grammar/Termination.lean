import BenchKernel.Proofs.Grammar.Scan
import Mathlib.Logic.Relation

/-! # Passes come to an end

A keyword may render a region as anything: more lines, the same markers again, half a region. A pass still takes
two marker lines away, because what a keyword renders is expanded before it takes the region's place, and an
expansion leaves no marker. So the number of marker lines bounds the passes at one depth, and the depth is bounded
by the nesting limit. Both bounds hold for every registry. -/

namespace BenchKernel.Registry

variable {r : Registry} {ctx : Context} {lines next out : List String}

/-! ### One pass -/

/-- What expands a rendering leaves no marker in it. -/
def LeavesPlain (r : Registry) (deeper : Option (List String → Rendered)) : Prop :=
  ∀ expand, deeper = some expand → ∀ produced expanded, expand produced = .ok expanded → r.markerCount expanded = 0

/-- A pass that gives new lines has found a region, rendered it and expanded the rendering. -/
theorem onePass_eq_some {deeper : Option (List String → Rendered)}
    (h : r.onePass ctx deeper lines = .ok (some next)) :
    ∃ before line opening rest inside after produced expanded expand,
      r.firstOpening lines = .ok (some (before, (line, opening), rest)) ∧ deeper = some expand ∧
      r.closeRegion opening [] rest = .ok (inside, after) ∧
      opening.keyword.render ctx (line :: inside) = .ok produced ∧ expand produced = .ok expanded ∧
      next = before ++ expanded ++ after := by
  unfold onePass at h
  obtain ⟨found, hfound, h⟩ := bind_eq_ok.mp h
  match found, deeper, hfound, h with
  | none, _, _, h => cases h
  | some (before, (line, opening), rest), none, _, h => cases h
  | some (before, (line, opening), rest), some expand, hfound, h =>
    obtain ⟨⟨inside, after⟩, hclose, h⟩ := bind_eq_ok.mp h
    obtain ⟨produced, hproduced, h⟩ := bind_eq_ok.mp h
    obtain ⟨expanded, hexpanded, h⟩ := bind_eq_ok.mp h
    cases h
    exact ⟨before, line, opening, rest, inside, after, produced, expanded, expand, reported_eq_ok.mp hfound, rfl,
      reported_eq_ok.mp hclose, hproduced, hexpanded, rfl⟩

theorem onePass_eq_none {deeper : Option (List String → Rendered)}
    (h : r.onePass ctx deeper lines = .ok none) : r.markerCount lines = 0 := by
  unfold onePass at h
  obtain ⟨found, hfound, h⟩ := bind_eq_ok.mp h
  match found, deeper, hfound, h with
  | none, _, hfound, _ => exact firstOpening_eq_none (reported_eq_ok.mp hfound)
  | some (before, (line, opening), rest), none, _, h => cases h
  | some (before, (line, opening), rest), some expand, _, h =>
    obtain ⟨_, -, h⟩ := bind_eq_ok.mp h
    obtain ⟨_, -, h⟩ := bind_eq_ok.mp h
    obtain ⟨_, -, h⟩ := bind_eq_ok.mp h
    cases h

theorem onePass_of_plain (deeper : Option (List String → Rendered)) (h : r.markerCount lines = 0) :
    r.onePass ctx deeper lines = .ok none := by
  unfold onePass
  rw [firstOpening_of_plain h]
  rfl

/-- A region holds the line that opens it and the line that closes it, and neither comes back. -/
theorem markerCount_onePass {deeper : Option (List String → Rendered)} (hd : r.LeavesPlain deeper)
    (h : r.onePass ctx deeper lines = .ok (some next)) : r.markerCount next + 2 ≤ r.markerCount lines := by
  obtain ⟨before, line, opening, rest, inside, after, produced, expanded, expand, hfirst, hdeeper, hclose, -, hexp,
    rfl⟩ := onePass_eq_some h
  obtain ⟨rfl, hbefore, hline⟩ := firstOpening_eq_some hfirst
  obtain ⟨rfl, interior, last, closing, rfl, hlast⟩ := closeRegion_eq_ok hclose
  have hexpanded := hd expand hdeeper produced expanded hexp
  have hopen : r.markerCount (line :: (interior ++ [last] ++ after)) =
      r.markerCount interior + 1 + r.markerCount after + 1 := by
    rw [markerCount_cons_of_marker (isMarker_of_classify hline), markerCount_append, markerCount_append,
      markerCount_cons_of_marker (isMarker_of_classify hlast)]
    rfl
  rw [markerCount_append, markerCount_append, markerCount_append, hopen, hexpanded]
  omega

/-! ### Passes in a row -/

/-- The check for progress always succeeds: after a pass the expansion goes on with what the pass gave. -/
theorem settle_of_pass {deeper : Option (List String → Rendered)} (hd : r.LeavesPlain deeper)
    (h : r.onePass ctx deeper lines = .ok (some next)) :
    settle r (r.onePass ctx deeper) lines = settle r (r.onePass ctx deeper) next := by
  have hless := markerCount_onePass hd h
  rw [settle.eq_def r _ lines, h]
  simp only
  rw [if_pos (by omega)]

theorem settle_of_plain (deeper : Option (List String → Rendered)) (h : r.markerCount lines = 0) :
    settle r (r.onePass ctx deeper) lines = .ok lines := by
  rw [settle, onePass_of_plain deeper h]

theorem markerCount_settle {deeper : Option (List String → Rendered)}
    (h : settle r (r.onePass ctx deeper) lines = .ok out) : r.markerCount out = 0 := by
  induction lines using settle.induct r (r.onePass ctx deeper) with
  | case1 lines e hpass =>
    rw [settle, hpass] at h
    cases h
  | case2 lines hpass =>
    rw [settle, hpass] at h
    cases h
    exact onePass_eq_none hpass
  | case3 lines next hpass hless ih =>
    rw [settle, hpass] at h
    simp only [hless, ↓reduceIte] at h
    exact ih h
  | case4 lines next hpass hless =>
    rw [settle, hpass] at h
    simp only [hless, ↓reduceIte] at h
    cases h

theorem markerCount_expandWithin {levels : Nat} (h : expandWithin r ctx levels lines = .ok out) :
    r.markerCount out = 0 := by
  cases levels <;> exact markerCount_settle h

theorem leavesPlain_none : r.LeavesPlain none := fun _ h => by cases h

theorem leavesPlain_expandWithin (levels : Nat) : r.LeavesPlain (some (expandWithin r ctx levels)) := by
  intro expand hd produced expanded h
  cases hd
  exact markerCount_expandWithin h

/-! ### Depth

`expandWithin` counts the levels that are left. Counted from the outside, an expansion at depth `d` works on the
rendering of a region that `d` others enclose. -/

/-- How a pass at some depth expands a rendering; at the nesting limit it may not. -/
def deeperAt (r : Registry) (ctx : Context) (depth : Nat) : Option (List String → Rendered) :=
  if depth < nestingLimit then some (expandWithin r ctx (nestingLimit - (depth + 1))) else none

/-- One pass at some depth. -/
def passAt (r : Registry) (ctx : Context) (depth : Nat) (lines : List String) :
    Except (Stop GrammarError) (Option (List String)) :=
  r.onePass ctx (r.deeperAt ctx depth) lines

/-- Expansion at some depth. -/
def expandAt (r : Registry) (ctx : Context) (depth : Nat) (lines : List String) : Rendered :=
  expandWithin r ctx (nestingLimit - depth) lines

theorem leavesPlain_deeperAt (depth : Nat) : r.LeavesPlain (r.deeperAt ctx depth) := by
  unfold deeperAt
  split
  · exact leavesPlain_expandWithin _
  · exact leavesPlain_none

/-- A pass at any depth loses the two marker lines of the region that it takes. -/
theorem markerCount_passAt {depth : Nat} (h : r.passAt ctx depth lines = .ok (some next)) :
    r.markerCount next + 2 ≤ r.markerCount lines :=
  markerCount_onePass (leavesPlain_deeperAt depth) h

theorem expandAt_eq_settle {depth : Nat} (hd : depth ≤ nestingLimit) :
    r.expandAt ctx depth lines = settle r (r.passAt ctx depth) lines := by
  unfold expandAt
  rcases Nat.lt_or_eq_of_le hd with hlt | rfl
  · obtain ⟨levels, hlevels⟩ : ∃ levels, nestingLimit - depth = levels + 1 := ⟨nestingLimit - (depth + 1), by omega⟩
    have hdeeper : r.deeperAt ctx depth = some (expandWithin r ctx levels) := by
      have hsub : nestingLimit - (depth + 1) = levels := by omega
      simp only [deeperAt, hlt, ↓reduceIte, hsub]
    rw [hlevels]
    show settle r (r.onePass ctx (some (expandWithin r ctx levels))) lines = _
    rw [← hdeeper]
    rfl
  · have hdeeper : r.deeperAt ctx nestingLimit = none := by simp [deeperAt]
    rw [Nat.sub_self]
    show settle r (r.onePass ctx none) lines = _
    rw [← hdeeper]
    rfl

/-- The region that a pass takes: the line that opens it, what that line opens, and the lines up to the one that
    closes it. -/
def Finds (r : Registry) (lines : List String) (line : String) (opening : Opening) (inside : List String) : Prop :=
  ∃ before rest after, r.firstOpening lines = .ok (some (before, (line, opening), rest)) ∧
    r.closeRegion opening [] rest = .ok (inside, after)

/-- An expansion at some depth goes on to another one: a pass at the same depth gives new lines, or a rendering is
    expanded one level deeper. -/
inductive Invokes (r : Registry) (ctx : Context) : Nat × List String → Nat × List String → Prop
  | again {depth : Nat} {lines next : List String} (h : r.passAt ctx depth lines = .ok (some next)) :
      Invokes r ctx (depth, lines) (depth, next)
  | deeper {depth : Nat} {lines inside produced : List String} {line : String} {opening : Opening}
      (hd : depth < nestingLimit) (hfinds : r.Finds lines line opening inside)
      (hrender : opening.keyword.render ctx (line :: inside) = .ok produced) :
      Invokes r ctx (depth, lines) (depth + 1, produced)

/-- Every way to go on goes deeper, up to the limit, or keeps the depth and loses marker lines. -/
theorem wellFounded_invokes (r : Registry) (ctx : Context) :
    WellFounded fun b a => r.Invokes ctx a b := by
  have hlex : WellFounded fun b a : Nat × List String =>
      Prod.Lex (· < ·) (· < ·) (nestingLimit - b.1, r.markerCount b.2) (nestingLimit - a.1, r.markerCount a.2) :=
    InvImage.wf (fun a : Nat × List String => (nestingLimit - a.1, r.markerCount a.2))
      (Prod.lex Nat.lt_wfRel Nat.lt_wfRel).wf
  refine Subrelation.wf (fun {b a} h => ?_) hlex
  cases h with
  | @again depth lines next h =>
    have hless := markerCount_passAt h
    exact Prod.Lex.right _ (show r.markerCount next < r.markerCount lines by omega)
  | @deeper depth lines inside produced line opening hd _ _ =>
    exact Prod.Lex.left _ _ (show nestingLimit - (depth + 1) < nestingLimit - depth by omega)

theorem depth_le_of_invokes {a b : Nat × List String} (h : Relation.ReflTransGen (r.Invokes ctx) a b)
    (ha : a.1 ≤ nestingLimit) : b.1 ≤ nestingLimit := by
  induction h with
  | refl => exact ha
  | tail _ h ih =>
    cases h with
    | again _ => exact ih
    | deeper hd _ _ => exact hd

/-! ### The loop without a measure -/

/-- Passes until there is no marker, where only a pass that gives back its own lines counts as a standstill. At most
    `fuel` passes are made, and there is no outcome if these are not enough. -/
def repeatPasses (r : Registry) (pass : List String → Except (Stop GrammarError) (Option (List String))) :
    (fuel : Nat) → List String → Option Rendered
  | 0, _ => none
  | fuel + 1, lines =>
    match pass lines with
    | .error e => some (.error e)
    | .ok none => some (.ok lines)
    | .ok (some next) =>
      if next = lines then some (.error (.error (.noProgress ((lines.find? r.isMarker).getD ""))))
      else repeatPasses r pass fuel next

theorem passAt_ne_self (depth : Nat) : r.passAt ctx depth lines ≠ .ok (some lines) := by
  intro h
  have := markerCount_passAt h
  omega

/-- As many passes as there are pairs of marker lines are enough, with one more to find none left. -/
theorem repeatPasses_eq_expandAt {depth fuel : Nat} (hd : depth ≤ nestingLimit)
    (hfuel : r.markerCount lines / 2 < fuel) :
    repeatPasses r (r.passAt ctx depth) fuel lines = some (r.expandAt ctx depth lines) := by
  rw [expandAt_eq_settle hd]
  induction fuel generalizing lines with
  | zero => omega
  | succ fuel ih =>
    unfold repeatPasses
    match hpass : r.passAt ctx depth lines with
    | .error e => rw [settle, hpass]
    | .ok none => rw [settle, hpass]
    | .ok (some next) =>
      have hless := markerCount_passAt hpass
      have hne : next ≠ lines := fun h => passAt_ne_self depth (h ▸ hpass)
      have hstep : settle r (r.passAt ctx depth) lines = settle r (r.passAt ctx depth) next :=
        settle_of_pass (leavesPlain_deeperAt depth) hpass
      simp only [hne, ↓reduceIte]
      rw [hstep]
      exact ih (by omega)

/-! ### Where a standstill comes from -/

theorem arguments_ne_noProgress {line text : String} : Marker.arguments line ≠ .error (.noProgress text) := by
  unfold Marker.arguments
  split
  · exact fun h => by cases h
  · split <;> exact fun h => by cases h

theorem classify_ne_noProgress {line text : String} : r.classify line ≠ .error (.noProgress text) := by
  unfold classify
  split
  · exact fun h => by cases h
  · intro h
    rcases bind_eq_error.mp h with h | ⟨_, -, h⟩
    · exact arguments_ne_noProgress h
    · cases h

theorem firstOpening_ne_noProgress {text : String} : r.firstOpening lines ≠ .error (.noProgress text) := by
  induction lines with
  | nil => exact fun h => by cases h
  | cons line rest ih =>
    rw [firstOpening]
    intro h
    rcases bind_eq_error.mp h with h | ⟨m, -, h⟩
    · exact classify_ne_noProgress h
    · cases m with
      | none =>
        rcases bind_eq_error.mp h with h | ⟨_, -, h⟩
        · exact ih h
        · cases h
      | some m => cases m <;> cases h

theorem reread_ne_noProgress {line text : String} {x : Except GrammarError (List String × List String)}
    (hx : x ≠ .error (.noProgress text)) : reread line x ≠ .error (.noProgress text) := by
  intro h
  rcases bind_eq_error.mp h with h | ⟨_, -, h⟩
  · exact hx h
  · cases h

theorem closeRegion_ne_noProgress {top : Opening} {below : List Opening} {text : String} :
    r.closeRegion top below lines ≠ .error (.noProgress text) := by
  induction lines generalizing top below with
  | nil =>
    unfold closeRegion
    exact fun h => by cases h
  | cons line rest ih =>
    rcases hc : r.classify line with e | _ | opening | closing
    · unfold closeRegion
      rw [hc]
      intro h
      cases h
      exact classify_ne_noProgress hc
    · rw [closeRegion_cons_plain hc]
      exact reread_ne_noProgress ih
    · rw [closeRegion_cons_opens hc]
      split
      · exact fun h => by cases h
      · exact reread_ne_noProgress ih
    · rw [closeRegion_cons_closes hc]
      split
      · split
        · cases below with
          | nil => exact fun h => by cases h
          | cons next below => exact reread_ne_noProgress ih
        · exact fun h => by cases h
      · exact fun h => by cases h

/-- Why an expansion reports a standstill: an opening marker is met where no region may be opened any more, or a
    keyword has itself reported one. -/
def Stalls (r : Registry) (ctx : Context) (depth : Nat) (lines : List String) (text : String) : Prop :=
  (depth = nestingLimit ∧
    ∃ before opening rest, r.firstOpening lines = .ok (some (before, (text, opening), rest))) ∨
  (depth < nestingLimit ∧ ∃ line opening inside, r.Finds lines line opening inside ∧
    opening.keyword.render ctx (line :: inside) = .error (.error (.noProgress text)))

/-- Why an expansion itself stops: one of the two scans reports an error, an opening marker is met at the nesting
    limit, or a keyword does not render its region. -/
inductive Stops (r : Registry) (ctx : Context) : Nat → List String → Stop GrammarError → Prop
  | unopened {depth : Nat} {lines : List String} {e : GrammarError} (h : r.firstOpening lines = .error e) :
      Stops r ctx depth lines (.error e)
  | nested {lines before rest : List String} {line : String} {opening : Opening}
      (h : r.firstOpening lines = .ok (some (before, (line, opening), rest))) :
      Stops r ctx nestingLimit lines (.error (.noProgress line))
  | unclosed {depth : Nat} {lines rest : List String} {opening : Opening} {e : GrammarError}
      (h : r.closeRegion opening [] rest = .error e) : Stops r ctx depth lines (.error e)
  | unrendered {depth : Nat} {lines inside : List String} {line : String} {opening : Opening}
      {stop : Stop GrammarError} (hd : depth < nestingLimit) (hfinds : r.Finds lines line opening inside)
      (h : opening.keyword.render ctx (line :: inside) = .error stop) : Stops r ctx depth lines stop

/-- A pass that stops does so for a cause of its own, or because the expansion one level deeper stops. -/
theorem passAt_eq_error {depth : Nat} {stop : Stop GrammarError} (hd : depth ≤ nestingLimit)
    (h : r.passAt ctx depth lines = .error stop) :
    r.Stops ctx depth lines stop ∨
      ∃ produced, r.Invokes ctx (depth, lines) (depth + 1, produced) ∧ depth < nestingLimit ∧
        r.expandAt ctx (depth + 1) produced = .error stop := by
  unfold passAt onePass at h
  rcases bind_eq_error.mp h with h | ⟨found, hfound, h⟩
  · obtain ⟨e, he, rfl⟩ := reported_eq_error.mp h
    exact Or.inl (.unopened he)
  rw [reported_eq_ok] at hfound
  match found, hfound, h with
  | none, _, h => cases h
  | some (before, (line, opening), rest), hfound, h =>
    rcases Nat.lt_or_eq_of_le hd with hlt | rfl
    · simp only [deeperAt, hlt, ↓reduceIte] at h
      rcases bind_eq_error.mp h with h | ⟨⟨inside, after⟩, hclose, h⟩
      · obtain ⟨e, he, rfl⟩ := reported_eq_error.mp h
        exact Or.inl (.unclosed he)
      have hfinds : r.Finds lines line opening inside := ⟨before, rest, after, hfound, reported_eq_ok.mp hclose⟩
      rcases bind_eq_error.mp h with hrender | ⟨produced, hrender, h⟩
      · exact Or.inl (.unrendered hlt hfinds hrender)
      · rcases bind_eq_error.mp h with hdeep | ⟨_, -, h⟩
        · exact Or.inr ⟨produced, .deeper hlt hfinds hrender, hlt, hdeep⟩
        · cases h
    · simp only [deeperAt, Nat.lt_irrefl, ↓reduceIte] at h
      cases h
      exact Or.inl (.nested hfound)

/-- An expansion that stops does so for a cause of its own or of one that it went on to. -/
theorem expandAt_eq_error {depth : Nat} {stop : Stop GrammarError} (hd : depth ≤ nestingLimit)
    (h : r.expandAt ctx depth lines = .error stop) :
    ∃ depth' current, Relation.ReflTransGen (r.Invokes ctx) (depth, lines) (depth', current) ∧
      r.Stops ctx depth' current stop := by
  -- The induction is on what an expansion goes on to, so both kinds of recursion are covered at once.
  generalize hc : (depth, lines) = c at *
  induction c using (wellFounded_invokes r ctx).induction generalizing depth lines with
  | _ c ih =>
    subst hc
    rw [expandAt_eq_settle hd, settle] at h
    match hpass : r.passAt ctx depth lines, h with
    | .error e, h =>
      cases h
      rcases passAt_eq_error hd hpass with hstop | ⟨produced, hinv, hlt, hdeep⟩
      · exact ⟨depth, lines, .refl, hstop⟩
      · obtain ⟨depth', current, hreach, hstop⟩ := ih _ hinv hlt hdeep rfl
        exact ⟨depth', current, .head hinv hreach, hstop⟩
    | .ok none, h => cases h
    | .ok (some next), h =>
      have hless := markerCount_passAt hpass
      simp only at h
      rw [if_pos (by omega), ← expandAt_eq_settle hd] at h
      obtain ⟨depth', current, hreach, hstop⟩ := ih _ (.again hpass) hd h rfl
      exact ⟨depth', current, .head (.again hpass) hreach, hstop⟩

theorem stalls_of_stops {depth : Nat} {text : String} (h : r.Stops ctx depth lines (.error (.noProgress text))) :
    r.Stalls ctx depth lines text := by
  cases h with
  | unopened h => exact absurd h firstOpening_ne_noProgress
  | nested h => exact Or.inl ⟨rfl, _, _, _, h⟩
  | unclosed h => exact absurd h closeRegion_ne_noProgress
  | unrendered hd hfinds h => exact Or.inr ⟨hd, _, _, _, hfinds, h⟩

/-- A standstill that an expansion reports was met by it or by one that it went on to. -/
theorem expandAt_eq_noProgress {depth : Nat} {text : String} (hd : depth ≤ nestingLimit)
    (h : r.expandAt ctx depth lines = .error (.error (.noProgress text))) :
    ∃ depth' current, Relation.ReflTransGen (r.Invokes ctx) (depth, lines) (depth', current) ∧
      r.Stalls ctx depth' current text := by
  obtain ⟨depth', current, hreach, hstop⟩ := expandAt_eq_error hd h
  exact ⟨depth', current, hreach, stalls_of_stops hstop⟩

/-- Expansion comes to an end whatever the keywords render. A pass loses at least two marker lines; what an
    expansion goes on to is well-founded and never deeper than the limit; the plain loop, which stops at a
    standstill only, reaches the same outcome within as many passes as there are pairs of marker lines; no pass
    gives back its own lines; and a standstill is reported for one of the two causes in `Stalls` only. -/
theorem expansion_terminates (r : Registry) (ctx : Context) :
    (∀ depth lines next, r.passAt ctx depth lines = .ok (some next) →
      r.markerCount next + 2 ≤ r.markerCount lines) ∧
    (WellFounded fun b a => r.Invokes ctx a b) ∧
    (∀ lines depth current, Relation.ReflTransGen (r.Invokes ctx) (0, lines) (depth, current) → depth ≤ 256) ∧
    (∀ depth lines fuel, depth ≤ 256 → r.markerCount lines / 2 < fuel →
      repeatPasses r (r.passAt ctx depth) fuel lines = some (r.expandAt ctx depth lines)) ∧
    (∀ depth lines, r.passAt ctx depth lines ≠ .ok (some lines)) ∧
    (∀ lines text, expand r ctx lines = .error (.error (.noProgress text)) →
      ∃ depth current, Relation.ReflTransGen (r.Invokes ctx) (0, lines) (depth, current) ∧
        r.Stalls ctx depth current text) := by
  refine ⟨fun depth lines next h => markerCount_passAt h, wellFounded_invokes r ctx,
    fun lines depth current h => ?_, fun depth lines fuel hd hfuel => repeatPasses_eq_expandAt hd hfuel,
    fun depth lines => passAt_ne_self depth, fun lines text h => ?_⟩
  · exact depth_le_of_invokes h (Nat.zero_le nestingLimit)
  · exact expandAt_eq_noProgress (Nat.zero_le nestingLimit) h

end BenchKernel.Registry
