import BenchKernel.Proofs.Grammar.Structure

/-! # Lines in a row

Every pass reads all lines from the top again. Still the expansion of lines in a row is the expansions of the parts
in a row, for every registry. In front of other lines, a pass finds the region that it finds without them, because a
region ends at the same line whatever follows; and lines without a marker stay in front of whatever a pass makes of
the lines behind them, its error included. -/

namespace BenchKernel.Registry

variable {r : Registry} {ctx : Context} {depth : Nat} {lines next out plain : List String}

/-! ### Lines behind a region -/

theorem firstOpening_append_of_some {before rest : List String} {line : String} {opening : Opening}
    (h : r.firstOpening lines = .ok (some (before, (line, opening), rest))) (more : List String) :
    r.firstOpening (lines ++ more) = .ok (some (before, (line, opening), rest ++ more)) := by
  obtain ⟨rfl, hbefore, hline⟩ := firstOpening_eq_some h
  rw [List.append_assoc, List.cons_append]
  exact firstOpening_append hbefore hline (rest ++ more)

theorem closeRegion_append {top : Opening} {below : List Opening} {inside after : List String}
    (h : r.closeRegion top below lines = .ok (inside, after)) (more : List String) :
    r.closeRegion top below (lines ++ more) = .ok (inside, after ++ more) := by
  induction lines generalizing top below inside with
  | nil => exact absurd h closeRegion_nil
  | cons line rest ih =>
    rw [List.cons_append]
    rcases closeRegion_cons_eq_ok h with ⟨hc, tail, rfl, h'⟩ | ⟨opening, hc, hopen, tail, rfl, h'⟩ |
      ⟨closing, hc, htags, hlabel, ⟨rfl, rfl, rfl⟩ | ⟨next, below', tail, rfl, rfl, h'⟩⟩
    · rw [closeRegion_cons_plain hc]
      exact reread_eq_ok.mpr ⟨tail, rfl, ih h'⟩
    · rw [closeRegion_cons_opens hc, if_neg (by simp [hopen])]
      exact reread_eq_ok.mpr ⟨tail, rfl, ih h'⟩
    · rw [closeRegion_cons_closes hc, if_pos htags, if_pos hlabel]
    · rw [closeRegion_cons_closes hc, if_pos htags, if_pos hlabel]
      exact reread_eq_ok.mpr ⟨tail, rfl, ih h'⟩

theorem passAt_append_of_some (h : r.passAt ctx depth lines = .ok (some next)) (more : List String) :
    r.passAt ctx depth (lines ++ more) = .ok (some (next ++ more)) := by
  obtain ⟨before, line, opening, rest, inside, after, produced, expanded, hd, hfirst, hclose, hrender, hexpand, rfl⟩ :=
    passAt_eq_some h
  rw [List.append_assoc]
  exact passAt_of_region hd (firstOpening_append_of_some hfirst more) (closeRegion_append hclose more) hrender hexpand

theorem expandAt_append_of_ok (hd : depth ≤ nestingLimit) (h : r.expandAt ctx depth lines = .ok out)
    (more : List String) : r.expandAt ctx depth (lines ++ more) = r.expandAt ctx depth (out ++ more) := by
  -- Each pass loses marker lines, so the induction is on how many there are.
  induction hn : r.markerCount lines using Nat.strong_induction_on generalizing lines with
  | _ n ih =>
    subst hn
    match hpass : r.passAt ctx depth lines with
    | .error e =>
      rw [expandAt_eq_settle hd, settle, hpass] at h
      cases h
    | .ok none =>
      rw [expandAt_of_plain hd (onePass_eq_none hpass)] at h
      cases h
      rfl
    | .ok (some next) =>
      have hless := markerCount_passAt hpass
      rw [expandAt_of_pass hd hpass] at h
      rw [expandAt_of_pass hd (passAt_append_of_some hpass more)]
      exact ih _ (by omega) h rfl

/-! ### Plain lines in front -/

theorem firstOpening_plain_append (h : r.markerCount plain = 0) (lines : List String) :
    r.firstOpening (plain ++ lines) =
      (r.firstOpening lines).map (Option.map fun (before, found) => (plain ++ before, found)) := by
  induction plain with
  | nil =>
    rw [List.nil_append]
    rcases r.firstOpening lines with e | _ | found <;> rfl
  | cons line rest ih =>
    rw [markerCount_eq_zero_iff] at h ih
    rw [List.cons_append, firstOpening_cons_plain (h line List.mem_cons_self),
      ih fun l hl => h l (List.mem_cons_of_mem _ hl)]
    rcases r.firstOpening lines with e | _ | found <;> rfl

theorem passAt_plain_append (h : r.markerCount plain = 0) (lines : List String) :
    r.passAt ctx depth (plain ++ lines) = (r.passAt ctx depth lines).map (Option.map (plain ++ ·)) := by
  unfold passAt onePass
  rw [firstOpening_plain_append h]
  rcases r.firstOpening lines with e | _ | ⟨before, ⟨line, opening⟩, rest⟩
  · rfl
  · rfl
  · cases r.deeperAt ctx depth with
    | none => rfl
    | some expand =>
      simp only [Except.map, Option.map_some, reported, ok_bind]
      rcases r.closeRegion opening [] rest with e | ⟨inside, after⟩
      · rfl
      · simp only [ok_bind]
        cases opening.keyword.render ctx (line :: inside) with
        | error stop => rfl
        | ok produced =>
          simp only [ok_bind]
          cases expand produced with
          | error stop => rfl
          | ok expanded =>
            rw [ok_bind, ok_bind, List.append_assoc plain, List.append_assoc plain]
            rfl

theorem expandAt_plain_append (hd : depth ≤ nestingLimit) (h : r.markerCount plain = 0) (lines : List String) :
    r.expandAt ctx depth (plain ++ lines) = (r.expandAt ctx depth lines).map (plain ++ ·) := by
  induction hn : r.markerCount lines using Nat.strong_induction_on generalizing lines with
  | _ n ih =>
    subst hn
    have happend : r.passAt ctx depth (plain ++ lines) = (r.passAt ctx depth lines).map (Option.map (plain ++ ·)) :=
      passAt_plain_append h lines
    match hpass : r.passAt ctx depth lines with
    | .error e =>
      rw [hpass] at happend
      rw [expandAt_eq_settle hd, settle, happend, expandAt_eq_settle hd, settle, hpass]
      rfl
    | .ok none =>
      rw [hpass] at happend
      rw [expandAt_of_plain hd (onePass_eq_none happend), expandAt_of_plain hd (onePass_eq_none hpass)]
      rfl
    | .ok (some next) =>
      have hless := markerCount_passAt hpass
      rw [hpass] at happend
      rw [expandAt_of_pass hd happend, expandAt_of_pass hd hpass]
      exact ih _ (by omega) next rfl

/-! ### Concatenation -/

theorem anyMarker_eq_false_iff : r.anyMarker lines = false ↔ r.markerCount lines = 0 := by
  simp [anyMarker, markerCount_eq_zero_iff]

/-- Lines that expand leave no marker, expand to themselves once expanded, and add their expansion in front of that of
    any lines behind them. If those have an error or a fault instead, it is the outcome of all the lines. -/
theorem expand_concatenation (r : Registry) (ctx : Context) (first second out : List String)
    (h : expand r ctx first = .ok out) :
    r.anyMarker out = false ∧ expand r ctx out = .ok out ∧
      (∀ rest, expand r ctx second = .ok rest → expand r ctx (first ++ second) = .ok (out ++ rest)) ∧
      ∀ stop, expand r ctx second = .error stop → expand r ctx (first ++ second) = .error stop := by
  have hplain : r.markerCount out = 0 := markerCount_expandWithin h
  have hjoined : expand r ctx (first ++ second) = (expand r ctx second).map (out ++ ·) := by
    calc expand r ctx (first ++ second)
        = r.expandAt ctx 0 (out ++ second) := expandAt_append_of_ok (Nat.zero_le _) h second
      _ = (expand r ctx second).map (out ++ ·) := expandAt_plain_append (Nat.zero_le _) hplain second
  refine ⟨anyMarker_eq_false_iff.mpr hplain, expandAt_of_plain (Nat.zero_le _) hplain, fun rest hrest => ?_,
    fun stop hstop => ?_⟩
  · rw [hjoined, hrest]
    rfl
  · rw [hjoined, hstop]
    rfl

/-- A keyword that repeats the inside of its region. -/
def doubling : Keyword := ⟨"TWICE", "TWICEEND", fun _ region => .ok (region.tail.dropLast ++ region.tail.dropLast)⟩

theorem expand_doubling (ctx : Context) :
    expand [doubling] ctx ["TWICE(a)", "nop", "TWICEEND(a)"] = .ok ["nop", "nop"] := by
  have hplain : markerCount [doubling] ["nop", "nop"] = 0 := by decide
  have hlimit : 0 < nestingLimit := by decide
  have hpass : passAt [doubling] ctx 0 ["TWICE(a)", "nop", "TWICEEND(a)"] = .ok (some ([] ++ ["nop", "nop"] ++ [])) :=
    passAt_of_region hlimit rfl rfl rfl (expandAt_of_plain hlimit hplain)
  exact (expandAt_of_pass (Nat.zero_le _) hpass).trans (expandAt_of_plain (Nat.zero_le _) hplain)

/-- Behind a region that expands, a second one is expanded too, and one that is never closed is the error of all the
    lines. -/
theorem doubled_before_others :
    let ctx : Context := { arch := .x8664, template := {} }
    let region := ["TWICE(a)", "nop", "TWICEEND(a)"]
    expand [doubling] ctx (region ++ region) = .ok ["nop", "nop", "nop", "nop"] ∧
      expand [doubling] ctx (region ++ ["ret", "TWICE(b)", "nop"]) = .error (.error (.unmatchedOpen "TWICE" "b")) := by
  intro ctx region
  have hfirst : expand [doubling] ctx region = .ok ["nop", "nop"] := expand_doubling ctx
  have hsecond : expand [doubling] ctx ["ret", "TWICE(b)", "nop"] = .error (.error (.unmatchedOpen "TWICE" "b")) := by
    show expandAt [doubling] ctx 0 _ = _
    rw [expandAt_eq_settle (Nat.zero_le _), settle]
    rfl
  obtain ⟨-, -, hok, -⟩ := expand_concatenation [doubling] ctx region region ["nop", "nop"] hfirst
  obtain ⟨-, -, -, herror⟩ :=
    expand_concatenation [doubling] ctx region ["ret", "TWICE(b)", "nop"] ["nop", "nop"] hfirst
  exact ⟨hok _ hfirst, herror _ hsecond⟩

end BenchKernel.Registry
