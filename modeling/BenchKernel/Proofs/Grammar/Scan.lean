import BenchKernel.Grammar.Expansion
import BenchKernel.Proofs.Outcome

/-! # What a scan finds

A pass looks for the first opening marker and then for the line that closes its region. Here is what each of
the two scans says about the lines it has read: nothing is lost or moved, no marker stands before the first
opening one, and a region ends with a closing marker. -/

namespace BenchKernel.Registry

variable {r : Registry} {line : String} {lines : List String}

/-! ### Marker lines -/

theorem classify_eq_none_iff : r.classify line = .ok none ↔ r.isMarker line = false := by
  unfold classify isMarker
  cases h : r.find? fun k => k.marks line with
  | none =>
    rw [List.find?_eq_none] at h
    simpa using h
  | some k =>
    have hk : k.marks line = true := by simpa using List.find?_some h
    have hany : (r.any fun k => k.marks line) = true := List.any_eq_true.mpr ⟨k, List.mem_of_find?_eq_some h, hk⟩
    cases ha : Marker.arguments line <;> simp [hany, bind, Except.bind, pure, Except.pure]

theorem isMarker_of_classify {m : MarkerLine} (h : r.classify line = .ok (some m)) : r.isMarker line = true := by
  cases hm : r.isMarker line
  · rw [classify_eq_none_iff.mpr hm] at h
    cases h
  · rfl

/-- What a line opens or closes is known from the first keyword that has a tag on it. -/
theorem classify_of_find? {k : Keyword} {arguments : List String} (hk : (r.find? fun k => k.marks line) = some k)
    (hargs : Marker.arguments line = .ok arguments) :
    r.classify line = .ok (some (if k.opens line then .opens ⟨k, arguments.head?.getD ""⟩
      else .closes ⟨k, arguments.head?.getD ""⟩)) := by
  unfold classify
  rw [hk, hargs]
  rfl

theorem find?_of_classify {m : MarkerLine} (h : r.classify line = .ok (some m)) :
    ∃ k arguments, (r.find? fun k => k.marks line) = some k ∧ Marker.arguments line = .ok arguments ∧
      m = if k.opens line then .opens ⟨k, arguments.head?.getD ""⟩ else .closes ⟨k, arguments.head?.getD ""⟩ := by
  unfold classify at h
  split at h
  · cases h
  · rename_i k hk
    obtain ⟨arguments, hargs, h⟩ := bind_eq_ok.mp h
    cases h
    exact ⟨k, arguments, hk, hargs, rfl⟩

theorem markerCount_eq_zero_iff : r.markerCount lines = 0 ↔ ∀ line ∈ lines, r.isMarker line = false := by
  simp [markerCount, List.countP_eq_zero]

theorem markerCount_append (a b : List String) : r.markerCount (a ++ b) = r.markerCount a + r.markerCount b :=
  List.countP_append

theorem markerCount_cons_of_marker (h : r.isMarker line = true) :
    r.markerCount (line :: lines) = r.markerCount lines + 1 :=
  List.countP_cons_of_pos h

/-! ### The first opening marker -/

theorem firstOpening_cons_plain (h : r.isMarker line = false) (rest : List String) :
    r.firstOpening (line :: rest) =
      (do return (← r.firstOpening rest).map fun (before, first, after) => (line :: before, first, after)) := by
  rw [firstOpening, classify_eq_none_iff.mpr h]
  rfl

theorem firstOpening_cons_opens {opening : Opening} (h : r.classify line = .ok (some (.opens opening)))
    (rest : List String) : r.firstOpening (line :: rest) = .ok (some ([], (line, opening), rest)) := by
  rw [firstOpening, h]
  rfl

/-- Without an opening marker there is no marker at all: a closing one would have been an error. -/
theorem firstOpening_eq_none (h : r.firstOpening lines = .ok none) : r.markerCount lines = 0 := by
  induction lines with
  | nil => rfl
  | cons line rest ih =>
    rw [firstOpening] at h
    obtain ⟨m, hm, h⟩ := bind_eq_ok.mp h
    match m, hm, h with
    | none, hm, h =>
      obtain ⟨found, hfound, h⟩ := bind_eq_ok.mp h
      cases found with
      | none =>
        rw [markerCount_eq_zero_iff]
        rw [markerCount_eq_zero_iff] at ih
        intro l hl
        rcases List.mem_cons.mp hl with rfl | hl
        · exact classify_eq_none_iff.mp hm
        · exact ih hfound l hl
      | some found => cases h
    | some (.opens _), _, h => cases h
    | some (.closes _), _, h => cases h

theorem firstOpening_of_plain (h : r.markerCount lines = 0) : r.firstOpening lines = .ok none := by
  induction lines with
  | nil => rfl
  | cons line rest ih =>
    rw [markerCount_eq_zero_iff] at h ih
    rw [firstOpening_cons_plain (h line List.mem_cons_self),
      ih fun l hl => h l (List.mem_cons_of_mem _ hl)]
    rfl

theorem firstOpening_eq_some {before rest : List String} {opening : Opening}
    (h : r.firstOpening lines = .ok (some (before, (line, opening), rest))) :
    lines = before ++ line :: rest ∧ r.markerCount before = 0 ∧
      r.classify line = .ok (some (.opens opening)) := by
  induction lines generalizing before with
  | nil => cases h
  | cons first tail ih =>
    rw [firstOpening] at h
    obtain ⟨m, hm, h⟩ := bind_eq_ok.mp h
    match m, hm, h with
    | none, hm, h =>
      obtain ⟨found, hfound, h⟩ := bind_eq_ok.mp h
      cases found with
      | none => cases h
      | some found =>
        obtain ⟨before', ⟨line', opening'⟩, rest'⟩ := found
        cases h
        obtain ⟨rfl, hbefore, hline⟩ := ih hfound
        refine ⟨rfl, ?_, hline⟩
        rw [markerCount_eq_zero_iff] at hbefore ⊢
        intro l hl
        rcases List.mem_cons.mp hl with rfl | hl
        · exact classify_eq_none_iff.mp hm
        · exact hbefore l hl
    | some (.opens _), hm, h =>
      cases h
      exact ⟨rfl, rfl, hm⟩
    | some (.closes _), _, h => cases h

theorem firstOpening_append {before : List String} (hb : r.markerCount before = 0) {opening : Opening}
    (hline : r.classify line = .ok (some (.opens opening))) (rest : List String) :
    r.firstOpening (before ++ line :: rest) = .ok (some (before, (line, opening), rest)) := by
  induction before with
  | nil => exact firstOpening_cons_opens hline rest
  | cons first tail ih =>
    rw [markerCount_eq_zero_iff] at hb ih
    rw [List.cons_append, firstOpening_cons_plain (hb first List.mem_cons_self),
      ih fun l hl => hb l (List.mem_cons_of_mem _ hl)]
    rfl

/-! ### The end of a region -/

section Closing
variable {top : Opening} {below : List Opening} {rest inside after : List String}

/-- Puts a line that was read in front of the lines of its region. -/
def reread (line : String) (x : Except GrammarError (List String × List String)) :
    Except GrammarError (List String × List String) := do
  let (inside, after) ← x
  return (line :: inside, after)

theorem reread_eq_ok {x : Except GrammarError (List String × List String)} :
    reread line x = .ok (inside, after) ↔ ∃ tail, inside = line :: tail ∧ x = .ok (tail, after) := by
  rcases x with e | ⟨a, b⟩
  · exact ⟨fun h => (by cases h), fun ⟨_, _, h⟩ => (by cases h)⟩
  · constructor
    · intro h
      cases h
      exact ⟨a, rfl, rfl⟩
    · rintro ⟨tail, rfl, h⟩
      cases h
      rfl

theorem closeRegion_cons_plain (h : r.classify line = .ok none) :
    r.closeRegion top below (line :: rest) = reread line (r.closeRegion top below rest) := by
  rw [closeRegion.eq_def r top below (line :: rest)]
  simp only [h]
  rfl

theorem closeRegion_cons_opens {opening : Opening} (h : r.classify line = .ok (some (.opens opening))) :
    r.closeRegion top below (line :: rest) =
      if isOpen (top :: below) opening then .error (.duplicateLabel opening.keyword.openTag opening.label)
      else reread line (r.closeRegion opening (top :: below) rest) := by
  rw [closeRegion.eq_def r top below (line :: rest)]
  simp only [h, ok_bind, throw_bind]
  cases isOpen (top :: below) opening <;> rfl

theorem closeRegion_cons_closes {closing : Opening} (h : r.classify line = .ok (some (.closes closing))) :
    r.closeRegion top below (line :: rest) =
      if top.keyword.sameTags closing.keyword then
        if top.label = closing.label then
          match below with
          | [] => .ok ([line], rest)
          | next :: below => reread line (r.closeRegion next below rest)
        else .error (.labelMismatch top.keyword.openTag top.label closing.label)
      else .error (.keywordMismatch top.label top.keyword.openTag closing.keyword.closeTag) := by
  rw [closeRegion.eq_def r top below (line :: rest)]
  simp only [h, ok_bind, throw_bind]
  cases top.keyword.sameTags closing.keyword
  · rfl
  · by_cases hl : top.label = closing.label
    · cases below <;> simp only [hl, ↓reduceIte] <;> rfl
    · simp only [hl, ↓reduceIte]

/-- A region is read on over a line in one of three ways: the line is plain, it opens a region that is not open
    yet, or it closes the innermost one. -/
theorem closeRegion_cons_eq_ok (h : r.closeRegion top below (line :: rest) = .ok (inside, after)) :
    (r.classify line = .ok none ∧
      ∃ tail, inside = line :: tail ∧ r.closeRegion top below rest = .ok (tail, after)) ∨
    (∃ opening, r.classify line = .ok (some (.opens opening)) ∧ isOpen (top :: below) opening = false ∧
      ∃ tail, inside = line :: tail ∧ r.closeRegion opening (top :: below) rest = .ok (tail, after)) ∨
    (∃ closing, r.classify line = .ok (some (.closes closing)) ∧
      top.keyword.sameTags closing.keyword = true ∧ top.label = closing.label ∧
      ((below = [] ∧ inside = [line] ∧ after = rest) ∨
        ∃ next below' tail, below = next :: below' ∧ inside = line :: tail ∧
          r.closeRegion next below' rest = .ok (tail, after))) := by
  match hc : r.classify line with
  | .error e =>
    unfold closeRegion at h
    rw [hc] at h
    cases h
  | .ok none =>
    rw [closeRegion_cons_plain hc] at h
    exact Or.inl ⟨rfl, reread_eq_ok.mp h⟩
  | .ok (some (.opens opening)) =>
    rw [closeRegion_cons_opens hc] at h
    split at h
    · cases h
    · rename_i ho
      exact Or.inr (Or.inl ⟨opening, rfl, by simpa using ho, reread_eq_ok.mp h⟩)
  | .ok (some (.closes closing)) =>
    rw [closeRegion_cons_closes hc] at h
    split at h
    · rename_i hk
      split at h
      · rename_i hl
        refine Or.inr (Or.inr ⟨closing, rfl, hk, hl, ?_⟩)
        cases below with
        | nil =>
          cases h
          exact Or.inl ⟨rfl, rfl, rfl⟩
        | cons next below =>
          obtain ⟨tail, htail, h⟩ := reread_eq_ok.mp h
          exact Or.inr ⟨next, below, tail, rfl, htail, h⟩
      · cases h
    · cases h

theorem closeRegion_nil : r.closeRegion top below [] ≠ .ok (inside, after) := by
  unfold closeRegion
  exact fun h => by cases h

theorem closeRegion_eq_ok (h : r.closeRegion top below lines = .ok (inside, after)) :
    lines = inside ++ after ∧ ∃ interior line closing, inside = interior ++ [line] ∧
      r.classify line = .ok (some (.closes closing)) := by
  induction lines generalizing top below inside with
  | nil => exact absurd h closeRegion_nil
  | cons line rest ih =>
    have step : ∀ {top' below' tail}, inside = line :: tail → r.closeRegion top' below' rest = .ok (tail, after) →
        line :: rest = inside ++ after ∧ ∃ interior last closing, inside = interior ++ [last] ∧
          r.classify last = .ok (some (.closes closing)) := by
      rintro top' below' tail rfl h'
      obtain ⟨rfl, interior, last, closing, rfl, hlast⟩ := ih h'
      exact ⟨rfl, line :: interior, last, closing, rfl, hlast⟩
    rcases closeRegion_cons_eq_ok h with
      ⟨-, tail, hin, h'⟩ | ⟨_, -, -, tail, hin, h'⟩ | ⟨closing, hc, -, -, ⟨-, rfl, rfl⟩ | ⟨_, _, tail, -, hin, h'⟩⟩
    · exact step hin h'
    · exact step hin h'
    · exact ⟨rfl, [], line, closing, rfl, hc⟩
    · exact step hin h'

/-! ### Balance -/

/-- Whether a line opens a region. -/
def isOpening (r : Registry) (line : String) : Bool := (r.find? fun k => k.marks line).any fun k => k.opens line

/-- Whether a line closes a region. -/
def isClosing (r : Registry) (line : String) : Bool := (r.find? fun k => k.marks line).any fun k => !k.opens line

theorem isOpening_of_plain (h : r.isMarker line = false) : r.isOpening line = false ∧ r.isClosing line = false := by
  have hnone : (r.find? fun k => k.marks line) = none := by
    rw [List.find?_eq_none]
    simpa [isMarker] using h
  simp [isOpening, isClosing, hnone]

theorem isOpening_of_opens {opening : Opening} (h : r.classify line = .ok (some (.opens opening))) :
    r.isOpening line = true ∧ r.isClosing line = false := by
  obtain ⟨k, _, hk, -, hm⟩ := find?_of_classify h
  split at hm
  · rename_i ho
    simp [isOpening, isClosing, hk, ho]
  · cases hm

theorem isOpening_of_closes {closing : Opening} (h : r.classify line = .ok (some (.closes closing))) :
    r.isOpening line = false ∧ r.isClosing line = true := by
  obtain ⟨k, _, hk, -, hm⟩ := find?_of_classify h
  split at hm
  · cases hm
  · rename_i ho
    simp [isOpening, isClosing, hk, ho]

/-- How many more regions some lines open than they close. -/
def surplus (r : Registry) (lines : List String) : Int := lines.countP r.isOpening - lines.countP r.isClosing

theorem surplus_append (a b : List String) : r.surplus (a ++ b) = r.surplus a + r.surplus b := by
  simp only [surplus, List.countP_append]
  omega

theorem surplus_cons (line : String) (lines : List String) :
    r.surplus (line :: lines) = r.surplus [line] + r.surplus lines := surplus_append [line] lines

theorem surplus_plain (h : r.isMarker line = false) : r.surplus [line] = 0 := by
  simp [surplus, isOpening_of_plain h]

theorem surplus_opens {opening : Opening} (h : r.classify line = .ok (some (.opens opening))) :
    r.surplus [line] = 1 := by
  simp [surplus, isOpening_of_opens h]

theorem surplus_closes {closing : Opening} (h : r.classify line = .ok (some (.closes closing))) :
    r.surplus [line] = -1 := by
  simp [surplus, isOpening_of_closes h]

theorem surplus_of_markerCount (h : r.markerCount lines = 0) : r.surplus lines = 0 := by
  induction lines with
  | nil => rfl
  | cons line rest ih =>
    rw [markerCount_eq_zero_iff] at h ih
    rw [surplus_cons, surplus_plain (h line List.mem_cons_self), ih fun l hl => h l (List.mem_cons_of_mem _ hl)]
    rfl

/-- A scan closes all the regions that are open when it starts and all those that it opens. -/
theorem surplus_closeRegion (h : r.closeRegion top below lines = .ok (inside, after)) :
    r.surplus inside = -(below.length + 1 : Int) := by
  induction lines generalizing top below inside with
  | nil => exact absurd h closeRegion_nil
  | cons line rest ih =>
    rcases closeRegion_cons_eq_ok h with ⟨hc, tail, rfl, h'⟩ | ⟨_, hc, -, tail, rfl, h'⟩ |
      ⟨closing, hc, -, -, ⟨rfl, rfl, rfl⟩ | ⟨next, below', tail, rfl, rfl, h'⟩⟩
    · rw [surplus_cons, surplus_plain (classify_eq_none_iff.mp hc), ih h']
      omega
    · rw [surplus_cons, surplus_opens hc, ih h', List.length_cons]
      omega
    · rw [surplus_closes hc]
      rfl
    · rw [surplus_cons, surplus_closes hc, ih h', List.length_cons]
      omega

/-- Before its last line a scan has not closed more regions than were open besides the one that it closes last. -/
theorem surplus_of_append_closeRegion {first last : List String} (hlast : last ≠ [])
    (h : r.closeRegion top below lines = .ok (first ++ last, after)) : -(below.length : Int) ≤ r.surplus first := by
  induction lines generalizing top below first with
  | nil => exact absurd h closeRegion_nil
  | cons line rest ih =>
    cases first with
    | nil =>
      have hnil : r.surplus [] = 0 := rfl
      omega
    | cons line' first =>
      rw [List.cons_append] at h
      rw [surplus_cons]
      rcases closeRegion_cons_eq_ok h with ⟨hc, tail, heq, h'⟩ | ⟨_, hc, -, tail, heq, h'⟩ |
        ⟨closing, hc, -, -, ⟨-, heq, -⟩ | ⟨next, below', tail, rfl, heq, h'⟩⟩ <;>
        obtain ⟨rfl, htail⟩ := List.cons.inj heq
      · have := ih (htail ▸ h')
        rw [surplus_plain (classify_eq_none_iff.mp hc)]
        omega
      · have := ih (htail ▸ h')
        rw [List.length_cons] at this
        rw [surplus_opens hc]
        omega
      · exact absurd (List.append_eq_nil_iff.mp htail).2 hlast
      · have := ih (htail ▸ h')
        rw [surplus_closes hc, List.length_cons]
        omega

end Closing

end BenchKernel.Registry
