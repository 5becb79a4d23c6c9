import BenchKernel.Proofs.Guarded.Arguments
import Mathlib.Data.List.Forall2

/-! # Scans by line number

The two scans of a pass, with the numbers of lines and of keywords and with an explicit stack of open regions. The
stack is never empty when a closing marker is met, and every number of a keyword is one of the registry. Keywords are
told apart by their number; this comes to the same as telling them apart by their tags, because the number of a line's
keyword is the first one whose tags are on the line. -/

namespace BenchKernel.Guarded

variable {r : Registry} {line : String} {lines : List String}

/-! ### Marker lines -/

/-- A line that opens or closes a region, with the number of its keyword. -/
inductive Mark
  | opens (keyword : Nat) (label : String)
  | closes (keyword : Nat) (label : String)

/-- What a line opens or closes, by the keywords from some number on. -/
def classifyFrom (line : String) : (number : Nat) → Registry → Guarded GrammarError (Option Mark)
  | _, [] => pure none
  | number, k :: rest =>
    if k.marks line then do
      let label := (← arguments line).head?.getD ""
      return some (if k.opens line then .opens number label else .closes number label)
    else classifyFrom line (number + 1) rest

def classify (r : Registry) (line : String) : Guarded GrammarError (Option Mark) := classifyFrom line 0 r

/-- A keyword has a number in a registry, and is the first one to have a tag on some line. -/
def Numbers (r : Registry) (number : Nat) (k : Keyword) : Prop :=
  r[number]? = some k ∧ ∃ line, k.marks line = true ∧ ∀ i < number, ∀ l, r[i]? = some l → l.marks line = false

theorem marks_eq_of_sameTags {k l : Keyword} (h : k.sameTags l = true) (line : String) :
    k.marks line = l.marks line := by
  obtain ⟨hopen, hclose⟩ : k.openTag = l.openTag ∧ k.closeTag = l.closeTag := by simpa [Keyword.sameTags] using h
  simp only [Keyword.marks, Keyword.opens, Keyword.closes, hopen, hclose]

theorem Numbers.sameTags_iff {i j : Nat} {k l : Keyword} (hk : Numbers r i k) (hl : Numbers r j l) :
    k.sameTags l = true ↔ i = j := by
  obtain ⟨hi, text, htext, hfirst⟩ := hk
  obtain ⟨hj, text', htext', hfirst'⟩ := hl
  constructor
  · intro h
    rcases Nat.lt_trichotomy i j with hij | hij | hij
    · have := hfirst' i hij k hi
      rw [marks_eq_of_sameTags h, htext'] at this
      cases this
    · exact hij
    · have := hfirst j hij l hj
      rw [← marks_eq_of_sameTags h, htext] at this
      cases this
  · rintro rfl
    rw [hi] at hj
    cases hj
    simp [Keyword.sameTags]

/-- The same line found open or closed, by number and by keyword. -/
inductive SameMark (r : Registry) : Option Mark → Option MarkerLine → Prop
  | plain : SameMark r none none
  | opens {number : Nat} {k : Keyword} (label : String) (h : Numbers r number k) :
      SameMark r (some (.opens number label)) (some (.opens ⟨k, label⟩))
  | closes {number : Nat} {k : Keyword} (label : String) (h : Numbers r number k) :
      SameMark r (some (.closes number label)) (some (.closes ⟨k, label⟩))

theorem agrees_classifyFrom {done rest : Registry} (hdone : ∀ l ∈ done, l.marks line = false) :
    Agrees (SameMark (done ++ rest)) (classifyFrom line done.length rest) (Registry.classify rest line) := by
  induction rest generalizing done with
  | nil => exact agrees_pure .plain
  | cons k rest ih =>
    rw [classifyFrom]
    split
    · rename_i hk
      have hfind : ((k :: rest).find? fun k => k.marks line) = some k := List.find?_cons_of_pos hk
      have hnumber : Numbers (done ++ k :: rest) done.length k := by
        refine ⟨by simp, line, hk, fun i hi l hl => ?_⟩
        rw [List.getElem?_append_left hi] at hl
        exact hdone l (List.mem_of_getElem? hl)
      unfold Registry.classify
      rw [hfind, arguments_eq]
      refine (agrees_plain _).bind fun found found' _ hfound => ?_
      subst hfound
      cases k.opens line
      · exact agrees_pure (.closes _ hnumber)
      · exact agrees_pure (.opens _ hnumber)
    · rename_i hk
      have hskip : ((k :: rest).find? fun k => k.marks line) = rest.find? fun k => k.marks line :=
        List.find?_cons_of_neg hk
      have hrest : Registry.classify (k :: rest) line = Registry.classify rest line := by
        unfold Registry.classify
        rw [hskip]
      have := @ih (done ++ [k]) (by simpa [or_imp, forall_and] using ⟨hdone, by simpa using hk⟩)
      simpa [hrest] using this

theorem agrees_classify (r : Registry) (line : String) :
    Agrees (SameMark r) (classify r line) (r.classify line) :=
  @agrees_classifyFrom line [] r (by simp)

/-! ### The first opening marker -/

/-- The number of the first line that opens a region, with what it opens. -/
def findOpening (r : Registry) : (index : Nat) → List String → Guarded GrammarError (Option (Nat × Nat × String))
  | _, [] => pure none
  | index, line :: rest => do
    match ← classify r line with
    | none => findOpening r (index + 1) rest
    | some (.opens number label) => return some (index, number, label)
    | some (.closes number label) => throw (.unmatchedClose (← item r number).closeTag label)

/-- The same opening marker, by line number and by the lines before it. -/
inductive SameOpening (r : Registry) (index : Nat) :
    Option (Nat × Nat × String) → Option (List String × (String × Opening) × List String) → Prop
  | none : SameOpening r index none none
  | some {number : Nat} {k : Keyword} (before : List String) (line label : String) (rest : List String)
      (h : Numbers r number k) :
      SameOpening r index (some (index + before.length, number, label)) (some (before, (line, ⟨k, label⟩), rest))

theorem agrees_findOpening (r : Registry) (index : Nat) (lines : List String) :
    Agrees (SameOpening r index) (findOpening r index lines) (r.firstOpening lines) := by
  induction lines generalizing index with
  | nil => exact agrees_pure .none
  | cons line rest ih =>
    rw [findOpening, Registry.firstOpening]
    refine (agrees_classify r line).bind fun mark mark' _ hmark => ?_
    cases hmark with
    | plain =>
      refine (ih (index + 1)).map fun found found' h => ?_
      cases h with
      | none => exact .none
      | some before text label rest h =>
        have hindex : index + 1 + before.length = index + (line :: before).length := by
          rw [List.length_cons]
          omega
        rw [hindex]
        exact .some (line :: before) text label rest h
    | opens label h => exact agrees_pure (.some [] line label rest h)
    | closes label h =>
      simp only [item_eq h.1, pure_bind]
      exact agrees_throw _

/-! ### The end of a region -/

/-- The number of the line that closes the outermost open region. The innermost one is on top of the stack. -/
def findClosing (r : Registry) : (stack : List (Nat × String)) → (index : Nat) → List String → Guarded GrammarError Nat
  | stack, _, [] => do
    let (number, label) := stack.headD (0, "")
    throw (.unmatchedOpen (← item r number).openTag label)
  | stack, index, line :: rest => do
    match ← classify r line with
    | none => findClosing r stack (index + 1) rest
    | some (.opens number label) =>
      if stack.any fun p => p.1 == number && p.2 == label then
        throw (.duplicateLabel (← item r number).openTag label)
      findClosing r ((number, label) :: stack) (index + 1) rest
    | some (.closes number label) =>
      match stack with
      | [] => breach .impossible
      | (opened, openLabel) :: stack =>
        unless opened = number do
          throw (.keywordMismatch openLabel (← item r opened).openTag (← item r number).closeTag)
        unless openLabel = label do throw (.labelMismatch (← item r opened).openTag openLabel label)
        if stack.isEmpty then return index
        findClosing r stack (index + 1) rest

/-- The same open region, by number and by keyword. -/
def SameRegion (r : Registry) (p : Nat × String) (o : Opening) : Prop := p.2 = o.label ∧ Numbers r p.1 o.keyword

/-- The same last line of a region, by its number and by the lines up to it. -/
def SameEnd (index stop : Nat) (found : List String × List String) : Prop := stop + 1 = index + found.1.length

theorem any_eq_isOpen {stack : List (Nat × String)} {openings : List Opening}
    (h : List.Forall₂ (SameRegion r) stack openings) {number : Nat} {k : Keyword} (hk : Numbers r number k)
    (label : String) :
    (stack.any fun p => p.1 == number && p.2 == label) = Registry.isOpen openings ⟨k, label⟩ := by
  unfold Registry.isOpen
  induction h with
  | nil => rfl
  | cons hp _ ih =>
    obtain ⟨hlabel, hnumber⟩ := hp
    rw [List.any_cons, List.any_cons, ih, hlabel]
    congr 2
    rw [Bool.eq_iff_iff, beq_iff_eq]
    exact (hnumber.sameTags_iff hk).symm

theorem agrees_reread {index : Nat} {x : Guarded GrammarError Nat}
    {y : Except GrammarError (List String × List String)} (h : Agrees (SameEnd (index + 1)) x y) (line : String) :
    Agrees (SameEnd index) x (Registry.reread line y) :=
  h.map fun stop found hstop => by
    simp only [SameEnd, List.length_cons] at hstop ⊢
    omega

theorem agrees_findClosing {top : Opening} {below : List Opening} {stack : List (Nat × String)}
    (hstack : List.Forall₂ (SameRegion r) stack (top :: below)) (index : Nat) (lines : List String) :
    Agrees (SameEnd index) (findClosing r stack index lines) (r.closeRegion top below lines) := by
  induction lines generalizing top below stack index with
  | nil =>
    obtain ⟨⟨number, label⟩, stack, ⟨hlabel, hnumber⟩, -, rfl⟩ := List.forall₂_cons_right_iff.mp hstack
    simp only [findClosing, Registry.closeRegion, List.headD_cons, item_eq hnumber.1, pure_bind, ← hlabel]
    exact agrees_throw _
  | cons line rest ih =>
    have hagrees := agrees_classify r line
    rw [findClosing]
    rcases hclassify : r.classify line with e | mark'
    · rw [hclassify] at hagrees
      rw [Registry.closeRegion.eq_def]
      simp only [hclassify, show classify r line = throw e from hagrees]
      exact agrees_throw e
    · rw [hclassify] at hagrees
      obtain ⟨mark, hmark, hsame⟩ := hagrees
      rw [hmark, pure_bind]
      cases hsame with
      | plain =>
        rw [Registry.closeRegion_cons_plain hclassify]
        exact agrees_reread (ih hstack (index + 1)) line
      | @opens number k label hnumber =>
        rw [Registry.closeRegion_cons_opens hclassify]
        simp only [any_eq_isOpen hstack hnumber label, item_eq hnumber.1, pure_bind]
        split
        · exact agrees_throw _
        · exact agrees_reread (ih (.cons ⟨rfl, hnumber⟩ hstack) (index + 1)) line
      | @closes number k label hnumber =>
        -- A region is open whenever a line is read, so the stack has a top.
        obtain ⟨⟨opened, openLabel⟩, stack, ⟨hlabel, htop⟩, hbelow, rfl⟩ := List.forall₂_cons_right_iff.mp hstack
        rw [Registry.closeRegion_cons_closes hclassify]
        subst hlabel
        simp only [item_eq hnumber.1, item_eq htop.1, pure_bind, htop.sameTags_iff hnumber]
        split
        · split
          · cases hbelow with
            | nil => exact agrees_pure rfl
            | cons hnext hbelow => exact agrees_reread (ih (.cons hnext hbelow) (index + 1)) line
          · exact agrees_throw _
        · exact agrees_throw _

end BenchKernel.Guarded
