import BenchKernel.Proofs.Grammar.Structure
import Mathlib.Data.List.Nodup
import Mathlib.Data.List.Pairwise

/-! # The order of a registry

A line is compared with the keywords of a registry one after the other, and the first one that has a tag on it decides.
If all tags are distinct and have no parenthesis, at most one keyword has a tag on a line, and their order does not
matter. Expansion knows the registry only by what it takes the lines for, so it does not depend on the order either,
neither in its result nor in its error. -/

namespace BenchKernel.Registry

variable {r r' : Registry} {ctx : Context}

/-! ### What expansion knows of a registry -/

theorem isMarker_congr (h : r.classify = r'.classify) (line : String) : r.isMarker line = r'.isMarker line := by
  have hnone : r.isMarker line = false ↔ r'.isMarker line = false := by
    rw [← classify_eq_none_iff, ← classify_eq_none_iff, h]
  cases hr : r.isMarker line
  · exact (hnone.mp hr).symm
  · cases hr' : r'.isMarker line
    · rw [hnone.mpr hr'] at hr
      cases hr
    · rfl

theorem firstOpening_congr (h : r.classify = r'.classify) (lines : List String) :
    r.firstOpening lines = r'.firstOpening lines := by
  induction lines with
  | nil => rfl
  | cons line rest ih => rw [firstOpening, firstOpening, h, ih]

theorem closeRegion_congr (h : r.classify = r'.classify) (top : Opening) (below : List Opening) (lines : List String) :
    r.closeRegion top below lines = r'.closeRegion top below lines := by
  induction lines generalizing top below with
  | nil => rw [closeRegion, closeRegion]
  | cons line rest ih =>
    rcases hc : r.classify line with e | _ | opening | closing
    · have hc' : r'.classify line = .error e := by rw [← h, hc]
      rw [closeRegion.eq_def r, closeRegion.eq_def r']
      simp only [hc, hc']
      rfl
    · rw [closeRegion_cons_plain hc, closeRegion_cons_plain (by rw [← h, hc]), ih]
    · rw [closeRegion_cons_opens hc, closeRegion_cons_opens (by rw [← h, hc]), ih]
    · rw [closeRegion_cons_closes hc, closeRegion_cons_closes (by rw [← h, hc])]
      cases below with
      | nil => rfl
      | cons next below => simp only [ih]

theorem onePass_congr (h : r.classify = r'.classify) (deeper : Option (List String → Rendered)) :
    r.onePass ctx deeper = r'.onePass ctx deeper := by
  funext lines
  simp only [onePass, firstOpening_congr h, closeRegion_congr h]

theorem settle_congr (h : r.classify = r'.classify)
    (pass : List String → Except (Stop GrammarError) (Option (List String))) (lines : List String) :
    settle r pass lines = settle r' pass lines := by
  have hmarker : r.isMarker = r'.isMarker := funext (isMarker_congr h)
  have hcount : r.markerCount = r'.markerCount := by
    funext lines
    rw [markerCount, markerCount, hmarker]
  induction lines using settle.induct r pass with
  | case1 lines e hpass => rw [settle, settle, hpass]
  | case2 lines hpass => rw [settle, settle, hpass]
  | case3 lines next hpass hless ih =>
    rw [settle.eq_def r, settle.eq_def r', hpass]
    simp only [← hcount, hless, ↓reduceIte]
    exact ih
  | case4 lines next hpass hless =>
    rw [settle.eq_def r, settle.eq_def r', hpass]
    simp only [← hcount, hless, ↓reduceIte, hmarker]

/-- Registries that take every line for the same expand all lines to the same. -/
theorem expandWithin_congr (h : r.classify = r'.classify) (levels : Nat) :
    expandWithin r ctx levels = expandWithin r' ctx levels := by
  induction levels with
  | zero =>
    funext lines
    rw [expandWithin, expandWithin, onePass_congr h]
    exact settle_congr h _ lines
  | succ levels ih =>
    funext lines
    rw [expandWithin, expandWithin, onePass_congr h, ih]
    exact settle_congr h _ lines

/-! ### Distinct tags -/

/-- The tags of a registry, of every keyword the opening and the closing one. -/
def tags (r : Registry) : List String := r.flatMap fun k => [k.openTag, k.closeTag]

/-- The tags of a registry tell its keywords apart: no tag occurs twice, and none has a parenthesis, so that a line
    shows where its tag ends. -/
structure Distinct (r : Registry) : Prop where
  nodup : r.tags.Nodup
  plain : ∀ tag ∈ r.tags, '(' ∉ tag.toList

theorem exists_tag_of_marks {k : Keyword} {line : String} (h : k.marks line = true) :
    ∃ tag ∈ [k.openTag, k.closeTag], Marker.isTagged line tag = true := by
  rcases Bool.or_eq_true_iff.mp h with h | h
  · exact ⟨k.openTag, by simp, h⟩
  · exact ⟨k.closeTag, by simp, h⟩

theorem Distinct.unique (h : r.Distinct) {k l : Keyword} (hk : k ∈ r) (hl : l ∈ r) {line : String}
    (hmarks : k.marks line = true) (hmarks' : l.marks line = true) : k = l := by
  obtain ⟨s, hs, htagged⟩ := exists_tag_of_marks hmarks
  obtain ⟨t, ht, htagged'⟩ := exists_tag_of_marks hmarks'
  have hplain : ∀ {k : Keyword} {tag : String}, k ∈ r → tag ∈ [k.openTag, k.closeTag] → '(' ∉ tag.toList :=
    fun hk htag => h.plain _ (List.mem_flatMap.mpr ⟨_, hk, htag⟩)
  obtain rfl : s = t := Marker.isTagged_unique (hplain hk hs) (hplain hl ht) htagged htagged'
  by_contra hne
  have hdisjoint := (List.nodup_flatMap.mp h.nodup).2
  have : Std.Symm (Function.onFun List.Disjoint fun k : Keyword => [k.openTag, k.closeTag]) :=
    ⟨fun _ _ hd tag hs ht => hd ht hs⟩
  exact hdisjoint.forall hk hl hne hs ht

theorem Distinct.perm (h : r.Distinct) (hperm : r.Perm r') : r'.Distinct := by
  have htags : r.tags.Perm r'.tags := hperm.flatMap_right _
  exact ⟨htags.nodup_iff.mp h.nodup, fun tag htag => h.plain tag (htags.mem_iff.mpr htag)⟩

theorem Distinct.find?_eq_some_iff (h : r.Distinct) {k : Keyword} {line : String} :
    (r.find? fun k => k.marks line) = some k ↔ k ∈ r ∧ k.marks line = true := by
  constructor
  · intro hfind
    have hmarks := List.find?_some hfind
    exact ⟨List.mem_of_find?_eq_some hfind, hmarks⟩
  · rintro ⟨hk, hmarks⟩
    cases hfind : r.find? fun k => k.marks line with
    | none => exact absurd hmarks (List.find?_eq_none.mp hfind k hk)
    | some l =>
      have hmarks' := List.find?_some hfind
      rw [h.unique hk (List.mem_of_find?_eq_some hfind) hmarks hmarks']

theorem Distinct.classify_perm (h : r.Distinct) (hperm : r.Perm r') : r.classify = r'.classify := by
  funext line
  have hfind : (r.find? fun k => k.marks line) = r'.find? fun k => k.marks line := by
    apply Option.ext
    intro k
    rw [h.find?_eq_some_iff, (h.perm hperm).find?_eq_some_iff, hperm.mem_iff]
  rw [classify, classify, hfind]

/-- If all tags of a registry are distinct and without a parenthesis, its keywords may stand in any order: every list of
    lines has the same expansion, or the same error or fault, and has a marker or not alike. -/
theorem expand_of_perm (r r' : Registry) (hdistinct : r.Distinct) (hperm : r.Perm r') (ctx : Context)
    (lines : List String) :
    expand r ctx lines = expand r' ctx lines ∧ r.anyMarker lines = r'.anyMarker lines := by
  have hclassify := hdistinct.classify_perm hperm
  constructor
  · rw [expand, expand, expandWithin_congr hclassify]
  · rw [anyMarker, anyMarker, funext (isMarker_congr hclassify)]

theorem distinct_builtin : Distinct Keyword.builtin := ⟨by decide, by decide⟩

/-- A loop in a block. -/
def loopInBlock : Forest :=
  .region (.block "b") "BLOCK(b)" "BLOCKEND(b)"
    (.region (.loop ⟨"l", "rcx", "0", "rdx", "N", .less, "1"⟩) "LOOP(l, rcx=0, <, rdx=N, 1)" "LOOPEND(l)"
      (.plain "nop" .nil) .nil) .nil

theorem expand_loopInBlock (template : Template) :
    expand Keyword.builtin { arch := .x8664, template } loopInBlock.lines =
      .ok ["# BLOCK(b)", "# LOOP(l, rcx=0, <, rdx=N, 1)", "xor rcx, rcx", "mov rdx, N", ".align 16", "l:", "nop",
        "add rcx, 1", "cmp rcx, rdx", "jl l", "# LOOPEND(l)", "# BLOCKEND(b)"] := by
  have hmarked : loopInBlock.Marked .x8664 := by
    refine ⟨⟨⟨rfl, rfl⟩, ⟨rfl, rfl⟩, List.cons_ne_nil _ _, fun l hl => by cases hl⟩,
      ⟨⟨⟨rfl, "rcx=0", "<", "rdx=N", rfl, rfl, rfl, rfl, rfl⟩, ⟨rfl, rfl⟩, trivial, ?_⟩, ⟨by decide, trivial⟩, trivial⟩,
      trivial⟩
    rintro l h
    cases h
    decide
  have hnested : loopInBlock.Nested [] := ⟨by decide, ⟨by decide, trivial, trivial⟩, trivial⟩
  have hreadable : loopInBlock.Readable .x8664 := ⟨trivial, ⟨fun h => (by cases h), trivial, trivial⟩, trivial⟩
  exact Forest.expand_lines ⟨hmarked, hnested, by decide⟩ hreadable

/-- With the built-in keywords in the other order, a loop in a block is expanded as before, and a loop that is closed
    as a block is the same error as before. -/
theorem builtin_reversed :
    let ctx : Context := { arch := .x8664, template := {} }
    let crossed := ["LOOP(l, rcx=0, <, rdx=N, 1)", "BLOCKEND(l)"]
    expand [.block, .loop] ctx loopInBlock.lines =
      .ok ["# BLOCK(b)", "# LOOP(l, rcx=0, <, rdx=N, 1)", "xor rcx, rcx", "mov rdx, N", ".align 16", "l:", "nop",
        "add rcx, 1", "cmp rcx, rdx", "jl l", "# LOOPEND(l)", "# BLOCKEND(b)"] ∧
      expand [.block, .loop] ctx crossed = .error (.error (.keywordMismatch "l" "LOOP" "BLOCKEND")) := by
  intro ctx crossed
  have hperm : Keyword.builtin.Perm [.block, .loop] := .swap _ _ _
  constructor
  · rw [← (expand_of_perm _ _ distinct_builtin hperm ctx loopInBlock.lines).1]
    exact expand_loopInBlock {}
  · rw [← (expand_of_perm _ _ distinct_builtin hperm ctx crossed).1]
    show expandAt Keyword.builtin ctx 0 crossed = _
    rw [expandAt_eq_settle (Nat.zero_le _), settle]
    rfl

end BenchKernel.Registry
