import BenchKernel.Grammar.Keyword
import Mathlib.Data.List.TakeWhile

/-! # Tags

A tag stands at the start of a marker line, with an opening parenthesis right after it. So a line has at most one
tag, a line that starts with some other character has none, and text added behind a line does not change its tag. -/

namespace BenchKernel

namespace Text

theorem after?_eq_some_iff {key cs rest : List Char} : after? key cs = some rest ↔ cs = key ++ rest := by
  induction key generalizing cs with
  | nil => simp [after?]
  | cons k ks ih =>
    cases cs with
    | nil => simp [after?]
    | cons c cs =>
      by_cases h : k = c
      · subst h
        simp [after?, ih]
      · simp [after?, h, Ne.symm h]

theorem startsWith_iff {key cs : List Char} : startsWith key cs = true ↔ ∃ rest, cs = key ++ rest := by
  simp [startsWith, Option.isSome_iff_exists, after?_eq_some_iff]

/-- Text behind a text does not complete a key, when it starts with a character that the key does not have. -/
theorem startsWith_append {key cs : List Char} {c : Char} (hc : c ∉ key) (more : List Char) :
    startsWith key (cs ++ c :: more) = startsWith key cs := by
  rw [Bool.eq_iff_iff, startsWith_iff, startsWith_iff]
  constructor
  · rintro ⟨rest, h⟩
    rcases List.append_eq_append_iff.mp h with ⟨tail, hkey, htail⟩ | ⟨tail, hcs, -⟩
    · cases tail with
      | nil => exact ⟨[], by simp [hkey]⟩
      | cons d tail =>
        cases htail
        exact absurd (by simp [hkey]) hc
    · exact ⟨tail, hcs⟩
  · rintro ⟨rest, rfl⟩
    exact ⟨rest ++ c :: more, by simp⟩

theorem trimStart_cons {c : Char} (hc : isBlank c = false) (cs : List Char) : trimStart (c :: cs) = c :: cs := by
  simp [trimStart, hc]

theorem trimStart_append {cs : List Char} (h : trimStart cs ≠ []) (more : List Char) :
    trimStart (cs ++ more) = trimStart cs ++ more := by
  induction cs with
  | nil => exact absurd rfl h
  | cons c cs ih =>
    cases hc : isBlank c
    · rw [List.cons_append, trimStart_cons hc, trimStart_cons hc, List.cons_append]
    · simp only [trimStart, List.cons_append, List.dropWhile_cons, hc, ↓reduceIte] at h ih ⊢
      exact ih h

theorem trimStart_eq_nil_iff {cs : List Char} : trimStart cs = [] ↔ ∀ c ∈ cs, isBlank c = true := by
  rw [trimStart, List.dropWhile_eq_nil_iff]

theorem trim_pad {left right : List Char} (hleft : ∀ c ∈ left, isBlank c = true) (hright : ∀ c ∈ right, isBlank c = true)
    (cs : List Char) : trim (left ++ cs ++ right) = trim cs := by
  have hstart : trimStart (left ++ cs ++ right) = trimStart (cs ++ right) := by
    rw [List.append_assoc, trimStart, List.dropWhile_append_of_pos hleft, trimStart]
  rw [trim, trim, hstart]
  by_cases h : trimStart cs = []
  · have hall : trimStart (cs ++ right) = [] :=
      trimStart_eq_nil_iff.mpr (List.forall_mem_append.mpr ⟨trimStart_eq_nil_iff.mp h, hright⟩)
    rw [h, hall]
  · rw [trimStart_append h, trimEnd, List.reverse_append, List.dropWhile_append_of_pos (by simpa using hright), trimEnd]

end Text

namespace Marker

theorem isTagged_iff {line tag : String} :
    isTagged line tag = true ↔ ∃ rest, Text.trimStart line.toList = tag.toList ++ '(' :: rest := by
  simp [isTagged, Text.startsWith_iff]

/-- A line has at most one tag, because tags have no parenthesis of their own. -/
theorem isTagged_unique {line s t : String} (hs : '(' ∉ s.toList) (ht : '(' ∉ t.toList)
    (h₁ : isTagged line s = true) (h₂ : isTagged line t = true) : s = t := by
  obtain ⟨rest, h₁⟩ := isTagged_iff.mp h₁
  obtain ⟨rest', h₂⟩ := isTagged_iff.mp h₂
  rw [h₁] at h₂
  apply String.toList_inj.mp
  rcases List.append_eq_append_iff.mp h₂ with ⟨tail, htail, hrest⟩ | ⟨tail, htail, hrest⟩
  · cases tail with
    | nil => simpa using htail.symm
    | cons d tail =>
      cases hrest
      exact absurd (by simp [htail]) ht
  · cases tail with
    | nil => simpa using htail
    | cons d tail =>
      cases hrest
      exact absurd (by simp [htail]) hs

/-- A line that starts with another character than a tag does not have this tag. -/
theorem isTagged_of_head {line tag : String} {c t : Char} (hline : line.toList.head? = some c)
    (htag : tag.toList.head? = some t) (hblank : Text.isBlank c = false) (hne : c ≠ t) :
    isTagged line tag = false := by
  obtain ⟨cs, hcs⟩ := List.head?_eq_some_iff.mp hline
  obtain ⟨ts, hts⟩ := List.head?_eq_some_iff.mp htag
  rw [Bool.eq_false_iff]
  intro h
  obtain ⟨rest, h⟩ := isTagged_iff.mp h
  rw [hcs, Text.trimStart_cons hblank, hts] at h
  exact hne (List.cons.inj h).1

theorem isTagged_append {line tag more : String} {c : Char} {cs : List Char} (hmore : more.toList = c :: cs)
    (hparen : c ≠ '(') (hblank : Text.isBlank c = false) (htag : c ∉ tag.toList) :
    isTagged (line ++ more) tag = isTagged line tag := by
  have hkey : c ∉ tag.toList ++ ['('] := by simp [htag, hparen]
  unfold isTagged
  rw [String.toList_append, hmore]
  by_cases h : Text.trimStart line.toList = []
  · have hall := Text.trimStart_eq_nil_iff.mp h
    have hskip : Text.trimStart (line.toList ++ c :: cs) = [] ++ c :: cs := by
      rw [Text.trimStart, List.dropWhile_append_of_pos hall]
      exact Text.trimStart_cons hblank cs
    rw [hskip, h, Text.startsWith_append hkey]
  · rw [Text.trimStart_append h, Text.startsWith_append hkey]

end Marker

end BenchKernel
