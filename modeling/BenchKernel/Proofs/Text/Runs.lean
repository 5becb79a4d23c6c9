import BenchKernel.Text.Pieces
import Mathlib.Data.List.DropRight

/-! # Runs

A run is a longest stretch of characters of one class in a text. What stands in a text with no character of the class
right before it and right after it has its runs in common with the text, so a run survives wherever a text is cut or
put together outside runs: at trimmed blanks, at separators, behind a comment mark. The identifiers of a line are its
runs of word characters. -/

namespace BenchKernel.Text

variable {keep : Char → Bool} {a b cs part w : List Char} {c : Char}

/-! ### Pieces and what stands between them -/

/-- A text made of pieces, with a separator between each two of them. -/
inductive Joined (sep : Char → Prop) : List (List Char) → List Char → Prop
  | single (piece : List Char) : Joined sep [piece] piece
  | cons (piece : List Char) {c : Char} {rest : List (List Char)} {cs : List Char} (hc : sep c)
      (h : Joined sep rest cs) : Joined sep (piece :: rest) (piece ++ c :: cs)

theorem Joined.prepend {sep : Char → Prop} {piece : List Char} {rest : List (List Char)}
    (h : Joined sep (piece :: rest) cs) (c : Char) : Joined sep ((c :: piece) :: rest) (c :: cs) := by
  cases h with
  | single => exact .single _
  | cons _ hc h => exact .cons (c :: piece) hc h

theorem pieces_ne_nil (keep : Char → Bool) (cs : List Char) : pieces keep cs ≠ [] := by
  cases cs with
  | nil => simp [pieces]
  | cons c cs =>
    rw [pieces]
    split
    · simp
    · split <;> simp

theorem joined_pieces (keep : Char → Bool) (cs : List Char) :
    Joined (fun c => keep c = false) (pieces keep cs) cs := by
  induction cs with
  | nil => exact .single []
  | cons c cs ih =>
    obtain ⟨piece, rest, hpieces⟩ := List.exists_cons_of_ne_nil (pieces_ne_nil keep cs)
    rw [hpieces] at ih
    cases hc : keep c
    · simpa [pieces, hpieces, hc] using Joined.cons [] hc ih
    · simpa [pieces, hpieces, hc] using ih.prepend c

theorem keep_of_mem_pieces (h : part ∈ pieces keep cs) : ∀ c ∈ part, keep c = true := by
  induction cs generalizing part with
  | nil =>
    obtain rfl : part = [] := by simpa [pieces] using h
    simp
  | cons c cs ih =>
    obtain ⟨piece, rest, hpieces⟩ := List.exists_cons_of_ne_nil (pieces_ne_nil keep cs)
    rw [hpieces] at ih
    cases hc : keep c
    · rcases (by simpa [pieces, hpieces, hc] using h : part = [] ∨ part = piece ∨ part ∈ rest) with rfl | h
      · simp
      · exact ih (List.mem_cons.mpr h)
    · rcases (by simpa [pieces, hpieces, hc] using h : part = c :: piece ∨ part ∈ rest) with rfl | h
      · exact List.forall_mem_cons.mpr ⟨hc, ih List.mem_cons_self⟩
      · exact ih (List.mem_cons_of_mem _ h)

theorem pieces_append_cons (hc : keep c = false) (a b : List Char) :
    pieces keep (a ++ c :: b) = pieces keep a ++ pieces keep b := by
  induction a with
  | nil =>
    obtain ⟨piece, rest, hpieces⟩ := List.exists_cons_of_ne_nil (pieces_ne_nil keep b)
    simp [pieces, hpieces, hc]
  | cons x a ih =>
    obtain ⟨piece, rest, hpieces⟩ := List.exists_cons_of_ne_nil (pieces_ne_nil keep a)
    cases hx : keep x <;> simp [pieces, ih, hpieces, hx]

theorem pieces_of_forall (h : ∀ c ∈ w, keep c = true) : pieces keep w = [w] := by
  induction w with
  | nil => rfl
  | cons c w ih =>
    rw [List.forall_mem_cons] at h
    simp [pieces, ih h.2, h.1]

/-! ### Runs of texts put together -/

/-- No run reaches the end of a text. -/
def EndsOutside (keep : Char → Bool) (cs : List Char) : Prop := ∀ c ∈ cs.getLast?, keep c = false

/-- No run begins at the start of a text. -/
def StartsOutside (keep : Char → Bool) (cs : List Char) : Prop := ∀ c ∈ cs.head?, keep c = false

theorem endsOutside_nil : EndsOutside keep [] := by simp [EndsOutside]

theorem startsOutside_nil : StartsOutside keep [] := by simp [StartsOutside]

theorem endsOutside_concat : EndsOutside keep (a ++ [c]) ↔ keep c = false := by simp [EndsOutside]

theorem startsOutside_cons : StartsOutside keep (c :: cs) ↔ keep c = false := by simp [StartsOutside]

theorem endsOutside_of_forall (h : ∀ c ∈ cs, keep c = false) : EndsOutside keep cs :=
  fun c hc => h c (List.mem_of_getLast? hc)

theorem startsOutside_of_forall (h : ∀ c ∈ cs, keep c = false) : StartsOutside keep cs :=
  fun c hc => h c (List.mem_of_head? hc)

theorem EndsOutside.append (ha : EndsOutside keep a) (hb : EndsOutside keep b) : EndsOutside keep (a ++ b) := by
  cases b using List.reverseRecOn with
  | nil => simpa using ha
  | append_singleton b c =>
    rw [← List.append_assoc, endsOutside_concat]
    exact endsOutside_concat.mp hb

theorem StartsOutside.append (ha : StartsOutside keep a) (hb : StartsOutside keep b) : StartsOutside keep (a ++ b) := by
  cases a with
  | nil => exact hb
  | cons c a => exact startsOutside_cons.mpr (startsOutside_cons.mp ha)

theorem runs_nil : runs keep [] = [] := by simp [runs, pieces]

theorem runs_append_cons (hc : keep c = false) (a b : List Char) :
    runs keep (a ++ c :: b) = runs keep a ++ runs keep b := by
  rw [runs, pieces_append_cons hc, List.filter_append, runs, runs]

theorem runs_append_of_endsOutside (h : EndsOutside keep a) (b : List Char) :
    runs keep (a ++ b) = runs keep a ++ runs keep b := by
  cases a using List.reverseRecOn with
  | nil => simp [runs_nil]
  | append_singleton a c =>
    have hc := endsOutside_concat.mp h
    rw [List.append_assoc, List.singleton_append, runs_append_cons hc, runs_append_cons hc, runs_nil, List.append_nil]

theorem runs_append_of_startsOutside (h : StartsOutside keep b) (a : List Char) :
    runs keep (a ++ b) = runs keep a ++ runs keep b := by
  cases b with
  | nil => simp [runs_nil]
  | cons c b =>
    have hc := startsOutside_cons.mp h
    have hb : runs keep (c :: b) = runs keep b := by
      rw [← List.nil_append (c :: b), runs_append_cons hc, runs_nil, List.nil_append]
    rw [runs_append_cons hc, hb]

theorem runs_of_forall (hne : w ≠ []) (h : ∀ c ∈ w, keep c = true) : runs keep w = [w] := by
  simp [runs, pieces_of_forall h, hne]

theorem runs_eq_nil (h : ∀ c ∈ cs, keep c = false) : runs keep cs = [] := by
  induction cs with
  | nil => exact runs_nil
  | cons c cs ih =>
    rw [List.forall_mem_cons] at h
    rw [← List.nil_append (c :: cs), runs_append_cons h.1, runs_nil, ih h.2, List.nil_append]

/-! ### Runs by their surroundings -/

/-- A part of a text that no run enters or leaves. -/
def Delimited (keep : Char → Bool) (part cs : List Char) : Prop :=
  ∃ before after, cs = before ++ part ++ after ∧ EndsOutside keep before ∧ StartsOutside keep after

/-- A longest non-empty stretch of kept characters. -/
def IsRun (keep : Char → Bool) (w cs : List Char) : Prop :=
  w ≠ [] ∧ (∀ c ∈ w, keep c = true) ∧ Delimited keep w cs

theorem Delimited.trans (h₁ : Delimited keep a b) (h₂ : Delimited keep b cs) : Delimited keep a cs := by
  obtain ⟨before₁, after₁, rfl, hb₁, ha₁⟩ := h₁
  obtain ⟨before₂, after₂, rfl, hb₂, ha₂⟩ := h₂
  exact ⟨before₂ ++ before₁, after₁ ++ after₂, by simp, hb₂.append hb₁, ha₁.append ha₂⟩

theorem IsRun.of_delimited (h : IsRun keep w part) (hpart : Delimited keep part cs) : IsRun keep w cs :=
  ⟨h.1, h.2.1, h.2.2.trans hpart⟩

theorem Joined.delimited {sep : Char → Prop} {ps : List (List Char)} (h : Joined sep ps cs)
    (hsep : ∀ c, sep c → keep c = false) (hpart : part ∈ ps) : Delimited keep part cs := by
  induction h with
  | single piece =>
    obtain rfl := List.mem_singleton.mp hpart
    exact ⟨[], [], by simp, endsOutside_nil, startsOutside_nil⟩
  | @cons piece c rest cs hc _ ih =>
    rcases List.mem_cons.mp hpart with rfl | hpart
    · exact ⟨[], c :: cs, by simp, endsOutside_nil, startsOutside_cons.mpr (hsep c hc)⟩
    · refine (ih hpart).trans ⟨piece ++ [c], [], by simp, ?_, startsOutside_nil⟩
      exact endsOutside_concat.mpr (hsep c hc)

/-- The runs that are read from a text are the stretches of kept characters that nothing kept stands next to. -/
theorem mem_runs_iff : w ∈ runs keep cs ↔ IsRun keep w cs := by
  constructor
  · intro h
    obtain ⟨hpiece, hne⟩ := List.mem_filter.mp h
    exact ⟨by simpa using hne, keep_of_mem_pieces hpiece, (joined_pieces keep cs).delimited (fun _ hc => hc) hpiece⟩
  · rintro ⟨hne, hkeep, before, after, rfl, hbefore, hafter⟩
    rw [runs_append_of_startsOutside hafter, runs_append_of_endsOutside hbefore, runs_of_forall hne hkeep]
    simp

/-! ### Trimming -/

theorem exists_trim (cs : List Char) :
    ∃ before after, cs = before ++ trim cs ++ after ∧ (∀ c ∈ before, isBlank c = true) ∧
      ∀ c ∈ after, isBlank c = true := by
  refine ⟨cs.takeWhile isBlank, (trimStart cs).rtakeWhile isBlank, ?_, fun c hc => List.mem_takeWhile_imp hc,
    fun c hc => List.mem_rtakeWhile_imp hc⟩
  calc cs = cs.takeWhile isBlank ++ trimStart cs := List.takeWhile_append_dropWhile.symm
    _ = cs.takeWhile isBlank ++ ((trimStart cs).rdropWhile isBlank ++ (trimStart cs).rtakeWhile isBlank) := by
        rw [List.rdropWhile_append_rtakeWhile]
    _ = cs.takeWhile isBlank ++ trim cs ++ (trimStart cs).rtakeWhile isBlank := (List.append_assoc _ _ _).symm

theorem trim_eq_self (h : ∀ c ∈ cs, isBlank c = false) : trim cs = cs := by
  have hdrop : ∀ l : List Char, (∀ c ∈ l, isBlank c = false) → l.dropWhile isBlank = l := by
    intro l hl
    cases l with
    | nil => rfl
    | cons c l => simp [hl c List.mem_cons_self]
  have hrev : ∀ c ∈ cs.reverse, isBlank c = false := fun c hc => h c (List.mem_reverse.mp hc)
  rw [trim, trimStart, hdrop _ h, trimEnd, hdrop _ hrev, List.reverse_reverse]

section Blank
variable (hblank : ∀ c, isBlank c = true → keep c = false)
include hblank

theorem delimited_trim (cs : List Char) : Delimited keep (trim cs) cs := by
  obtain ⟨before, after, hcs, hbefore, hafter⟩ := exists_trim cs
  exact ⟨before, after, hcs, endsOutside_of_forall fun c hc => hblank c (hbefore c hc),
    startsOutside_of_forall fun c hc => hblank c (hafter c hc)⟩

theorem runs_trim (cs : List Char) : runs keep (trim cs) = runs keep cs := by
  obtain ⟨before, after, hcs, hbefore, hafter⟩ := exists_trim cs
  have hb : ∀ c ∈ before, keep c = false := fun c hc => hblank c (hbefore c hc)
  have ha : ∀ c ∈ after, keep c = false := fun c hc => hblank c (hafter c hc)
  calc runs keep (trim cs)
      = runs keep before ++ runs keep (trim cs) ++ runs keep after := by simp [runs_eq_nil hb, runs_eq_nil ha]
    _ = runs keep (before ++ trim cs ++ after) := by
        rw [runs_append_of_startsOutside (startsOutside_of_forall ha),
          runs_append_of_endsOutside (endsOutside_of_forall hb)]
    _ = runs keep cs := by rw [← hcs]

end Blank

/-! ### Identifiers -/

/-- A line has a word as an identifier, in any ASCII case. -/
def Names (line word : String) : Prop :=
  ∃ run, IsRun isWordChar run line.toList ∧ lowered (String.ofList run) = lowered word

theorem names_iff {line word : String} : Names line word ↔ lowered word ∈ identifiers line := by
  simp only [Names, identifiers, List.mem_map, mem_runs_iff]

theorem toNat_of_isUpper (h : c.isUpper = true) : 65 ≤ c.toNat ∧ c.toNat ≤ 90 := by
  have hval : c.val ≥ 'A'.val ∧ c.val ≤ 'Z'.val := of_decide_eq_true h
  simpa [UInt32.le_iff_toNat_le] using hval

theorem toNat_of_isLower (h : c.isLower = true) : 97 ≤ c.toNat ∧ c.toNat ≤ 122 := by
  have hval : (decide (c.val ≥ 'a'.val) && decide (c.val ≤ 'z'.val)) = true := h
  simpa [UInt32.le_iff_toNat_le] using hval

theorem isWordChar_iff :
    isWordChar c = true ↔ c.isUpper = true ∨ c.isLower = true ∨ c.isDigit = true ∨ c = '_' := by
  have hword : isWordChar c = (((c.isUpper || c.isLower) || c.isDigit) || c == '_') := rfl
  rw [hword, Bool.or_eq_true, Bool.or_eq_true, Bool.or_eq_true, beq_iff_eq, or_assoc, or_assoc]

theorem isWordChar_of_isBlank (h : isBlank c = true) : isWordChar c = false := by
  rw [Bool.eq_false_iff]
  intro hword
  simp only [isBlank, inRanges, blankRanges, List.any_cons, List.any_nil, Bool.or_false, Bool.or_eq_true,
    Bool.and_eq_true, decide_eq_true_eq] at h
  rcases isWordChar_iff.mp hword with hupper | hlower | hdigit | rfl
  · have hrange := toNat_of_isUpper hupper
    omega
  · have hrange := toNat_of_isLower hlower
    omega
  · have hrange : 48 ≤ c.toNat ∧ c.toNat ≤ 57 := Char.isDigit_iff_toNat.mp hdigit
    omega
  · revert h
    decide

theorem names_trimmed {line word : String} : Names (trimmed line) word ↔ Names line word := by
  rw [names_iff, names_iff, identifiers, identifiers, trimmed, String.toList_ofList,
    runs_trim fun _ => isWordChar_of_isBlank]

theorem Names.of_delimited {line part word : String} (h : Names part word)
    (hpart : Delimited isWordChar part.toList line.toList) : Names line word := by
  obtain ⟨run, hrun, hword⟩ := h
  exact ⟨run, hrun.of_delimited hpart, hword⟩

/-! ### Lines -/

theorem names_of_mem_newlinePieces {text line word : String} (hline : line ∈ newlinePieces text)
    (h : Names line word) : Names text word := by
  obtain ⟨piece, hpiece, rfl⟩ := List.mem_map.mp hline
  refine h.of_delimited ?_
  rw [String.toList_ofList]
  refine (joined_pieces _ _).delimited (fun c hc => ?_) hpiece
  obtain rfl : c = '\n' := by simpa using hc
  rfl

theorem not_mem_of_mem_splitAt {sep : Char} {cs piece : List Char} (h : piece ∈ splitAt sep cs) : sep ∉ piece :=
  fun hmem => absurd (keep_of_mem_pieces h sep hmem) (by simp)

theorem splitAt_intercalate {sep : Char} {ps : List (List Char)} (hne : ps ≠ []) (h : ∀ p ∈ ps, sep ∉ p) :
    splitAt sep ([sep].intercalate ps) = ps := by
  induction ps with
  | nil => exact absurd rfl hne
  | cons p ps ih =>
    rw [List.forall_mem_cons] at h
    have hp : ∀ c ∈ p, (c != sep) = true := fun c hc => by
      rw [bne_iff_ne]
      rintro rfl
      exact h.1 hc
    cases ps with
    | nil => simpa [splitAt] using pieces_of_forall hp
    | cons q ps =>
      rw [List.intercalate_cons_cons, List.append_assoc, List.singleton_append, splitAt,
        pieces_append_cons (by simp), pieces_of_forall hp]
      exact congrArg (p :: ·) (ih (by simp) h.2)

theorem Joined.intercalate {sep : Char} {ps : List (List Char)} (h : Joined (fun c => (c != sep) = false) ps cs) :
    [sep].intercalate ps = cs := by
  induction h with
  | single piece => simp
  | @cons piece c rest cs hc h ih =>
    obtain rfl : c = sep := by simpa using hc
    obtain ⟨next, rest, rfl⟩ : ∃ next tail, rest = next :: tail := by cases h <;> simp
    rw [List.intercalate_cons_cons, ih, List.append_assoc, List.singleton_append]

theorem intercalate_splitAt (sep : Char) (cs : List Char) : [sep].intercalate (splitAt sep cs) = cs :=
  (joined_pieces _ cs).intercalate

theorem mem_joinLines {c : Char} {lines : List String} (h : c ∈ (joinLines lines).toList) :
    c = '\n' ∨ ∃ line ∈ lines, c ∈ line.toList := by
  rw [joinLines, String.toList_intercalate] at h
  induction lines with
  | nil => simp at h
  | cons line lines ih =>
    cases lines with
    | nil => exact Or.inr ⟨line, List.mem_cons_self, by simpa using h⟩
    | cons next lines =>
      rw [List.map_cons, List.map_cons, List.intercalate_cons_cons, List.mem_append, List.mem_append] at h
      rcases h with (h | h) | h
      · exact Or.inr ⟨line, List.mem_cons_self, h⟩
      · exact Or.inl (by simpa using h)
      · rcases ih h with hc | ⟨other, hother, hc⟩
        · exact Or.inl hc
        · exact Or.inr ⟨other, List.mem_cons_of_mem _ hother, hc⟩

theorem splitAt_joinLines {lines : List String} (hne : lines ≠ []) (h : ∀ line ∈ lines, '\n' ∉ line.toList) :
    splitAt '\n' (joinLines lines).toList = lines.map String.toList := by
  rw [joinLines, String.toList_intercalate]
  exact splitAt_intercalate (by simpa using hne) (by simpa using h)

theorem newlinePieces_joinLines {lines : List String} (hne : lines ≠ []) (h : ∀ line ∈ lines, '\n' ∉ line.toList) :
    newlinePieces (joinLines lines) = lines := by
  rw [newlinePieces, splitAt_joinLines hne h, List.map_map]
  exact List.map_id'' (fun line => String.ofList_toList) lines

end BenchKernel.Text
