import BenchKernel.Proofs.Grammar.Tag
import BenchKernel.Proofs.Text.Runs

/-! # Replaced keys

Replacing a key goes from one occurrence to the next: what stands before the first one stays, the value takes its
place, and the rest is replaced in the same way. Where every occurrence stands apart from the characters of a class,
the runs of the new text are runs of the old one or of the value; no new run arises from parts of both. -/

namespace BenchKernel.Text

variable {keep : Char → Bool} {key value cs after w : List Char} {c : Char}

/-! ### Occurrences -/

theorem startsWith_iff_isPrefix : startsWith key cs = true ↔ key <+: cs := by
  rw [startsWith_iff]
  exact ⟨fun ⟨rest, h⟩ => ⟨rest, h.symm⟩, fun ⟨rest, h⟩ => ⟨rest, h.symm⟩⟩

theorem occurs_iff : occurs key cs = true ↔ key <:+: cs := by
  induction cs with
  | nil => simp [occurs]
  | cons c cs ih => rw [occurs, Bool.or_eq_true, startsWith_iff_isPrefix, ih, List.infix_cons_iff]

theorem occurs_eq_false_iff : occurs key cs = false ↔ ¬key <:+: cs := by
  rw [← occurs_iff, Bool.not_eq_true]

/-! ### One occurrence after the other -/

theorem replaceFrom_eq_drop (key value : List Char) (skip : Nat) (cs : List Char) :
    replaceFrom key value skip cs = replaceAll key value (cs.drop skip) := by
  induction cs generalizing skip with
  | nil => simp [replaceAll, replaceFrom]
  | cons c cs ih =>
    cases skip with
    | zero => rfl
    | succ skip => exact ih skip

theorem replaceAll_nil (key value : List Char) : replaceAll key value [] = [] := rfl

theorem replaceAll_key_append (hne : key ≠ []) (value after : List Char) :
    replaceAll key value (key ++ after) = value ++ replaceAll key value after := by
  obtain ⟨k, ks, rfl⟩ := List.exists_cons_of_ne_nil hne
  have hstart : startsWith (k :: ks) (k :: (ks ++ after)) = true := startsWith_iff.mpr ⟨after, rfl⟩
  rw [List.cons_append, replaceAll, replaceFrom, if_pos hstart, replaceFrom_eq_drop]
  simp

theorem replaceAll_cons (h : ¬key <+: c :: cs) (value : List Char) :
    replaceAll key value (c :: cs) = c :: replaceAll key value cs := by
  rw [replaceAll, replaceFrom, if_neg (mt startsWith_iff_isPrefix.mp h)]
  rfl

theorem replaceAll_of_absent (h : ¬key <:+: cs) (value : List Char) : replaceAll key value cs = cs := by
  induction cs with
  | nil => rfl
  | cons c cs ih =>
    rw [List.infix_cons_iff, not_or] at h
    rw [replaceAll_cons h.1, ih h.2]

/-- The first occurrence of a key, with what replacing does before it, at it and behind it. -/
theorem exists_first_occurrence (hne : key ≠ []) (h : key <:+: cs) :
    ∃ before after, cs = before ++ key ++ after ∧
      ∀ value, replaceAll key value cs = before ++ (value ++ replaceAll key value after) := by
  induction cs with
  | nil => exact absurd (List.infix_nil.mp h) hne
  | cons c cs ih =>
    by_cases hstart : key <+: c :: cs
    · obtain ⟨after, hafter⟩ := hstart
      refine ⟨[], after, hafter.symm, fun value => ?_⟩
      rw [← hafter, replaceAll_key_append hne, List.nil_append]
    · obtain ⟨before, after, rfl, hreplace⟩ := ih ((List.infix_cons_iff.mp h).resolve_left hstart)
      refine ⟨c :: before, after, rfl, fun value => ?_⟩
      rw [replaceAll_cons hstart, hreplace, List.cons_append]

theorem head?_replaceAll (h : ¬key <+: cs) (value : List Char) : (replaceAll key value cs).head? = cs.head? := by
  cases cs with
  | nil => rfl
  | cons c cs => rw [replaceAll_cons h, List.head?_cons, List.head?_cons]

/-! ### Runs -/

/-- Every occurrence of a key in a text has no kept character right before it or right after it, and no other
    occurrence right after it. -/
def Apart (keep : Char → Bool) (key cs : List Char) : Prop :=
  ∀ before after, cs = before ++ key ++ after →
    EndsOutside keep before ∧ StartsOutside keep after ∧ ¬key <+: after

theorem Apart.behind {before : List Char} (h : Apart keep key (before ++ key ++ after)) : Apart keep key after := by
  rintro before' after' rfl
  obtain ⟨hends, hstarts⟩ := h (before ++ key ++ before') after' (by simp)
  refine ⟨fun c hc => hends c ?_, hstarts⟩
  rw [List.getLast?_append, hc, Option.some_or]
  rfl

/-- If a key stands apart, a run of the text with the key replaced was there before or is one of the value. -/
theorem mem_runs_replaceAll (hne : key ≠ []) (hapart : Apart keep key cs)
    (hw : w ∈ runs keep (replaceAll key value cs)) : w ∈ runs keep cs ∨ w ∈ runs keep value := by
  -- The induction goes from one occurrence to the text behind it.
  induction hn : cs.length using Nat.strong_induction_on generalizing cs with
  | _ n ih =>
    by_cases hin : key <:+: cs
    · obtain ⟨before, after, rfl, hreplace⟩ := exists_first_occurrence hne hin
      obtain ⟨hbefore, hafter, hnext⟩ := hapart before after rfl
      have hrest : StartsOutside keep (replaceAll key value after) := by
        intro c hc
        rw [head?_replaceAll hnext] at hc
        exact hafter c hc
      rw [hreplace, runs_append_of_endsOutside hbefore, runs_append_of_startsOutside hrest, List.mem_append,
        List.mem_append] at hw
      rw [runs_append_of_startsOutside hafter, runs_append_of_endsOutside hbefore]
      have hshort : after.length < n := by
        have := List.length_pos_iff.mpr hne
        simp only [List.length_append] at hn
        omega
      rcases hw with hw | hw | hw
      · exact Or.inl (by simp [hw])
      · exact Or.inr hw
      · exact (ih _ hshort hapart.behind hw rfl).imp_left fun h => by simp [h]
    · rw [replaceAll_of_absent hin] at hw
      exact Or.inl hw

/-! ### Keys that are runs -/

/-- An occurrence of kept characters lies in a run, which is longer if kept characters stand beside it. -/
theorem exists_run_around (hne : key ≠ []) (hkey : ∀ c ∈ key, keep c = true) (before after : List Char) :
    ∃ left right, left ++ key ++ right ∈ runs keep (before ++ key ++ after) ∧ (left = [] → EndsOutside keep before) ∧
      (right = [] → StartsOutside keep after) := by
  have hbefore := List.rdropWhile_append_rtakeWhile (p := keep) (l := before)
  have hafter := List.takeWhile_append_dropWhile (p := keep) (l := after)
  have hends : EndsOutside keep (before.rdropWhile keep) := by
    intro c hc
    obtain ⟨hnil, rfl⟩ := List.mem_getLast?_eq_getLast hc
    simpa using List.rdropWhile_last_not keep before hnil
  have hstarts : StartsOutside keep (after.dropWhile keep) := by
    have hnot := List.head?_dropWhile_not keep after
    cases hdrop : after.dropWhile keep with
    | nil => exact startsOutside_nil
    | cons c rest =>
      rw [hdrop] at hnot
      exact startsOutside_cons.mpr hnot
  refine ⟨before.rtakeWhile keep, after.takeWhile keep, mem_runs_iff.mpr ⟨?_, ?_, ?_⟩, fun h => ?_, fun h => ?_⟩
  · simp [hne]
  · intro c hc
    simp only [List.mem_append] at hc
    rcases hc with (hc | hc) | hc
    · exact List.mem_rtakeWhile_imp hc
    · exact hkey c hc
    · exact List.mem_takeWhile_imp hc
  · refine ⟨before.rdropWhile keep, after.dropWhile keep, ?_, hends, hstarts⟩
    calc before ++ key ++ after
        = before.rdropWhile keep ++ before.rtakeWhile keep ++ key ++ (after.takeWhile keep ++ after.dropWhile keep) := by
          rw [hbefore, hafter]
      _ = _ := by simp only [List.append_assoc]
  · rw [h, List.append_nil] at hbefore
    rwa [hbefore] at hends
  · rw [h, List.nil_append] at hafter
    rwa [hafter] at hstarts

/-- A key of kept characters stands apart if it is all of every run in which it occurs. -/
theorem apart_iff (hne : key ≠ []) (hkey : ∀ c ∈ key, keep c = true) :
    Apart keep key cs ↔ ∀ w ∈ runs keep cs, key <:+: w → w = key := by
  constructor
  · rintro h w hw ⟨left, right, rfl⟩
    obtain ⟨-, hkept, before, after, rfl, -⟩ := mem_runs_iff.mp hw
    obtain ⟨hends, hstarts, -⟩ := h (before ++ left) (right ++ after) (by simp)
    have hleft : left = [] := by
      cases left using List.reverseRecOn with
      | nil => rfl
      | append_singleton left c =>
        rw [← List.append_assoc, endsOutside_concat, hkept c (by simp)] at hends
        cases hends
    have hright : right = [] := by
      cases right with
      | nil => rfl
      | cons c right =>
        rw [List.cons_append, startsOutside_cons, hkept c (by simp)] at hstarts
        cases hstarts
    rw [hleft, hright, List.nil_append, List.append_nil]
  · rintro h before after rfl
    obtain ⟨left, right, hrun, hends, hstarts⟩ := exists_run_around hne hkey before after
    have hlength := congrArg List.length (h _ hrun ⟨left, right, rfl⟩)
    simp only [List.length_append] at hlength
    have hafter := hstarts (List.length_eq_zero_iff.mp (by omega))
    refine ⟨hends (List.length_eq_zero_iff.mp (by omega)), hafter, ?_⟩
    rintro ⟨rest, rfl⟩
    obtain ⟨k, ks, rfl⟩ := List.exists_cons_of_ne_nil hne
    have hk := hafter k rfl
    simp [hkey k] at hk

end BenchKernel.Text
