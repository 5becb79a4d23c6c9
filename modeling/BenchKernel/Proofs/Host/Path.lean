import BenchKernel.Host.Path
import BenchKernel.Proofs.Text.Runs

/-! # The last name of a path

What is put behind a path is put behind its last name, and the names before it stay the same, as long as there is no
slash in it. This also holds of a path that is seen from a directory, whatever the directory and the path are: with
slashes at their ends, with dots, empty or absolute. -/

namespace BenchKernel.Path
open Text

/-- A text behind a path that belongs to its last name. -/
structure IsEnding (text : String) : Prop where
  ne_nil : text.toList ≠ []
  noSlash : ∀ c ∈ text.toList, (c != '/') = true

theorem exists_last_slash (cs : List Char) :
    ∃ before base, cs = before ++ base ∧ EndsOutside (· != '/') before ∧ ∀ c ∈ base, (c != '/') = true := by
  refine ⟨cs.rdropWhile (· != '/'), cs.rtakeWhile (· != '/'), List.rdropWhile_append_rtakeWhile.symm, ?_, ?_⟩
  · intro c hc
    have hne : cs.rdropWhile (· != '/') ≠ [] := by
      rintro hnil
      rw [hnil] at hc
      cases hc
    have hlast := List.rdropWhile_last_not (· != '/') cs hne
    rw [List.getLast?_eq_some_getLast hne] at hc
    cases hc
    exact Bool.not_eq_true _ ▸ hlast
  · intro c hc
    exact List.mem_rtakeWhile_imp (p := (· != '/')) hc

theorem isAbsolute_append (name : String) {text : String} (h : IsEnding text) :
    isAbsolute (name ++ text) = isAbsolute name := by
  unfold isAbsolute
  rw [String.toList_append]
  cases hname : name.toList with
  | nil =>
    obtain ⟨c, cs, htext⟩ := List.exists_cons_of_ne_nil h.ne_nil
    have hc := h.noSlash c (by simp [htext])
    simp [htext, bne_iff_ne.mp hc]
  | cons c cs => rfl

/-- Behind a joined path, too, a text belongs to what stands behind the last slash. -/
theorem exists_join_eq (dir name : String) :
    ∃ before base : List Char, EndsOutside (· != '/') before ∧ (∀ c ∈ base, (c != '/') = true) ∧
      ∀ {text : String}, IsEnding text → (join dir (name ++ text)).toList = before ++ (base ++ text.toList) := by
  obtain ⟨before, base, hname, hbefore, hbase⟩ := exists_last_slash name.toList
  by_cases habsolute : isAbsolute name = true
  · refine ⟨before, base, hbefore, hbase, fun {text} htext => ?_⟩
    rw [join, isAbsolute_append name htext, if_pos habsolute, String.toList_append, hname, List.append_assoc]
  · by_cases hdir : (dir.isEmpty || dir.toList.getLast? == some '/') = true
    · have hoff : EndsOutside (· != '/') dir.toList := by
        intro c hc
        rcases Bool.or_eq_true_iff.mp hdir with hempty | hlast
        · rw [String.isEmpty_iff.mp hempty] at hc
          cases hc
        · rw [eq_of_beq hlast] at hc
          cases hc
          rfl
      refine ⟨dir.toList ++ before, base, hoff.append hbefore, hbase, fun {text} htext => ?_⟩
      rw [join, isAbsolute_append name htext, if_neg habsolute, if_pos hdir, String.toList_append,
        String.toList_append, hname]
      simp
    · refine ⟨dir.toList ++ ['/'] ++ before, base, EndsOutside.append (endsOutside_concat.mpr rfl) hbefore, hbase,
        fun {text} htext => ?_⟩
      rw [join, isAbsolute_append name htext, if_neg habsolute, if_neg hdir, String.toList_append,
        String.toList_append, String.toList_append, hname]
      simp

/-- The names of a path before its last name do not depend on how the last name ends. -/
theorem exists_names_join (dir name : String) :
    ∃ above base, ∀ {text : String}, IsEnding text → names (join dir (name ++ text)) = above ++ [base ++ text] := by
  obtain ⟨before, base, hbefore, hbase, hjoin⟩ := exists_join_eq dir name
  refine ⟨(runs (· != '/') before).map String.ofList, String.ofList base, fun {text} htext => ?_⟩
  have hlast : runs (· != '/') (base ++ text.toList) = [base ++ text.toList] :=
    runs_of_forall (by simp [htext.ne_nil]) (List.forall_mem_append.mpr ⟨hbase, htext.noSlash⟩)
  rw [names, hjoin htext, runs_append_of_endsOutside hbefore, hlast, List.map_append, List.map_singleton,
    String.ofList_append, String.ofList_toList]

/-- The last name of a path is the name of its file, unless it is one of the two that stand for directories. -/
theorem fileName?_of_names {path name : String} {above : List String} (h : names path = above ++ [name])
    (hhere : name ≠ ".") (hup : name ≠ "..") : fileName? path = some name := by
  have hname : Component.ofName name = .name name := by simp [Component.ofName, hhere, hup]
  have hparts : (names path).map Component.ofName = above.map Component.ofName ++ [.name name] := by
    rw [h, List.map_append, List.map_singleton, hname]
  have hfilter : ∀ parts : List Component,
      (parts ++ [Component.name name]).filter (· != Component.here) =
        parts.filter (· != Component.here) ++ [Component.name name] := by
    intro parts
    rw [List.filter_append]
    rfl
  have hlast : (components path).getLast? = some (.name name) := by
    simp only [components, hparts]
    split
    · rw [hfilter, ← List.cons_append, List.getLast?_concat]
    · split
      · rename_i rest hrest
        cases habove : above.map Component.ofName with
        | nil => simp [habove] at hrest
        | cons part parts =>
          rw [habove, List.cons_append, List.cons.injEq] at hrest
          rw [← hrest.2, hfilter, ← List.cons_append, List.getLast?_concat]
      · rw [hfilter, List.getLast?_concat]
  rw [fileName?, hlast]

end BenchKernel.Path
