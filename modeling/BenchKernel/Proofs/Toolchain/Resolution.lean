import BenchKernel.Toolchain.Discovery
import Mathlib.Data.List.Induction

/-! # Which compiler is taken

The names to try are collected one by one, and a name that is there already is left out. So a lookup goes over the
preferred names and the usual ones in their order, each name at its first place. A name that comes again could only
give what it gave before, which is why leaving it out never changes the compiler that is taken. -/

namespace BenchKernel

/-! ### Lists without repetitions -/

section Repetitions
variable {names more : List String}

/-- The names at the places before which they do not occur. -/
def firstOccurrences (names : List String) : List String :=
  (names.zipIdx.filter fun entry => entry.1 ∉ names.take entry.2).map Prod.fst

/-- One more name is added unless it is there already. -/
theorem eraseDups_concat (names : List String) (name : String) :
    (names ++ [name]).eraseDups = names.eraseDups ++ if name ∈ names then [] else [name] := by
  rw [List.eraseDups_append]
  by_cases h : name ∈ names <;> simp [h, List.removeAll, List.eraseDups_cons]

theorem firstOccurrences_concat (names : List String) (name : String) :
    firstOccurrences (names ++ [name]) = firstOccurrences names ++ if name ∈ names then [] else [name] := by
  -- A place before the new name has the same names before it as without it.
  have hbefore : (names.zipIdx.filter fun entry => entry.1 ∉ (names ++ [name]).take entry.2) =
      names.zipIdx.filter fun entry => entry.1 ∉ names.take entry.2 := by
    refine List.filter_congr fun entry hmem => ?_
    have hlt : entry.2 < names.length := by simpa using List.snd_lt_of_mem_zipIdx hmem
    rw [List.take_append_of_le_length (Nat.le_of_lt hlt)]
  rw [firstOccurrences, List.zipIdx_append, List.filter_append, hbefore, List.map_append, firstOccurrences]
  by_cases h : name ∈ names <;> simp [h]

theorem eraseDups_eq_firstOccurrences (names : List String) : names.eraseDups = firstOccurrences names := by
  induction names using List.reverseRecOn with
  | nil => rfl
  | append_singleton names name ih => rw [eraseDups_concat, firstOccurrences_concat, ih]

theorem eraseDups_eraseDups (names : List String) : names.eraseDups.eraseDups = names.eraseDups := by
  induction names using List.reverseRecOn with
  | nil => rfl
  | append_singleton names name ih =>
    rw [eraseDups_concat]
    split
    · rw [List.append_nil, ih]
    · rename_i hnew
      rw [eraseDups_concat, ih, if_neg (mt List.mem_eraseDups.mp hnew)]

theorem eraseDups_repeated (h : more ⊆ names) (rest : List String) :
    (names ++ more ++ rest).eraseDups = (names ++ rest).eraseDups := by
  have hnone : more.removeAll names = [] := by simpa [List.removeAll] using fun name hname => h hname
  have hmore : (names ++ more).eraseDups = names.eraseDups := by simp [List.eraseDups_append, hnone]
  have hsame : rest.removeAll (names ++ more) = rest.removeAll names := by
    refine List.filter_congr fun name _ => ?_
    have hmem : name ∈ names ++ more ↔ name ∈ names := by
      simpa using fun hname : name ∈ more => h hname
    simp only [List.elem_eq_mem, hmem]
  rw [List.eraseDups_append, hmore, hsame, ← List.eraseDups_append]

/-- A search for the first name with a value needs each name once. -/
theorem findSome?_eraseDups (lookup : String → Option String) (names : List String) :
    names.eraseDups.findSome? lookup = names.findSome? lookup := by
  induction names using List.reverseRecOn with
  | nil => rfl
  | append_singleton names name ih =>
    rw [eraseDups_concat, List.findSome?_append, List.findSome?_append, ih]
    split
    · rename_i hmem
      cases hfound : names.findSome? lookup with
      | some path => rfl
      | none => simp [List.findSome?_eq_none_iff.mp hfound name hmem]
    · rfl

end Repetitions

/-! ### The outcome -/

section Outcome
variable {lookup : String → Option String} {preferred others : List String} {path : String} {e : ToolchainError}

theorem resolveCompiler_eq_ok_iff : resolveCompiler lookup preferred = .ok path ↔
    (preferred ++ usualCompilers).findSome? lookup = some path := by
  rw [resolveCompiler, compilerNames, findSome?_eraseDups]
  cases (preferred ++ usualCompilers).findSome? lookup <;> simp

theorem resolveCompiler_eq_error_iff : resolveCompiler lookup preferred = .error e ↔
    (∀ name ∈ preferred ++ usualCompilers, lookup name = none) ∧
      e = .compilerNotFound (firstOccurrences (preferred ++ usualCompilers)) := by
  rw [← List.findSome?_eq_none_iff, resolveCompiler, compilerNames, findSome?_eraseDups, eraseDups_eq_firstOccurrences]
  cases (preferred ++ usualCompilers).findSome? lookup <;> simp [eq_comm]

theorem resolveCompiler_congr (lookup : String → Option String) (h : compilerNames preferred = compilerNames others) :
    resolveCompiler lookup preferred = resolveCompiler lookup others := by
  rw [resolveCompiler, h, resolveCompiler]

theorem compilerNames_compilerNames (preferred : List String) :
    compilerNames (compilerNames preferred) = compilerNames preferred := by
  have husual : usualCompilers ⊆ compilerNames preferred := fun name hname =>
    List.mem_eraseDups.mpr (List.mem_append_right _ hname)
  have hrepeated := eraseDups_repeated husual []
  rw [List.append_nil, List.append_nil] at hrepeated
  rw [compilerNames, hrepeated, compilerNames, eraseDups_eraseDups]

theorem compilerNames_repeated {before more after : List String} (h : more ⊆ before) :
    compilerNames (before ++ more ++ after) = compilerNames (before ++ after) := by
  rw [compilerNames, List.append_assoc, eraseDups_repeated h, ← List.append_assoc, compilerNames]

theorem compilerNames_append_usual (preferred : List String) {more : List String} (h : more <+: usualCompilers) :
    compilerNames (preferred ++ more) = compilerNames preferred := by
  obtain ⟨rest, hrest⟩ := h
  have hrepeated := eraseDups_repeated (List.subset_append_right preferred more) rest
  rw [List.append_assoc _ more rest, hrest, List.append_assoc preferred more rest, hrest] at hrepeated
  exact hrepeated

end Outcome

/-- A compiler is found just when a name of the preferred ones or of the usual ones has a path, and it is the path of
    the first such name; otherwise the error lists these names, each at its first place only. So a name that comes
    again, be it a preferred one or a usual one that the caller has named, can be left out of the search; a preferred
    name that comes again, and usual names behind the preferred ones, do not change the outcome; and collecting the
    names a second time changes nothing. -/
theorem resolveCompiler_earliest (lookup : String → Option String) (preferred : List String) :
    (∀ path, resolveCompiler lookup preferred = .ok path ↔
      ∃ before name after, preferred ++ ["gcc", "cc", "clang"] = before ++ name :: after ∧ lookup name = some path ∧
        ∀ earlier ∈ before, lookup earlier = none) ∧
    (∀ e, resolveCompiler lookup preferred = .error e ↔
      (∀ name ∈ preferred ++ ["gcc", "cc", "clang"], lookup name = none) ∧
        e = .compilerNotFound (firstOccurrences (preferred ++ ["gcc", "cc", "clang"]))) ∧
    (∀ before name after, preferred ++ ["gcc", "cc", "clang"] = before ++ name :: after → name ∈ before →
      ∀ path, resolveCompiler lookup preferred = .ok path ↔ (before ++ after).findSome? lookup = some path) ∧
    (∀ before name after, preferred = before ++ name :: after → name ∈ before →
      resolveCompiler lookup preferred = resolveCompiler lookup (before ++ after)) ∧
    (∀ more, more <+: ["gcc", "cc", "clang"] →
      resolveCompiler lookup (preferred ++ more) = resolveCompiler lookup preferred) ∧
    compilerNames (compilerNames preferred) = compilerNames preferred := by
  refine ⟨fun path => resolveCompiler_eq_ok_iff.trans List.findSome?_eq_some_iff, fun e => resolveCompiler_eq_error_iff,
    fun before name after hnames hmem path => ?_, fun before name after hnames hmem => ?_,
    fun more hmore => resolveCompiler_congr lookup (compilerNames_append_usual preferred hmore),
    compilerNames_compilerNames preferred⟩
  · have hrepeated := eraseDups_repeated (List.cons_subset.mpr ⟨hmem, List.nil_subset _⟩) after
    rw [List.append_assoc, List.singleton_append, ← hnames] at hrepeated
    rw [resolveCompiler_eq_ok_iff, ← findSome?_eraseDups, ← findSome?_eraseDups _ (before ++ after), ← hrepeated]
    rfl
  · rw [hnames, List.append_cons]
    exact resolveCompiler_congr lookup (compilerNames_repeated (List.cons_subset.mpr ⟨hmem, List.nil_subset _⟩))

/-- A machine with two compilers. -/
def twoCompilers (name : String) : Option String := [("gcc", "/usr/bin/gcc"), ("clang", "/opt/clang")].lookup name

/-- A caller that names a usual compiler gets it before the others, and may name it again or leave that out. -/
theorem twoCompilers_resolved :
    resolveCompiler twoCompilers ["icc", "clang", "icc", "clang"] = .ok "/opt/clang" ∧
      resolveCompiler twoCompilers ["icc", "clang", "icc", "clang"] =
        resolveCompiler twoCompilers ["icc", "clang", "clang"] ∧
      resolveCompiler twoCompilers ["icc", "gcc", "cc"] = resolveCompiler twoCompilers ["icc"] := by
  obtain ⟨-, -, hsearch, hrepeated, -⟩ := resolveCompiler_earliest twoCompilers ["icc", "clang", "icc", "clang"]
  obtain ⟨-, -, -, -, husual, -⟩ := resolveCompiler_earliest twoCompilers ["icc"]
  exact ⟨(hsearch ["icc", "clang", "icc", "clang", "gcc", "cc"] "clang" [] rfl (by decide) _).mpr rfl,
    hrepeated ["icc", "clang"] "icc" ["clang"] rfl (by decide), husual ["gcc", "cc"] ⟨["clang"], rfl⟩⟩

end BenchKernel
