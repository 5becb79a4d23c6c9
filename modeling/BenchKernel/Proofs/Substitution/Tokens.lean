import BenchKernel.Proofs.Substitution.Order

/-! # Keys that are tokens

A key made of characters of one class never reaches over a character outside the class. So a table whose keys are all
such texts acts on each run of the class by itself, and leaves everything between the runs. On a run that is a key the
longest key that occurs is the run: it is replaced as a whole, before any key inside it is looked for. Where moreover the
values have no key in them, and a run that is no key has none either, a table replaces tokens. -/

namespace BenchKernel

namespace Text
variable {keep : Char → Bool} {f g : List Char → List Char} {key value a b cs w : List Char} {c : Char}

/-! ### Texts changed run by run -/

/-- What becomes of a run that has been read to its end. -/
def endRun (f : List Char → List Char) (run : List Char) : List Char := if run = [] then [] else f run

/-- Changes the runs of a text that goes on after the part `run` of a run. -/
def mapRunsFrom (keep : Char → Bool) (f : List Char → List Char) : (run : List Char) → List Char → List Char
  | run, [] => endRun f run
  | run, c :: cs =>
    if keep c then mapRunsFrom keep f (run ++ [c]) cs else endRun f run ++ c :: mapRunsFrom keep f [] cs

/-- The text with each run changed and every other character as it was. -/
def mapRuns (keep : Char → Bool) (f : List Char → List Char) (cs : List Char) : List Char := mapRunsFrom keep f [] cs

theorem mapRunsFrom_append (h : ∀ c ∈ w, keep c = true) (run : List Char) :
    mapRunsFrom keep f run (w ++ cs) = mapRunsFrom keep f (run ++ w) cs := by
  induction w generalizing run with
  | nil => rw [List.nil_append, List.append_nil]
  | cons c w ih =>
    rw [List.forall_mem_cons] at h
    rw [List.cons_append, mapRunsFrom, if_pos h.1, ih h.2, List.append_assoc, List.singleton_append]

theorem mapRuns_of_forall (h : ∀ c ∈ w, keep c = true) : mapRuns keep f w = endRun f w := by
  have hread := @mapRunsFrom_append keep f [] w h []
  rwa [List.append_nil, List.nil_append] at hread

/-- What is done before a character outside the class and behind it has nothing to do with each other. -/
theorem mapRuns_append_cons (hc : keep c = false) (a b : List Char) :
    mapRuns keep f (a ++ c :: b) = mapRuns keep f a ++ c :: mapRuns keep f b := by
  have hfrom : ∀ run, mapRunsFrom keep f run (a ++ c :: b) = mapRunsFrom keep f run a ++ c :: mapRunsFrom keep f [] b := by
    induction a with
    | nil => exact fun run => by simp [mapRunsFrom, hc]
    | cons x a ih =>
      intro run
      rw [List.cons_append, mapRunsFrom, mapRunsFrom]
      split
      · exact ih _
      · rw [ih, List.append_assoc, List.cons_append]
  exact hfrom []

/-- A text is a stretch of kept characters, or such a stretch before a character that is not kept and a further text. -/
@[elab_as_elim]
theorem runs_induction {motive : List Char → Prop} (keep : Char → Bool)
    (last : ∀ w, (∀ c ∈ w, keep c = true) → motive w)
    (next : ∀ w c cs, (∀ c ∈ w, keep c = true) → keep c = false → motive cs → motive (w ++ c :: cs))
    (cs : List Char) : motive cs := by
  have hjoined : ∀ {ps : List (List Char)} {cs : List Char}, Joined (fun c => keep c = false) ps cs →
      (∀ p ∈ ps, ∀ c ∈ p, keep c = true) → motive cs := by
    intro ps cs h
    induction h with
    | single piece => exact fun hkeep => last piece (hkeep piece List.mem_cons_self)
    | cons piece hc _ ih =>
      intro hkeep
      rw [List.forall_mem_cons] at hkeep
      exact next piece _ _ hkeep.1 hc (ih hkeep.2)
  exact hjoined (joined_pieces keep cs) fun p hp => keep_of_mem_pieces hp

theorem mapRuns_self (keep : Char → Bool) (cs : List Char) : mapRuns keep (fun w => w) cs = cs := by
  have hend : ∀ w, endRun (fun w => w) w = w := fun w => by
    by_cases h : w = [] <;> simp [endRun, h]
  induction cs using runs_induction keep with
  | last w hw => rw [mapRuns_of_forall hw, hend]
  | next w c cs hw hc ih => rw [mapRuns_append_cons hc, mapRuns_of_forall hw, hend, ih]

theorem mapRuns_congr (h : ∀ w ∈ runs keep cs, f w = g w) : mapRuns keep f cs = mapRuns keep g cs := by
  have hend : ∀ w, (∀ c ∈ w, keep c = true) → (∀ v ∈ runs keep w, f v = g v) → endRun f w = endRun g w := by
    intro w hw hruns
    by_cases hne : w = []
    · rw [endRun, endRun, if_pos hne, if_pos hne]
    · rw [runs_of_forall hne hw, List.forall_mem_singleton] at hruns
      rw [endRun, endRun, hruns]
  induction cs using runs_induction keep with
  | last w hw => rw [mapRuns_of_forall hw, mapRuns_of_forall hw, hend w hw h]
  | next w c cs hw hc ih =>
    rw [runs_append_cons hc, List.forall_mem_append] at h
    rw [mapRuns_append_cons hc, mapRuns_append_cons hc, mapRuns_of_forall hw, mapRuns_of_forall hw, hend w hw h.1, ih h.2]

/-! ### Replacing in runs -/

theorem isPrefix_of_not_mem (hc : c ∉ key) (h : key <+: a ++ c :: b) : key <+: a := by
  refine List.prefix_of_prefix_length_le h (List.prefix_append a _) (Nat.le_of_not_lt fun hlt => hc ?_)
  obtain ⟨rest, hrest⟩ := h
  have hat : (key ++ rest)[a.length]? = some c := by rw [hrest]; simp
  rw [List.getElem?_append_left hlt] at hat
  exact List.mem_of_getElem? hat

theorem replaceAll_append_cons (hne : key ≠ []) (hc : c ∉ key) (value a b : List Char) :
    replaceAll key value (a ++ c :: b) = replaceAll key value a ++ c :: replaceAll key value b := by
  -- The induction goes from one occurrence in `a` to what is behind it.
  induction hn : a.length using Nat.strong_induction_on generalizing a with
  | _ n ih =>
    cases a with
    | nil =>
      have hnot : ¬key <+: c :: b := fun h => hne (List.prefix_nil.mp (isPrefix_of_not_mem (a := []) hc h))
      rw [List.nil_append, replaceAll_cons hnot, replaceAll_nil, List.nil_append]
    | cons x a =>
      by_cases hstart : key <+: x :: a
      · obtain ⟨rest, hrest⟩ := hstart
        have hshort : rest.length < n := by
          have := List.length_pos_iff.mpr hne
          have := congrArg List.length hrest
          simp only [List.length_append] at this
          omega
        rw [← hrest, List.append_assoc, replaceAll_key_append hne, replaceAll_key_append hne, ih _ hshort rest rfl,
          List.append_assoc]
      · have hnot : ¬key <+: x :: (a ++ c :: b) := fun h => hstart (isPrefix_of_not_mem hc h)
        rw [List.length_cons] at hn
        rw [List.cons_append, replaceAll_cons hnot, replaceAll_cons hstart, ih a.length (by omega) a rfl,
          List.cons_append]

/-- A key of kept characters is replaced in what has become of each run, and nowhere else. -/
theorem replaceAll_mapRuns (hne : key ≠ []) (hkey : ∀ c ∈ key, keep c = true) (value cs : List Char) :
    replaceAll key value (mapRuns keep f cs) = mapRuns keep (fun w => replaceAll key value (f w)) cs := by
  have hend : ∀ w, replaceAll key value (endRun f w) = endRun (fun w => replaceAll key value (f w)) w := fun w => by
    by_cases h : w = [] <;> simp [endRun, h, replaceAll_nil]
  induction cs using runs_induction keep with
  | last w hw => rw [mapRuns_of_forall hw, mapRuns_of_forall hw, hend]
  | next w c cs hw hc ih =>
    have hnot : c ∉ key := fun hmem => by
      rw [hkey c hmem] at hc
      cases hc
    rw [mapRuns_append_cons hc, mapRuns_append_cons hc, mapRuns_of_forall hw, mapRuns_of_forall hw,
      replaceAll_append_cons hne hnot, hend, ih]

end Text

namespace Table
open Text

variable {t : Table} {S : Char → Bool} {line key value text : String}

/-! ### Tables on runs -/

theorem replaced_eq (text : String) (e : String × String) :
    replaced text e = String.ofList (replaceAll e.1.toList e.2.toList text.toList) := by
  by_cases h : e.1.toList <:+: text.toList
  · exact replaced_of_present h
  · rw [replaced_of_absent h, replaceAll_of_absent h, String.ofList_toList]

theorem foldl_replaced_eq_mapRuns {es : List (String × String)}
    (h : ∀ e ∈ es, e.1 ≠ "" ∧ ∀ c ∈ e.1.toList, S c = true) (text : String) :
    (es.foldl replaced text).toList =
      mapRuns S (fun w => (es.foldl replaced (String.ofList w)).toList) text.toList := by
  induction es using List.reverseRecOn with
  | nil =>
    simp only [List.foldl_nil, String.toList_ofList]
    exact (mapRuns_self S text.toList).symm
  | append_singleton es e ih =>
    rw [List.forall_mem_append, List.forall_mem_singleton] at h
    obtain ⟨hne, hkey⟩ := h.2
    simp only [List.foldl_append, List.foldl_cons, List.foldl_nil, replaced_eq, String.toList_ofList]
    rw [ih h.1, replaceAll_mapRuns (mt String.toList_eq_nil_iff.mp hne) hkey]

/-- A table whose keys are made of characters of a class is applied to each run of the class by itself. -/
theorem onLine_eq_mapRuns (h : ∀ e ∈ t.entries, e.1 ≠ "" → ∀ c ∈ e.1.toList, S c = true) (line : String) :
    (t.onLine line).toList = mapRuns S (fun w => (t.onLine (String.ofList w)).toList) line.toList := by
  simp only [onLine_eq_foldl]
  refine foldl_replaced_eq_mapRuns (fun e he => ?_) line
  obtain ⟨hmem, hne⟩ := mem_ordered_iff.mp he
  exact ⟨hne, h e hmem hne⟩

/-- What is replaced before a character that no key has and behind it has nothing to do with each other. -/
theorem onLine_break (h : ∀ e ∈ t.entries, e.1 ≠ "" → ∀ c ∈ e.1.toList, S c = true) {mark : String} {c : Char}
    (hmark : mark.toList = [c]) (hc : S c = false) (a b : String) :
    t.onLine (a ++ mark ++ b) = t.onLine a ++ mark ++ t.onLine b := by
  have hlist : (a ++ mark ++ b).toList = a.toList ++ c :: b.toList := by simp [hmark]
  rw [← String.toList_inj, onLine_eq_mapRuns h, hlist, mapRuns_append_cons hc, ← onLine_eq_mapRuns h,
    ← onLine_eq_mapRuns h]
  simp [hmark]

theorem onLine_of_absent (h : ∀ e ∈ t.entries, e.1 ≠ "" → ¬e.1.toList <:+: text.toList) : t.onLine text = text := by
  rw [onLine_eq_foldl]
  refine foldl_replaced_eq_self fun e he => ?_
  obtain ⟨hmem, hne⟩ := mem_ordered_iff.mp he
  exact h e hmem hne

/-- A key becomes its first value, whatever keys are parts of it, if no key occurs in the value. -/
theorem onLine_of_get? (hne : key ≠ "") (hget : t.get? key = some value)
    (hvalue : ∀ e ∈ t.entries, e.1 ≠ "" → ¬e.1.toList <:+: value.toList) : t.onLine key = value := by
  obtain ⟨before, after, hentries, hbefore⟩ := List.lookup_eq_some_iff.mp hget
  obtain ⟨first, later, hordered, hline⟩ := onLine_key hne hentries fun e he heq => by
    have hother := hbefore e he
    rw [heq, bne_self_eq_false] at hother
    cases hother
  rw [hline]
  refine foldl_replaced_eq_self fun e he => ?_
  obtain ⟨hmem, hne⟩ := mem_ordered_iff.mp (show e ∈ t.ordered by simp [hordered, he])
  exact hvalue e hmem hne

/-! ### Tokens -/

/-- What a table has for a token: the first value of the key that it is, and otherwise the token. -/
def onToken (t : Table) (w : List Char) : List Char := ((t.get? (String.ofList w)).map String.toList).getD w

/-- All keys are texts of one class of characters, no value has a key in it, and a run of the class in the line has no
    key in it unless it is one. -/
structure Separates (t : Table) (S : Char → Bool) (line : String) : Prop where
  keys : ∀ e ∈ t.entries, e.1 ≠ "" ∧ ∀ c ∈ e.1.toList, S c = true
  values : ∀ e ∈ t.entries, ∀ e' ∈ t.entries, ¬e'.1.toList <:+: e.2.toList
  tokens : ∀ w ∈ runs S line.toList,
    (∃ e ∈ t.entries, e.1.toList = w) ∨ ∀ e ∈ t.entries, ¬e.1.toList <:+: w

theorem mem_entries_of_get? (h : t.get? key = some value) : (key, value) ∈ t.entries := by
  obtain ⟨before, after, hentries, -⟩ := List.lookup_eq_some_iff.mp h
  simp [hentries]

theorem Separates.onLine_key (h : t.Separates S line) (hget : t.get? key = some value) : t.onLine key = value := by
  have hmem := mem_entries_of_get? hget
  exact onLine_of_get? (h.keys _ hmem).1 hget fun e he _ => h.values _ hmem e he

theorem Separates.onLine_eq (h : t.Separates S line) :
    t.onLine line = String.ofList (mapRuns S t.onToken line.toList) := by
  rw [← String.toList_inj, String.toList_ofList, onLine_eq_mapRuns fun e he _ => (h.keys e he).2]
  refine mapRuns_congr fun w hw => ?_
  cases hget : t.get? (String.ofList w) with
  | some value => rw [h.onLine_key hget, onToken, hget, Option.map_some, Option.getD_some]
  | none =>
    rw [onToken, hget, Option.map_none, Option.getD_none, onLine_of_absent, String.toList_ofList]
    intro e he _
    rw [String.toList_ofList]
    -- The run is no key, since a key has a value.
    refine (h.tokens w hw).resolve_left (fun ⟨e, he, hkey⟩ => ?_) e he
    rw [← hkey, String.ofList_toList] at hget
    have hother := List.lookup_eq_none_iff.mp hget e he
    rw [bne_self_eq_false] at hother
    cases hother

theorem Separates.of_perm {t' : Table} (h : t.Separates S line) (hperm : t'.entries.Perm t.entries) :
    t'.Separates S line where
  keys e he := h.keys e (hperm.mem_iff.mp he)
  values e he e' he' := h.values e (hperm.mem_iff.mp he) e' (hperm.mem_iff.mp he')
  tokens w hw := by
    rcases h.tokens w hw with ⟨e, he, hkey⟩ | hno
    · exact Or.inl ⟨e, hperm.mem_iff.mpr he, hkey⟩
    · exact Or.inr fun e he => hno e (hperm.mem_iff.mp he)

/-- Where tokens are separated, a table replaces each run that is a key by the first value of the key, and changes no
    other character. So a key becomes its first value even if other keys are parts of it, and the order of the table
    matters only in so far as it decides which value of a key is the first. -/
theorem onLine_replaces_tokens (t : Table) (S : Char → Bool) (line : String) (h : t.Separates S line) :
    t.onLine line = String.ofList (mapRuns S t.onToken line.toList) ∧
      (∀ key value, t.get? key = some value → t.onLine key = value) ∧
      ∀ t' : Table, t'.entries.Perm t.entries → (∀ key, t'.get? key = t.get? key) → t'.onLine line = t.onLine line := by
  refine ⟨h.onLine_eq, fun key value hget => h.onLine_key hget, fun t' hperm hget => ?_⟩
  have hsame : t'.onToken = t.onToken := funext fun w => by rw [onToken, onToken, hget]
  rw [h.onLine_eq, (h.of_perm hperm).onLine_eq, hsame]

/-- A table in which one key is part of another, one key has two values, and values are empty or of several words. -/
def nestedKeys : Table := ⟨[("N", "512"), ("NAME", "copy"), ("N", "7"), ("NONE", ""), ("AT", "x0, x1")]⟩

theorem nestedKeys_separates : nestedKeys.Separates isWordChar "NAME: ld [AT + 8*N]NONE" where
  keys e he := by
    have hall : ∀ e ∈ nestedKeys.entries, e.1 ≠ "" ∧ e.1.toList.all isWordChar = true := by decide
    exact ⟨(hall e he).1, List.all_eq_true.mp (hall e he).2⟩
  values e he e' he' := by
    have hall : ∀ e ∈ nestedKeys.entries, ∀ e' ∈ nestedKeys.entries, occurs e'.1.toList e.2.toList = false := by decide
    exact occurs_eq_false_iff.mp (hall e he e' he')
  tokens w hw := by
    have hall : ∀ w ∈ runs isWordChar "NAME: ld [AT + 8*N]NONE".toList,
        (∃ e ∈ nestedKeys.entries, e.1.toList = w) ∨ ∀ e ∈ nestedKeys.entries, occurs e.1.toList w = false := by decide
    exact (hall w hw).imp_right fun hno e he => occurs_eq_false_iff.mp (hno e he)

/-- The longer key is replaced as a whole, the one with two values by the first, and nothing else is touched. -/
theorem nestedKeys_tokens :
    nestedKeys.Separates isWordChar "NAME: ld [AT + 8*N]NONE" ∧
      nestedKeys.onLine "NAME: ld [AT + 8*N]NONE" = "copy: ld [x0, x1 + 8*512]" :=
  ⟨nestedKeys_separates, (onLine_replaces_tokens _ _ _ nestedKeys_separates).1.trans (by decide)⟩

end Table

end BenchKernel
