import BenchKernel.Proofs.Text.Replace
import BenchKernel.Substitution.Table

/-! # The order of replacements

Applying a table to a line is one replacement after the other, by the byte length of the keys from longest to shortest
and within one length in table order. Entries with an empty key take no part. So whatever becomes true of a line under
a table becomes true in one replacement, of a key that the line has at that moment. -/

namespace BenchKernel.Table

open Text

variable {t : Table} {e : String × String} {length : Nat} {cs : List Char} {key text : String}

/-! ### The entries in the order of their application -/

/-- The entries with keys of at most a given byte length, longest first. -/
def orderedUpTo (t : Table) : (length : Nat) → List (String × String)
  | 0 => []
  | length + 1 => (t.entries.filter fun e => e.1.utf8ByteSize == length + 1) ++ orderedUpTo t length

/-- The entries that are applied to a line, in the order of their application. -/
def ordered (t : Table) : List (String × String) := t.orderedUpTo t.longest

/-- A text with one entry's key replaced. -/
def replaced (text : String) (e : String × String) : String := String.ofList (replaceEntry text.toList e)

theorem onUpTo_eq_foldl (t : Table) (length : Nat) (text : String) :
    String.ofList (t.onUpTo length text.toList) = (t.orderedUpTo length).foldl replaced text := by
  induction length generalizing text with
  | zero => exact String.ofList_toList
  | succ length ih =>
    have hfold : ∀ (es : List (String × String)) (text : String),
        (es.foldl replaced text).toList = es.foldl replaceEntry text.toList := by
      intro es
      induction es with
      | nil => exact fun _ => rfl
      | cons e es ih => exact fun text => by rw [List.foldl_cons, List.foldl_cons, ih, replaced, String.toList_ofList]
    rw [orderedUpTo, List.foldl_append, ← ih, hfold, onUpTo, onLength]

theorem onLine_eq_foldl (t : Table) (line : String) : t.onLine line = t.ordered.foldl replaced line :=
  onUpTo_eq_foldl t t.longest line

theorem utf8ByteSize_le_longest (h : e ∈ t.entries) : e.1.utf8ByteSize ≤ t.longest := by
  have hfold : ∀ (es : List (String × String)) (n : Nat), n ≤ es.foldl (fun n e => max n e.1.utf8ByteSize) n ∧
      ∀ e ∈ es, e.1.utf8ByteSize ≤ es.foldl (fun n e => max n e.1.utf8ByteSize) n := by
    intro es
    induction es with
    | nil => simp
    | cons first es ih =>
      intro n
      obtain ⟨hle, hmem⟩ := ih (max n first.1.utf8ByteSize)
      rw [List.foldl_cons, List.forall_mem_cons]
      exact ⟨by omega, by omega, hmem⟩
  exact (hfold t.entries 0).2 e h

theorem mem_orderedUpTo_iff :
    e ∈ t.orderedUpTo length ↔ e ∈ t.entries ∧ 0 < e.1.utf8ByteSize ∧ e.1.utf8ByteSize ≤ length := by
  induction length with
  | zero =>
    simp only [orderedUpTo, List.not_mem_nil, false_iff, not_and]
    omega
  | succ length ih =>
    simp only [orderedUpTo, List.mem_append, List.mem_filter, beq_iff_eq, ih]
    constructor
    · rintro (⟨he, hsize⟩ | ⟨he, hpos, hle⟩)
      · exact ⟨he, by omega, by omega⟩
      · exact ⟨he, hpos, by omega⟩
    · rintro ⟨he, hpos, hle⟩
      by_cases hsize : e.1.utf8ByteSize = length + 1
      · exact Or.inl ⟨he, hsize⟩
      · exact Or.inr ⟨he, hpos, by omega⟩

theorem mem_ordered_iff : e ∈ t.ordered ↔ e ∈ t.entries ∧ e.1 ≠ "" := by
  rw [ordered, mem_orderedUpTo_iff]
  constructor
  · rintro ⟨he, hpos, -⟩
    refine ⟨he, fun h => ?_⟩
    rw [h] at hpos
    exact absurd hpos (by decide)
  · rintro ⟨he, hne⟩
    have hsize : e.1.utf8ByteSize ≠ 0 := fun h => hne (String.utf8ByteSize_eq_zero_iff.mp h)
    exact ⟨he, by omega, utf8ByteSize_le_longest he⟩

theorem pairwise_ordered (t : Table) : t.ordered.Pairwise fun a b => b.1.utf8ByteSize ≤ a.1.utf8ByteSize := by
  suffices h : ∀ length, (t.orderedUpTo length).Pairwise fun a b => b.1.utf8ByteSize ≤ a.1.utf8ByteSize from
    h t.longest
  intro length
  induction length with
  | zero => exact .nil
  | succ length ih =>
    have hsize : ∀ a ∈ t.entries.filter (fun e => e.1.utf8ByteSize == length + 1), a.1.utf8ByteSize = length + 1 :=
      fun a ha => by simpa using (List.mem_filter.mp ha).2
    refine List.pairwise_append.mpr ⟨?_, ih, fun a ha b hb => ?_⟩
    · exact List.pairwise_of_forall_mem_list fun a ha b hb => by rw [hsize a ha, hsize b hb]
    · rw [hsize a ha]
      have := (mem_orderedUpTo_iff.mp hb).2.2
      omega

theorem filter_size_ordered (hpos : 0 < length) :
    (t.ordered.filter fun e => e.1.utf8ByteSize == length) = t.entries.filter fun e => e.1.utf8ByteSize == length := by
  have hupTo : ∀ limit, (t.orderedUpTo limit).filter (fun e => e.1.utf8ByteSize == length) =
      if length ≤ limit then t.entries.filter fun e => e.1.utf8ByteSize == length else [] := by
    intro limit
    induction limit with
    | zero => rw [if_neg (by omega), orderedUpTo, List.filter_nil]
    | succ limit ih =>
      rw [orderedUpTo, List.filter_append, ih, List.filter_filter]
      by_cases hsize : length = limit + 1
      · rw [if_neg (by omega), if_pos (by omega), List.append_nil, ← hsize]
        simp only [Bool.and_self]
      · have hnone : ∀ e ∈ t.entries, ¬(e.1.utf8ByteSize == length && e.1.utf8ByteSize == limit + 1) = true := by
          intro e _
          simp only [Bool.and_eq_true, beq_iff_eq]
          omega
        rw [List.filter_eq_nil_iff.mpr hnone, List.nil_append]
        congr 1
        simp only [eq_iff_iff]
        omega
  rw [ordered, hupTo]
  split
  · rfl
  · rename_i hlong
    rw [eq_comm, List.filter_eq_nil_iff]
    intro e he hsize
    rw [beq_iff_eq] at hsize
    exact hlong (hsize ▸ utf8ByteSize_le_longest he)

theorem filter_ordered (hne : key ≠ "") :
    (t.ordered.filter fun e => e.1 == key) = t.entries.filter fun e => e.1 == key := by
  have hpos : 0 < key.utf8ByteSize := Nat.pos_of_ne_zero fun h => hne (String.utf8ByteSize_eq_zero_iff.mp h)
  have hkey : ∀ es : List (String × String), (es.filter fun e => e.1 == key) =
      (es.filter fun e => e.1.utf8ByteSize == key.utf8ByteSize).filter fun e => e.1 == key := by
    intro es
    rw [List.filter_filter]
    refine List.filter_congr fun e _ => ?_
    by_cases he : e.1 = key <;> simp [he]
  rw [hkey, filter_size_ordered hpos, ← hkey]

/-! ### One replacement -/

theorem replaced_of_absent (h : ¬e.1.toList <:+: text.toList) : replaced text e = text := by
  rw [replaced, replaceEntry, if_neg (mt occurs_iff.mp h), String.ofList_toList]

theorem replaced_of_present (h : e.1.toList <:+: text.toList) :
    replaced text e = String.ofList (replaceAll e.1.toList e.2.toList text.toList) := by
  rw [replaced, replaceEntry, if_pos (occurs_iff.mpr h)]

theorem foldl_replaced_eq_self {es : List (String × String)} (h : ∀ e ∈ es, ¬e.1.toList <:+: text.toList) :
    es.foldl replaced text = text := by
  induction es with
  | nil => rfl
  | cons e es ih =>
    rw [List.forall_mem_cons] at h
    rw [List.foldl_cons, replaced_of_absent h.1, ih h.2]

theorem replaced_key (hne : key ≠ "") (value : String) : replaced key (key, value) = value := by
  have hkey : key.toList ≠ [] := fun h => hne (String.toList_eq_nil_iff.mp h)
  have hall := replaceAll_key_append hkey value.toList []
  rw [List.append_nil, replaceAll_nil, List.append_nil] at hall
  have hself : (key, value).1.toList <:+: key.toList := List.infix_rfl
  rw [replaced_of_present hself, hall, String.ofList_toList]

theorem eq_of_infix_of_utf8ByteSize_le (h : key.toList <:+: text.toList)
    (hsize : text.utf8ByteSize ≤ key.utf8ByteSize) : key = text := by
  obtain ⟨before, after, h⟩ := h
  have htext : text = String.ofList before ++ key ++ String.ofList after := by
    rw [← String.toList_inj, ← h]
    simp
  rw [htext, String.utf8ByteSize_append, String.utf8ByteSize_append] at hsize
  have hbefore : String.ofList before = "" := String.utf8ByteSize_eq_zero_iff.mp (by omega)
  have hafter : String.ofList after = "" := String.utf8ByteSize_eq_zero_iff.mp (by omega)
  rw [htext, hbefore, hafter, String.empty_append, String.append_empty]

/-- A line that is a key becomes the text of the key's first entry, to which the entries behind it are applied. -/
theorem onLine_key {before after : List (String × String)} {value : String} (hne : key ≠ "")
    (hentries : t.entries = before ++ (key, value) :: after) (hbefore : ∀ e ∈ before, e.1 ≠ key) :
    ∃ first later, t.ordered = first ++ (key, value) :: later ∧ t.onLine key = later.foldl replaced value := by
  have hfilter : (t.ordered.filter fun e => e.1 == key) = (key, value) :: after.filter fun e => e.1 == key := by
    have hnone : (before.filter fun e => e.1 == key) = [] :=
      List.filter_eq_nil_iff.mpr fun e he => by simpa using hbefore e he
    rw [filter_ordered hne, hentries, List.filter_append, hnone, List.nil_append, List.filter_cons, beq_self_eq_true,
      if_pos rfl]
  obtain ⟨first, later, hordered, hfirst, -, -⟩ := List.filter_eq_cons_iff.mp hfilter
  refine ⟨first, later, hordered, ?_⟩
  -- The entries before it have keys that are at least as long, and not the line, so they do not occur in it.
  have hkept : ∀ e ∈ first, ¬e.1.toList <:+: key.toList := by
    intro e he hoccurs
    have hpairwise := pairwise_ordered t
    rw [hordered, List.pairwise_append] at hpairwise
    have hsize : key.utf8ByteSize ≤ e.1.utf8ByteSize := hpairwise.2.2 e he _ List.mem_cons_self
    exact hfirst e he (beq_iff_eq.mpr (eq_of_infix_of_utf8ByteSize_le hoccurs hsize))
  rw [onLine_eq_foldl, hordered, List.foldl_append, foldl_replaced_eq_self hkept, List.foldl_cons, replaced_key hne]

/-- On the way from a line to what the table makes of it, an entry finds its key in a text. -/
def Replaces (t : Table) (line : String) (e : String × String) (text : String) : Prop :=
  e.1.toList <:+: text.toList ∧ ∃ done rest, t.ordered = done ++ e :: rest ∧ text = done.foldl replaced line

theorem exists_replaces {P : String → Prop} {line : String} (hline : ¬P line) (h : P (t.onLine line)) :
    ∃ e text, t.Replaces line e text ∧ ¬P text ∧ P (replaced text e) := by
  have hfold : ∀ (es : List (String × String)) (text : String), ¬P text → P (es.foldl replaced text) →
      ∃ done e rest, es = done ++ e :: rest ∧ ¬P (done.foldl replaced text) ∧
        P (replaced (done.foldl replaced text) e) := by
    intro es
    induction es with
    | nil => exact fun text hnot h => absurd h hnot
    | cons e es ih =>
      intro text hnot h
      by_cases hnow : P (replaced text e)
      · exact ⟨[], e, es, rfl, hnot, hnow⟩
      · obtain ⟨done, e', rest, rfl, hbefore, hafter⟩ := ih _ hnow h
        exact ⟨e :: done, e', rest, rfl, hbefore, hafter⟩
  rw [onLine_eq_foldl] at h
  obtain ⟨done, e, rest, hordered, hbefore, hafter⟩ := hfold _ _ hline h
  refine ⟨e, done.foldl replaced line, ⟨?_, done, rest, hordered, rfl⟩, hbefore, hafter⟩
  by_contra hnot
  rw [replaced_of_absent hnot] at hafter
  exact hbefore hafter

theorem Replaces.mem {line : String} (h : t.Replaces line e text) : e ∈ t.entries ∧ e.1 ≠ "" := by
  obtain ⟨-, done, rest, hordered, -⟩ := h
  exact mem_ordered_iff.mp (by simp [hordered])

/-- A replacement of a key that stands apart from words brings in no identifier but those of the value. -/
theorem names_of_names_replaced {word : String} (hne : e.1 ≠ "") (hapart : Apart isWordChar e.1.toList text.toList)
    (h : Names (replaced text e) word) : Names text word ∨ Names e.2 word := by
  by_cases hin : e.1.toList <:+: text.toList
  · rw [replaced_of_present hin] at h
    obtain ⟨run, hrun, hword⟩ := h
    rw [String.toList_ofList, ← mem_runs_iff] at hrun
    have hkey : e.1.toList ≠ [] := fun h => hne (String.toList_eq_nil_iff.mp h)
    rcases mem_runs_replaceAll hkey hapart hrun with hrun | hrun
    · exact Or.inl ⟨run, mem_runs_iff.mp hrun, hword⟩
    · exact Or.inr ⟨run, mem_runs_iff.mp hrun, hword⟩
  · rw [replaced_of_absent hin] at h
    exact Or.inl h

end BenchKernel.Table
