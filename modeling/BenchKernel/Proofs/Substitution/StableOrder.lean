import BenchKernel.Proofs.Substitution.Order
import Mathlib.Data.List.FinRange
import Mathlib.Data.List.Sort
import Mathlib.Logic.Equiv.Basic

/-! # The order of a table's entries

A table is applied length by length, so of the order of its entries only the order within each byte length of keys
counts. That order is the one of a stable sort from the longest key to the shortest. The entries with an empty key and
the test whether a key occurs at all do nothing. -/

namespace BenchKernel.Table

open Text

variable {t u : Table}

/-! ### Sorted lists with the same order within each length -/

/-- Whether the key of one entry is at least as long as that of another. -/
def isLonger (a b : String × String) : Bool := decide (b.1.utf8ByteSize ≤ a.1.utf8ByteSize)

theorem isLonger_iff {a b : String × String} : isLonger a b = true ↔ b.1.utf8ByteSize ≤ a.1.utf8ByteSize :=
  decide_eq_true_iff

theorem isLonger_trans (a b c : String × String) (hab : isLonger a b = true) (hbc : isLonger b c = true) :
    isLonger a c = true := by
  rw [isLonger_iff] at *
  omega

theorem isLonger_total (a b : String × String) : (isLonger a b || isLonger b a) = true := by
  rw [Bool.or_eq_true, isLonger_iff, isLonger_iff]
  omega

/-- The keys of one list are as long as those of another that starts with a longest one. -/
theorem size_le_of_filter_eq {a b : String × String} {as bs : List (String × String)}
    (hb : ∀ e ∈ bs, isLonger b e = true)
    (h : ((a :: as).filter fun e => e.1.utf8ByteSize == a.1.utf8ByteSize) =
      (b :: bs).filter fun e => e.1.utf8ByteSize == a.1.utf8ByteSize) : a.1.utf8ByteSize ≤ b.1.utf8ByteSize := by
  have ha : a ∈ (b :: bs).filter fun e => e.1.utf8ByteSize == a.1.utf8ByteSize := by
    rw [← h]
    exact List.mem_filter.mpr ⟨List.mem_cons_self, beq_self_eq_true _⟩
  rcases List.mem_cons.mp (List.mem_filter.mp ha).1 with rfl | hmem
  · exact le_rfl
  · exact isLonger_iff.mp (hb a hmem)

/-- A list from longest to shortest is known from its parts of each length. -/
theorem eq_of_filter_eq {as bs : List (String × String)} (ha : as.Pairwise fun a b => isLonger a b = true)
    (hb : bs.Pairwise fun a b => isLonger a b = true)
    (h : ∀ length, (as.filter fun e => e.1.utf8ByteSize == length) = bs.filter fun e => e.1.utf8ByteSize == length) :
    as = bs := by
  induction as generalizing bs with
  | nil =>
    cases bs with
    | nil => rfl
    | cons b bs => simpa using h b.1.utf8ByteSize
  | cons a as ih =>
    cases bs with
    | nil => simpa using h a.1.utf8ByteSize
    | cons b bs =>
      rw [List.pairwise_cons] at ha hb
      have hsize : b.1.utf8ByteSize = a.1.utf8ByteSize :=
        le_antisymm (size_le_of_filter_eq ha.1 (h _).symm) (size_le_of_filter_eq hb.1 (h _))
      have hhead := h a.1.utf8ByteSize
      rw [List.filter_cons, if_pos (beq_self_eq_true _), List.filter_cons, if_pos (beq_iff_eq.mpr hsize)] at hhead
      obtain ⟨rfl, -⟩ := List.cons.inj hhead
      congr 1
      refine ih ha.2 hb.2 fun length => ?_
      have htail := h length
      rw [List.filter_cons, List.filter_cons] at htail
      split at htail
      · exact (List.cons.inj htail).2
      · exact htail

/-- Sorting keeps the order within each length. -/
theorem filter_mergeSort (es : List (String × String)) (length : Nat) :
    ((es.mergeSort isLonger).filter fun e => e.1.utf8ByteSize == length) =
      es.filter fun e => e.1.utf8ByteSize == length := by
  have hsorted : (es.filter fun e => e.1.utf8ByteSize == length).Pairwise fun a b => isLonger a b = true := by
    refine List.pairwise_of_forall_mem_list fun a ha b hb => ?_
    have hsizes := And.intro (List.mem_filter.mp ha).2 (List.mem_filter.mp hb).2
    rw [beq_iff_eq, beq_iff_eq] at hsizes
    rw [isLonger_iff, hsizes.1, hsizes.2]
  have hsub := List.sublist_mergeSort isLonger_trans isLonger_total hsorted List.filter_sublist
  have hpart := hsub.filter fun e => e.1.utf8ByteSize == length
  rw [List.filter_filter, List.filter_congr fun e _ => Bool.and_self _] at hpart
  exact (hpart.eq_of_length ((List.mergeSort_perm es isLonger).filter _).length_eq.symm).symm

/-! ### The order of application as a stable sort -/

/-- A text with every occurrence of an entry's key replaced. -/
def replacedAll (text : String) (e : String × String) : String :=
  String.ofList (replaceAll e.1.toList e.2.toList text.toList)

theorem replaced_eq_replacedAll (text : String) (e : String × String) : replaced text e = replacedAll text e := by
  by_cases h : e.1.toList <:+: text.toList
  · exact replaced_of_present h
  · rw [replaced_of_absent h, replacedAll, replaceAll_of_absent h, String.ofList_toList]

/-- The entries with a key that is not empty, from the longest key to the shortest and otherwise as in the table. -/
def sorted (t : Table) : List (String × String) := (t.entries.filter fun e => e.1 ≠ "").mergeSort isLonger

theorem filter_ordered_size (t : Table) (length : Nat) :
    (t.ordered.filter fun e => e.1.utf8ByteSize == length) =
      (t.entries.filter fun e => e.1.utf8ByteSize == length).filter fun e => e.1 ≠ "" := by
  cases length with
  | zero =>
    rw [List.filter_eq_nil_iff.mpr fun e he => by simpa using (mem_ordered_iff.mp he).2, List.filter_filter]
    exact (List.filter_eq_nil_iff.mpr fun e _ => by simp).symm
  | succ length =>
    rw [filter_size_ordered (Nat.succ_pos length), eq_comm, List.filter_eq_self]
    intro e he
    have hsize : e.1.utf8ByteSize = length + 1 := by simpa using (List.mem_filter.mp he).2
    have hne : e.1 ≠ "" := fun h => by simp [h] at hsize
    simpa using hne

theorem ordered_eq_sorted (t : Table) : t.ordered = t.sorted := by
  refine eq_of_filter_eq ((pairwise_ordered t).imp isLonger_iff.mpr)
    (List.pairwise_mergeSort isLonger_trans isLonger_total _) fun length => ?_
  rw [filter_ordered_size, sorted, filter_mergeSort, List.filter_filter, List.filter_filter]
  exact List.filter_congr fun e _ => Bool.and_comm _ _

/-! ### Rearranged tables -/

/-- One table has the entries of another in some order in which entries with keys of one byte length stand as they did:
    `place` says where each entry has gone. -/
def Rearranged (t u : Table) : Prop :=
  ∃ place : Fin t.entries.length ≃ Fin u.entries.length, (∀ i, u.entries.get (place i) = t.entries.get i) ∧
    ∀ i j, i < j → (t.entries.get i).1.utf8ByteSize = (t.entries.get j).1.utf8ByteSize → place i < place j

theorem Rearranged.filter_eq (h : Rearranged t u) (length : Nat) :
    (t.entries.filter fun e => e.1.utf8ByteSize == length) =
      u.entries.filter fun e => e.1.utf8ByteSize == length := by
  obtain ⟨place, hget, horder⟩ := h
  have hpositions : ∀ es : List (String × String), (es.filter fun e => e.1.utf8ByteSize == length) =
      ((List.finRange es.length).filter fun i => (es.get i).1.utf8ByteSize == length).map es.get := by
    intro es
    conv_lhs => rw [← List.map_get_finRange es, List.filter_map]
    rfl
  -- The places of the entries of this length are increasing, so they are the positions that have this length.
  have hplaces : ((List.finRange t.entries.length).filter fun i => (t.entries.get i).1.utf8ByteSize == length).map place =
      (List.finRange u.entries.length).filter fun i => (u.entries.get i).1.utf8ByteSize == length := by
    refine List.Pairwise.eq_of_mem_iff (r := (· < ·)) (List.pairwise_map.mpr ?_)
      ((List.pairwise_lt_finRange _).filter _) fun j => ?_
    · refine ((List.pairwise_lt_finRange _).filter _).imp_of_mem fun {i j} hi hj hlt => horder i j hlt ?_
      have hsizes := And.intro (List.mem_filter.mp hi).2 (List.mem_filter.mp hj).2
      rw [beq_iff_eq, beq_iff_eq] at hsizes
      rw [hsizes.1, hsizes.2]
    · simp only [List.mem_map, List.mem_filter, List.mem_finRange, true_and]
      constructor
      · rintro ⟨i, hi, rfl⟩
        rw [hget]
        exact hi
      · intro hj
        refine ⟨place.symm j, ?_, place.apply_symm_apply j⟩
        rw [← hget, place.apply_symm_apply]
        exact hj
  rw [hpositions, hpositions, ← hplaces, List.map_map]
  exact List.map_congr_left fun i _ => (hget i).symm

theorem Rearranged.ordered_eq (h : Rearranged t u) : t.ordered = u.ordered :=
  eq_of_filter_eq ((pairwise_ordered t).imp isLonger_iff.mpr) ((pairwise_ordered u).imp isLonger_iff.mpr)
    fun length => by rw [filter_ordered_size, filter_ordered_size, h.filter_eq]

/-- Of the order of entries only that among keys of one byte length counts: rearranged tables give the same lines, and a
    line is what a fold of plain replacements makes of it, over the entries sorted by length. -/
theorem order_counts_within_lengths :
    (∀ t u : Table, Rearranged t u → (∀ line, t.onLine line = u.onLine line) ∧
      (∀ lines, t.onLines lines = u.onLines lines) ∧ ∀ mark lines, t.onCode mark lines = u.onCode mark lines) ∧
    ∀ (t : Table) (line : String), t.onLine line = t.sorted.foldl replacedAll line := by
  constructor
  · intro t u h
    have hline : t.onLine = u.onLine := by
      funext line
      rw [onLine_eq_foldl, onLine_eq_foldl, h.ordered_eq]
    have hcode : ∀ mark lines, t.onCode mark lines = u.onCode mark lines := fun mark lines => by
      rw [onCode, onCode, hline]
    exact ⟨fun line => congrFun hline line, hcode none, hcode⟩
  · intro t line
    have hsame : replaced = replacedAll := funext fun text => funext fun e => replaced_eq_replacedAll text e
    rw [onLine_eq_foldl, ordered_eq_sorted, hsame]

/-- A table with a key inside another, a value that is a key of the same byte length, and an empty key. -/
def shortKeyFirst : Table := ⟨[("N", "100"), ("é", "NAME"), ("AB", "é"), ("", "x"), ("NAME", "copy")]⟩

/-- The same table with the longest and the shortest key exchanged. -/
def longKeyFirst : Table := ⟨[("NAME", "copy"), ("é", "NAME"), ("AB", "é"), ("", "x"), ("N", "100")]⟩

theorem rearranged_longKeyFirst : Rearranged shortKeyFirst longKeyFirst :=
  ⟨(Equiv.swap 0 4 : Equiv.Perm (Fin 5)), by decide, by decide⟩

theorem longKeyFirst_alike :
    Rearranged shortKeyFirst longKeyFirst ∧
      shortKeyFirst.onCode (some "#") ["# AB N", "AB é NAME"] = longKeyFirst.onCode (some "#") ["# AB N", "AB é NAME"] ∧
      shortKeyFirst.sorted.foldl replacedAll "AB é NAME" = "é 100AME copy" :=
  ⟨rearranged_longKeyFirst, (order_counts_within_lengths.1 _ _ rearranged_longKeyFirst).2.2 _ _,
    (order_counts_within_lengths.2 _ _).symm.trans (by decide)⟩

end BenchKernel.Table
