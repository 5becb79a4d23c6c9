import BenchKernel.Proofs.Text.Runs
import BenchKernel.Target.Emission

/-! # Header lines and loads

Of the lines of a header only the last one is the stream mark, whatever the routine is called. The lines that load an
address consist of small letters, digits and a few signs, so that they hold neither a newline nor a capital letter. -/

namespace BenchKernel

open Text

/-! ### The header -/

theorem edges_of_trimmed_eq {line : String} (h : trimmed line = streamMark) :
    (∀ c ∈ line.toList.head?, isBlank c = true ∨ c = '#') ∧ ∀ c ∈ line.toList.getLast?, isBlank c = true ∨ c = '#' := by
  obtain ⟨before, after, hcs, hbefore, hafter⟩ := exists_trim line.toList
  have htrim : trim line.toList = streamMark.toList := by
    rw [← h, trimmed, String.toList_ofList]
  rw [htrim] at hcs
  constructor
  · intro c hc
    rw [hcs] at hc
    cases before with
    | nil => exact Or.inr (Option.some.inj hc).symm
    | cons b before =>
      obtain rfl : b = c := Option.some.inj hc
      exact Or.inl (hbefore b List.mem_cons_self)
  · intro c hc
    rw [hcs] at hc
    cases after using List.reverseRecOn with
    | nil =>
      rw [List.append_nil, List.getLast?_append] at hc
      exact Or.inr (Option.some.inj hc).symm
    | append_singleton after b =>
      rw [← List.append_assoc, List.getLast?_concat] at hc
      obtain rfl : b = c := Option.some.inj hc
      exact Or.inl (hafter b (by simp))

/-- A character that is neither blank nor at the edge of the mark. -/
def isPlainEdge (c : Char) : Bool := !isBlank c && c != '#'

theorem trimmed_ne_of_edge {line : String} (h : ∃ c, isPlainEdge c = true ∧
    (line.toList.head? = some c ∨ line.toList.getLast? = some c)) : trimmed line ≠ streamMark := by
  obtain ⟨c, hplain, hedge⟩ := h
  intro hmark
  obtain ⟨hfirst, hlast⟩ := edges_of_trimmed_eq hmark
  rcases hedge.elim (hfirst c) (hlast c) with hblank | rfl
  · simp [isPlainEdge, hblank] at hplain
  · simp [isPlainEdge] at hplain

theorem edge_append_left {a : String} {c : Char} (b : String) (h : a.toList.head? = some c)
    (hc : isPlainEdge c = true) : trimmed (a ++ b) ≠ streamMark :=
  trimmed_ne_of_edge ⟨c, hc, Or.inl (by rw [String.toList_append, List.head?_append, h, Option.some_or])⟩

theorem edge_append_right {b : String} {c : Char} (a : String) (h : b.toList.getLast? = some c)
    (hc : isPlainEdge c = true) : trimmed (a ++ b) ≠ streamMark :=
  trimmed_ne_of_edge ⟨c, hc, Or.inr (by rw [String.toList_append, List.getLast?_append, h, Option.some_or])⟩

theorem Arch.header_eq (arch : Arch) (name : String) :
    arch.header name = (arch.header name).dropLast ++ [streamMark] ∧
      ∀ line ∈ (arch.header name).dropLast, trimmed line ≠ streamMark := by
  have hglobl : trimmed (".globl " ++ name) ≠ streamMark := edge_append_left _ rfl rfl
  have hglobal : trimmed (".global " ++ name) ≠ streamMark := edge_append_left _ rfl rfl
  have htype : ∀ kind, trimmed (".type " ++ name ++ kind) ≠ streamMark := fun kind => by
    rw [String.append_assoc]
    exact edge_append_left _ rfl rfl
  have hlabel : trimmed (name ++ ":") ≠ streamMark := edge_append_right _ rfl rfl
  cases arch <;> refine ⟨rfl, ?_⟩ <;> simp only [header, intelPrologue, savedRegisters, List.map, List.cons_append,
    List.nil_append, List.dropLast, List.forall_mem_cons]
  case x86 =>
    exact ⟨by decide, by decide, hglobl, htype _, by decide, hlabel, by decide, by decide, by decide, by decide,
      by decide, by simp⟩
  case x8664 =>
    exact ⟨by decide, by decide, hglobl, htype _, by decide, hlabel, by decide, by decide, by decide, by decide,
      by decide, by decide, by decide, by simp⟩
  case armv7 => exact ⟨by decide, by decide, by decide, hglobal, htype _, hlabel, by decide, by simp⟩
  case armv8 => exact ⟨by decide, by decide, hglobal, htype _, hlabel, by decide, by decide, by simp⟩
  case armv8Sve => exact ⟨by decide, by decide, hglobal, htype _, hlabel, by decide, by decide, by simp⟩
  case ppc64 => exact ⟨by decide, by decide, by decide, hglobl, htype _, hlabel, by decide, by decide, by simp⟩

/-! ### The text of the loads -/

/-- A character of a load: registers and addresses are in lower case. -/
def isLoadChar (c : Char) : Bool := c.isDigit || c.isLower || c ∈ [' ', ',', '=', '@']

theorem isUpper_of_isLoadChar {c : Char} (h : isLoadChar c = true) : c.isUpper = false := by
  rw [Bool.eq_false_iff]
  intro hupper
  have hcapital := toNat_of_isUpper hupper
  simp only [isLoadChar, Bool.or_eq_true, List.mem_cons, List.not_mem_nil, or_false, decide_eq_true_eq] at h
  rcases h with (hdigit | hlower) | rfl | rfl | rfl | rfl
  · have hlow : c.toNat ≤ 57 := (Char.isDigit_iff_toNat.mp hdigit).2
    omega
  · have hsmall := toNat_of_isLower hlower
    omega
  all_goals exact absurd hupper (by decide)

/-- A text of such characters. -/
def IsLoadText (text : String) : Prop := text.toList.all isLoadChar = true

instance (text : String) : Decidable (IsLoadText text) := inferInstanceAs (Decidable (_ = true))

theorem isLoadText_iff {text : String} : IsLoadText text ↔ ∀ c ∈ text.toList, isLoadChar c = true := List.all_eq_true

theorem IsLoadText.append {a b : String} (ha : IsLoadText a) (hb : IsLoadText b) : IsLoadText (a ++ b) := by
  rw [IsLoadText, String.toList_append, List.all_append, ha, hb, Bool.and_self]

theorem isLoadText_hexDigits (n : Nat) : IsLoadText (hexDigits n) := by
  refine isLoadText_iff.mpr fun c h => ?_
  rw [hexDigits, String.toList_ofList] at h
  have hdigit : ∀ d < 16, isLoadChar (Nat.digitChar d) = true := by decide
  induction n using Nat.strong_induction_on with
  | _ n ih =>
    rw [Nat.toDigits_eq_if (by decide)] at h
    split at h
    · rename_i hlt
      rw [List.mem_singleton] at h
      rw [h]
      exact hdigit n hlt
    · rw [List.mem_append, List.mem_singleton] at h
      rcases h with h | rfl
      · exact ih (n / 16) (by omega) h
      · exact hdigit (n % 16) (Nat.mod_lt _ (by decide))

theorem isDigit_of_mem_toString {n : Nat} {c : Char} (h : c ∈ (toString n).toList) : c.isDigit = true := by
  rw [Nat.toString_eq_ofList_toDigits, String.toList_ofList] at h
  exact Nat.isDigit_of_mem_toDigits (by decide) (by decide) h

theorem isLoadText_streamLoads {arch : Arch} {register line : String} {address : Nat}
    (hregister : register ∈ arch.registers) (h : line ∈ arch.streamLoads register address) : IsLoadText line := by
  have hreg : IsLoadText register := by
    have hall : ∀ r ∈ arch.registers, IsLoadText r := by cases arch <;> decide
    exact hall register hregister
  have hcomma : IsLoadText ", " := by decide
  have hhex : IsLoadText ("0x" ++ hexDigits address) := .append (by decide) (isLoadText_hexDigits address)
  have hpair : ∀ op text, IsLoadText op → IsLoadText text → IsLoadText (op ++ register ++ ", " ++ text) :=
    fun op text hop htext => ((hop.append hreg).append hcomma).append htext
  have htriple : ∀ op field, IsLoadText op → IsLoadText field →
      IsLoadText (op ++ register ++ ", " ++ register ++ ", " ++ ("0x" ++ hexDigits address) ++ field) :=
    fun op field hop hfield => ((((hpair op _ hop hreg).append hcomma).append hhex).append hfield)
  cases arch with
  | x86 | x8664 =>
    rw [List.mem_singleton.mp h]
    exact hpair _ _ (by decide) hhex
  | armv7 | armv8 | armv8Sve =>
    rw [List.mem_singleton.mp h]
    exact (((IsLoadText.append (by decide) hreg).append (by decide)).append hhex)
  | ppc64 =>
    obtain ⟨op, hop, rfl⟩ := List.mem_map.mp h
    unfold Power.loadAddress Power.loadKnown at hop
    split at hop
    · rename_i n hn
      obtain rfl : Int.ofNat address = n := by
        split at hn
        · exact Option.some.inj (Option.filter_eq_some_iff.mp hn).1
        · simp at hn
      rw [List.mem_singleton.mp hop]
      refine hpair "li " (toString address) (by decide) (isLoadText_iff.mpr fun c hc => ?_)
      rw [isLoadChar, isDigit_of_mem_toString hc, Bool.true_or, Bool.true_or]
    · simp only [List.mem_cons, List.not_mem_nil, or_false] at hop
      rcases hop with rfl | rfl | rfl | rfl | rfl
      · exact (hpair "lis " _ (by decide) hhex).append (by decide)
      · exact htriple "ori " _ (by decide) (by decide)
      · exact ((hpair "rldicr " _ (by decide) hreg).append (by decide))
      · exact htriple "oris " _ (by decide) (by decide)
      · exact htriple "ori " _ (by decide) (by decide)

end BenchKernel
