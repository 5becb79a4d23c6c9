import BenchKernel.Proofs.Grammar.Tag
import Mathlib.Data.List.Forall2

/-! # Arguments

The arguments of a marker stand between its first opening parenthesis and the one that closes it, and are separated by
the commas that lie in no inner parentheses. How deep a place lies is the number of parentheses opened before it and not
closed. Both scans of a marker follow this number: one stops where it returns to zero, the other cuts where it is zero. -/

namespace BenchKernel.Marker

open Text

variable {c sep : Char} {d : Int} {n : Nat} {cs inner part : List Char} {parts : List (List Char)}

/-! ### Depth -/

/-- How many more parentheses a text opens than it closes. -/
def depth (cs : List Char) : Int := cs.count '(' - cs.count ')'

/-- A text closes the parentheses that it opens, and none before it has opened it. -/
def Balanced (cs : List Char) : Prop := (∀ front, front <+: cs → 0 ≤ depth front) ∧ depth cs = 0

/-- No comma of a text lies outside its parentheses. -/
def Undivided (cs : List Char) : Prop := ∀ front rest, cs = front ++ ',' :: rest → depth front ≠ 0

/-- What a character adds to the depth. -/
def weight (c : Char) : Int := if c = '(' then 1 else if c = ')' then -1 else 0

@[simp] theorem depth_nil : depth [] = 0 := rfl

theorem depth_cons (c : Char) (cs : List Char) : depth (c :: cs) = weight c + depth cs := by
  simp only [depth, weight, List.count_cons, beq_iff_eq]
  by_cases hopen : c = '('
  · simp [hopen]
    omega
  · by_cases hclose : c = ')' <;> simp [hopen, hclose]
    omega

/-- From a depth on, a text never goes below zero and ends at zero. -/
def Returns (d : Int) (cs : List Char) : Prop := (∀ front, front <+: cs → 0 ≤ d + depth front) ∧ d + depth cs = 0

/-- A text that returns to zero from a depth without a comma at depth zero. -/
def Segment (d : Int) (cs : List Char) : Prop :=
  Returns d cs ∧ ∀ front rest, cs = front ++ ',' :: rest → d + depth front ≠ 0

theorem returns_nil : Returns d [] ↔ d = 0 := by
  simp only [Returns, List.prefix_nil, forall_eq, depth_nil]
  omega

theorem returns_cons : Returns d (c :: cs) ↔ 0 ≤ d ∧ Returns (d + weight c) cs := by
  simp only [Returns, List.prefix_cons_iff, depth_cons, ← Int.add_assoc]
  constructor
  · rintro ⟨hfront, hend⟩
    refine ⟨by simpa using hfront [] (Or.inl rfl), fun front h => ?_, hend⟩
    have := hfront (c :: front) (Or.inr ⟨front, rfl, h⟩)
    rwa [depth_cons, ← Int.add_assoc] at this
  · rintro ⟨hd, hfront, hend⟩
    refine ⟨?_, hend⟩
    rintro front (rfl | ⟨front, rfl, h⟩)
    · simpa using hd
    · rw [depth_cons, ← Int.add_assoc]
      exact hfront front h

theorem segment_nil : Segment d [] ↔ d = 0 := by
  simp [Segment, returns_nil]

theorem segment_cons : Segment d (c :: cs) ↔ 0 ≤ d ∧ ¬(c = ',' ∧ d = 0) ∧ Segment (d + weight c) cs := by
  rw [Segment, returns_cons, Segment]
  constructor
  · rintro ⟨⟨hd, hreturns⟩, hcomma⟩
    refine ⟨hd, fun ⟨hc, hzero⟩ => hcomma [] cs (by rw [hc]; rfl) (by simpa using hzero), hreturns, ?_⟩
    rintro front rest rfl
    have := hcomma (c :: front) rest rfl
    rwa [depth_cons, ← Int.add_assoc] at this
  · rintro ⟨hd, hc, hreturns, hcomma⟩
    refine ⟨⟨hd, hreturns⟩, fun front rest h => ?_⟩
    cases front with
    | nil =>
      obtain ⟨rfl, -⟩ := List.cons.inj h
      simpa using hc
    | cons x front =>
      obtain ⟨rfl, htail⟩ := List.cons.inj h
      rw [depth_cons, ← Int.add_assoc]
      exact hcomma front rest htail

instance decidableSegment : (d : Int) → (cs : List Char) → Decidable (Segment d cs)
  | _, [] => decidable_of_iff _ segment_nil.symm
  | d, c :: cs =>
    have := decidableSegment (d + weight c) cs
    decidable_of_iff _ segment_cons.symm

theorem Returns.nonneg (h : Returns d cs) : 0 ≤ d := by
  simpa using h.1 [] List.nil_prefix

theorem returns_zero : Returns 0 cs ↔ Balanced cs := by
  simp only [Returns, Balanced, Int.zero_add]

theorem segment_zero : Segment 0 cs ↔ Balanced cs ∧ Undivided cs := by
  simp only [Segment, Undivided, returns_zero, Int.zero_add]

/-! ### Where the parenthesis closes -/

theorem cutAt?_eq_some_iff {before after : List Char} :
    cutAt? sep cs = some (before, after) ↔ cs = before ++ sep :: after ∧ sep ∉ before := by
  induction cs generalizing before after with
  | nil => simp [cutAt?]
  | cons c cs ih =>
    rw [cutAt?]
    by_cases hc : c = sep
    · subst hc
      rw [if_pos rfl]
      cases before with
      | nil => simp
      | cons x before =>
        simp only [List.cons_append, List.cons.injEq, List.mem_cons, not_or]
        exact ⟨fun h => (by cases h), fun ⟨⟨hx, _⟩, hne, _⟩ => absurd hx hne⟩
    · rw [if_neg hc]
      cases before with
      | nil => simp [hc]
      | cons x before =>
        simp only [Option.map_eq_some_iff, Prod.exists, ih, Prod.mk.injEq, List.cons_append, List.cons.injEq,
          List.mem_cons, not_or]
        constructor
        · rintro ⟨front, rest, ⟨rfl, hnot⟩, ⟨rfl, rfl⟩, rfl⟩
          exact ⟨⟨rfl, rfl⟩, Ne.symm hc, hnot⟩
        · rintro ⟨⟨rfl, rfl⟩, -, hnot⟩
          exact ⟨before, after, ⟨rfl, hnot⟩, ⟨rfl, rfl⟩, rfl⟩

/-- Both scans go on with the depth behind a character that neither ends them nor cuts. -/
theorem toNat_weight (h : ¬(c = ')' ∧ n = 0)) : (((n + weight c).toNat : Nat) : Int) = n + weight c := by
  have : 0 ≤ (n : Int) + weight c := by
    unfold weight
    split
    · omega
    · split
      · rename_i hclose
        have : n ≠ 0 := fun hn => h ⟨hclose, hn⟩
        omega
      · omega
  omega

theorem untilClosed_cons (h : ¬(c = ')' ∧ n = 0)) :
    untilClosed n (c :: cs) = (untilClosed (n + weight c).toNat cs).map (c :: ·) := by
  by_cases hopen : c = '('
  · subst hopen
    rw [untilClosed]
    rfl
  · by_cases hclose : c = ')'
    · subst hclose
      obtain ⟨m, rfl⟩ := Nat.exists_eq_succ_of_ne_zero fun hn => h ⟨rfl, hn⟩
      rw [untilClosed]
      congr 2
      have hweight : weight ')' = -1 := by decide
      rw [hweight]
      omega
    · have hweight : (n + weight c).toNat = n := by simp [weight, hopen, hclose]
      rw [hweight, untilClosed] <;> simp_all

theorem untilClosed_eq_some_iff :
    untilClosed n cs = some inner ↔ ∃ after, cs = inner ++ ')' :: after ∧ Returns n inner := by
  induction cs generalizing n inner with
  | nil => simp [untilClosed]
  | cons c cs ih =>
    by_cases hstop : c = ')' ∧ n = 0
    · obtain ⟨rfl, rfl⟩ := hstop
      rw [untilClosed, Option.some.injEq]
      constructor
      · rintro rfl
        exact ⟨cs, rfl, returns_nil.mpr rfl⟩
      · rintro ⟨after, h, hreturns⟩
        cases inner with
        | nil => rfl
        | cons x inner =>
          obtain ⟨rfl, -⟩ := List.cons.inj h
          exact absurd (returns_cons.mp hreturns).2.nonneg (by decide)
    · rw [untilClosed_cons hstop, Option.map_eq_some_iff]
      simp only [ih, toNat_weight hstop]
      constructor
      · rintro ⟨inner, ⟨after, rfl, hreturns⟩, rfl⟩
        exact ⟨after, rfl, returns_cons.mpr ⟨Int.natCast_nonneg n, hreturns⟩⟩
      · rintro ⟨after, h, hreturns⟩
        cases inner with
        | nil =>
          obtain ⟨rfl, -⟩ := List.cons.inj h
          exact absurd ⟨rfl, by simpa using returns_nil.mp hreturns⟩ hstop
        | cons x inner =>
          obtain ⟨rfl, htail⟩ := List.cons.inj h
          exact ⟨inner, ⟨after, htail, (returns_cons.mp hreturns).2⟩, rfl⟩

/-- A closing parenthesis is found if the depth returns to zero anywhere. -/
theorem exists_untilClosed_iff :
    (∃ inner, untilClosed n cs = some inner) ↔ ∃ front, front <+: cs ∧ (n : Int) + 1 + depth front = 0 := by
  induction cs generalizing n with
  | nil =>
    simp only [untilClosed, List.prefix_nil, exists_eq_left, depth_nil]
    exact ⟨fun ⟨_, h⟩ => (by cases h), fun h => by omega⟩
  | cons c cs ih =>
    by_cases hstop : c = ')' ∧ n = 0
    · obtain ⟨rfl, rfl⟩ := hstop
      exact ⟨fun _ => ⟨[')'], ⟨cs, rfl⟩, by decide⟩, fun _ => ⟨[], by rw [untilClosed]⟩⟩
    · have hcons : (∃ inner, untilClosed n (c :: cs) = some inner) ↔
          ∃ inner, untilClosed (n + weight c).toNat cs = some inner := by
        rw [untilClosed_cons hstop]
        cases untilClosed (n + weight c).toNat cs <;> simp
      rw [hcons, ih, toNat_weight hstop]
      constructor
      · rintro ⟨front, hfront, h⟩
        refine ⟨c :: front, List.prefix_cons_iff.mpr (Or.inr ⟨front, rfl, hfront⟩), ?_⟩
        rw [depth_cons]
        omega
      · rintro ⟨front, hfront, h⟩
        rcases List.prefix_cons_iff.mp hfront with rfl | ⟨tail, rfl, htail⟩
        · rw [depth_nil] at h
          omega
        · refine ⟨tail, htail, ?_⟩
          rw [depth_cons] at h
          omega

/-! ### Where the text is cut -/

/-- A text cut at its commas of depth zero: the parts are balanced, so that the commas between them have that depth, and
    no part has such a comma inside. -/
def CutAtCommas (cs : List Char) (parts : List (List Char)) : Prop :=
  parts ≠ [] ∧ cs = [','].intercalate parts ∧ ∀ part ∈ parts, Balanced part ∧ Undivided part

theorem splitArguments_cons (hcomma : ¬(c = ',' ∧ n = 0))
    (h : splitArguments (n + weight c).toNat cs = part :: parts) : splitArguments n (c :: cs) = (c :: part) :: parts := by
  have hdepth : (if c = '(' then n + 1 else if c = ')' then n - 1 else n) = (n + weight c).toNat := by
    unfold weight
    split
    · rfl
    · split <;> omega
  simp only [splitArguments, if_neg hcomma, hdepth, h]

/-- A part is read up to the comma behind it or to the end of the text. -/
theorem splitArguments_segment (h : Segment n part) :
    splitArguments n part = [part] ∧ ∀ rest, splitArguments n (part ++ ',' :: rest) = part :: splitArguments 0 rest := by
  induction part generalizing n with
  | nil =>
    obtain rfl : n = 0 := by simpa using segment_nil.mp h
    exact ⟨rfl, fun rest => by simp [splitArguments]⟩
  | cons c part ih =>
    obtain ⟨-, hcomma, htail⟩ := segment_cons.mp h
    have hcomma : ¬(c = ',' ∧ n = 0) := by simpa using hcomma
    have hdepth : (((n + weight c).toNat : Nat) : Int) = n + weight c := Int.toNat_of_nonneg htail.1.nonneg
    obtain ⟨hend, hrest⟩ := ih (hdepth.symm ▸ htail)
    exact ⟨splitArguments_cons hcomma hend, fun rest => splitArguments_cons hcomma (hrest rest)⟩

/-- A text that is cut is one part, or a part before a comma and a text that is cut again. -/
theorem CutAtCommas.induction {motive : List Char → List (List Char) → Prop} (h : CutAtCommas cs parts)
    (one : ∀ part, Segment 0 part → motive part [part])
    (more : ∀ part rest parts, Segment 0 part → motive rest parts → motive (part ++ ',' :: rest) (part :: parts)) :
    motive cs parts := by
  obtain ⟨hne, rfl, hparts⟩ := h
  induction parts with
  | nil => exact absurd rfl hne
  | cons part parts ih =>
    rw [List.forall_mem_cons] at hparts
    have hpart := segment_zero.mpr hparts.1
    cases parts with
    | nil =>
      rw [List.intercalate_singleton]
      exact one part hpart
    | cons next parts =>
      rw [List.intercalate_cons_cons, List.append_assoc, List.singleton_append]
      exact more part _ _ hpart (ih (by simp) hparts.2)

theorem splitArguments_eq (h : CutAtCommas cs parts) : splitArguments 0 cs = parts := by
  refine h.induction (motive := fun cs parts => splitArguments 0 cs = parts) ?_ ?_
  · intro part hpart
    exact (splitArguments_segment (n := 0) hpart).1
  · intro part rest parts hpart ih
    rw [(splitArguments_segment (n := 0) hpart).2, ih]

/-- A text that returns to zero has parts, of which the first one goes on from the depth at its start. -/
theorem Returns.exists_parts (h : Returns d cs) :
    ∃ part parts, cs = [','].intercalate (part :: parts) ∧ Segment d part ∧ ∀ p ∈ parts, Segment 0 p := by
  induction cs generalizing d with
  | nil => exact ⟨[], [], rfl, segment_nil.mpr (returns_nil.mp h), by simp⟩
  | cons c cs ih =>
    obtain ⟨hd, htail⟩ := returns_cons.mp h
    obtain ⟨part, parts, rfl, hpart, hparts⟩ := ih htail
    by_cases hcomma : c = ',' ∧ d = 0
    · obtain ⟨rfl, rfl⟩ := hcomma
      exact ⟨[], part :: parts, rfl, segment_nil.mpr rfl, List.forall_mem_cons.mpr ⟨hpart, hparts⟩⟩
    · refine ⟨c :: part, parts, ?_, segment_cons.mpr ⟨hd, hcomma, hpart⟩, hparts⟩
      cases parts <;> simp [List.intercalate_cons_cons]

theorem Balanced.exists_cutAtCommas (h : Balanced cs) : ∃ parts, CutAtCommas cs parts := by
  obtain ⟨part, parts, rfl, hpart, hparts⟩ := (returns_zero.mpr h).exists_parts
  exact ⟨part :: parts, by simp, rfl, List.forall_mem_cons.mpr ⟨segment_zero.mp hpart, fun p hp =>
    segment_zero.mp (hparts p hp)⟩⟩

theorem Returns.append_comma {rest : List Char} (h : Returns d cs) (hrest : Returns 0 rest) :
    Returns d (cs ++ ',' :: rest) := by
  induction cs generalizing d with
  | nil =>
    obtain rfl := returns_nil.mp h
    exact returns_cons.mpr ⟨Int.le_refl 0, hrest⟩
  | cons c cs ih =>
    obtain ⟨hd, htail⟩ := returns_cons.mp h
    exact returns_cons.mpr ⟨hd, ih htail⟩

theorem CutAtCommas.balanced (h : CutAtCommas cs parts) : Balanced cs :=
  returns_zero.mp (h.induction (motive := fun cs _ => Returns 0 cs) (fun _ hpart => hpart.1)
    fun _ _ _ hpart hrest => hpart.1.append_comma hrest)

/-! ### Blanks around a part -/

theorem weight_of_isBlank (h : isBlank c = true) : weight c = 0 ∧ c ≠ ',' := by
  have hopen : c ≠ '(' := by
    rintro rfl
    exact absurd h (by decide)
  have hclose : c ≠ ')' := by
    rintro rfl
    exact absurd h (by decide)
  refine ⟨by rw [weight, if_neg hopen, if_neg hclose], ?_⟩
  rintro rfl
  exact absurd h (by decide)

theorem Segment.blank_append {left : List Char} (h : Segment d cs) (hleft : ∀ c ∈ left, isBlank c = true) :
    Segment d (left ++ cs) := by
  induction left with
  | nil => exact h
  | cons c left ih =>
    rw [List.forall_mem_cons] at hleft
    obtain ⟨hweight, hcomma⟩ := weight_of_isBlank hleft.1
    rw [List.cons_append, segment_cons, hweight, Int.add_zero]
    exact ⟨h.1.nonneg, fun hc => hcomma hc.1, ih hleft.2⟩

theorem Segment.append_blank {right : List Char} (h : Segment d cs) (hright : ∀ c ∈ right, isBlank c = true) :
    Segment d (cs ++ right) := by
  induction cs generalizing d with
  | nil => simpa using h.blank_append hright
  | cons c cs ih =>
    obtain ⟨hd, hcomma, htail⟩ := segment_cons.mp h
    exact segment_cons.mpr ⟨hd, hcomma, ih htail⟩

/-- A text is an argument with blanks around it. -/
def Pads (argument text : String) : Prop :=
  ∃ left right, isBlankText left = true ∧ isBlankText right = true ∧ text = left ++ argument ++ right

/-- A text that can stand as an argument. -/
structure IsArgument (argument : String) : Prop where
  trimmed : trimmed argument = argument
  balanced : Balanced argument.toList
  undivided : Undivided argument.toList

theorem Pads.trimmed_eq {argument text : String} (h : Pads argument text) : Text.trimmed text = Text.trimmed argument := by
  obtain ⟨left, right, hleft, hright, rfl⟩ := h
  rw [Text.trimmed, String.toList_append, String.toList_append, trim_pad (by simpa [isBlankText] using hleft)
    (by simpa [isBlankText] using hright), Text.trimmed]

theorem Pads.trim_eq {argument text : String} (h : Pads argument text) (ha : IsArgument argument) :
    String.ofList (trim text.toList) = argument :=
  h.trimmed_eq.trans ha.trimmed

theorem Pads.isPart {argument text : String} (h : Pads argument text) (ha : IsArgument argument) :
    Balanced text.toList ∧ Undivided text.toList := by
  obtain ⟨left, right, hleft, hright, rfl⟩ := h
  have hsegment : Segment 0 argument.toList := segment_zero.mpr ⟨ha.balanced, ha.undivided⟩
  rw [String.toList_append, String.toList_append]
  exact segment_zero.mp ((hsegment.blank_append (by simpa [isBlankText] using hleft)).append_blank
    (by simpa [isBlankText] using hright))

/-! ### The arguments of a line -/

theorem arguments_eq_ok_iff {line : String} {arguments : List String} : Marker.arguments line = .ok arguments ↔
    ∃ before inner after, line.toList = before ++ '(' :: (inner ++ ')' :: after) ∧ '(' ∉ before ∧ Balanced inner ∧
      arguments = argumentsOf inner := by
  constructor
  · intro h
    unfold Marker.arguments at h
    split at h
    · cases h
    · rename_i before rest hcut
      split at h
      · cases h
      · rename_i inner hclosed
        cases h
        obtain ⟨hline, hbefore⟩ := cutAt?_eq_some_iff.mp hcut
        obtain ⟨after, rfl, hreturns⟩ := untilClosed_eq_some_iff.mp hclosed
        exact ⟨before, inner, after, hline, hbefore, returns_zero.mp hreturns, rfl⟩
  · rintro ⟨before, inner, after, hline, hbefore, hinner, rfl⟩
    have hcut := cutAt?_eq_some_iff.mpr ⟨hline, hbefore⟩
    have hclosed : untilClosed 0 (inner ++ ')' :: after) = some inner :=
      untilClosed_eq_some_iff.mpr ⟨after, rfl, returns_zero.mpr hinner⟩
    simp only [Marker.arguments, hcut, hclosed]

theorem exists_arguments_iff {line : String} : (∃ arguments, Marker.arguments line = .ok arguments) ↔
    ∃ before rest front, line.toList = before ++ '(' :: rest ∧ '(' ∉ before ∧ front <+: rest ∧
      depth ('(' :: front) = 0 := by
  have hdepth : ∀ front, depth ('(' :: front) = ((0 : Nat) : Int) + 1 + depth front := fun front => depth_cons _ _
  simp only [hdepth]
  constructor
  · rintro ⟨arguments, h⟩
    obtain ⟨before, inner, after, hline, hbefore, hinner, -⟩ := arguments_eq_ok_iff.mp h
    obtain ⟨front, hfront, hzero⟩ := exists_untilClosed_iff.mp
      ⟨inner, untilClosed_eq_some_iff.mpr ⟨after, rfl, returns_zero.mpr hinner⟩⟩
    exact ⟨before, _, front, hline, hbefore, hfront, hzero⟩
  · rintro ⟨before, rest, front, hline, hbefore, hfront, hzero⟩
    obtain ⟨inner, hinner⟩ := exists_untilClosed_iff.mpr ⟨front, hfront, hzero⟩
    obtain ⟨after, rfl, hreturns⟩ := untilClosed_eq_some_iff.mp hinner
    exact ⟨_, arguments_eq_ok_iff.mpr ⟨before, inner, after, hline, hbefore, returns_zero.mp hreturns, rfl⟩⟩

theorem argumentsOf_eq (hblank : ¬∀ c ∈ inner, isBlank c = true) (h : CutAtCommas inner parts) :
    argumentsOf inner = parts.map fun part => String.ofList (trim part) := by
  rw [argumentsOf, if_neg (by simpa using hblank), splitArguments_eq h]

theorem argumentsOf_of_blank (hblank : ∀ c ∈ inner, isBlank c = true) : argumentsOf inner = [] := by
  rw [argumentsOf, if_pos (by simpa using hblank)]

/-- Printed arguments are blank only if there is none, or one that is empty. -/
theorem eq_of_blank_printed {arguments texts : List String} (hpads : List.Forall₂ Pads arguments texts)
    (harguments : ∀ a ∈ arguments, IsArgument a) (hblank : ∀ c ∈ (",".intercalate texts).toList, isBlank c = true) :
    arguments = [] ∨ arguments = [""] := by
  rw [String.toList_intercalate] at hblank
  cases hpads with
  | nil => exact Or.inl rfl
  | cons hfirst hrest =>
    rename_i argument text arguments texts
    cases hrest with
    | cons hnext hrest =>
      refine absurd (hblank ',' ?_) (by decide)
      rw [List.map_cons, List.map_cons, List.intercalate_cons_cons]
      exact List.mem_append_left _ (List.mem_append_right _ (by decide))
    | nil =>
      rw [List.map_singleton, List.intercalate_singleton] at hblank
      have htrim : trim text.toList = [] := by
        rw [trim, trimStart_eq_nil_iff.mpr hblank]
        rfl
      refine Or.inr (congrArg (fun a => [a]) ?_)
      rw [← hfirst.trim_eq (harguments _ List.mem_cons_self), htrim]

theorem parts_of_printed {arguments texts : List String} (hpads : List.Forall₂ Pads arguments texts)
    (harguments : ∀ a ∈ arguments, IsArgument a) :
    (∀ part ∈ texts.map String.toList, Balanced part ∧ Undivided part) ∧
      (texts.map String.toList).map (fun part => String.ofList (trim part)) = arguments := by
  induction hpads with
  | nil => simp
  | cons hfirst hrest ih =>
    rw [List.forall_mem_cons] at harguments
    obtain ⟨hparts, htrim⟩ := ih harguments.2
    rw [List.map_cons, List.map_cons, List.forall_mem_cons, hfirst.trim_eq harguments.1, htrim]
    exact ⟨⟨hfirst.isPart harguments.1, hparts⟩, rfl⟩

theorem arguments_of_printed {before after : String} {arguments texts : List String} (hbefore : '(' ∉ before.toList)
    (hne : arguments ≠ [""]) (harguments : ∀ a ∈ arguments, IsArgument a)
    (hpads : List.Forall₂ Pads arguments texts) :
    Marker.arguments (before ++ "(" ++ ",".intercalate texts ++ ")" ++ after) = .ok arguments := by
  have hline : (before ++ "(" ++ ",".intercalate texts ++ ")" ++ after).toList =
      before.toList ++ '(' :: ((",".intercalate texts).toList ++ ')' :: after.toList) := by
    simp
  have hinner : (",".intercalate texts).toList = [','].intercalate (texts.map String.toList) :=
    String.toList_intercalate
  obtain ⟨hparts, htrim⟩ := parts_of_printed hpads harguments
  refine arguments_eq_ok_iff.mpr ⟨before.toList, _, after.toList, hline, hbefore, ?_, ?_⟩
  all_goals by_cases htexts : texts = []
  · rw [htexts]
    exact returns_zero.mp (returns_nil.mpr rfl)
  · exact CutAtCommas.balanced ⟨by simpa using htexts, hinner, hparts⟩
  · subst htexts
    cases hpads
    rfl
  · by_cases hblank : ∀ c ∈ (",".intercalate texts).toList, isBlank c = true
    · rw [argumentsOf_of_blank hblank]
      exact (eq_of_blank_printed hpads harguments hblank).resolve_right hne
    · rw [argumentsOf_eq hblank ⟨by simpa using htexts, hinner, hparts⟩, htrim]

/-- Arguments are read from the lines whose first parenthesis is closed, as the trimmed parts between its commas, and
    what was printed is read back, whatever blanks stand around the arguments. -/
theorem arguments_read_and_printed :
    (∀ line, (∃ arguments, Marker.arguments line = .ok arguments) ↔
      ∃ before rest front, line.toList = before ++ '(' :: rest ∧ '(' ∉ before ∧ front <+: rest ∧
        depth ('(' :: front) = 0) ∧
    (∀ line arguments, Marker.arguments line = .ok arguments → ∃ before inner after,
      line.toList = before ++ '(' :: (inner ++ ')' :: after) ∧ '(' ∉ before ∧ Balanced inner ∧
      ((∀ c ∈ inner, isBlank c = true) → arguments = []) ∧
      ((¬∀ c ∈ inner, isBlank c = true) → (∃ parts, CutAtCommas inner parts) ∧
        ∀ parts, CutAtCommas inner parts → arguments = parts.map fun part => String.ofList (trim part))) ∧
    (∀ before after arguments texts, '(' ∉ before.toList → arguments ≠ [""] → (∀ a ∈ arguments, IsArgument a) →
      List.Forall₂ Pads arguments texts →
      Marker.arguments (before ++ "(" ++ ",".intercalate texts ++ ")" ++ after) = .ok arguments) := by
  refine ⟨fun line => exists_arguments_iff, fun line arguments h => ?_,
    fun before after arguments texts => arguments_of_printed⟩
  obtain ⟨before, inner, after, hline, hbefore, hinner, rfl⟩ := arguments_eq_ok_iff.mp h
  exact ⟨before, inner, after, hline, hbefore, hinner, argumentsOf_of_blank,
    fun hblank => ⟨hinner.exists_cutAtCommas, fun parts => argumentsOf_eq hblank⟩⟩

/-- The arguments `l`, `rax=(A,B)`, an empty one and `<`, printed with blanks and with a parenthesis behind them. -/
theorem arguments_of_sample :
    (∀ a ∈ ["l", "rax=(A,B)", "", "<"], IsArgument a) ∧
      Marker.arguments (" LOOP" ++ "(" ++ ",".intercalate [" l", "rax=(A,B) ", "\t", "<"] ++ ")" ++ ", f(x") =
        .ok ["l", "rax=(A,B)", "", "<"] := by
  have hsample : ∀ a ∈ ["l", "rax=(A,B)", "", "<"], trimmed a = a ∧ Segment 0 a.toList := by decide
  have harguments : ∀ a ∈ ["l", "rax=(A,B)", "", "<"], IsArgument a := fun a ha =>
    have hparts := segment_zero.mp (hsample a ha).2
    ⟨(hsample a ha).1, hparts.1, hparts.2⟩
  refine ⟨harguments, arguments_read_and_printed.2.2 " LOOP" ", f(x" _ _ (by decide) (by decide) harguments ?_⟩
  exact .cons ⟨" ", "", by decide⟩ (.cons ⟨"", " ", by decide⟩ (.cons ⟨"\t", "", by decide⟩
    (.cons ⟨"", "", by decide⟩ .nil)))

end BenchKernel.Marker
