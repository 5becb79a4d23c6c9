import BenchKernel.Proofs.Machine.Jump
import BenchKernel.Proofs.Text.Runs
import BenchKernel.Target.Literal

/-! # Lines of assembler

How an assembler takes a line of text: as words between blanks and commas, of which the first decides whether the line
is a comment, a label or an instruction. Integer constants are decimal without leading zeros or hexadecimal. What an
instruction does is left to each machine. -/

namespace BenchKernel.Assembler
open Machine

variable {σ : Type}

/-! ### Words -/

def isSeparator (c : Char) : Bool := Text.isBlank c || c == ','

/-- The words of a text that goes on after the word `current`. -/
def splitWords : (current : List Char) → List Char → List (List Char)
  | current, [] => if current = [] then [] else [current]
  | current, c :: cs =>
    if isSeparator c then if current = [] then splitWords [] cs else current :: splitWords [] cs
    else splitWords (current ++ [c]) cs

def words (line : String) : List String := (splitWords [] line.toList).map String.ofList

structure IsWord (w : String) : Prop where
  ne : w.toList ≠ []
  plain : ∀ c ∈ w.toList, isSeparator c = false

instance (w : String) : Decidable (IsWord w) :=
  decidable_of_iff (w.toList.isEmpty = false ∧ w.toList.all (fun c => !isSeparator c) = true)
    ⟨fun h => ⟨List.isEmpty_eq_false_iff.mp h.1, by simpa using h.2⟩,
      fun h => ⟨List.isEmpty_eq_false_iff.mpr h.ne, by simpa using h.plain⟩⟩

/-- An instruction as text: the mnemonic and the operands with commas between them. -/
def instruction (mnemonic : String) : List String → String
  | [] => mnemonic
  | operand :: operands => mnemonic ++ " " ++ operands.foldl (fun text w => text ++ ", " ++ w) operand

theorem instruction_two (mnemonic a b : String) : instruction mnemonic [a, b] = mnemonic ++ " " ++ a ++ ", " ++ b := by
  simp [instruction, String.append_assoc]

theorem instruction_three (mnemonic a b c : String) :
    instruction mnemonic [a, b, c] = mnemonic ++ " " ++ a ++ ", " ++ b ++ ", " ++ c := by
  simp [instruction, String.append_assoc]

theorem splitWords_append {current w : List Char} (h : ∀ c ∈ w, isSeparator c = false) (rest : List Char) :
    splitWords current (w ++ rest) = splitWords (current ++ w) rest := by
  induction w generalizing current with
  | nil => rw [List.append_nil, List.nil_append]
  | cons c w ih =>
    rw [List.forall_mem_cons] at h
    rw [List.cons_append, splitWords, h.1, if_neg Bool.false_ne_true, ih h.2, List.append_assoc, List.singleton_append]

theorem words_separator {w : String} (h : IsWord w) {c : Char} (hc : isSeparator c = true) {cs : List Char} :
    splitWords [] (w.toList ++ c :: cs) = w.toList :: splitWords [] cs := by
  rw [splitWords_append h.plain, List.nil_append, splitWords, if_pos hc, if_neg h.ne]

theorem splitWords_separator {c : Char} (hc : isSeparator c = true) (cs : List Char) :
    splitWords [] (c :: cs) = splitWords [] cs := by
  rw [splitWords, if_pos hc, if_pos rfl]

theorem words_of_isWord {w : String} (h : IsWord w) : words w = [w] := by
  have hsplit : splitWords [] w.toList = [w.toList] := by
    have := @splitWords_append [] w.toList h.plain []
    rw [List.append_nil, List.nil_append] at this
    rw [this, splitWords, if_neg h.ne]
  rw [words, hsplit, List.map_singleton, String.ofList_toList]

theorem words_blank {w : String} (h : IsWord w) (rest : String) : words (w ++ " " ++ rest) = w :: words rest := by
  have hlist : (w ++ " " ++ rest).toList = w.toList ++ ' ' :: rest.toList := by simp
  rw [words, hlist, words_separator h (by decide), List.map_cons, String.ofList_toList]
  rfl

theorem words_comma {w : String} (h : IsWord w) (rest : String) : words (w ++ ", " ++ rest) = w :: words rest := by
  have hlist : (w ++ ", " ++ rest).toList = w.toList ++ ',' :: ' ' :: rest.toList := by simp
  rw [words, hlist, words_separator h (by decide), splitWords_separator (by decide), List.map_cons,
    String.ofList_toList]
  rfl

theorem foldl_comma (first text : String) (operands : List String) :
    operands.foldl (fun text w => text ++ ", " ++ w) (first ++ text) =
      first ++ operands.foldl (fun text w => text ++ ", " ++ w) text := by
  induction operands generalizing text with
  | nil => rfl
  | cons w operands ih =>
    have hassoc : first ++ text ++ ", " ++ w = first ++ (text ++ ", " ++ w) := by simp only [String.append_assoc]
    rw [List.foldl_cons, List.foldl_cons, hassoc, ih]

theorem words_operands {operand : String} {operands : List String} (h : ∀ w ∈ operand :: operands, IsWord w) :
    words (operands.foldl (fun text w => text ++ ", " ++ w) operand) = operand :: operands := by
  induction operands generalizing operand with
  | nil => exact words_of_isWord (h operand List.mem_cons_self)
  | cons w operands ih =>
    rw [List.forall_mem_cons] at h
    rw [List.foldl_cons, foldl_comma (operand ++ ", ") w, words_comma h.1, ih h.2]

theorem words_instruction {mnemonic : String} {operands : List String}
    (hmnemonic : IsWord mnemonic) (h : ∀ w ∈ operands, IsWord w) :
    words (instruction mnemonic operands) = mnemonic :: operands := by
  cases operands with
  | nil => exact words_of_isWord hmnemonic
  | cons operand operands => rw [instruction, words_blank hmnemonic, words_operands h]

/-! ### Symbols -/

/-- The code points of the characters that names are made of, as closed ranges in increasing order. -/
def symbolRanges : List (Nat × Nat) := [(36, 36), (46, 46), (48, 57), (65, 90), (95, 95), (97, 122)]

/-- Whether a character is a letter, a digit, an underscore, a dot or a dollar sign. -/
def isSymbolChar (c : Char) : Bool := Text.inRanges symbolRanges c.toNat

/-- Whether a text can name a place in the code. -/
def isSymbol (text : String) : Bool :=
  text.toList.head?.any (fun c => !c.isDigit) && text.toList.all isSymbolChar

theorem isSeparator_of_isSymbolChar {c : Char} (h : isSymbolChar c = true) : isSeparator c = false := by
  have hcomma : c ≠ ',' := by
    rintro rfl
    cases h
  simp only [isSymbolChar, symbolRanges, Text.inRanges, List.any_cons, List.any_nil, Bool.or_false, Bool.or_eq_true,
    Bool.and_eq_true, decide_eq_true_eq] at h
  simp only [isSeparator, beq_eq_false_iff_ne.mpr hcomma, Text.isBlank, Text.inRanges, Text.blankRanges,
    List.any_cons, List.any_nil, Bool.or_false, Bool.or_eq_false_iff, Bool.and_eq_false_iff, decide_eq_false_iff_not]
  omega

theorem isWord_of_isSymbol {text : String} (h : isSymbol text = true) : IsWord text := by
  rw [isSymbol, Bool.and_eq_true, List.all_eq_true] at h
  exact ⟨fun hnil => by simp [hnil] at h, fun c hc => isSeparator_of_isSymbolChar (h.2 c hc)⟩

theorem isSymbol_append {text more : String} (h : isSymbol text = true) (hmore : more.toList.all isSymbolChar = true) :
    isSymbol (text ++ more) = true := by
  have hne := (isWord_of_isSymbol h).ne
  rw [isSymbol, Bool.and_eq_true] at h ⊢
  rw [String.toList_append, List.head?_append_of_ne_nil _ hne, List.all_append, h.2, hmore]
  exact ⟨h.1, rfl⟩

/-! ### Constants -/

/-- The number that digits of a base stand for after a number already read. -/
def digitsFrom? (base : Nat) : (read : Nat) → List Char → Option Nat
  | read, [] => some read
  | read, c :: cs =>
    match Number.digit? base c with
    | none => none
    | some d => digitsFrom? base (read * base + d) cs

/-- A constant without a sign. -/
def magnitude? : List Char → Option Nat
  | [] => none
  | ['0'] => some 0
  | '0' :: 'x' :: c :: cs => digitsFrom? 16 0 (c :: cs)
  | '0' :: 'X' :: c :: cs => digitsFrom? 16 0 (c :: cs)
  | '0' :: _ => none
  | cs => digitsFrom? 10 0 cs

/-- The value of an integer constant. -/
def constant? (text : String) : Option Int :=
  match text.toList with
  | '-' :: cs => (magnitude? cs).map fun n : Nat => -(n : Int)
  | cs => (magnitude? cs).map fun n : Nat => (n : Int)

theorem isSymbolChar_of_digit? {base d : Nat} {c : Char} (h : Number.digit? base c = some d) :
    isSymbolChar c = true := by
  have hrange : (48 ≤ c.toNat ∧ c.toNat ≤ 57) ∨ (97 ≤ c.toNat ∧ c.toNat ≤ 122) ∨ (65 ≤ c.toNat ∧ c.toNat ≤ 90) := by
    unfold Number.digit? at h
    simp only [Option.filter_eq_some_iff] at h
    obtain ⟨h, -⟩ := h
    split at h
    · rename_i hc
      exact Or.inl hc
    · split at h
      · rename_i hc
        exact Or.inr (Or.inl hc)
      · split at h
        · rename_i hc
          exact Or.inr (Or.inr hc)
        · cases h
  simp only [isSymbolChar, symbolRanges, Text.inRanges, List.any_cons, List.any_nil, Bool.or_false, Bool.or_eq_true,
    Bool.and_eq_true, decide_eq_true_eq]
  omega

theorem plain_digitsFrom? {base read n : Nat} {cs : List Char} (h : digitsFrom? base read cs = some n) :
    ∀ c ∈ cs, isSeparator c = false := by
  induction cs generalizing read with
  | nil => simp
  | cons c cs ih =>
    unfold digitsFrom? at h
    split at h
    · cases h
    · rename_i d hd
      exact List.forall_mem_cons.mpr ⟨isSeparator_of_isSymbolChar (isSymbolChar_of_digit? hd), ih h⟩

theorem plain_magnitude? {n : Nat} {cs : List Char} (h : magnitude? cs = some n) :
    cs ≠ [] ∧ ∀ c ∈ cs, isSeparator c = false := by
  unfold magnitude? at h
  split at h
  · cases h
  · exact ⟨by simp, List.forall_mem_singleton.mpr rfl⟩
  · refine ⟨by simp, ?_⟩
    simp only [List.forall_mem_cons (a := '0'), List.forall_mem_cons (a := 'x')]
    exact ⟨by decide, by decide, plain_digitsFrom? h⟩
  · refine ⟨by simp, ?_⟩
    simp only [List.forall_mem_cons (a := '0'), List.forall_mem_cons (a := 'X')]
    exact ⟨by decide, by decide, plain_digitsFrom? h⟩
  · cases h
  · rename_i hne _ _ _ _
    exact ⟨hne, plain_digitsFrom? h⟩

theorem isWord_of_constant? {text : String} {n : Int} (h : constant? text = some n) : IsWord text := by
  unfold constant? at h
  split at h
  · rename_i cs hcs
    obtain ⟨m, hm, -⟩ := Option.map_eq_some_iff.mp h
    refine ⟨by simp [hcs], ?_⟩
    rw [hcs]
    exact List.forall_mem_cons.mpr ⟨by decide, (plain_magnitude? hm).2⟩
  · obtain ⟨m, hm, -⟩ := Option.map_eq_some_iff.mp h
    exact ⟨(plain_magnitude? hm).1, (plain_magnitude? hm).2⟩

theorem isWord_append {mark text : String} (hmark : IsWord mark) (h : IsWord text) : IsWord (mark ++ text) := by
  refine ⟨by simp [h.ne], ?_⟩
  rw [String.toList_append]
  exact List.forall_mem_append.mpr ⟨hmark.plain, h.plain⟩

theorem trim_of_isWord {w : String} (h : IsWord w) : Text.trim w.toList = w.toList := by
  refine Text.trim_eq_self fun c hc => ?_
  have hplain := h.plain c hc
  simp only [isSeparator, Bool.or_eq_false_iff] at hplain
  exact hplain.1

theorem constant?_of_isZero {text : String} {n : Int} (h : constant? text = some n)
    (hzero : Literal.isZero text = true) : n = 0 := by
  rw [Literal.isZero, Text.trimmed, trim_of_isWord (isWord_of_constant? h), String.ofList_toList,
    decide_eq_true_eq] at hzero
  simp only [List.mem_cons, List.not_mem_nil, or_false] at hzero
  rcases hzero with rfl | rfl | rfl <;> exact (Option.some.inj h).symm

/-! ### Lines -/

/-- The name before a colon at the end of a word. -/
def labelOf? (w : String) : Option String :=
  match w.toList.reverse with
  | ':' :: cs => some (String.ofList cs.reverse)
  | _ => none

/-- What a line does, by its first word: nothing for a comment and for a blank line, and otherwise as the label says
    that stands alone on it, or as the machine decodes it. A line that the machine does not decode is left to
    `other`. -/
def read (mark : String) (decode : String → List String → Option (Action σ)) (other : String → Action σ)
    (line : String) : Action σ :=
  match words line with
  | [] => .effect id
  | first :: operands =>
    if mark.toList.isPrefixOf first.toList then .effect id
    else
      match labelOf? first, operands with
      | some name, [] => .label name
      | _, _ => (decode first operands).getD (other line)

section Reading
variable {mark : String} {decode : String → List String → Option (Action σ)} {other : String → Action σ}

theorem read_comment (hmark : IsWord mark) (text : String) :
    read mark decode other (mark ++ " " ++ text) = .effect id := by
  rw [read, words_blank hmark]
  simp

theorem labelOf?_colon (name : String) : labelOf? (name ++ ":") = some name := by
  simp [labelOf?]

theorem read_label {name : String} (hname : isSymbol name = true)
    (hmark : mark.toList.head?.any (fun c => !isSymbolChar c) = true) :
    read mark decode other (name ++ ":") = .label name := by
  have hword : IsWord (name ++ ":") := isWord_append (isWord_of_isSymbol hname) (by decide)
  have hno : mark.toList.isPrefixOf (name ++ ":").toList = false := by
    rw [Bool.eq_false_iff]
    intro h
    rw [isSymbol, Bool.and_eq_true, List.all_eq_true] at hname
    obtain ⟨hhead, hall⟩ := hname
    cases hm : mark.toList with
    | nil => simp [hm] at hmark
    | cons m ms =>
      cases hn : name.toList with
      | nil => simp [hn] at hhead
      | cons c cs =>
        have hc := hall c (by simp [hn])
        simp only [hm, String.toList_append, hn, List.cons_append, List.isPrefixOf_cons_cons, Bool.and_eq_true,
          beq_iff_eq] at h
        simp [hm, h.1, hc] at hmark
  rw [read, words_of_isWord hword]
  simp only [hno, Bool.false_eq_true, ↓reduceIte, labelOf?_colon]

/-- A line with operands does what the machine decodes, and is left to `other` if it decodes nothing. -/
theorem read_operands {mnemonic operand : String} {operands : List String} (hmnemonic : IsWord mnemonic)
    (hwords : ∀ w ∈ operand :: operands, IsWord w) (hmark : mark.toList.isPrefixOf mnemonic.toList = false) :
    read mark decode other (instruction mnemonic (operand :: operands)) =
      (decode mnemonic (operand :: operands)).getD (other (instruction mnemonic (operand :: operands))) := by
  rw [read, words_instruction hmnemonic hwords]
  simp only [hmark, Bool.false_eq_true, ↓reduceIte]
  cases labelOf? mnemonic <;> rfl

theorem read_instruction {mnemonic operand : String} {operands : List String} {action : Action σ}
    (hmnemonic : IsWord mnemonic) (hwords : ∀ w ∈ operand :: operands, IsWord w)
    (hmark : mark.toList.isPrefixOf mnemonic.toList = false)
    (hdecode : decode mnemonic (operand :: operands) = some action) :
    read mark decode other (instruction mnemonic (operand :: operands)) = action := by
  rw [read_operands hmnemonic hwords hmark, hdecode, Option.getD_some]

end Reading

end BenchKernel.Assembler
