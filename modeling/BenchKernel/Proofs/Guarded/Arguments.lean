import BenchKernel.Proofs.Grammar.Identifiers
import BenchKernel.Proofs.Guarded.Access
import Mathlib.Data.String.Basic

/-! # Arguments by offsets

The arguments of a marker, read with offsets in bytes and a counted depth of parentheses. Every offset lies between two
characters of the line, the depth is never taken below zero, and neither it nor any sum of offsets goes beyond the
size of the line. -/

namespace BenchKernel.Guarded

variable {ε : Type}

/-! ### Texts by offsets -/

/-- What is left of a text after some bytes, if these end a character. -/
def dropBytes : Nat → List Char → Option (List Char)
  | 0, cs => some cs
  | _ + 1, [] => none
  | n + 1, c :: cs => if c.utf8Size ≤ n + 1 then dropBytes (n + 1 - c.utf8Size) cs else none

/-- The text of the first bytes, if these end a character. -/
def takeBytes : Nat → List Char → Option (List Char)
  | 0, _ => some []
  | _ + 1, [] => none
  | n + 1, c :: cs => if c.utf8Size ≤ n + 1 then (takeBytes (n + 1 - c.utf8Size) cs).map (c :: ·) else none

/-- The text from an offset on, up to another one. -/
def sliceBytes (cs : List Char) (first stop : Nat) : Guarded ε (List Char) :=
  if first ≤ stop then
    match dropBytes first cs with
    | none => breach (.offset first)
    | some rest =>
      match takeBytes (stop - first) rest with
      | none => breach (.offset stop)
      | some inner => pure inner
  else breach (.slice first stop (String.utf8Len cs))

/-- The offset of the first occurrence of a character. -/
def offsetOf? (sep : Char) : List Char → Option Nat
  | [] => none
  | c :: cs => if c = sep then some 0 else (offsetOf? sep cs).map (c.utf8Size + ·)

theorem dropBytes_append (a b : List Char) : dropBytes (String.utf8Len a) (a ++ b) = some b := by
  induction a with
  | nil =>
    cases b <;> rfl
  | cons c a ih =>
    obtain ⟨n, hn⟩ : ∃ n, c.utf8Size = n + 1 := ⟨c.utf8Size - 1, by have := c.utf8Size_pos; omega⟩
    rw [String.utf8Len_cons, hn, ← Nat.add_assoc, List.cons_append, dropBytes, if_pos (by omega), ← ih]
    congr 1
    omega

theorem takeBytes_append (a b : List Char) : takeBytes (String.utf8Len a) (a ++ b) = some a := by
  induction a with
  | nil =>
    cases b <;> rfl
  | cons c a ih =>
    obtain ⟨n, hn⟩ : ∃ n, c.utf8Size = n + 1 := ⟨c.utf8Size - 1, by have := c.utf8Size_pos; omega⟩
    have hrest : String.utf8Len a + n + 1 - c.utf8Size = String.utf8Len a := by omega
    rw [String.utf8Len_cons, hn, ← Nat.add_assoc, List.cons_append, takeBytes, if_pos (by omega), hrest, ih]
    rfl

theorem sliceBytes_append (a b c : List Char) :
    (sliceBytes (a ++ (b ++ c)) (String.utf8Len a) (String.utf8Len a + String.utf8Len b) : Guarded ε (List Char)) =
      pure b := by
  rw [sliceBytes, if_pos (by omega), dropBytes_append, Nat.add_sub_cancel_left]
  simp only [takeBytes_append]

theorem offsetOf?_eq (sep : Char) (cs : List Char) :
    offsetOf? sep cs = (Text.cutAt? sep cs).map fun cut => String.utf8Len cut.1 := by
  induction cs with
  | nil => rfl
  | cons c cs ih =>
    rw [offsetOf?, Text.cutAt?]
    split
    · rfl
    · rw [ih]
      cases Text.cutAt? sep cs with
      | none => rfl
      | some cut => simp [Nat.add_comm]

/-! ### The closing parenthesis -/

/-- The offset of the parenthesis that closes `depth` open ones. The text stands at `index` after `start`. -/
def closingFrom (limit start : Nat) : (depth index : Nat) → List Char → Guarded ε (Option Nat)
  | _, _, [] => pure none
  | depth, index, c :: cs =>
    if c = '(' then do
      let depth ← raise limit depth 1
      closingFrom limit start depth (index + c.utf8Size) cs
    else if c = ')' then do
      let depth ← lower depth 1
      if depth = 0 then return some (← raise limit start index)
      closingFrom limit start depth (index + c.utf8Size) cs
    else closingFrom limit start depth (index + c.utf8Size) cs

theorem map_utf8Len_cons (c : Char) (n : Nat) (inner : Option (List Char)) :
    (inner.map (c :: ·)).map (fun inner => n + String.utf8Len inner) =
      inner.map fun inner => n + c.utf8Size + String.utf8Len inner := by
  cases inner with
  | none => rfl
  | some inner =>
    simp only [Option.map_some, String.utf8Len_cons]
    congr 1
    omega

/-- The depth stays below the number of bytes read, so it has room in the line. -/
theorem closingFrom_eq {limit start depth index : Nat} {cs : List Char}
    (hdepth : depth + 1 + String.utf8Len cs ≤ limit) (hindex : start + index + String.utf8Len cs ≤ limit) :
    (closingFrom limit start (depth + 1) index cs : Guarded ε (Option Nat)) =
      pure ((Marker.untilClosed depth cs).map fun inner => start + index + String.utf8Len inner) := by
  have hone : '('.utf8Size = 1 ∧ ')'.utf8Size = 1 := by decide
  fun_induction Marker.untilClosed depth cs generalizing index with
  | case1 => rfl
  | case2 depth cs ih =>
    rw [String.utf8Len_cons] at hdepth hindex
    rw [closingFrom, if_pos rfl, raise_eq (by omega), pure_bind, ih (by omega) (by omega), map_utf8Len_cons,
      ← Nat.add_assoc]
  | case3 cs =>
    rw [String.utf8Len_cons] at hindex
    rw [closingFrom, if_neg (by decide), if_pos rfl, lower_eq (by omega), pure_bind, if_pos (by omega),
      raise_eq (by omega)]
    rfl
  | case4 depth cs ih =>
    rw [String.utf8Len_cons] at hdepth hindex
    rw [closingFrom, if_neg (by decide), if_pos rfl, lower_eq (by omega), pure_bind, if_neg (by omega),
      Nat.add_sub_cancel, ih (by omega) (by omega), map_utf8Len_cons, ← Nat.add_assoc]
  | case5 depth c cs hopen hzero hsucc ih =>
    rw [String.utf8Len_cons] at hdepth hindex
    have hclose : c ≠ ')' := by
      rintro rfl
      cases depth with
      | zero => exact hzero rfl rfl
      | succ depth => exact hsucc depth rfl rfl
    rw [closingFrom, if_neg hopen, if_neg hclose, ih (by omega) (by omega), map_utf8Len_cons, ← Nat.add_assoc]

/-! ### The arguments -/

/-- The arguments of a text, with those already read and the characters of the current one. -/
def splitFrom (limit : Nat) : (depth : Nat) → (arguments : List String) → (current : List Char) → List Char →
    Guarded ε (List String)
  | _, arguments, current, [] => pure (arguments ++ [String.ofList (Text.trim current)])
  | depth, arguments, current, c :: cs =>
    if c = '(' then do
      let depth ← raise limit depth 1
      splitFrom limit depth arguments (current ++ [c]) cs
    else if c = ')' then splitFrom limit (depth - 1) arguments (current ++ [c]) cs
    else if c = ',' ∧ depth = 0 then
      splitFrom limit depth (arguments ++ [String.ofList (Text.trim current)]) [] cs
    else splitFrom limit depth arguments (current ++ [c]) cs

/-- The arguments of a text, where the first one goes on from characters already read. -/
def splitOn (current : List Char) (depth : Nat) (cs : List Char) : List (List Char) :=
  match Marker.splitArguments depth cs with
  | [] => [current]
  | argument :: rest => (current ++ argument) :: rest

theorem splitOn_cons {c : Char} {depth : Nat} (hcomma : ¬(c = ',' ∧ depth = 0)) (current cs : List Char) :
    splitOn current depth (c :: cs) =
      splitOn (current ++ [c]) (if c = '(' then depth + 1 else if c = ')' then depth - 1 else depth) cs := by
  simp only [splitOn, Marker.splitArguments, if_neg hcomma]
  generalize (if c = '(' then depth + 1 else if c = ')' then depth - 1 else depth) = inner
  cases Marker.splitArguments inner cs <;> simp

theorem splitOn_nil (depth : Nat) (cs : List Char) : splitOn [] depth cs = Marker.splitArguments depth cs := by
  have hne : Marker.splitArguments depth cs ≠ [] := by
    intro h
    have := Marker.joined_splitArguments depth cs
    rw [h] at this
    cases this
  unfold splitOn
  split
  · contradiction
  · rename_i h
    rw [h, List.nil_append]

theorem splitFrom_eq {limit depth : Nat} {cs : List Char} (h : depth + String.utf8Len cs ≤ limit)
    (arguments : List String) (current : List Char) :
    (splitFrom limit depth arguments current cs : Guarded ε (List String)) =
      pure (arguments ++ (splitOn current depth cs).map fun a => String.ofList (Text.trim a)) := by
  induction cs generalizing depth arguments current with
  | nil => simp [splitFrom, splitOn, Marker.splitArguments]
  | cons c cs ih =>
    have hsize := c.utf8Size_pos
    rw [String.utf8Len_cons] at h
    rw [splitFrom]
    split
    · rename_i hc
      subst hc
      rw [raise_eq (by omega), pure_bind, ih (by omega), splitOn_cons (by simp), if_pos rfl]
    · rename_i hopen
      split
      · rename_i hc
        subst hc
        rw [ih (by omega), splitOn_cons (by simp), if_neg (by decide), if_pos rfl]
      · rename_i hclose
        split
        · rename_i hcomma
          obtain ⟨rfl, rfl⟩ := hcomma
          rw [ih (by omega), splitOn_nil]
          simp [splitOn, Marker.splitArguments]
        · rename_i hcomma
          rw [ih (by omega), splitOn_cons hcomma, if_neg hopen, if_neg hclose]

/-- The arguments of a line. -/
def arguments (line : String) : Guarded GrammarError (List String) :=
  let cs := line.toList
  let limit := String.utf8Len cs
  match offsetOf? '(' cs with
  | none => throw (.malformedMarker line "missing opening parenthesis")
  | some start => do
    let tail ← sliceBytes cs start limit
    match ← closingFrom limit start 0 0 tail with
    | none => throw (.malformedMarker line "missing closing parenthesis")
    | some stop =>
      let inner ← sliceBytes cs (← raise limit start 1) stop
      if inner.all Text.isBlank then return []
      splitFrom limit 0 [] [] inner

theorem arguments_eq (line : String) : arguments line = plain (Marker.arguments line) := by
  have hone : '('.utf8Size = 1 ∧ ')'.utf8Size = 1 := by decide
  unfold arguments Marker.arguments
  simp only [offsetOf?_eq]
  cases hcut : Text.cutAt? '(' line.toList with
  | none => rfl
  | some cut =>
    obtain ⟨before, rest⟩ := cut
    obtain ⟨hline, -⟩ := Marker.cutAt?_eq_some_iff.mp hcut
    have hlimit : String.utf8Len (before ++ '(' :: rest) = String.utf8Len before + String.utf8Len rest + 1 := by
      rw [String.utf8Len_append, String.utf8Len_cons]
      omega
    have htail : sliceBytes (before ++ '(' :: rest) (String.utf8Len before) (String.utf8Len (before ++ '(' :: rest)) =
        (pure ('(' :: rest) : Guarded GrammarError (List Char)) := by
      simpa using sliceBytes_append before ('(' :: rest) []
    have hclosing : closingFrom (String.utf8Len (before ++ '(' :: rest)) (String.utf8Len before) 0 0 ('(' :: rest) =
        (pure ((Marker.untilClosed 0 rest).map fun inner => String.utf8Len before + 1 + String.utf8Len inner) :
          Guarded GrammarError (Option Nat)) := by
      rw [closingFrom, if_pos rfl, raise_eq (by omega), pure_bind, hone.1]
      exact closingFrom_eq (by omega) (by omega)
    simp only [Option.map_some, hline, htail, hclosing, pure_bind]
    cases hclosed : Marker.untilClosed 0 rest with
    | none => rfl
    | some inner =>
      obtain ⟨after, rfl, -⟩ := Marker.untilClosed_eq_some_iff.mp hclosed
      have hinner : sliceBytes (before ++ '(' :: (inner ++ ')' :: after)) (String.utf8Len before + 1)
          (String.utf8Len before + 1 + String.utf8Len inner) = (pure inner : Guarded GrammarError (List Char)) := by
        have := @sliceBytes_append GrammarError (before ++ ['(']) inner (')' :: after)
        rwa [String.utf8Len_append, String.utf8Len_cons, hone.1, List.append_assoc] at this
      have hroom : String.utf8Len inner ≤ String.utf8Len (inner ++ ')' :: after) := by
        rw [String.utf8Len_append]
        omega
      simp only [Option.map_some]
      rw [raise_eq (by omega), pure_bind, hinner, pure_bind, Marker.argumentsOf]
      split
      · rfl
      · rw [splitFrom_eq (by omega), splitOn_nil]
        rfl

end BenchKernel.Guarded
