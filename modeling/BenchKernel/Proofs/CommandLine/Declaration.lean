import BenchKernel.CommandLine.Value
import BenchKernel.Proofs.Substitution.Registers

/-! # Declarations of streams

A stream is declared as its name, its type and its size tokens, with colons between the three and commas between the
tokens. Only the first two colons count, so a token may have one. Blanks around names, types and tokens, blank items
between commas and the case of the type do not matter: what is read is what was written, and everything that is read
was written so. -/

namespace BenchKernel.CommandLine

open Text Marker

variable {cs left right : List Char} {sep : Char} {part text word : String} {tokens items : List String}

/-! ### Texts with blanks around them -/

theorem pads_self (part : String) : Pads part part := ⟨"", "", rfl, rfl, by simp⟩

theorem pads_trimmed (text : String) : Pads (trimmed text) text := by
  obtain ⟨before, after, htext, hbefore, hafter⟩ := exists_trim text.toList
  refine ⟨String.ofList before, String.ofList after, by simpa [isBlankText] using hbefore,
    by simpa [isBlankText] using hafter, String.toList_inj.mp ?_⟩
  simpa [trimmed] using htext

theorem trimmed_trimmed (text : String) : trimmed (trimmed text) = trimmed text := (pads_trimmed text).trimmed_eq.symm

theorem not_mem_iff_of_pads (h : Pads part text) (hsep : isBlank sep = false) :
    sep ∉ text.toList ↔ sep ∉ part.toList := by
  obtain ⟨left, right, hleft, hright, rfl⟩ := h
  rw [isBlankText, List.all_eq_true] at hleft hright
  have hl : sep ∉ left.toList := fun hmem => by simp [hleft sep hmem] at hsep
  have hr : sep ∉ right.toList := fun hmem => by simp [hright sep hmem] at hsep
  simp [hl, hr]

theorem trimmed_eq_empty_iff : trimmed text = "" ↔ isBlankText text = true := by
  constructor
  · intro h
    obtain ⟨left, right, hleft, hright, htext⟩ := pads_trimmed text
    rw [h] at htext
    rw [isBlankText] at hleft hright ⊢
    simp [htext, hleft, hright]
  · intro h
    have hpads : Pads "" text := ⟨text, "", h, rfl, by simp⟩
    exact hpads.trimmed_eq

/-! ### Lists of size tokens -/

theorem readTokens_append_comma (a b : List Char) : readTokens (a ++ ',' :: b) = readTokens a ++ readTokens b := by
  rw [readTokens, splitAt, pieces_append_cons (by simp), List.map_append, List.filter_append, readTokens, readTokens,
    splitAt, splitAt]

theorem readTokens_of_undivided (h : ',' ∉ cs) : readTokens cs = [trim cs].filter fun token => !token.isEmpty := by
  have hkeep : ∀ c ∈ cs, (c != ',') = true := fun c hc => bne_iff_ne.mpr fun hcomma => h (hcomma ▸ hc)
  rw [readTokens, splitAt, pieces_of_forall hkeep, List.map_singleton]

/-- Blanks around a list are blanks around its first and its last item. -/
theorem readTokens_pad (hleft : ∀ c ∈ left, isBlank c = true) (hright : ∀ c ∈ right, isBlank c = true)
    (cs : List Char) : readTokens (left ++ cs ++ right) = readTokens cs := by
  induction hn : cs.length using Nat.strong_induction_on generalizing cs left right with
  | _ n ih =>
    by_cases hcomma : ',' ∈ cs
    -- At a comma the list falls into two shorter ones, of which each keeps the blanks on one side only.
    · obtain ⟨a, b, rfl, -⟩ := List.eq_append_cons_of_mem hcomma
      have ha : readTokens (left ++ a ++ []) = readTokens a := ih a.length (by simp [← hn]) hleft (by simp) a rfl
      have hb : readTokens ([] ++ b ++ right) = readTokens b := ih b.length (by simp [← hn]; omega) (by simp) hright b rfl
      calc readTokens (left ++ (a ++ ',' :: b) ++ right)
          = readTokens (left ++ a ++ [] ++ ',' :: ([] ++ b ++ right)) := by simp
        _ = readTokens a ++ readTokens b := by rw [readTokens_append_comma, ha, hb]
        _ = readTokens (a ++ ',' :: b) := (readTokens_append_comma a b).symm
    · have hblank : ∀ l : List Char, (∀ c ∈ l, isBlank c = true) → ',' ∉ l := fun l hl hmem =>
        absurd (hl ',' hmem) (by decide)
      rw [readTokens_of_undivided (by simp [hcomma, hblank left hleft, hblank right hright]), trim_pad hleft hright,
        readTokens_of_undivided hcomma]

/-- The items of a list that has some tokens in their order, each with blanks around it, and else blank items. -/
inductive Lists : List String → List String → Prop
  | nil : Lists [] []
  | blank {tokens items : List String} {item : String} (hitem : isBlankText item = true) (h : Lists tokens items) :
      Lists tokens (item :: items)
  | token {tokens items : List String} {token item : String} (hitem : Pads token item) (h : Lists tokens items) :
      Lists (token :: tokens) (item :: items)

/-- A text that can stand as a size token. -/
structure IsToken (token : String) : Prop where
  ne : token ≠ ""
  trimmed : trimmed token = token
  undivided : ',' ∉ token.toList

theorem lists_self (tokens : List String) : Lists tokens tokens := by
  induction tokens with
  | nil => exact .nil
  | cons token tokens ih => exact .token (pads_self token) ih

theorem Lists.ne_nil (h : Lists tokens items) (hne : tokens ≠ []) : items ≠ [] := by
  rintro rfl
  cases h
  exact hne rfl

theorem Lists.undivided (h : Lists tokens items) (htokens : ∀ token ∈ tokens, IsToken token) :
    ∀ item ∈ items, ',' ∉ item.toList := by
  induction h with
  | nil => simp
  | blank hitem _ ih =>
    refine List.forall_mem_cons.mpr ⟨fun hmem => ?_, ih htokens⟩
    exact absurd (List.all_eq_true.mp hitem ',' hmem) (by decide)
  | token hitem _ ih =>
    rw [List.forall_mem_cons] at htokens
    exact List.forall_mem_cons.mpr ⟨(not_mem_iff_of_pads hitem (by decide)).mpr htokens.1.undivided, ih htokens.2⟩

theorem Lists.filter_trimmed (h : Lists tokens items) (htokens : ∀ token ∈ tokens, IsToken token) :
    (items.map trimmed).filter (· ≠ "") = tokens := by
  induction h with
  | nil => rfl
  | blank hitem _ ih => simpa [trimmed_eq_empty_iff.mpr hitem] using ih htokens
  | token hitem _ ih =>
    rw [List.forall_mem_cons] at htokens
    have htoken := hitem.trimmed_eq.trans htokens.1.trimmed
    simpa [htoken, htokens.1.ne] using ih htokens.2

theorem lists_filter_trimmed (items : List String) : Lists ((items.map trimmed).filter (· ≠ "")) items := by
  induction items with
  | nil => exact .nil
  | cons item items ih =>
    by_cases hitem : trimmed item = ""
    · simpa [hitem] using ih.blank (trimmed_eq_empty_iff.mp hitem)
    · simpa [hitem] using ih.token (pads_trimmed item)

theorem map_readTokens (cs : List Char) : (readTokens cs).map String.ofList =
    (((splitAt ',' cs).map String.ofList).map trimmed).filter (· ≠ "") := by
  have hempty : ∀ l : List Char, l.isEmpty = decide (l = []) := fun l => by cases l <;> rfl
  simp [readTokens, List.filter_map, Function.comp_def, trimmed, hempty]

theorem isToken_of_mem_readTokens {token : String} (h : token ∈ (readTokens cs).map String.ofList) : IsToken token := by
  rw [map_readTokens, List.mem_filter, decide_eq_true_eq] at h
  obtain ⟨hmem, hne⟩ := h
  obtain ⟨item, hitem, rfl⟩ := List.mem_map.mp hmem
  obtain ⟨piece, hpiece, rfl⟩ := List.mem_map.mp hitem
  refine ⟨hne, trimmed_trimmed _, (not_mem_iff_of_pads (pads_trimmed _) (by decide)).mp ?_⟩
  rw [String.toList_ofList]
  exact not_mem_of_mem_splitAt hpiece

theorem Lists.read (h : Lists tokens items) (htokens : ∀ token ∈ tokens, IsToken token) (hne : tokens ≠ []) :
    (readTokens (",".intercalate items).toList).map String.ofList = tokens := by
  have hitems : splitAt ',' (",".intercalate items).toList = items.map String.toList := by
    rw [String.toList_intercalate]
    exact splitAt_intercalate (by simpa using h.ne_nil hne) (by simpa using h.undivided htokens)
  have hsame : (items.map String.toList).map String.ofList = items := by simp [Function.comp_def]
  rw [map_readTokens, hitems, hsame, h.filter_trimmed htokens]

/-! ### The three parts -/

theorem streamParts?_eq_some_iff {name type list : List Char} : streamParts? cs = some (name, type, list) ↔
    cs = name ++ ':' :: (type ++ ':' :: list) ∧ ':' ∉ name ∧ ':' ∉ type := by
  constructor
  · intro h
    obtain ⟨⟨front, rest⟩, hfront, h⟩ := Option.bind_eq_some_iff.mp h
    obtain ⟨⟨middle, last⟩, hmiddle, h⟩ := Option.bind_eq_some_iff.mp h
    cases h
    obtain ⟨hcs, hname⟩ := cutAt?_eq_some_iff.mp hfront
    obtain ⟨rfl, htype⟩ := cutAt?_eq_some_iff.mp hmiddle
    exact ⟨hcs, hname, htype⟩
  · rintro ⟨hcs, hname, htype⟩
    have hfront := cutAt?_eq_some_iff.mpr ⟨hcs, hname⟩
    have hrest : cutAt? ':' (type ++ ':' :: list) = some (type, list) := cutAt?_eq_some_iff.mpr ⟨rfl, htype⟩
    rw [streamParts?, hfront]
    exact Option.bind_eq_some_iff.mpr ⟨_, rfl, Option.bind_eq_some_iff.mpr ⟨_, hrest, rfl⟩⟩

theorem parse_eq_ok_iff {type : ElementType} :
    ElementType.parse text = .ok type ↔ (ElementType.key text, type) ∈ ElementType.names := by
  have hnames : ∀ entry ∈ ElementType.names, ElementType.names.lookup entry.1 = some entry.2 := by decide
  rw [ElementType.parse, ElementType.ofName?]
  constructor
  · intro h
    split at h
    · rename_i found hfound
      cases h
      obtain ⟨before, after, heq, -⟩ := List.lookup_eq_some_iff.mp hfound
      simp [heq]
    · cases h
  · intro h
    rw [hnames _ h]

theorem wordChars_of_mem_names {type : ElementType} (h : (lowered word, type) ∈ ElementType.names) :
    ∀ c ∈ word.toList, isWordChar c = true := by
  have hnames : ElementType.names.all (fun entry => entry.1.toList.all isWordChar) = true := by decide
  have hword := List.all_eq_true.mp (List.all_eq_true.mp hnames _ h)
  intro c hc
  refine isWordChar_of_toLower (hword _ ?_)
  simpa [lowered] using List.mem_map_of_mem hc

theorem key_of_pads {type : ElementType} (h : (lowered word, type) ∈ ElementType.names) (hpads : Pads word text) :
    ElementType.key text = lowered word := by
  have hplain : ∀ c ∈ word.toList, isBlank c = false := fun c hc => by
    rw [Bool.eq_false_iff]
    intro hblank
    simpa [wordChars_of_mem_names h c hc] using isWordChar_of_isBlank hblank
  rw [ElementType.key, hpads.trimmed_eq, trimmed, trim_eq_self hplain, String.ofList_toList]

theorem readStream_eq_ok_iff {s : Stream} : readStream text = .ok s ↔ ∃ name type list,
    streamParts? text.toList = some (name, type, list) ∧ ElementType.parse (String.ofList type) = .ok s.type ∧
      String.ofList (trim name) = s.name ∧ (readTokens list).map String.ofList = s.dims ∧ s.dims ≠ [] := by
  unfold readStream
  constructor
  · intro h
    split at h
    · cases h
    · rename_i name type list hparts
      split at h
      · cases h
      · rename_i found hfound
        dsimp only at h
        split at h
        · cases h
        · rename_i hdims
          cases h
          exact ⟨name, type, list, hparts, hfound, rfl, rfl, by simpa using hdims⟩
  · rintro ⟨name, type, list, hparts, htype, hname, hdims, hne⟩
    simp [hparts, htype, hname, hdims, hne]

/-! ### Declarations -/

/-- A stream that can be declared on a command line. -/
structure Declarable (s : Stream) : Prop where
  trimmed : trimmed s.name = s.name
  undivided : ':' ∉ s.name.toList
  ne : s.dims ≠ []
  tokens : ∀ token ∈ s.dims, IsToken token

/-- The declaration of a stream without blanks. -/
def declaration (s : Stream) : String := s.name ++ ":" ++ s.type.name ++ ":" ++ ",".intercalate s.dims

/-- A text declares a stream, with a word for its type: the three parts may have blanks around them, and the list of size
    tokens around its items as well. -/
def Declares (s : Stream) (word text : String) : Prop :=
  ∃ name type list items, Pads s.name name ∧ Pads word type ∧ Pads (",".intercalate items) list ∧ Lists s.dims items ∧
    text = name ++ ":" ++ type ++ ":" ++ list

theorem declares_declaration (s : Stream) : Declares s s.type.name (declaration s) :=
  ⟨_, _, _, _, pads_self _, pads_self _, pads_self _, lists_self _, rfl⟩

theorem Declares.read {s : Stream} (hs : Declarable s) (hword : (lowered word, s.type) ∈ ElementType.names)
    (h : Declares s word text) : readStream text = .ok s := by
  obtain ⟨name, type, list, items, hname, htype, hlist, hitems, rfl⟩ := h
  have hcolon : ':' ∉ word.toList := fun hmem => absurd (wordChars_of_mem_names hword _ hmem) (by decide)
  refine readStream_eq_ok_iff.mpr ⟨name.toList, type.toList, list.toList, streamParts?_eq_some_iff.mpr ⟨by simp,
    (not_mem_iff_of_pads hname (by decide)).mpr hs.undivided, (not_mem_iff_of_pads htype (by decide)).mpr hcolon⟩,
    ?_, hname.trimmed_eq.trans hs.trimmed, ?_, hs.ne⟩
  · rwa [String.ofList_toList, parse_eq_ok_iff, key_of_pads hword htype]
  · obtain ⟨left, right, hleft, hright, rfl⟩ := hlist
    rw [String.toList_append, String.toList_append, readTokens_pad (by simpa [isBlankText] using hleft)
      (by simpa [isBlankText] using hright), hitems.read hs.tokens hs.ne]

theorem declares_of_readStream {s : Stream} (h : readStream text = .ok s) :
    Declarable s ∧ ∃ word, (lowered word, s.type) ∈ ElementType.names ∧ Declares s word text := by
  obtain ⟨name, type, list, hparts, htype, hname, hdims, hne⟩ := readStream_eq_ok_iff.mp h
  obtain ⟨hcs, hcolon, -⟩ := streamParts?_eq_some_iff.mp hparts
  have htokens : ∀ token ∈ s.dims, IsToken token := fun token htoken => isToken_of_mem_readTokens (hdims ▸ htoken)
  rw [map_readTokens] at hdims
  have htext : text = String.ofList name ++ ":" ++ String.ofList type ++ ":" ++
      ",".intercalate ((splitAt ',' list).map String.ofList) := by
    rw [← String.toList_inj, hcs]
    simp [String.toList_intercalate, Function.comp_def, intercalate_splitAt]
  have hname : trimmed (String.ofList name) = s.name := by simpa [trimmed] using hname
  have hpads : Pads s.name (String.ofList name) := hname ▸ pads_trimmed _
  exact ⟨⟨hname ▸ trimmed_trimmed _, (not_mem_iff_of_pads hpads (by decide)).mp (by simpa using hcolon), hne, htokens⟩,
    trimmed (String.ofList type), parse_eq_ok_iff.mp htype, _, _, _, _, hpads, pads_trimmed _, pads_self _,
    hdims ▸ lists_filter_trimmed _, htext⟩

/-- A declaration is read back as the stream it declares, also with blanks around its parts and tokens, with its type in
    any case and with blank items among its tokens; and whatever is read as a stream declares it, with one of the names
    of its type, and the stream can be declared. -/
theorem streams_declared_and_read :
    (∀ s : Stream, Declarable s → readStream (declaration s) = .ok s) ∧
    (∀ (s : Stream) (word text : String), Declarable s → lowered word = s.type.name → Declares s word text →
      readStream text = .ok s) ∧
    (∀ (text : String) (s : Stream), readStream text = .ok s →
      Declarable s ∧ ∃ word, (lowered word, s.type) ∈ ElementType.names ∧ Declares s word text) := by
  have hname : ∀ type : ElementType, (type.name, type) ∈ ElementType.names ∧ lowered type.name = type.name := by
    intro type
    cases type <;> decide
  refine ⟨fun s hs => (declares_declaration s).read hs ?_, fun s word text hs hword h => h.read hs ?_,
    fun text s => declares_of_readStream⟩
  · rw [(hname s.type).2]
    exact (hname s.type).1
  · rw [hword]
    exact (hname s.type).1

/-- A matrix with a name of two words and a size token with a colon, between empty and blank items. -/
theorem matrix_declared :
    Declarable ⟨"my A", .double, ["N:M", "2 K"]⟩ ∧
      readStream " my A\t: DouBle :, N:M ,\u00A0,2 K ," = .ok ⟨"my A", .double, ["N:M", "2 K"]⟩ := by
  have hs : Declarable ⟨"my A", .double, ["N:M", "2 K"]⟩ := by
    refine ⟨by decide, by decide, by decide, fun token htoken => ?_⟩
    have htokens : ∀ t ∈ ["N:M", "2 K"], t ≠ "" ∧ trimmed t = t ∧ ',' ∉ t.toList := by decide
    exact ⟨(htokens token htoken).1, (htokens token htoken).2.1, (htokens token htoken).2.2⟩
  refine ⟨hs, streams_declared_and_read.2.1 _ "DouBle" _ hs (by decide) ⟨" my A\t", " DouBle ", _,
    ["", " N:M ", "\u00A0", "2 K ", ""], ⟨" ", "\t", by decide⟩, ⟨" ", " ", by decide⟩, pads_self _, ?_, by decide⟩⟩
  exact .blank rfl (.token ⟨" ", " ", by decide⟩ (.blank (by decide) (.token ⟨"", " ", by decide⟩ (.blank rfl .nil))))

end BenchKernel.CommandLine
