import BenchKernel.Proofs.Grammar.Frame

/-! # Forests

Lines with their regions found form a forest: plain lines and regions in a row, with a forest inside each region.
This file says when the lines of a forest are what the forest takes them for, how a forest is rendered, and how a
forest is cut at plain lines. A scan for the end of a region passes over a forest that nests properly and over no
other. -/

namespace BenchKernel

/-- The keyword and the label of a frame, which no frame inside it may share. -/
def Frame.name (frame : Frame) : String × String := (frame.keyword.openTag, frame.label)

inductive Forest
  | nil
  | plain (line : String) (rest : Forest)
  | region (frame : Frame) (opening closing : String) (inside rest : Forest)
  deriving DecidableEq, Repr

namespace Forest

/-! ### What a forest stands for -/

def lines : Forest → List String
  | nil => []
  | plain line rest => line :: rest.lines
  | region _ opening closing inside rest => opening :: (inside.lines ++ closing :: rest.lines)

/-- Every region replaced by its frame around the rendered inside. -/
def render (arch : Arch) : Forest → List String
  | nil => []
  | plain line rest => line :: rest.render arch
  | region frame opening closing inside rest =>
    frame.wrap arch opening closing (inside.render arch) ++ rest.render arch

/-- How many regions lie inside one another; a region inside no other counts one. -/
def depth : Forest → Nat
  | nil => 0
  | plain _ rest => rest.depth
  | region _ _ _ inside rest => max (inside.depth + 1) rest.depth

/-- The lines are what the forest takes them for: plain lines are no markers, and every region stands between markers
    that describe its frame, has an inside that the frame admits, and is no loop with a marker for its label. -/
def Marked (arch : Arch) : Forest → Prop
  | nil => True
  | plain line rest => ¬IsMarker line ∧ rest.Marked arch
  | region frame opening closing inside rest =>
    (frame.OpenedBy arch opening ∧ frame.ClosedBy closing ∧ frame.Admits inside.lines ∧
      ∀ l, frame = .loop l → ¬IsMarker l.label) ∧ inside.Marked arch ∧ rest.Marked arch

/-- No region shares its keyword and label with a region that encloses it. -/
def Nested : (enclosing : List (String × String)) → Forest → Prop
  | _, nil => True
  | enclosing, plain _ rest => rest.Nested enclosing
  | enclosing, region frame _ _ inside rest =>
    frame.name ∉ enclosing ∧ inside.Nested (frame.name :: enclosing) ∧ rest.Nested enclosing

/-- The operands of all loops can be read, which only POWER asks for. -/
def Readable (arch : Arch) : Forest → Prop
  | nil => True
  | plain _ rest => rest.Readable arch
  | region frame _ _ inside rest => frame.Readable arch ∧ inside.Readable arch ∧ rest.Readable arch

/-- The grammar of template bodies. -/
structure InGrammar (arch : Arch) (f : Forest) : Prop where
  marked : f.Marked arch
  nested : f.Nested []
  depth_le : f.depth ≤ nestingLimit

/-! ### Forests in a row -/

def append : Forest → Forest → Forest
  | nil, g => g
  | plain line rest, g => plain line (rest.append g)
  | region frame opening closing inside rest, g => region frame opening closing inside (rest.append g)

instance : Append Forest := ⟨append⟩

/-- Plain lines only. -/
def ofPlain : List String → Forest
  | [] => nil
  | line :: rest => plain line (ofPlain rest)

variable {arch : Arch} {f g : Forest} {enclosing : List (String × String)}

@[simp] theorem nil_append (g : Forest) : nil ++ g = g := rfl

@[simp] theorem plain_append (line : String) (f g : Forest) : plain line f ++ g = plain line (f ++ g) := rfl

@[simp] theorem region_append (frame : Frame) (o c : String) (inside f g : Forest) :
    region frame o c inside f ++ g = region frame o c inside (f ++ g) := rfl

@[simp] theorem lines_append (f g : Forest) : (f ++ g).lines = f.lines ++ g.lines := by
  induction f with
  | nil => rfl
  | plain line rest ih => simp [lines, ih]
  | region frame o c inside rest _ ih => simp [lines, ih]

@[simp] theorem render_append (f g : Forest) : (f ++ g).render arch = f.render arch ++ g.render arch := by
  induction f with
  | nil => rfl
  | plain line rest ih => simp [render, ih]
  | region frame o c inside rest _ ih => simp [render, ih]

@[simp] theorem depth_append (f g : Forest) : (f ++ g).depth = max f.depth g.depth := by
  induction f with
  | nil => simp [depth]
  | plain line rest ih => simp [depth, ih]
  | region frame o c inside rest _ ih => simp [depth, ih, Nat.max_assoc]

@[simp] theorem marked_append : (f ++ g).Marked arch ↔ f.Marked arch ∧ g.Marked arch := by
  induction f with
  | nil => simp [Marked]
  | plain line rest ih => simp [Marked, ih, and_assoc]
  | region frame o c inside rest _ ih => simp [Marked, ih, and_assoc]

@[simp] theorem nested_append : (f ++ g).Nested enclosing ↔ f.Nested enclosing ∧ g.Nested enclosing := by
  induction f with
  | nil => simp [Nested]
  | plain line rest ih => simp [Nested, ih]
  | region frame o c inside rest _ ih => simp [Nested, ih, and_assoc]

@[simp] theorem readable_append : (f ++ g).Readable arch ↔ f.Readable arch ∧ g.Readable arch := by
  induction f with
  | nil => simp [Readable]
  | plain line rest ih => simp [Readable, ih]
  | region frame o c inside rest _ ih => simp [Readable, ih, and_assoc]

/-- Plain lines stand for themselves, and nothing can go wrong with them but that one is a marker. -/
theorem ofPlain_spec (arch : Arch) (enclosing : List (String × String)) (texts : List String) :
    (ofPlain texts).lines = texts ∧ (ofPlain texts).render arch = texts ∧ (ofPlain texts).depth = 0 ∧
      ((ofPlain texts).Marked arch ↔ ∀ line ∈ texts, ¬IsMarker line) ∧ (ofPlain texts).Nested enclosing ∧
      (ofPlain texts).Readable arch := by
  induction texts with
  | nil => simp [ofPlain, lines, render, depth, Marked, Nested, Readable]
  | cons line rest ih =>
    obtain ⟨hlines, hrender, hdepth, hmarked, hnested, hreadable⟩ := ih
    refine ⟨?_, ?_, hdepth, ?_, hnested, hreadable⟩
    · rw [ofPlain, lines, hlines]
    · rw [ofPlain, render, hrender]
    · rw [ofPlain, Marked, hmarked, List.forall_mem_cons]

theorem Nested.mono {outer : List (String × String)} (h : f.Nested enclosing) (hsub : outer ⊆ enclosing) :
    f.Nested outer := by
  induction f generalizing outer enclosing with
  | nil => trivial
  | plain line rest ih => exact ih h hsub
  | region frame o c inside rest ihin ihrest =>
    obtain ⟨hname, hin, hrest⟩ := h
    exact ⟨fun hmem => hname (hsub hmem), ihin hin (List.cons_subset_cons _ hsub), ihrest hrest hsub⟩

/-! ### Cutting at plain lines -/

theorem isMarker_opening {frame : Frame} {line : String} (h : frame.OpenedBy arch line) : IsMarker line :=
  Registry.isMarker_of_classify (Frame.classify_opening h)

theorem isMarker_closing {frame : Frame} {line : String} (h : frame.ClosedBy line) : IsMarker line :=
  Registry.isMarker_of_classify (Frame.classify_closing h)

/-- Plain lines at the front of the lines are plain lines at the front of the forest. -/
theorem eq_ofPlain_append {before after : List String} (hm : f.Marked arch) (h : f.lines = before ++ after)
    (hplain : ∀ line ∈ before, ¬IsMarker line) : ∃ g : Forest, f = ofPlain before ++ g ∧ g.lines = after := by
  induction before generalizing f with
  | nil => exact ⟨f, rfl, h⟩
  | cons line before ih =>
    rw [List.forall_mem_cons] at hplain
    cases f with
    | nil => cases h
    | plain first rest =>
      rw [lines, List.cons_append, List.cons.injEq] at h
      obtain ⟨g, hg, hlines⟩ := ih hm.2 h.2 hplain.2
      exact ⟨g, by rw [hg, h.1]; rfl, hlines⟩
    | region frame o c inside rest =>
      rw [lines, List.cons_append, List.cons.injEq] at h
      exact absurd (h.1 ▸ isMarker_opening hm.1.1) hplain.1

theorem eq_ofPlain (hm : f.Marked arch) (hplain : ∀ line ∈ f.lines, ¬IsMarker line) : f = ofPlain f.lines := by
  induction f with
  | nil => rfl
  | plain line rest ih => rw [lines, ofPlain, ← ih hm.2 (List.forall_mem_cons.mp hplain).2]
  | region frame o c inside rest _ _ =>
    exact absurd (isMarker_opening hm.1.1) (List.forall_mem_cons.mp hplain).1

/-- Plain lines at the end of the lines are plain lines at the end of the forest. -/
theorem eq_append_ofPlain {before after : List String} (hm : f.Marked arch) (h : f.lines = before ++ after)
    (hplain : ∀ line ∈ after, ¬IsMarker line) : ∃ g : Forest, f = g ++ ofPlain after ∧ g.lines = before := by
  induction f generalizing before with
  | nil =>
    obtain ⟨rfl, rfl⟩ := List.append_eq_nil_iff.mp h.symm
    exact ⟨nil, rfl, rfl⟩
  | plain line rest ih =>
    cases before with
    | nil =>
      rw [List.nil_append] at h
      exact ⟨nil, by rw [nil_append, ← h]; exact eq_ofPlain hm (h ▸ hplain), rfl⟩
    | cons first before =>
      rw [lines, List.cons_append, List.cons.injEq] at h
      obtain ⟨g, hg, hlines⟩ := ih hm.2 h.2
      exact ⟨plain line g, by rw [hg]; rfl, by rw [lines, hlines, h.1]⟩
  | region frame o c inside rest _ ih =>
    -- The closing marker is not among the plain lines, so they all stand behind it.
    rw [lines, ← List.cons_append] at h
    rcases List.append_eq_append_iff.mp h with ⟨as, hbefore, has⟩ | ⟨bs, -, hbs⟩
    · cases as with
      | nil =>
        rw [List.nil_append] at has
        exact absurd (isMarker_closing hm.1.2.1) (hplain c (has ▸ List.mem_cons_self))
      | cons first as =>
        rw [List.cons_append, List.cons.injEq] at has
        obtain ⟨g, hg, hlines⟩ := ih hm.2.2 has.2
        refine ⟨region frame o c inside g, by rw [hg]; rfl, ?_⟩
        rw [lines, hlines, hbefore, has.1, List.cons_append]
    · exact absurd (isMarker_closing hm.1.2.1) (hplain c (by simp [hbs]))

/-! ### Scanning over a forest -/

theorem surplus_lines (h : f.Marked arch) : Registry.surplus Keyword.builtin f.lines = 0 := by
  induction f with
  | nil => rfl
  | plain line rest ih =>
    rw [lines, Registry.surplus_cons, Registry.surplus_plain (not_isMarker_iff.mp h.1), ih h.2]
    rfl
  | region frame o c inside rest ihin ihrest =>
    rw [lines, Registry.surplus_cons, Registry.surplus_append, Registry.surplus_cons c, ihin h.2.1, ihrest h.2.2,
      Registry.surplus_opens (Frame.classify_opening h.1.1), Registry.surplus_closes (Frame.classify_closing h.1.2.1)]
    rfl

theorem sameTags_iff (a b : Frame) :
    a.keyword.sameTags b.keyword = true ↔ a.keyword.openTag = b.keyword.openTag := by
  cases a <;> cases b <;> simp only [Frame.keyword] <;> decide

theorem isOpen_iff {stack : List Frame} {frame : Frame} :
    Registry.isOpen (stack.map Frame.opening) frame.opening = true ↔ frame.name ∈ stack.map Frame.name := by
  simp only [Registry.isOpen, List.any_map, List.any_eq_true, Function.comp_apply, Frame.opening, Bool.and_eq_true,
    sameTags_iff, beq_iff_eq, List.mem_map, Frame.name, Prod.mk.injEq]

theorem closeRegion_closing {frame : Frame} {c : String} (hc : frame.ClosedBy c) (below : List Opening)
    (rest : List String) :
    Registry.closeRegion Keyword.builtin frame.opening below (c :: rest) =
      match below with
      | [] => .ok ([c], rest)
      | next :: below => Registry.reread c (Registry.closeRegion Keyword.builtin next below rest) := by
  have hsame : frame.opening.keyword.sameTags frame.opening.keyword = true := (sameTags_iff frame frame).mpr rfl
  refine (Registry.closeRegion_cons_closes (Frame.classify_closing hc)).trans ?_
  cases below <;> simp [hsame]

/-- A scan for the end of the open regions passes over a forest exactly if the forest nests properly in them. -/
theorem closeRegion_lines {top : Frame} {below : List Frame} {tail inside after : List String} (hm : f.Marked arch) :
    Registry.closeRegion Keyword.builtin top.opening (below.map Frame.opening) (f.lines ++ tail) = .ok (inside, after) ↔
      f.Nested ((top :: below).map Frame.name) ∧ ∃ behind, inside = f.lines ++ behind ∧
        Registry.closeRegion Keyword.builtin top.opening (below.map Frame.opening) tail = .ok (behind, after) := by
  induction f generalizing top below tail inside with
  | nil => simp [lines, Nested]
  | plain line rest ih =>
    have hline := Registry.classify_eq_none_iff.mpr (not_isMarker_iff.mp hm.1)
    rw [lines, List.cons_append, Registry.closeRegion_cons_plain hline, Registry.reread_eq_ok]
    simp only [ih hm.2, Nested, List.cons_append]
    constructor
    · rintro ⟨_, rfl, hnested, behind, rfl, h⟩
      exact ⟨hnested, behind, rfl, h⟩
    · rintro ⟨hnested, behind, rfl, h⟩
      exact ⟨_, rfl, hnested, behind, rfl, h⟩
  | region frame o c inner rest ihin ihrest =>
    obtain ⟨⟨hopen, hclose, -, -⟩, hmin, hmrest⟩ := hm
    have hstack : top.opening :: below.map Frame.opening = (top :: below).map Frame.opening := rfl
    have hclosed : ∀ behind,
        Registry.closeRegion Keyword.builtin frame.opening ((top :: below).map Frame.opening)
            (c :: (rest.lines ++ tail)) = .ok (behind, after) ↔
          rest.Nested ((top :: below).map Frame.name) ∧ ∃ last, behind = c :: (rest.lines ++ last) ∧
            Registry.closeRegion Keyword.builtin top.opening (below.map Frame.opening) tail = .ok (last, after) := by
      intro behind
      rw [closeRegion_closing hclose, List.map_cons]
      simp only [Registry.reread_eq_ok, ihrest hmrest]
      constructor
      · rintro ⟨_, rfl, hnested, last, rfl, h⟩
        exact ⟨hnested, last, rfl, h⟩
      · rintro ⟨hnested, last, rfl, h⟩
        exact ⟨_, rfl, hnested, last, rfl, h⟩
    rw [lines, List.cons_append, Registry.closeRegion_cons_opens (Frame.classify_opening hopen), hstack]
    by_cases hname : frame.name ∈ (top :: below).map Frame.name
    · rw [if_pos (isOpen_iff.mpr hname)]
      exact iff_of_false (fun h => by cases h) fun h => h.1.1 hname
    · rw [if_neg (mt isOpen_iff.mp hname), Registry.reread_eq_ok]
      simp only [List.append_assoc, List.cons_append, ihin hmin, hclosed]
      constructor
      · rintro ⟨_, rfl, hnin, _, rfl, hnrest, last, rfl, h⟩
        exact ⟨⟨hname, hnin, hnrest⟩, last, rfl, h⟩
      · rintro ⟨⟨-, hnin, hnrest⟩, last, rfl, h⟩
        exact ⟨_, rfl, hnin, _, rfl, hnrest, last, rfl, h⟩

/-- A region ends at the closing marker of its frame exactly if its inside nests properly in it. -/
theorem closeRegion_inside {frame : Frame} {c : String} {after inside last : List String} (hm : f.Marked arch)
    (hc : frame.ClosedBy c) :
    Registry.closeRegion Keyword.builtin frame.opening [] (f.lines ++ c :: after) = .ok (inside, last) ↔
      f.Nested [frame.name] ∧ inside = f.lines ++ [c] ∧ last = after := by
  have hscan := @closeRegion_lines arch f frame [] (c :: after) inside last hm
  rw [List.map_nil, closeRegion_closing hc] at hscan
  rw [hscan]
  constructor
  · rintro ⟨hn, behind, rfl, h⟩
    cases h
    exact ⟨hn, rfl, rfl⟩
  · rintro ⟨hn, rfl, rfl⟩
    exact ⟨hn, _, rfl, rfl⟩

end Forest

end BenchKernel
