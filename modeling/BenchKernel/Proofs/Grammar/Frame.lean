import BenchKernel.Proofs.Grammar.Scan
import BenchKernel.Proofs.Grammar.Tag
import BenchKernel.Proofs.Target.Scaffold

/-! # Frames

A region of a built-in keyword is a frame around its interior. This file says which lines open and close a frame,
what stands around the interior once the frame is rendered, and that a keyword renders exactly the frames that its
marker lines describe. Of the lines around an interior only a loop's label can be a marker again. -/

namespace BenchKernel

/-! ### The built-in tags -/

/-- Whether a line is a marker of one of the built-in keywords. -/
def IsMarker (line : String) : Prop := Registry.isMarker Keyword.builtin line = true

instance (line : String) : Decidable (IsMarker line) := inferInstanceAs (Decidable (_ = true))

theorem isMarker_builtin (line : String) :
    Registry.isMarker Keyword.builtin line =
      ((Marker.isTagged line Keyword.loopTag || Marker.isTagged line Keyword.loopEndTag) ||
        (Marker.isTagged line Keyword.blockTag || Marker.isTagged line Keyword.blockEndTag)) := by
  simp [Registry.isMarker, Keyword.builtin, Keyword.marks, Keyword.opens, Keyword.closes, Keyword.loop, Keyword.block]

theorem not_isMarker_iff {line : String} : ¬IsMarker line ↔ Registry.isMarker Keyword.builtin line = false := by
  simp [IsMarker]

/-- Whether a line starts with a character that is not blank and starts no built-in tag. -/
def startsPlain (line : String) : Bool :=
  line.toList.head?.any fun c => !Text.isBlank c && c != 'L' && c != 'B'

theorem not_isMarker_of_startsPlain {line : String} (h : startsPlain line = true) : ¬IsMarker line := by
  unfold startsPlain at h
  cases hline : line.toList.head? with
  | none => simp [hline] at h
  | some c =>
    obtain ⟨⟨hblank, hL⟩, hB⟩ : (Text.isBlank c = false ∧ c ≠ 'L') ∧ c ≠ 'B' := by simpa [hline] using h
    have hloop : Marker.isTagged line Keyword.loopTag = false := Marker.isTagged_of_head hline rfl hblank hL
    have hloopEnd : Marker.isTagged line Keyword.loopEndTag = false := Marker.isTagged_of_head hline rfl hblank hL
    have hblock : Marker.isTagged line Keyword.blockTag = false := Marker.isTagged_of_head hline rfl hblank hB
    have hblockEnd : Marker.isTagged line Keyword.blockEndTag = false := Marker.isTagged_of_head hline rfl hblank hB
    simp [not_isMarker_iff, isMarker_builtin, hloop, hloopEnd, hblock, hblockEnd]

theorem not_isMarker_comment (arch : Arch) (text : String) : ¬IsMarker (arch.comment text) := by
  apply not_isMarker_of_startsPlain
  simp only [Arch.comment, startsPlain, String.toList_append, List.head?_append]
  cases arch <;> rfl

theorem not_isMarker_branching (dialect : Branching.Dialect) {op : Branching.Op} (h : op.isLabel = false) :
    ¬IsMarker (dialect.write op) := by
  apply not_isMarker_of_startsPlain
  unfold Branching.Dialect.write
  cases op with
  | label name => cases h
  | advance down r s =>
    cases dialect <;> cases down <;> simp only [startsPlain, String.toList_append, List.head?_append] <;> rfl
  | branch d l =>
    cases dialect <;> cases d <;> simp only [startsPlain, String.toList_append, List.head?_append] <;> rfl
  | lanes inclusive r b =>
    cases dialect <;> cases inclusive <;> simp only [startsPlain, String.toList_append, List.head?_append] <;> rfl
  | _ => cases dialect <;> simp only [startsPlain, String.toList_append, List.head?_append] <;> rfl

theorem not_isMarker_power {op : Power.Op} (h : op.isLabel = false) : ¬IsMarker op.write := by
  apply not_isMarker_of_startsPlain
  unfold Power.Op.write
  cases op with
  | label name => cases h
  | _ =>
    simp only [startsPlain, String.toList_append, List.head?_append]
    rfl

/-! ### What a line opens or closes -/

theorem isTagged_builtin_unique {line s t : String}
    (hs : s ∈ [Keyword.loopTag, Keyword.loopEndTag, Keyword.blockTag, Keyword.blockEndTag])
    (ht : t ∈ [Keyword.loopTag, Keyword.loopEndTag, Keyword.blockTag, Keyword.blockEndTag])
    (h₁ : Marker.isTagged line s = true) (h₂ : Marker.isTagged line t = true) : s = t := by
  have hparen : ∀ u ∈ [Keyword.loopTag, Keyword.loopEndTag, Keyword.blockTag, Keyword.blockEndTag],
      '(' ∉ u.toList := by decide
  exact Marker.isTagged_unique (hparen s hs) (hparen t ht) h₁ h₂

/-- The kinds of regions: a block, and a loop as its opening marker describes it. -/
inductive Frame
  | block (label : String)
  | loop (l : Loop)
  deriving DecidableEq, Repr

namespace Frame

def keyword : Frame → Keyword
  | block _ => .block
  | loop _ => .loop

def label : Frame → String
  | block label => label
  | loop l => l.label

/-- What the opening marker of a frame opens. -/
def opening (frame : Frame) : Opening := ⟨frame.keyword, frame.label⟩

/-- A line opens a frame: it has the tag, and its arguments are those of the frame. -/
def OpenedBy (arch : Arch) (line : String) : Frame → Prop
  | block label => Marker.isTagged line Keyword.blockTag = true ∧ Marker.arguments line = .ok [label]
  | loop l =>
    Marker.isTagged line Keyword.loopTag = true ∧ ∃ first direction second,
      Marker.arguments line = .ok [l.label, first, direction, second, l.step] ∧
      Marker.binding Keyword.loopTag first = .ok (l.counter, l.start) ∧
      Direction.ofSymbol? direction = some l.direction ∧ arch.supports l.direction = true ∧
      Marker.binding Keyword.loopTag second = .ok (l.limit, l.stop)

/-- A line closes a frame: it has the closing tag and repeats the label, with no other argument. -/
def ClosedBy (line : String) (frame : Frame) : Prop :=
  Marker.isTagged line frame.keyword.closeTag = true ∧ Marker.arguments line = .ok [frame.label]

/-- What a frame asks of its interior: a block may not be empty. -/
def Admits (interior : List String) : Frame → Prop
  | block _ => interior ≠ []
  | loop _ => True

/-- On POWER the operands of a loop have to be symbols or literals with a value. -/
def Readable (arch : Arch) : Frame → Prop
  | block _ => True
  | loop l => arch = .ppc64 → ∀ text ∈ [l.start, l.stop, l.step], ∃ value, Literal.value? text = .ok value

/-- The lines of a rendered frame before its interior. -/
def header (arch : Arch) : Frame → List String
  | block _ => []
  | loop l =>
    match arch.loopPrologue l with
    | .ok lines => lines
    | .error _ => []

/-- The lines of a rendered frame after its interior. -/
def footer (arch : Arch) : Frame → List String
  | block _ => []
  | loop l => arch.loopEpilogue l

/-- A rendered frame: both its markers as comments, and the frame's own lines around the interior. -/
def wrap (arch : Arch) (opening closing : String) (interior : List String) (frame : Frame) : List String :=
  [arch.comment (Text.trimmed opening)] ++ frame.header arch ++ interior ++ frame.footer arch ++
    [arch.comment (Text.trimmed closing)]

end Frame

/-! ### Regions taken apart -/

theorem eq_first_interior_last {lines : List String} (h : 1 < lines.length) :
    lines = lines.head?.getD "" :: (lines.tail.dropLast ++ [lines.getLast?.getD ""]) := by
  match lines, h with
  | first :: second :: rest, _ =>
    have hlast : (first :: second :: rest).getLast?.getD "" = (second :: rest).getLast (by simp) := by
      rw [List.getLast?_cons_cons, List.getLast?_eq_some_getLast (by simp)]
      rfl
    rw [hlast, List.tail_cons, List.dropLast_concat_getLast]
    rfl

theorem Region.ofLines_eq_ok {openTag closeTag : String} {extra : Nat} {lines : List String} {region : Region}
    (h : Region.ofLines openTag closeTag extra lines = .ok region) :
    lines = region.opening :: (region.interior ++ [region.closing]) ∧
      Marker.isTagged region.opening openTag = true ∧ Marker.isTagged region.closing closeTag = true ∧
      Marker.arguments region.opening = .ok (region.label :: region.arguments) ∧
      region.arguments.length = extra ∧ Marker.arguments region.closing = .ok [region.label] := by
  simp only [Region.ofLines, throw_bind] at h
  obtain ⟨hopen, h⟩ := check_eq_ok.mp h
  obtain ⟨hclose, h⟩ := check_eq_ok.mp h
  rw [Bool.and_eq_true, decide_eq_true_eq] at hclose
  obtain ⟨hlength, hclose⟩ := hclose
  obtain ⟨found, hfound, h⟩ := bind_eq_ok.mp h
  match found, hfound, h with
  | [], _, h => cases h
  | label :: arguments, hfound, h =>
    obtain ⟨hextra, h⟩ := check_eq_ok.mp h
    obtain ⟨last, hlast, h⟩ := bind_eq_ok.mp h
    match last, hlast, h with
    | [], _, h => cases h
    | _ :: _ :: _, _, h => cases h
    | [closeLabel], hlast, h =>
      obtain ⟨hlabel, h⟩ := check_eq_ok.mp h
      subst hlabel
      cases h
      exact ⟨eq_first_interior_last hlength, hopen, hclose, hfound, hextra, hlast⟩

theorem Region.ofLines_of {openTag closeTag opening closing label : String} {arguments interior : List String}
    (hopen : Marker.isTagged opening openTag = true) (hclose : Marker.isTagged closing closeTag = true)
    (hargs : Marker.arguments opening = .ok (label :: arguments)) (hlabel : Marker.arguments closing = .ok [label]) :
    Region.ofLines openTag closeTag arguments.length (opening :: (interior ++ [closing])) =
      .ok ⟨opening, closing, label, arguments, interior⟩ := by
  have hlast : (opening :: (interior ++ [closing])).getLast?.getD "" = closing := by simp [List.getLast?_cons]
  have hlength : 1 < (opening :: (interior ++ [closing])).length := by simp
  simp only [Region.ofLines, throw_bind, hlast, List.head?_cons, Option.getD_some, hopen, hclose, hargs, hlabel,
    ok_bind,
    hlength, decide_true, Bool.and_self, ↓reduceIte, List.tail_cons, List.dropLast_concat]
  rfl

/-! ### What a keyword renders -/

theorem Keyword.readLoop_eq_ok {arch : Arch} {label : String} {arguments : List String} {l : Loop}
    (h : Keyword.readLoop arch label arguments = .ok l) :
    l.label = label ∧ ∃ first direction second, arguments = [first, direction, second, l.step] ∧
      Marker.binding Keyword.loopTag first = .ok (l.counter, l.start) ∧
      Direction.ofSymbol? direction = some l.direction ∧ arch.supports l.direction = true ∧
      Marker.binding Keyword.loopTag second = .ok (l.limit, l.stop) := by
  unfold Keyword.readLoop at h
  split at h
  · rename_i first direction second step
    obtain ⟨⟨counter, start⟩, hfirst, h⟩ := bind_eq_ok.mp h
    simp only [throw_bind] at h
    split at h
    · cases h
    · rename_i d hd
      obtain ⟨hsupports, h⟩ := check_eq_ok.mp h
      obtain ⟨⟨limit, stop⟩, hsecond, h⟩ := bind_eq_ok.mp h
      cases h
      exact ⟨rfl, first, direction, second, rfl, hfirst, hd, hsupports, hsecond⟩
  · cases h

theorem Keyword.readLoop_of {arch : Arch} {l : Loop} {first direction second : String}
    (hfirst : Marker.binding Keyword.loopTag first = .ok (l.counter, l.start))
    (hd : Direction.ofSymbol? direction = some l.direction) (hsupports : arch.supports l.direction = true)
    (hsecond : Marker.binding Keyword.loopTag second = .ok (l.limit, l.stop)) :
    Keyword.readLoop arch l.label [first, direction, second, l.step] = .ok l := by
  simp only [Keyword.readLoop, hfirst, ok_bind, hd, hsupports, ↓reduceIte, hsecond]
  rfl

namespace Frame

theorem readable_loop_iff {arch : Arch} {l : Loop} :
    (Frame.loop l).Readable arch ↔ ∃ lines, arch.loopPrologue l = .ok lines := by
  unfold Readable Arch.loopPrologue
  cases arch with
  | ppc64 =>
    simp only [Arch.dialect?, forall_const, List.mem_cons, List.not_mem_nil, or_false, forall_eq_or_imp, forall_eq]
    constructor
    · rintro ⟨⟨start, hstart⟩, ⟨stop, hstop⟩, step, hstep⟩
      have hheader := Power.header_eq_ok_iff.mpr ⟨start, stop, step, hstart, hstop, hstep, rfl⟩
      exact ⟨_, by rw [hheader]; rfl⟩
    · rintro ⟨lines, h⟩
      cases hheader : Power.header l with
      | error e =>
        rw [hheader] at h
        cases h
      | ok ops =>
        obtain ⟨start, stop, step, hstart, hstop, hstep, -⟩ := Power.header_eq_ok_iff.mp hheader
        exact ⟨⟨start, hstart⟩, ⟨stop, hstop⟩, step, hstep⟩
  | _ => simp [Arch.dialect?]

theorem header_loop {arch : Arch} {l : Loop} {lines : List String} (h : arch.loopPrologue l = .ok lines) :
    (Frame.loop l).header arch = lines := by
  simp [header, h]

theorem renderLoop_eq_ok {ctx : Context} {lines out : List String} (h : Keyword.renderLoop ctx lines = .ok out) :
    ∃ l opening interior closing, lines = opening :: (interior ++ [closing]) ∧
      (Frame.loop l).OpenedBy ctx.arch opening ∧ (Frame.loop l).ClosedBy closing ∧
      (Frame.loop l).Readable ctx.arch ∧ out = (Frame.loop l).wrap ctx.arch opening closing interior := by
  unfold Keyword.renderLoop at h
  obtain ⟨region, hregion, h⟩ := bind_eq_ok.mp h
  obtain ⟨l, hl, h⟩ := bind_eq_ok.mp h
  obtain ⟨lines', hlines', h⟩ := bind_eq_ok.mp h
  obtain ⟨hlines, hopen, hclose, hargs, -, hlabel⟩ := Region.ofLines_eq_ok (reported_eq_ok.mp hregion)
  obtain ⟨hll, first, direction, second, harguments, hrest⟩ := Keyword.readLoop_eq_ok (reported_eq_ok.mp hl)
  have hheader := faulting_eq_ok.mp hlines'
  rw [harguments] at hargs
  refine ⟨l, region.opening, region.interior, region.closing, hlines, ⟨hopen, first, direction, second, ?_, hrest⟩,
    ⟨hclose, ?_⟩, readable_loop_iff.mpr ⟨lines', hheader⟩, ?_⟩
  · rw [hll]
    exact hargs
  · rw [hlabel, ← hll]
    rfl
  · cases h
    rw [wrap, header_loop hheader]
    rfl

theorem renderLoop_of {ctx : Context} {l : Loop} {opening closing : String} (interior : List String)
    (hopen : (Frame.loop l).OpenedBy ctx.arch opening) (hclose : (Frame.loop l).ClosedBy closing)
    (hread : (Frame.loop l).Readable ctx.arch) :
    Keyword.renderLoop ctx (opening :: (interior ++ [closing])) =
      .ok ((Frame.loop l).wrap ctx.arch opening closing interior) := by
  obtain ⟨htag, first, direction, second, hargs, hfirst, hd, hsupports, hsecond⟩ := hopen
  obtain ⟨lines, hlines⟩ := readable_loop_iff.mp hread
  have hregion : Region.ofLines Keyword.loopTag Keyword.loopEndTag 4 (opening :: (interior ++ [closing])) =
      .ok ⟨opening, closing, l.label, [first, direction, second, l.step], interior⟩ :=
    Region.ofLines_of htag hclose.1 hargs hclose.2
  have hl := Keyword.readLoop_of hfirst hd hsupports hsecond
  unfold Keyword.renderLoop
  rw [hregion]
  simp only [reported, ok_bind, hl, hlines, faulting, wrap, header_loop hlines]
  rfl

theorem renderBlock_eq_ok {ctx : Context} {lines out : List String} (h : Keyword.renderBlock ctx lines = .ok out) :
    ∃ label opening interior closing, lines = opening :: (interior ++ [closing]) ∧
      (Frame.block label).OpenedBy ctx.arch opening ∧ (Frame.block label).ClosedBy closing ∧ interior ≠ [] ∧
      out = (Frame.block label).wrap ctx.arch opening closing interior := by
  unfold Keyword.renderBlock at h
  obtain ⟨region, hregion, h⟩ := bind_eq_ok.mp h
  obtain ⟨hlines, hopen, hclose, hargs, hextra, hlabel⟩ := Region.ofLines_eq_ok (reported_eq_ok.mp hregion)
  rw [List.length_eq_zero_iff.mp hextra] at hargs
  simp only [throw_bind] at h
  split at h
  · cases h
  · rename_i hne
    cases h
    refine ⟨region.label, region.opening, region.interior, region.closing, hlines, ⟨hopen, hargs⟩, ⟨hclose, hlabel⟩,
      by simpa using hne, ?_⟩
    simp [wrap, header, footer]

theorem renderBlock_of {ctx : Context} {label opening closing : String} {interior : List String}
    (hopen : (Frame.block label).OpenedBy ctx.arch opening) (hclose : (Frame.block label).ClosedBy closing)
    (hne : interior ≠ []) :
    Keyword.renderBlock ctx (opening :: (interior ++ [closing])) =
      .ok ((Frame.block label).wrap ctx.arch opening closing interior) := by
  have hregion : Region.ofLines Keyword.blockTag Keyword.blockEndTag 0 (opening :: (interior ++ [closing])) =
      .ok ⟨opening, closing, label, [], interior⟩ :=
    Region.ofLines_of hopen.1 hclose.1 hopen.2 hclose.2
  unfold Keyword.renderBlock
  rw [hregion]
  simp only [reported, ok_bind, throw_bind, List.isEmpty_eq_false_iff.mpr hne, wrap, header, footer,
    Bool.false_eq_true, ↓reduceIte, List.append_nil]
  rfl

/-- A keyword renders the regions whose marker lines describe a frame of this keyword, as that frame around the
    interior. -/
theorem render_eq_ok {ctx : Context} {k : Keyword} (hk : k ∈ Keyword.builtin) {lines out : List String}
    (h : k.render ctx lines = .ok out) :
    ∃ frame : Frame, ∃ opening interior closing, frame.keyword = k ∧
      lines = opening :: (interior ++ [closing]) ∧ frame.OpenedBy ctx.arch opening ∧ frame.ClosedBy closing ∧
      frame.Admits interior ∧ frame.Readable ctx.arch ∧ out = frame.wrap ctx.arch opening closing interior := by
  simp only [Keyword.builtin, List.mem_cons, List.not_mem_nil, or_false] at hk
  rcases hk with rfl | rfl
  · obtain ⟨l, opening, interior, closing, hlines, hopen, hclose, hread, hout⟩ := renderLoop_eq_ok h
    exact ⟨.loop l, opening, interior, closing, rfl, hlines, hopen, hclose, trivial, hread, hout⟩
  · obtain ⟨label, opening, interior, closing, hlines, hopen, hclose, hne, hout⟩ := renderBlock_eq_ok h
    exact ⟨.block label, opening, interior, closing, rfl, hlines, hopen, hclose, hne, trivial, hout⟩

theorem render_of {ctx : Context} {frame : Frame} {opening closing : String} {interior : List String}
    (hopen : frame.OpenedBy ctx.arch opening) (hclose : frame.ClosedBy closing) (hadmits : frame.Admits interior)
    (hread : frame.Readable ctx.arch) :
    frame.keyword.render ctx (opening :: (interior ++ [closing])) =
      .ok (frame.wrap ctx.arch opening closing interior) := by
  cases frame with
  | block label => exact renderBlock_of hopen hclose hadmits
  | loop l => exact renderLoop_of interior hopen hclose hread

/-! ### Classification -/

/-- The built-in keywords share no tag, so the one that has a tag on a line is found first. -/
theorem find?_marks {k : Keyword} (hk : k ∈ Keyword.builtin) {line : String} (h : k.marks line = true) :
    (Keyword.builtin.find? fun k => k.marks line) = some k := by
  simp only [Keyword.builtin, List.mem_cons, List.not_mem_nil, or_false] at hk
  rcases hk with rfl | rfl
  · simp [Keyword.builtin, h]
  · have hloop : Keyword.loop.marks line = false := by
      rw [Bool.eq_false_iff]
      intro hl
      simp only [Keyword.marks, Keyword.opens, Keyword.closes, Keyword.loop, Keyword.block, Bool.or_eq_true] at h hl
      rcases h with h | h <;> rcases hl with hl | hl <;>
        exact absurd (isTagged_builtin_unique (by simp) (by simp) h hl) (by decide)
    simp [Keyword.builtin, h, hloop]

theorem keyword_mem (frame : Frame) : frame.keyword ∈ Keyword.builtin := by
  cases frame <;> simp [keyword, Keyword.builtin]

theorem arguments_head {arch : Arch} {frame : Frame} {line : String} (h : frame.OpenedBy arch line) :
    frame.keyword.opens line = true ∧
      ∃ arguments, Marker.arguments line = .ok arguments ∧ arguments.head?.getD "" = frame.label := by
  cases frame with
  | block label => exact ⟨h.1, [label], h.2, rfl⟩
  | loop l =>
    obtain ⟨htag, first, direction, second, hargs, -⟩ := h
    exact ⟨htag, _, hargs, rfl⟩

theorem classify_opening {arch : Arch} {frame : Frame} {line : String} (h : frame.OpenedBy arch line) :
    Registry.classify Keyword.builtin line = .ok (some (.opens frame.opening)) := by
  obtain ⟨hopens, arguments, hargs, hlabel⟩ := arguments_head h
  have hmarks : frame.keyword.marks line = true := by simp [Keyword.marks, hopens]
  rw [Registry.classify_of_find? (find?_marks frame.keyword_mem hmarks) hargs, hopens, hlabel]
  rfl

theorem classify_closing {frame : Frame} {line : String} (h : frame.ClosedBy line) :
    Registry.classify Keyword.builtin line = .ok (some (.closes frame.opening)) := by
  have hmarks : frame.keyword.marks line = true := by simp [Keyword.marks, Keyword.closes, h.1]
  have hopens : frame.keyword.opens line = false := by
    rw [Bool.eq_false_iff]
    intro ho
    cases frame with
    | block label =>
      have hclose : Marker.isTagged line Keyword.blockEndTag = true := h.1
      have hopen : Marker.isTagged line Keyword.blockTag = true := ho
      exact absurd (isTagged_builtin_unique (by simp) (by simp) hclose hopen) (by decide)
    | loop l =>
      have hclose : Marker.isTagged line Keyword.loopEndTag = true := h.1
      have hopen : Marker.isTagged line Keyword.loopTag = true := ho
      exact absurd (isTagged_builtin_unique (by simp) (by simp) hclose hopen) (by decide)
  rw [Registry.classify_of_find? (find?_marks frame.keyword_mem hmarks) h.2, hopens]
  rfl

theorem opening_eq_of_classify {arch : Arch} {frame : Frame} {line : String} {opening : Opening}
    (h : Registry.classify Keyword.builtin line = .ok (some (.opens opening))) (ho : frame.OpenedBy arch line) :
    frame.opening = opening := by
  rw [classify_opening ho] at h
  cases h
  rfl

theorem keyword_mem_of_classify {line : String} {opening : Opening}
    (h : Registry.classify Keyword.builtin line = .ok (some (.opens opening))) : opening.keyword ∈ Keyword.builtin := by
  obtain ⟨k, arguments, hk, -, hm⟩ := Registry.find?_of_classify h
  split at hm <;> cases hm
  exact List.mem_of_find?_eq_some hk

/-! ### Markers among the lines of a frame -/

/-- Whether a text can stand behind a label without making a marker of it: it starts with no capital letter, no
    blank and no parenthesis. -/
def trails (more : String) : Bool :=
  more.toList.head?.any fun c => c != '(' && !Text.isBlank c && !c.isUpper

section Labels
variable {more : String}

theorem opens_append (h : trails more = true) (label : String) {k : Keyword} (hk : k ∈ Keyword.builtin) :
    k.opens (label ++ more) = k.opens label ∧ k.closes (label ++ more) = k.closes label := by
  unfold trails at h
  cases hmore : more.toList with
  | nil => simp [hmore] at h
  | cons c cs =>
    obtain ⟨⟨hparen, hblank⟩, hupper⟩ : (c ≠ '(' ∧ Text.isBlank c = false) ∧ c.isUpper = false := by
      simpa [hmore] using h
    have hletters : ∀ k ∈ Keyword.builtin, k.openTag.toList.all Char.isUpper = true ∧
        k.closeTag.toList.all Char.isUpper = true := by
      simp only [Keyword.builtin, List.mem_cons, List.not_mem_nil, or_false, forall_eq_or_imp, forall_eq]
      decide
    have hopen : c ∉ k.openTag.toList := fun h => by
      simp [List.all_eq_true.mp (hletters k hk).1 c h] at hupper
    have hclose : c ∉ k.closeTag.toList := fun h => by
      simp [List.all_eq_true.mp (hletters k hk).2 c h] at hupper
    exact ⟨Marker.isTagged_append hmore hparen hblank hopen, Marker.isTagged_append hmore hparen hblank hclose⟩

theorem find?_marks_append (h : trails more = true) (label : String) :
    (Keyword.builtin.find? fun k => k.marks (label ++ more)) = Keyword.builtin.find? fun k => k.marks label := by
  have hmarks : ∀ k ∈ Keyword.builtin, k.marks (label ++ more) = k.marks label := by
    intro k hk
    obtain ⟨ho, hc⟩ := opens_append h label hk
    simp [Keyword.marks, ho, hc]
  have hloop := hmarks Keyword.loop (by simp [Keyword.builtin])
  have hblock := hmarks Keyword.block (by simp [Keyword.builtin])
  simp only [Keyword.builtin, List.find?_cons, hloop, hblock, List.find?_nil]

theorem isMarker_append (h : trails more = true) (label : String) : IsMarker (label ++ more) ↔ IsMarker label := by
  simp only [IsMarker, Registry.isMarker, ← List.isSome_find?, find?_marks_append h]

theorem surplus_append (h : trails more = true) (label : String) :
    Registry.surplus Keyword.builtin [label ++ more] = Registry.surplus Keyword.builtin [label] := by
  have hany : ∀ f : Bool → Bool,
      ((Keyword.builtin.find? fun k => k.marks (label ++ more)).any fun k => f (k.opens (label ++ more))) =
        (Keyword.builtin.find? fun k => k.marks label).any fun k => f (k.opens label) := by
    intro f
    rw [find?_marks_append h]
    cases hk : Keyword.builtin.find? fun k => k.marks label with
    | none => rfl
    | some k => simp [(opens_append h label (List.mem_of_find?_eq_some hk)).1]
  have hopening : Registry.isOpening Keyword.builtin (label ++ more) = Registry.isOpening Keyword.builtin label :=
    hany id
  have hclosing : Registry.isClosing Keyword.builtin (label ++ more) = Registry.isClosing Keyword.builtin label :=
    hany not
  simp only [Registry.surplus, List.countP_singleton, hopening, hclosing]

end Labels

theorem surplus_of_isMarker {line : String} (h : IsMarker line) :
    Registry.surplus Keyword.builtin [line] = 1 ∨ Registry.surplus Keyword.builtin [line] = -1 := by
  obtain ⟨k, hk⟩ : ∃ k, (Keyword.builtin.find? fun k => k.marks line) = some k := by
    rw [← Option.isSome_iff_exists, List.isSome_find?]
    exact h
  cases ho : k.opens line
  · simp [Registry.surplus, Registry.isOpening, Registry.isClosing, hk, ho]
  · simp [Registry.surplus, Registry.isOpening, Registry.isClosing, hk, ho]

theorem write_label (dialect : Branching.Dialect) (name : String) : dialect.write (.label name) = name ++ ":" := by
  cases dialect <;> rfl

theorem write_power_label (name : String) : (Power.Op.label name).write = name ++ ":" := rfl

theorem header_loop_eq {arch : Arch} {l : Loop} (h : (Frame.loop l).Readable arch) :
    ∃ setup, (Frame.loop l).header arch = setup ++ [l.label ++ ":"] ∧ ∀ line ∈ setup, ¬IsMarker line := by
  obtain ⟨lines, hlines⟩ := readable_loop_iff.mp h
  rw [header_loop hlines]
  unfold Arch.loopPrologue at hlines
  split at hlines
  · rename_i dialect _
    cases hlines
    refine ⟨(Branching.setup arch.isVector l).map dialect.write, ?_, fun line hline => ?_⟩
    · rw [Branching.header_eq, List.map_append, List.map_singleton, write_label]
    · obtain ⟨op, hop, rfl⟩ := List.mem_map.mp hline
      exact not_isMarker_branching dialect (Branching.isLabel_setup op hop)
  · cases hops : Power.header l with
    | error e =>
      rw [hops] at hlines
      cases hlines
    | ok ops =>
      rw [hops] at hlines
      cases hlines
      obtain ⟨start, stop, step, -, -, -, rfl⟩ := Power.header_eq_ok_iff.mp hops
      refine ⟨(Power.setupKnown l start stop step).map Power.Op.write, ?_, fun line hline => ?_⟩
      · simp only [List.map_append, List.map_cons, List.map_nil, write_power_label]
      · obtain ⟨op, hop, rfl⟩ := List.mem_map.mp hline
        exact not_isMarker_power (Power.isLabel_setupKnown op hop)

/-- The lines after a loop body are plain, but for a label behind the loop on POWER. -/
theorem footer_loop_eq (arch : Arch) (l : Loop) :
    ∃ body exit, (Frame.loop l).footer arch = body ++ exit ∧ (∀ line ∈ body, ¬IsMarker line) ∧
      (exit = [] ∨ exit = [l.label ++ "_exit:"]) := by
  show ∃ body exit, arch.loopEpilogue l = _ ∧ _
  unfold Arch.loopEpilogue
  split
  · rename_i dialect _
    refine ⟨(Branching.footer arch.isVector l).map dialect.write, [], (List.append_nil _).symm, fun line hline => ?_,
      Or.inl rfl⟩
    obtain ⟨op, hop, rfl⟩ := List.mem_map.mp hline
    exact not_isMarker_branching dialect (Branching.isLabel_footer op hop)
  · have hexit : (l.label ++ "_exit") ++ ":" = l.label ++ "_exit:" := String.append_assoc
    rw [← hexit]
    refine ⟨_, [(l.label ++ "_exit") ++ ":"], (rfl : _ = [_, _] ++ [_]), fun line hline => ?_, Or.inr rfl⟩
    simp only [List.mem_cons, List.not_mem_nil, or_false] at hline
    rcases hline with rfl | rfl <;> exact not_isMarker_power rfl

/-- If a loop's label is no marker, none of the lines around the interior is one. -/
theorem not_isMarker_around {arch : Arch} {frame : Frame} (hread : frame.Readable arch)
    (hlabel : ∀ l, frame = .loop l → ¬IsMarker l.label) :
    (∀ line ∈ frame.header arch, ¬IsMarker line) ∧ ∀ line ∈ frame.footer arch, ¬IsMarker line := by
  cases frame with
  | block label => simp [header, footer]
  | loop l =>
    have hl := hlabel l rfl
    obtain ⟨setup, hsetup, hplain⟩ := header_loop_eq hread
    obtain ⟨body, exit, hfooter, hbody, hexit⟩ := footer_loop_eq arch l
    rw [hsetup, hfooter]
    constructor
    · intro line hline
      rcases List.mem_append.mp hline with hline | hline
      · exact hplain line hline
      · rw [List.mem_singleton.mp hline, isMarker_append (by decide)]
        exact hl
    · intro line hline
      rcases List.mem_append.mp hline with hline | hline
      · exact hbody line hline
      · rcases hexit with rfl | rfl
        · cases hline
        · rw [List.mem_singleton.mp hline, isMarker_append (by decide)]
          exact hl

/-- If a loop's label is a marker, the rendered loop opens and closes different numbers of regions. -/
theorem surplus_wrap_ne {arch : Arch} {l : Loop} (hread : (Frame.loop l).Readable arch) (hlabel : IsMarker l.label)
    {opening closing : String} {interior : List String} (hin : Registry.surplus Keyword.builtin interior = 0) :
    Registry.surplus Keyword.builtin ((Frame.loop l).wrap arch opening closing interior) ≠ 0 := by
  have hcomment : ∀ text, Registry.surplus Keyword.builtin [arch.comment text] = 0 := fun text =>
    Registry.surplus_plain (not_isMarker_iff.mp (not_isMarker_comment arch text))
  have hplain : ∀ {lines : List String}, (∀ line ∈ lines, ¬IsMarker line) →
      Registry.surplus Keyword.builtin lines = 0 := fun h =>
    Registry.surplus_of_markerCount
      (Registry.markerCount_eq_zero_iff.mpr fun line hl => not_isMarker_iff.mp (h line hl))
  obtain ⟨setup, hsetup, hsetup'⟩ := header_loop_eq hread
  obtain ⟨body, exit, hfooter, hbody, hexit⟩ := footer_loop_eq arch l
  have hone := surplus_of_isMarker hlabel
  have hcolon := surplus_append (show trails ":" = true by decide) l.label
  have hbehind := surplus_append (show trails "_exit:" = true by decide) l.label
  simp only [wrap, hsetup, hfooter, Registry.surplus_append, hcomment, hplain hsetup', hplain hbody, hin, hcolon]
  rcases hexit with rfl | rfl
  · have hnil : Registry.surplus Keyword.builtin [] = 0 := rfl
    omega
  · omega

end Frame

end BenchKernel
