import BenchKernel.Proofs.Grammar.Forest
import BenchKernel.Proofs.Grammar.Termination

/-! # Expansion renders forests

Expansion works on flat lines: it finds a region, renders it, expands what came out and reads all lines again. With
the built-in keywords this comes to the same as rendering a forest from the inside out. The expansion succeeds on the
lines of the forests in the grammar and on no others, and gives what the forest renders to. -/

namespace BenchKernel

/-! ### A pass at some depth -/

namespace Registry
variable {r : Registry} {ctx : Context} {depth : Nat} {lines next : List String}

theorem passAt_of_region {before rest inside after produced expanded : List String} {line : String} {opening : Opening}
    (hd : depth < nestingLimit) (hfirst : r.firstOpening lines = .ok (some (before, (line, opening), rest)))
    (hclose : r.closeRegion opening [] rest = .ok (inside, after))
    (hrender : opening.keyword.render ctx (line :: inside) = .ok produced)
    (hexpand : r.expandAt ctx (depth + 1) produced = .ok expanded) :
    r.passAt ctx depth lines = .ok (some (before ++ expanded ++ after)) := by
  have hdeeper : expandWithin r ctx (nestingLimit - (depth + 1)) produced = .ok expanded := hexpand
  simp only [passAt, onePass, deeperAt, hd, ↓reduceIte, hfirst, reported, ok_bind, hclose, hrender, hdeeper]
  rfl

/-- A pass that gives new lines is made above the nesting limit, on a region that it finds. -/
theorem passAt_eq_some (h : r.passAt ctx depth lines = .ok (some next)) :
    ∃ before line opening rest inside after produced expanded, depth < nestingLimit ∧
      r.firstOpening lines = .ok (some (before, (line, opening), rest)) ∧
      r.closeRegion opening [] rest = .ok (inside, after) ∧
      opening.keyword.render ctx (line :: inside) = .ok produced ∧
      r.expandAt ctx (depth + 1) produced = .ok expanded ∧ next = before ++ expanded ++ after := by
  obtain ⟨before, line, opening, rest, inside, after, produced, expanded, expand, hfirst, hdeeper, hclose, hrender,
    hexpand, hnext⟩ := onePass_eq_some h
  unfold deeperAt at hdeeper
  split at hdeeper
  · rename_i hd
    cases hdeeper
    exact ⟨before, line, opening, rest, inside, after, produced, expanded, hd, hfirst, hclose, hrender, hexpand, hnext⟩
  · cases hdeeper

theorem expandAt_of_pass (hd : depth ≤ nestingLimit) (h : r.passAt ctx depth lines = .ok (some next)) :
    r.expandAt ctx depth lines = r.expandAt ctx depth next := by
  rw [expandAt_eq_settle hd, expandAt_eq_settle hd]
  exact settle_of_pass (leavesPlain_deeperAt depth) h

theorem expandAt_of_plain (hd : depth ≤ nestingLimit) (h : r.markerCount lines = 0) :
    r.expandAt ctx depth lines = .ok lines := by
  rw [expandAt_eq_settle hd]
  exact settle_of_plain _ h

end Registry

theorem markerCount_builtin {lines : List String} :
    Registry.markerCount Keyword.builtin lines = 0 ↔ ∀ line ∈ lines, ¬IsMarker line := by
  simp only [Registry.markerCount_eq_zero_iff, not_isMarker_iff]

namespace Forest
variable {ctx : Context} {f : Forest} {depth : Nat}

/-! ### The lines of a forest expand to its rendering -/

theorem wrap_eq (frame : Frame) (arch : Arch) (o c : String) (interior : List String) :
    frame.wrap arch o c interior = (arch.comment (Text.trimmed o) :: frame.header arch) ++ interior ++
      (frame.footer arch ++ [arch.comment (Text.trimmed c)]) := by
  simp [Frame.wrap]

/-- If a loop's label is no marker, the lines around the interior are plain. -/
theorem plain_around {arch : Arch} {frame : Frame} (hread : frame.Readable arch)
    (hlabel : ∀ l, frame = .loop l → ¬IsMarker l.label) (o c : String) :
    (∀ line ∈ arch.comment (Text.trimmed o) :: frame.header arch, ¬IsMarker line) ∧
      ∀ line ∈ frame.footer arch ++ [arch.comment (Text.trimmed c)], ¬IsMarker line := by
  obtain ⟨hheader, hfooter⟩ := Frame.not_isMarker_around hread hlabel
  constructor
  · exact List.forall_mem_cons.mpr ⟨not_isMarker_comment arch _, hheader⟩
  · intro line hline
    rcases List.mem_append.mp hline with hline | hline
    · exact hfooter line hline
    · rw [List.mem_singleton.mp hline]
      exact not_isMarker_comment arch _

/-- The plain lines around a forest are there so that the induction also covers what stands around a region once the
    regions before it have been replaced, and what a frame puts around its interior. -/
theorem expandAt_lines {before after : List String} (hm : f.Marked ctx.arch) (hr : f.Readable ctx.arch)
    (hn : f.Nested []) (hd : depth + f.depth ≤ nestingLimit) (hbefore : ∀ line ∈ before, ¬IsMarker line)
    (hafter : ∀ line ∈ after, ¬IsMarker line) :
    Registry.expandAt Keyword.builtin ctx depth (before ++ f.lines ++ after) =
      .ok (before ++ f.render ctx.arch ++ after) := by
  induction f generalizing depth before after with
  | nil =>
    refine Registry.expandAt_of_plain hd (markerCount_builtin.mpr ?_)
    simpa [lines, or_imp, forall_and] using ⟨hbefore, hafter⟩
  | plain line rest ih =>
    have hbefore' : ∀ text ∈ before ++ [line], ¬IsMarker text := by
      simpa [or_imp, forall_and] using ⟨hbefore, hm.1⟩
    simpa [lines, render] using ih hm.2 hr hn hd hbefore' hafter
  | region frame o c inside rest ihin ihrest =>
    obtain ⟨⟨hopen, hclose, hadmits, hlabel⟩, hmin, hmrest⟩ := hm
    obtain ⟨hread, hrin, hrrest⟩ := hr
    obtain ⟨-, hnin, hnrest⟩ := hn
    have hdepth : depth + (inside.depth + 1) ≤ nestingLimit ∧ depth + rest.depth ≤ nestingLimit := by
      rw [Forest.depth] at hd
      omega
    obtain ⟨hheader, hfooter⟩ := plain_around hread hlabel o c
    have hinside : Registry.expandAt Keyword.builtin ctx (depth + 1) (frame.wrap ctx.arch o c inside.lines) =
        .ok (frame.wrap ctx.arch o c (inside.render ctx.arch)) := by
      rw [wrap_eq, wrap_eq]
      exact ihin hmin hrin (hnin.mono (List.nil_subset _)) (by omega) hheader hfooter
    have hpass : Registry.passAt Keyword.builtin ctx depth
          (before ++ (region frame o c inside rest).lines ++ after) =
        .ok (some (before ++ frame.wrap ctx.arch o c (inside.render ctx.arch) ++ (rest.lines ++ after))) := by
      refine Registry.passAt_of_region (by omega) ?_ ((closeRegion_inside hmin hclose).mpr ⟨hnin, rfl, rfl⟩)
        (Frame.render_of hopen hclose hadmits hread) hinside
      have hfirst := Registry.firstOpening_append (markerCount_builtin.mpr hbefore) (Frame.classify_opening hopen)
        (inside.lines ++ c :: (rest.lines ++ after))
      simpa [lines] using hfirst
    -- What has taken the region's place is plain, so it joins the lines before the rest.
    have hplain : ∀ line ∈ before ++ frame.wrap ctx.arch o c (inside.render ctx.arch), ¬IsMarker line := by
      have hwrap := markerCount_builtin.mp (Registry.markerCount_expandWithin hinside)
      simpa only [List.forall_mem_append] using ⟨hbefore, hwrap⟩
    rw [Registry.expandAt_of_pass (by omega) hpass]
    simpa [render] using ihrest hmrest hrrest hnrest hdepth.2 hplain hafter

theorem expand_lines (hf : f.InGrammar ctx.arch) (hr : f.Readable ctx.arch) :
    expand Keyword.builtin ctx f.lines = .ok (f.render ctx.arch) := by
  have hdepth := hf.depth_le
  have h := @expandAt_lines ctx f 0 [] [] hf.marked hr hf.nested (by omega) (by simp) (by simp)
  rw [List.nil_append, List.append_nil, List.nil_append, List.append_nil] at h
  exact h

/-! ### Lines that expand are those of a forest -/

/-- At some depth, lines are those of a forest in the grammar that renders to `out`. -/
def Renders (ctx : Context) (depth : Nat) (texts out : List String) (f : Forest) : Prop :=
  f.lines = texts ∧ f.Marked ctx.arch ∧ f.Readable ctx.arch ∧ f.Nested [] ∧ depth + f.depth ≤ nestingLimit ∧
    f.render ctx.arch = out

theorem renders_ofPlain {texts : List String} (hd : depth ≤ nestingLimit) (h : ∀ line ∈ texts, ¬IsMarker line) :
    Renders ctx depth texts texts (ofPlain texts) := by
  obtain ⟨hlines, hrender, hdepth, hmarked, hnested, hreadable⟩ := ofPlain_spec ctx.arch [] texts
  exact ⟨hlines, hmarked.mpr h, hreadable, hnested, by omega, hrender⟩

theorem Renders.plain_append {before texts out : List String} (h : Renders ctx depth texts out f)
    (hbefore : ∀ line ∈ before, ¬IsMarker line) :
    Renders ctx depth (before ++ texts) (before ++ out) (ofPlain before ++ f) := by
  obtain ⟨hlines, hmarked, hreadable, hnested, hdepth, hrender⟩ := h
  obtain ⟨hlines', hrender', hdepth', hmarked', hnested', hreadable'⟩ := ofPlain_spec ctx.arch [] before
  refine ⟨by simp [hlines, hlines'], marked_append.mpr ⟨hmarked'.mpr hbefore, hmarked⟩,
    readable_append.mpr ⟨hreadable', hreadable⟩, nested_append.mpr ⟨hnested', hnested⟩, ?_,
    by simp [hrender, hrender']⟩
  rw [depth_append, hdepth']
  omega

theorem renders_region {frame : Frame} {o c : String} {inside middle rest last : List String} {inner behind : Forest}
    (hmarks : frame.OpenedBy ctx.arch o ∧ frame.ClosedBy c ∧ frame.Admits inside ∧
      ∀ l, frame = .loop l → ¬IsMarker l.label)
    (hread : frame.Readable ctx.arch) (hname : inner.Nested [frame.name])
    (hinner : Renders ctx (depth + 1) inside middle inner) (hbehind : Renders ctx depth rest last behind) :
    Renders ctx depth (o :: (inside ++ c :: rest)) (frame.wrap ctx.arch o c middle ++ last)
      (region frame o c inner behind) := by
  obtain ⟨rfl, hmin, hrin, -, hdin, rfl⟩ := hinner
  obtain ⟨rfl, hmrest, hrrest, hnrest, hdrest, rfl⟩ := hbehind
  refine ⟨rfl, ⟨hmarks, hmin, hmrest⟩, ⟨hread, hrin, hrrest⟩, ⟨List.not_mem_nil, hname, hnrest⟩, ?_, rfl⟩
  rw [Forest.depth]
  omega

theorem Renders.cut {before texts after out : List String}
    (h : Renders ctx depth (before ++ texts ++ after) out f) (hbefore : ∀ line ∈ before, ¬IsMarker line)
    (hafter : ∀ line ∈ after, ¬IsMarker line) :
    ∃ g middle, Renders ctx depth texts middle g ∧ out = before ++ middle ++ after := by
  obtain ⟨hlines, hmarked, hreadable, hnested, hdepth, hrender⟩ := h
  rw [List.append_assoc] at hlines
  obtain ⟨f', rfl, hlines'⟩ := eq_ofPlain_append hmarked hlines hbefore
  obtain ⟨g, rfl, hg⟩ := eq_append_ofPlain (marked_append.mp hmarked).2 hlines' hafter
  simp only [marked_append, readable_append, nested_append] at hmarked hreadable hnested
  simp only [depth_append, render_append] at hdepth hrender
  refine ⟨g, g.render ctx.arch, ⟨hg, hmarked.2.1, hreadable.2.1, hnested.2.1, by omega, rfl⟩, ?_⟩
  rw [← hrender, (ofPlain_spec ctx.arch [] before).2.1, (ofPlain_spec ctx.arch [] after).2.1, List.append_assoc]

/-- A loop whose label is a marker leaves that marker in what it renders, and no forest has these lines. -/
theorem label_of_renders {frame : Frame} {o c : String} {interior out : List String} (hread : frame.Readable ctx.arch)
    (hin : Registry.surplus Keyword.builtin interior = 0)
    (h : Renders ctx depth (frame.wrap ctx.arch o c interior) out f) :
    ∀ l, frame = .loop l → ¬IsMarker l.label := by
  rintro l rfl hmarker
  exact Frame.surplus_wrap_ne hread hmarker hin (h.1 ▸ surplus_lines h.2.1)

theorem renders_of_expandAt {texts out : List String} (hd : depth ≤ nestingLimit)
    (h : Registry.expandAt Keyword.builtin ctx depth texts = .ok out) : ∃ f, Renders ctx depth texts out f := by
  -- Both recursions of the expansion are covered by the induction on what it goes on to.
  generalize hcall : (depth, texts) = call at *
  induction call using (Registry.wellFounded_invokes Keyword.builtin ctx).induction generalizing depth texts out with
  | _ call ih =>
    subst hcall
    match hpass : Registry.passAt Keyword.builtin ctx depth texts with
    | .error e =>
      rw [Registry.expandAt_eq_settle hd, Registry.settle, hpass] at h
      cases h
    | .ok none =>
      have hplain := Registry.onePass_eq_none hpass
      rw [Registry.expandAt_of_plain hd hplain] at h
      cases h
      exact ⟨_, renders_ofPlain hd (markerCount_builtin.mp hplain)⟩
    | .ok (some next) =>
      rw [Registry.expandAt_of_pass hd hpass] at h
      obtain ⟨before, line, opening, rest, inside, after, produced, expanded, hlt, hfirst, hclose, hrender, hexpand,
        rfl⟩ := Registry.passAt_eq_some hpass
      obtain ⟨rfl, hbefore, hline⟩ := Registry.firstOpening_eq_some hfirst
      obtain ⟨rfl, -⟩ := Registry.closeRegion_eq_ok hclose
      obtain ⟨frame, o, interior, c, hkeyword, hinside, hopen, hclosed, hadmits, hread, rfl⟩ :=
        Frame.render_eq_ok (Frame.keyword_mem_of_classify hline) hrender
      obtain ⟨rfl, rfl⟩ : line = o ∧ inside = interior ++ [c] := by simpa using hinside
      obtain rfl : frame.opening = opening := Frame.opening_eq_of_classify hline hopen
      have hbalanced : Registry.surplus Keyword.builtin interior = 0 := by
        have hscan := Registry.surplus_closeRegion hclose
        rw [Registry.surplus_append, Registry.surplus_closes (Frame.classify_closing hclosed), List.length_nil] at hscan
        omega
      obtain ⟨f₁, hf₁⟩ := ih _ (.deeper hlt ⟨_, _, _, hfirst, hclose⟩ hrender) hlt hexpand rfl
      obtain ⟨f₂, hf₂⟩ := ih _ (.again hpass) hd h rfl
      have hlabel := label_of_renders hread hbalanced hf₁
      obtain ⟨hheader, hfooter⟩ := plain_around hread hlabel line c
      -- The rendering of the region was a forest, and the inside is what lies between the frame's own lines.
      rw [wrap_eq] at hf₁
      obtain ⟨inner, middle, hinner, rfl⟩ := hf₁.cut hheader hfooter
      rw [← wrap_eq] at hexpand hf₂
      have hbefore := markerCount_builtin.mp hbefore
      have hplain : ∀ text ∈ before ++ frame.wrap ctx.arch line c middle, ¬IsMarker text :=
        List.forall_mem_append.mpr ⟨hbefore, markerCount_builtin.mp (Registry.markerCount_expandWithin hexpand)⟩
      rw [← List.append_nil (_ ++ after)] at hf₂
      obtain ⟨behind, last, hbehind, rfl⟩ := hf₂.cut hplain (by simp)
      obtain rfl : inner.lines = interior := hinner.1
      have hnested : inner.Nested [frame.name] := by
        rw [List.append_assoc] at hclose
        exact ((closeRegion_inside hinner.2.1 hclosed).mp hclose).1
      have hregion := renders_region ⟨hopen, hclosed, hadmits, hlabel⟩ hread hnested hinner hbehind
      exact ⟨_, by simpa using hregion.plain_append hbefore⟩

/-- Expansion with the built-in keywords succeeds exactly on the lines of a forest in the grammar whose operands can be
    read, and then gives what the forest renders to. -/
theorem expand_eq_ok_iff_render (ctx : Context) (texts out : List String) :
    expand Keyword.builtin ctx texts = .ok out ↔
      ∃ f : Forest, f.lines = texts ∧ f.InGrammar ctx.arch ∧ f.Readable ctx.arch ∧ f.render ctx.arch = out := by
  constructor
  · intro h
    have h : Registry.expandAt Keyword.builtin ctx 0 texts = .ok out := h
    obtain ⟨f, hlines, hmarked, hreadable, hnested, hdepth, hrender⟩ := renders_of_expandAt (Nat.zero_le _) h
    exact ⟨f, hlines, ⟨hmarked, hnested, by omega⟩, hreadable, hrender⟩
  · rintro ⟨f, rfl, hf, hreadable, rfl⟩
    exact expand_lines hf hreadable

end Forest

end BenchKernel
