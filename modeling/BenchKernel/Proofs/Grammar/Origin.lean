import BenchKernel.Proofs.Grammar.Structure

/-! # Where rendered regions come from

An expansion scans lines of its own making: what a keyword rendered, and what a pass put together. Still every region
that it hands to a keyword stands, line by line, in the lines that it started from. Around an interior a frame puts
plain lines only, and where a loop's label makes a marker of one of them, no region is found any more. So a fault of
an expansion is the fault of a loop that the template itself spells out. -/

namespace BenchKernel

variable {ctx : Context} {body lines : List String}

/-! ### Lines of a body between plain ones -/

/-- Some lines in a row of a body, with plain lines around them. -/
def Within (body lines : List String) : Prop :=
  ∃ before middle after, lines = before ++ middle ++ after ∧ (∀ line ∈ before, ¬IsMarker line) ∧
    (∀ line ∈ after, ¬IsMarker line) ∧ middle <:+: body

/-- What stands between two markers, and what follows them up to the last plain lines, is taken from the body. -/
theorem Within.between {before interior after : List String} {line last : String}
    (h : Within body (before ++ line :: (interior ++ last :: after))) (hline : IsMarker line) (hlast : IsMarker last) :
    ∃ rest plain, after = rest ++ plain ∧ (∀ l ∈ plain, ¬IsMarker l) ∧
      line :: (interior ++ last :: rest) <:+: body := by
  obtain ⟨start, middle, finish, heq, hstart, hfinish, hmiddle⟩ := h
  -- No marker is among the plain lines at either end, so both cuts lie outside the region.
  obtain ⟨skipped, hskipped⟩ : ∃ skipped, middle ++ finish = skipped ++ line :: (interior ++ last :: after) := by
    rw [List.append_assoc] at heq
    rcases List.append_eq_append_iff.mp heq with ⟨x, rfl, hx⟩ | ⟨x, -, hx⟩
    · cases x with
      | nil => exact ⟨[], hx.symm⟩
      | cons first x =>
        rw [List.cons_append] at hx
        obtain ⟨rfl, -⟩ := List.cons.inj hx
        exact absurd hline (hstart line (by simp))
    · exact ⟨x, hx⟩
  have hcut : middle ++ finish = (skipped ++ line :: (interior ++ [last])) ++ after := by simp [hskipped]
  rcases List.append_eq_append_iff.mp hcut with ⟨x, hx, rfl⟩ | ⟨x, rfl, rfl⟩
  · rcases List.eq_nil_or_concat x with rfl | ⟨x, marker, rfl⟩
    · refine ⟨[], after, rfl, hfinish, List.IsInfix.trans ⟨skipped, [], ?_⟩ hmiddle⟩
      simpa using hx
    · have hmarker : last = marker := by
        have := congrArg List.getLast? hx
        simpa [List.getLast?_append, List.getLast?_cons] using this
      exact absurd hlast (hfinish last (by simp [hmarker]))
  · exact ⟨x, finish, rfl, hfinish, List.IsInfix.trans ⟨skipped, [], by simp⟩ hmiddle⟩

/-! ### Regions found -/

theorem lines_of_finds {line : String} {opening : Opening} {inside : List String}
    (h : Registry.Finds Keyword.builtin lines line opening inside) :
    ∃ before interior last after, lines = before ++ line :: (interior ++ last :: after) ∧ inside = interior ++ [last] ∧
      IsMarker line ∧ IsMarker last := by
  obtain ⟨before, rest, after, hfirst, hclose⟩ := h
  obtain ⟨rfl, -, hline⟩ := Registry.firstOpening_eq_some hfirst
  obtain ⟨rfl, interior, last, closing, rfl, hlast⟩ := Registry.closeRegion_eq_ok hclose
  exact ⟨before, interior, last, after, by simp, rfl, Registry.isMarker_of_classify hline,
    Registry.isMarker_of_classify hlast⟩

theorem Within.infix_of_finds (h : Within body lines) {line : String} {opening : Opening} {inside : List String}
    (hfinds : Registry.Finds Keyword.builtin lines line opening inside) : line :: inside <:+: body := by
  obtain ⟨before, interior, last, after, rfl, rfl, hline, hlast⟩ := lines_of_finds hfinds
  obtain ⟨rest, -, -, -, hbody⟩ := h.between hline hlast
  exact List.IsInfix.trans ⟨[], rest, by simp⟩ hbody

theorem Within.pass (h : Within body lines) {depth : Nat} {next : List String}
    (hpass : Registry.passAt Keyword.builtin ctx depth lines = .ok (some next)) : Within body next := by
  obtain ⟨before, line, opening, rest, inside, after, produced, expanded, -, hfirst, hclose, -, hexpand, rfl⟩ :=
    Registry.passAt_eq_some hpass
  obtain ⟨rfl, hbefore, hline⟩ := Registry.firstOpening_eq_some hfirst
  obtain ⟨rfl, interior, last, closing, rfl, hlast⟩ := Registry.closeRegion_eq_ok hclose
  rw [List.append_assoc] at h
  obtain ⟨rest, plain, rfl, hplain, hbody⟩ :=
    h.between (Registry.isMarker_of_classify hline) (Registry.isMarker_of_classify hlast)
  refine ⟨before ++ expanded, rest, plain, by simp, ?_, hplain, ?_⟩
  · rw [List.forall_mem_append]
    exact ⟨markerCount_builtin.mp hbefore, markerCount_builtin.mp (Registry.markerCount_expandWithin hexpand)⟩
  · exact List.IsInfix.trans ⟨line :: (interior ++ [last]), [], by simp⟩ hbody

/-! ### Renderings without a region -/

theorem first_marker_unique {a b c d : List String} {x y : String} (ha : ∀ line ∈ a, ¬IsMarker line)
    (hb : ∀ line ∈ b, ¬IsMarker line) (hx : IsMarker x) (hy : IsMarker y) (h : a ++ x :: c = b ++ y :: d) :
    a = b ∧ x = y ∧ c = d := by
  rcases List.append_eq_append_iff.mp h with ⟨t, rfl, ht⟩ | ⟨t, rfl, ht⟩
  · cases t with
    | nil => simpa using ht
    | cons first t =>
      rw [List.cons_append] at ht
      obtain ⟨rfl, -⟩ := List.cons.inj ht
      exact absurd hx (hb x (by simp))
  · cases t with
    | nil => simpa [eq_comm] using ht
    | cons first t =>
      rw [List.cons_append] at ht
      obtain ⟨rfl, -⟩ := List.cons.inj ht
      exact absurd hy (ha y (by simp))

theorem surplus_nonneg (h : ∀ line ∈ lines, 0 ≤ Registry.surplus Keyword.builtin [line]) :
    0 ≤ Registry.surplus Keyword.builtin lines := by
  induction lines with
  | nil => exact Int.le_refl 0
  | cons line rest ih =>
    rw [Registry.surplus_cons]
    have hline := h line List.mem_cons_self
    have hrest := ih fun l hl => h l (List.mem_cons_of_mem _ hl)
    omega

/-- If the label line of a loop opens a region, no line behind the interior closes one. -/
theorem surplus_footer {arch : Arch} {l : Loop} (h : 0 ≤ Registry.surplus Keyword.builtin [l.label]) (text : String) :
    ∀ line ∈ (Frame.loop l).footer arch ++ [arch.comment text], 0 ≤ Registry.surplus Keyword.builtin [line] := by
  have hplain : ∀ line, ¬IsMarker line → 0 ≤ Registry.surplus Keyword.builtin [line] := fun line hline =>
    Int.le_of_eq (Registry.surplus_plain (not_isMarker_iff.mp hline)).symm
  obtain ⟨ops, exit, hfooter, hops, hexit⟩ := Frame.footer_loop_eq arch l
  intro line hline
  rw [hfooter, List.mem_append, List.mem_append, List.mem_singleton] at hline
  rcases hline with (hline | hline) | rfl
  · exact hplain line (hops line hline)
  · rcases hexit with rfl | rfl
    · cases hline
    · rw [List.mem_singleton.mp hline, Frame.surplus_append (by decide)]
      exact h
  · exact hplain _ (not_isMarker_comment arch text)

/-- A loop whose label is a marker renders to lines in which no region is found: what the label line opens is not
    closed by the interior, whose regions are balanced, nor by the lines behind it. -/
theorem not_finds_wrap {arch : Arch} {l : Loop} (hread : (Frame.loop l).Readable arch) (hlabel : IsMarker l.label)
    {top : Opening} {rest interior after : List String} {closing : String}
    (hinterior : Registry.closeRegion Keyword.builtin top [] rest = .ok (interior ++ [closing], after))
    (o c line : String) (opening : Opening) (inside : List String) :
    ¬Registry.Finds Keyword.builtin ((Frame.loop l).wrap arch o c interior) line opening inside := by
  rintro ⟨before, rest', after', hfirst, hclose⟩
  obtain ⟨setup, hsetup, hplain⟩ := Frame.header_loop_eq hread
  obtain ⟨hlines, hbefore, hline⟩ := Registry.firstOpening_eq_some hfirst
  have hwrap : (Frame.loop l).wrap arch o c interior = (arch.comment (Text.trimmed o) :: setup) ++ (l.label ++ ":") ::
      (interior ++ ((Frame.loop l).footer arch ++ [arch.comment (Text.trimmed c)])) := by
    rw [Forest.wrap_eq, hsetup]
    simp
  have hmarker : IsMarker (l.label ++ ":") := (Frame.isMarker_append (by decide) l.label).mpr hlabel
  obtain ⟨-, rfl, rfl⟩ := first_marker_unique
    (List.forall_mem_cons.mpr ⟨not_isMarker_comment arch _, hplain⟩) (markerCount_builtin.mp hbefore) hmarker
    (Registry.isMarker_of_classify hline) (hwrap.symm.trans hlines)
  have hopens : Registry.surplus Keyword.builtin [l.label] = 1 := by
    rw [← Frame.surplus_append (show Frame.trails ":" = true by decide)]
    exact Registry.surplus_opens hline
  have hinside := Registry.surplus_closeRegion hclose
  obtain ⟨hcut, -⟩ := Registry.closeRegion_eq_ok hclose
  rcases List.append_eq_append_iff.mp hcut with ⟨x, rfl, hx⟩ | ⟨x, hx, -⟩
  · have hbalanced := Registry.surplus_of_append_closeRegion (List.cons_ne_nil closing []) hinterior
    have hx' : 0 ≤ Registry.surplus Keyword.builtin x := surplus_nonneg fun line hl =>
      surplus_footer (by omega) _ line (hx ▸ List.mem_append_left _ hl)
    rw [Registry.surplus_append] at hinside
    simp only [List.length_nil] at hbalanced hinside
    omega
  · rw [hx, List.append_assoc] at hinterior
    have hshort := Registry.surplus_of_append_closeRegion (by simp) hinterior
    simp only [List.length_nil] at hshort hinside
    omega

/-! ### All that an expansion goes on to -/

/-- Lines whose regions all stand in a body. -/
def FindsWithin (body lines : List String) : Prop :=
  Within body lines ∨ ∀ line opening inside, ¬Registry.Finds Keyword.builtin lines line opening inside

theorem FindsWithin.infix_of_finds (h : FindsWithin body lines) {line : String} {opening : Opening}
    {inside : List String} (hfinds : Registry.Finds Keyword.builtin lines line opening inside) :
    line :: inside <:+: body := by
  rcases h with h | h
  · exact h.infix_of_finds hfinds
  · exact absurd hfinds (h line opening inside)

/-- A rendering has the interior of the region between plain lines, or no region at all. -/
theorem FindsWithin.render (h : FindsWithin body lines) {line : String} {opening : Opening}
    {inside produced : List String} (hfinds : Registry.Finds Keyword.builtin lines line opening inside)
    (hrender : opening.keyword.render ctx (line :: inside) = .ok produced) : FindsWithin body produced := by
  have hbody := h.infix_of_finds hfinds
  obtain ⟨before, rest, after, hfirst, hclose⟩ := hfinds
  obtain ⟨-, -, hline⟩ := Registry.firstOpening_eq_some hfirst
  obtain ⟨frame, o, interior, c, -, hlines, -, -, -, hread, rfl⟩ :=
    Frame.render_eq_ok (Frame.keyword_mem_of_classify hline) hrender
  obtain ⟨rfl, rfl⟩ := List.cons.inj hlines
  by_cases hlabel : ∃ l, frame = .loop l ∧ IsMarker l.label
  · obtain ⟨l, rfl, hl⟩ := hlabel
    exact Or.inr fun _ _ _ => not_finds_wrap hread hl hclose _ _ _ _ _
  · obtain ⟨hheader, hfooter⟩ := Forest.plain_around hread (fun l hl hm => hlabel ⟨l, hl, hm⟩) line c
    exact Or.inl ⟨_, interior, _, Forest.wrap_eq frame ctx.arch line c interior, hheader, hfooter,
      List.IsInfix.trans ⟨[line], [c], by simp⟩ hbody⟩

theorem FindsWithin.invokes {a b : Nat × List String} (h : FindsWithin body a.2)
    (hstep : Registry.Invokes Keyword.builtin ctx a b) : FindsWithin body b.2 := by
  cases hstep with
  | again hpass =>
    rcases h with h | h
    · exact Or.inl (h.pass hpass)
    · obtain ⟨before, line, opening, rest, inside, after, _, _, -, hfirst, hclose, -⟩ := Registry.passAt_eq_some hpass
      exact absurd ⟨before, rest, after, hfirst, hclose⟩ (h line opening inside)
  | deeper _ hfinds hrender => exact h.render hfinds hrender

theorem findsWithin_of_reachable {depth : Nat}
    (h : Relation.ReflTransGen (Registry.Invokes Keyword.builtin ctx) (0, body) (depth, lines)) :
    FindsWithin body lines := by
  suffices hinv : ∀ c, Relation.ReflTransGen (Registry.Invokes Keyword.builtin ctx) (0, body) c →
      FindsWithin body c.2 from hinv _ h
  intro c hc
  induction hc with
  | refl => exact Or.inl ⟨[], body, [], by simp, by simp, by simp, List.infix_refl body⟩
  | tail _ hstep ih => exact ih.invokes hstep

/-! ### Faults -/

/-- The lines of a region that passes every check of a loop. -/
def Keyword.ReadsLoop (arch : Arch) (lines : List String) (l : Loop) : Prop :=
  ∃ region, Region.ofLines loopTag loopEndTag 4 lines = .ok region ∧
    readLoop arch region.label region.arguments = .ok l

/-- A keyword meets a fault only in the operands of a loop that it has read. -/
theorem Keyword.render_eq_fault {k : Keyword} (hk : k ∈ builtin) {f : Fault}
    (h : k.render ctx lines = .error (.fault f)) :
    ctx.arch = .ppc64 ∧ ∃ l, ReadsLoop ctx.arch lines l ∧
      ∃ operand ∈ [l.start, l.stop, l.step], Literal.NegatesLeast operand ∧ f = .negation operand := by
  simp only [builtin, List.mem_cons, List.not_mem_nil, or_false] at hk
  rcases hk with rfl | rfl
  · rcases bind_eq_error.mp h with h | ⟨region, hregion, h⟩
    · obtain ⟨e, -, he⟩ := reported_eq_error.mp h
      cases he
    rcases bind_eq_error.mp h with h | ⟨l, hl, h⟩
    · obtain ⟨e, -, he⟩ := reported_eq_error.mp h
      cases he
    rcases bind_eq_error.mp h with h | ⟨_, -, h⟩
    · obtain ⟨harch, hoperand⟩ := Arch.loopPrologue_eq_error (faulting_eq_error.mp h)
      exact ⟨harch, l, ⟨region, reported_eq_ok.mp hregion, reported_eq_ok.mp hl⟩, hoperand⟩
    · cases h
  · rcases bind_eq_error.mp h with h | ⟨region, -, h⟩
    · obtain ⟨e, -, he⟩ := reported_eq_error.mp h
      cases he
    · simp only [throw_bind] at h
      split at h <;> cases h

/-- An expansion meets a fault only on POWER, in the operands of a loop that stands in the lines it was given. -/
theorem expand_eq_fault {f : Fault} (h : expand Keyword.builtin ctx body = .error (.fault f)) :
    ctx.arch = .ppc64 ∧ ∃ lines l operand, lines <:+: body ∧ Keyword.ReadsLoop ctx.arch lines l ∧
      operand ∈ [l.start, l.stop, l.step] ∧ Literal.NegatesLeast operand ∧ f = .negation operand := by
  obtain ⟨depth, lines, hreach, hstop⟩ :=
    Registry.expandAt_eq_error (Nat.zero_le nestingLimit) (show Registry.expandAt _ ctx 0 body = _ from h)
  cases hstop with
  | unrendered _ hfinds hrender =>
    have hbody := (findsWithin_of_reachable hreach).infix_of_finds hfinds
    obtain ⟨before, rest, after, hfirst, -⟩ := hfinds
    obtain ⟨-, -, hline⟩ := Registry.firstOpening_eq_some hfirst
    obtain ⟨harch, l, hl, operand, hoperand, hleast⟩ :=
      Keyword.render_eq_fault (Frame.keyword_mem_of_classify hline) hrender
    exact ⟨harch, _, l, operand, hbody, hl, hoperand, hleast⟩

end BenchKernel
