import BenchKernel.Proofs.Grammar.Arguments
import BenchKernel.Proofs.Grammar.Structure
import BenchKernel.Proofs.Text.Runs

/-! # Identifiers through expansion

A template's lines are rewritten many times before its registers are looked for, but no identifier gets lost: plain
lines stay, and a marker stays as a comment at any depth. The arguments of a marker, and the registers in those of a
loop, stand between parentheses, commas, equals signs and blanks, so a register of a loop is an identifier of the line
that opens the loop. -/

namespace BenchKernel

open Text

/-! ### The arguments of a marker -/

namespace Marker

theorem joined_splitArguments (depth : Nat) (cs : List Char) : Joined (· = ',') (splitArguments depth cs) cs := by
  induction cs generalizing depth with
  | nil => exact .single []
  | cons c cs ih =>
    rw [splitArguments]
    split
    · rename_i hc
      exact .cons [] hc.1 (ih 0)
    · dsimp only
      generalize (if c = '(' then depth + 1 else if c = ')' then depth - 1 else depth) = inner
      have hjoined := ih inner
      split
      · rename_i hnil
        rw [hnil] at hjoined
        cases hjoined
      · rename_i argument rest hcons
        rw [hcons] at hjoined
        exact hjoined.prepend c

/-- An argument is bounded by a parenthesis, a comma or a blank on either side. -/
theorem delimited_of_mem_arguments {line argument : String} {found : List String} (h : arguments line = .ok found)
    (hmem : argument ∈ found) : Delimited isWordChar argument.toList line.toList := by
  obtain ⟨front, inner, after, hline, -, -, rfl⟩ := arguments_eq_ok_iff.mp h
  have hinner : Delimited isWordChar inner line.toList :=
    ⟨front ++ ['('], ')' :: after, by simp [hline], endsOutside_concat.mpr rfl, startsOutside_cons.mpr rfl⟩
  unfold argumentsOf at hmem
  split at hmem
  · cases hmem
  · obtain ⟨part, hpart, rfl⟩ := List.mem_map.mp hmem
    rw [String.toList_ofList]
    have hcomma : ∀ c, c = ',' → isWordChar c = false := by
      rintro c rfl
      rfl
    exact (delimited_trim (fun _ => isWordChar_of_isBlank) part).trans
      (((joined_splitArguments 0 inner).delimited hcomma hpart).trans hinner)

theorem delimited_binding {tag argument register value : String} (h : binding tag argument = .ok (register, value)) :
    Delimited isWordChar register.toList argument.toList ∧ Delimited isWordChar value.toList argument.toList := by
  unfold binding at h
  split at h
  · cases h
  · rename_i front rest hcut
    have hcut : argument.toList = front ++ '=' :: rest := (cutAt?_eq_some_iff.mp hcut).1
    dsimp only at h
    split at h
    · cases h
    · cases h
      rw [String.toList_ofList, String.toList_ofList, hcut]
      exact ⟨(delimited_trim (fun _ => isWordChar_of_isBlank) front).trans
          ⟨[], '=' :: rest, rfl, endsOutside_nil, startsOutside_cons.mpr rfl⟩,
        (delimited_trim (fun _ => isWordChar_of_isBlank) rest).trans
          ⟨front ++ ['='], [], by simp, endsOutside_concat.mpr rfl, startsOutside_nil⟩⟩

end Marker

/-- What the opening marker of a loop says, but for the direction. -/
def Loop.texts (l : Loop) : List String := [l.label, l.counter, l.start, l.limit, l.stop, l.step]

theorem Frame.delimited_texts {arch : Arch} {l : Loop} {line : String} (h : (Frame.loop l).OpenedBy arch line) :
    ∀ text ∈ l.texts, Delimited isWordChar text.toList line.toList := by
  obtain ⟨-, first, direction, second, hargs, hfirst, -, -, hsecond⟩ := h
  have hargument : ∀ argument ∈ [l.label, first, direction, second, l.step],
      Delimited isWordChar argument.toList line.toList := fun _ => Marker.delimited_of_mem_arguments hargs
  have hpair : Delimited isWordChar first.toList line.toList ∧ Delimited isWordChar second.toList line.toList :=
    ⟨hargument first (by simp), hargument second (by simp)⟩
  obtain ⟨hcounter, hstart⟩ := Marker.delimited_binding hfirst
  obtain ⟨hlimit, hstop⟩ := Marker.delimited_binding hsecond
  simp only [Loop.texts, List.forall_mem_cons]
  exact ⟨hargument l.label (by simp), hcounter.trans hpair.1, hstart.trans hpair.1, hlimit.trans hpair.2,
    hstop.trans hpair.2, hargument l.step (by simp), by simp⟩

theorem Frame.delimited_registers {arch : Arch} {l : Loop} {line : String} (h : (Frame.loop l).OpenedBy arch line) :
    Delimited isWordChar l.counter.toList line.toList ∧ Delimited isWordChar l.limit.toList line.toList :=
  ⟨delimited_texts h l.counter (by simp [Loop.texts]), delimited_texts h l.limit (by simp [Loop.texts])⟩

/-! ### Rendering -/

theorem names_comment {text word : String} (arch : Arch) (h : Names text word) : Names (arch.comment text) word := by
  refine h.of_delimited ⟨arch.commentMark.toList ++ [' '], [], ?_, endsOutside_concat.mpr rfl, startsOutside_nil⟩
  rw [Arch.comment, String.toList_append, String.toList_append, List.append_nil]
  rfl

namespace Forest

theorem exists_names_render (arch : Arch) {f : Forest} {line word : String} (hline : line ∈ f.lines)
    (h : Names line word) : ∃ out ∈ f.render arch, Names out word := by
  have hmarker : ∀ marker, Names marker word → Names (arch.comment (trimmed marker)) word :=
    fun marker hm => names_comment arch (names_trimmed.mpr hm)
  induction f with
  | nil => cases hline
  | plain first rest ih =>
    rcases List.mem_cons.mp hline with rfl | hline
    · exact ⟨line, List.mem_cons_self, h⟩
    · obtain ⟨out, hout, hnames⟩ := ih hline
      exact ⟨out, List.mem_cons_of_mem _ hout, hnames⟩
  | region frame o c inside rest ihin ihrest =>
    simp only [lines, List.mem_cons, List.mem_append] at hline
    simp only [render, Frame.wrap, List.mem_append, List.mem_singleton]
    rcases hline with rfl | hline | rfl | hline
    · exact ⟨_, by simp, hmarker line h⟩
    · obtain ⟨out, hout, hnames⟩ := ihin hline
      exact ⟨out, by simp [hout], hnames⟩
    · exact ⟨_, by simp, hmarker line h⟩
    · obtain ⟨out, hout, hnames⟩ := ihrest hline
      exact ⟨out, by simp [hout], hnames⟩

end Forest

theorem Template.exists_names_expanded {t : Template} {arch : Arch} {body : List String} {line word : String}
    (hbody : t.expanded arch = .ok body) (hline : line ∈ t.body) (h : Names line word) :
    ∃ out ∈ body, Names out word := by
  obtain ⟨f, hlines, -, -, -, -, hrender⟩ := Forest.renders_of_expandAt (Nat.zero_le nestingLimit) hbody
  subst hrender
  exact Forest.exists_names_render arch (hlines ▸ hline) h

end BenchKernel
