import BenchKernel.Proofs.Routine.Layout
import BenchKernel.Proofs.Toolchain.FailedBuilds

/-! # Lines without newlines

A newline can come into a routine's lines with the routine's name only. The body is cut into lines before it is
expanded, a loop adds lines that are put together from pieces of its opening marker, and a line in which texts were
substituted is cut anew; a comment is copied, but nothing is substituted in it. So a routine's lines, each ended by a
newline in a file, are read back from there one by one, each less a carriage return at its end. -/

namespace BenchKernel

open Text

/-! ### Texts put together and taken apart -/

def OneLine (text : String) : Prop := '\n' ∉ text.toList

instance (text : String) : Decidable (OneLine text) := inferInstanceAs (Decidable (¬_))

@[simp] theorem oneLine_append {a b : String} : OneLine (a ++ b) ↔ OneLine a ∧ OneLine b := by simp [OneLine]

@[simp] theorem oneLine_toString {text : String} : OneLine (toString text) ↔ OneLine text := Iff.rfl

@[simp] theorem oneLine_natRepr (n : Nat) : OneLine n.repr :=
  fun h => absurd (isDigit_of_mem_toString h) (by decide)

@[simp] theorem oneLine_intRepr (n : Int) : OneLine n.repr := by
  cases n with
  | ofNat n => exact oneLine_natRepr n
  | negSucc n => exact oneLine_append.mpr ⟨by decide, oneLine_natRepr (n + 1)⟩

def OneLines (lines : List String) : Prop := ∀ line ∈ lines, OneLine line

@[simp] theorem oneLines_nil : OneLines [] := fun _ h => nomatch h

@[simp] theorem oneLines_cons {line : String} {lines : List String} :
    OneLines (line :: lines) ↔ OneLine line ∧ OneLines lines := List.forall_mem_cons

@[simp] theorem oneLines_append {a b : List String} : OneLines (a ++ b) ↔ OneLines a ∧ OneLines b :=
  List.forall_mem_append

theorem OneLine.of_delimited {keep : Char → Bool} {part text : String} (h : OneLine text)
    (hpart : Delimited keep part.toList text.toList) : OneLine part := by
  obtain ⟨before, after, htext, -⟩ := hpart
  intro hmem
  exact h (by simp [htext, hmem])

theorem OneLine.trimmed {text : String} (h : OneLine text) : OneLine (trimmed text) := by
  have htrim := delimited_trim (fun _ => isWordChar_of_isBlank) text.toList
  rw [← String.toList_ofList (l := trim text.toList)] at htrim
  exact h.of_delimited htrim

theorem oneLine_of_mem_newlinePieces {text line : String} (h : line ∈ newlinePieces text) : OneLine line := by
  obtain ⟨piece, hpiece, rfl⟩ := List.mem_map.mp h
  rw [OneLine, String.toList_ofList]
  exact not_mem_of_mem_splitAt hpiece

theorem dropReturn_subset (cs : List Char) : dropReturn cs ⊆ cs := by
  unfold dropReturn
  split
  · exact List.dropLast_subset cs
  · exact List.Subset.refl cs

theorem exists_piece_of_mem_linesOfPieces {ps : List (List Char)} {line : List Char} (h : line ∈ linesOfPieces ps) :
    ∃ piece ∈ ps, line ⊆ piece := by
  fun_induction linesOfPieces ps with
  | case1 => cases h
  | case2 => cases h
  | case3 last hlast => exact ⟨last, List.mem_cons_self, by simp_all⟩
  | case4 piece rest hrest ih =>
    rcases List.mem_cons.mp h with rfl | h
    · exact ⟨piece, List.mem_cons_self, dropReturn_subset piece⟩
    · obtain ⟨piece, hpiece, hline⟩ := ih h
      exact ⟨piece, List.mem_cons_of_mem _ hpiece, hline⟩

theorem oneLine_of_mem_lines {text line : String} (h : line ∈ lines text) : OneLine line := by
  obtain ⟨cs, hcs, rfl⟩ := List.mem_map.mp h
  obtain ⟨piece, hpiece, hsubset⟩ := exists_piece_of_mem_linesOfPieces hcs
  rw [OneLine, String.toList_ofList]
  exact fun hmem => not_mem_of_mem_splitAt hpiece (hsubset hmem)

/-! ### The lines around a loop -/

namespace Branching
variable {l : Loop} (h : OneLines l.texts) (dialect : Dialect)
include h

theorem oneLines_updateLanes (inclusive : Bool) : OneLines ((updateLanes inclusive l).map dialect.write) := by
  simp only [Loop.texts, oneLines_cons] at h
  have hmnemonic : OneLine (if inclusive then "whilels" else "whilelo") := by cases inclusive <;> decide
  cases dialect <;> simp +decide [updateLanes, laneCopies, Dialect.write, hmnemonic, h]

theorem oneLines_header (vector : Bool) : OneLines ((header vector l).map dialect.write) := by
  have hlanes := oneLines_updateLanes h dialect
  simp only [Loop.texts, oneLines_cons] at h
  unfold header start
  cases dialect <;> cases (if vector then lanePredicate? l.direction else none) <;> cases l.fromZero <;>
    simp +decide [Dialect.write, hlanes, h]

theorem oneLines_footer (vector : Bool) : OneLines ((footer vector l).map dialect.write) := by
  have hlanes := oneLines_updateLanes h dialect
  have hjump : OneLine l.direction.intelJump := by cases l.direction <;> decide
  have hcondition : OneLine l.direction.armCondition := by cases l.direction <;> decide
  have hstep : OneLine (stepMnemonic l.direction.countsDown) := by cases l.direction <;> decide
  simp only [Loop.texts, oneLines_cons] at h
  unfold footer
  cases dialect <;> cases (if vector then lanePredicate? l.direction else none) <;>
    simp +decide [Dialect.write, hlanes, hjump, hcondition, hstep, h]

end Branching

namespace Power

theorem oneLines_loadKnown {reg text : String} (hreg : OneLine reg) (htext : OneLine text) (value : Option Int) :
    OneLines ((loadKnown reg text value).map Op.write) := by
  unfold loadKnown
  split <;> simp +decide [Op.write, hreg, htext]

theorem oneLines_addBias (n : Nat) : OneLines ((addBias n).map Op.write) := by
  unfold addBias
  split <;> simp +decide [Op.write, scratch]

section Loops
variable {l : Loop} (h : OneLines l.texts)
include h

theorem oneLines_passesKnown (stepValue stopValue : Option Int) :
    OneLines ((passesKnown l stepValue stopValue).map Op.write) := by
  simp only [Loop.texts, oneLines_cons] at h
  obtain ⟨-, -, -, hlimit, hstop, hstep, -⟩ := h
  have hloadStep := oneLines_loadKnown hlimit hstep stepValue
  have hloadStop := oneLines_loadKnown hlimit hstop stopValue
  unfold passesKnown divideByKnown divideBySymbolKnown
  split
  · split
    · exact oneLines_addBias _
    · split <;> simp +decide [Op.write, scratch, oneLines_addBias, hlimit, hloadStep, hloadStop]
  · split <;> simp +decide [Op.write, scratch, hlimit, hloadStep, hloadStop]

theorem oneLines_setupKnown (startValue stopValue stepValue : Option Int) :
    OneLines ((setupKnown l startValue stopValue stepValue).map Op.write) := by
  have hpasses := oneLines_passesKnown h stepValue stopValue
  simp only [Loop.texts, oneLines_cons] at h
  obtain ⟨hlabel, hcounter, hstart, hlimit, hstop, -⟩ := h
  have hloadStart := oneLines_loadKnown hcounter hstart startValue
  have hloadStop := oneLines_loadKnown hlimit hstop stopValue
  unfold setupKnown distance
  cases l.direction.countsDown <;> cases l.fromZero <;>
    simp +decide [Op.write, scratch, afterLabel, hlabel, hcounter, hlimit, hloadStart, hloadStop, hpasses]

theorem oneLines_footer : OneLines ((footer l).map Op.write) := by
  simp only [Loop.texts, oneLines_cons] at h
  unfold footer
  cases l.direction.countsDown <;> simp +decide [Op.write, afterLabel, h]

end Loops

end Power

theorem Frame.oneLines_header_footer {frame : Frame} {arch : Arch} {line : String} (hline : OneLine line)
    (h : frame.OpenedBy arch line) : OneLines (frame.header arch) ∧ OneLines (frame.footer arch) := by
  cases frame with
  | block label => exact ⟨oneLines_nil, oneLines_nil⟩
  | loop l =>
    -- All that a loop writes besides the words of the target are pieces of the line that opens it.
    have htexts : OneLines l.texts := fun text htext => hline.of_delimited (delimited_texts h text htext)
    unfold header footer Arch.loopPrologue Arch.loopEpilogue
    cases arch.dialect? with
    | some dialect => exact ⟨Branching.oneLines_header htexts dialect _, Branching.oneLines_footer htexts dialect _⟩
    | none =>
      refine ⟨?_, Power.oneLines_footer htexts⟩
      cases hheader : Power.header l with
      | error fault => simp [hheader, Except.map]
      | ok ops =>
        obtain ⟨startValue, stopValue, stepValue, -, -, -, rfl⟩ := Power.header_eq_ok_iff.mp hheader
        have hsetup := Power.oneLines_setupKnown htexts startValue stopValue stepValue
        have hlabel : OneLine l.label := htexts l.label (by simp [Loop.texts])
        simp +decide [hheader, Except.map, Power.Op.write, hsetup, hlabel]

/-! ### The lines of a routine -/

theorem oneLine_comment {text : String} (arch : Arch) (h : OneLine text) : OneLine (arch.comment text) := by
  cases arch <;> simp +decide [Arch.comment, Arch.commentMark, h]

theorem Forest.oneLines_render {f : Forest} {arch : Arch} (hmarked : f.Marked arch) (h : OneLines f.lines) :
    OneLines (f.render arch) := by
  induction f with
  | nil => exact oneLines_nil
  | plain line rest ih =>
    simp only [lines, oneLines_cons] at h
    exact oneLines_cons.mpr ⟨h.1, ih hmarked.2 h.2⟩
  | region frame opening closing inside rest ihin ihrest =>
    obtain ⟨⟨hopen, -⟩, hinside, hrest⟩ := hmarked
    simp only [lines, oneLines_cons, oneLines_append] at h
    obtain ⟨hopening, hin, hclosing, hout⟩ := h
    obtain ⟨hheader, hfooter⟩ := Frame.oneLines_header_footer hopening hopen
    simp [render, Frame.wrap, oneLine_comment arch hopening.trimmed, oneLine_comment arch hclosing.trimmed, hheader,
      hfooter, ihin hinside hin, ihrest hrest hout]

theorem Template.oneLines_expanded {t : Template} {arch : Arch} {body : List String} (h : OneLines t.body)
    (hbody : t.expanded arch = .ok body) : OneLines body := by
  obtain ⟨f, hlines, hmarked, -, -, -, rfl⟩ := Forest.renders_of_expandAt (Nat.zero_le nestingLimit) hbody
  exact Forest.oneLines_render hmarked (hlines ▸ h)

theorem Template.oneLines_foldl_addBody {t : Template} (h : OneLines t.body) (texts : List String) :
    OneLines (texts.foldl addBody t).body ∧ (texts.foldl addBody t).name = t.name := by
  induction texts generalizing t with
  | nil => exact ⟨h, rfl⟩
  | cons text texts ih => exact ih (t := t.addBody text) (oneLines_append.mpr ⟨h, fun _ => oneLine_of_mem_lines⟩)

theorem Arch.oneLines_header_footer {name : String} (arch : Arch) (h : OneLine name) :
    OneLines (arch.header name) ∧ OneLines (arch.footer name) := by
  cases arch <;>
    simp +decide [header, footer, intelPrologue, intelEpilogue, savedRegisters, framePointer, stackPointer, streamMark, h]

theorem Table.oneLines_onCode {lines : List String} (table : Table) (mark : Option String) (h : OneLines lines) :
    OneLines (table.onCode mark lines) := by
  intro line hline
  obtain ⟨source, hsource, hline⟩ := List.mem_flatMap.mp hline
  split at hline
  -- A comment is the one line that is not cut anew, and nothing is replaced in it.
  · exact List.mem_singleton.mp hline ▸ h source hsource
  · exact oneLine_of_mem_newlinePieces hline

theorem Kernel.oneLines_specialize {t : Template} {settings : Settings} {k : Kernel} {worker : Worker}
    {lines : List String} (hname : OneLine t.name) (hbody : OneLines t.body)
    (hk : Kernel.ofTemplate t settings = .ok k) (hlines : k.specialize worker = .ok lines) : OneLines lines := by
  obtain ⟨p, rfl⟩ := Kernel.specialize_eq_ok hk hlines
  obtain ⟨hheader, hfooter⟩ := settings.arch.oneLines_header_footer hname
  have hbody := p.table.oneLines_onCode (some settings.arch.commentMark) (Template.oneLines_expanded hbody p.expanded)
  refine oneLines_append.mpr ⟨oneLines_append.mpr ⟨?_, hbody⟩, hfooter⟩
  rw [Table.onHeader_header]
  refine oneLines_append.mpr ⟨fun line hline => hheader line (List.dropLast_subset _ hline), ?_⟩
  split
  · exact fun _ => oneLine_of_mem_newlinePieces
  · exact oneLines_nil

/-! ### The file of a routine -/

/-- What is read of a line: all of it, or all but the carriage return at its end. -/
def ReadBack (line read : String) : Prop :=
  line = read ++ "\r" ∨ line = read ∧ line.toList.getLast? ≠ some '\r'

theorem readBack_dropReturn (line : String) : ReadBack line (String.ofList (dropReturn line.toList)) := by
  unfold dropReturn
  split
  · rename_i hlast
    refine .inl (String.toList_inj.mp ?_)
    rw [String.toList_append, String.toList_ofList]
    exact (List.dropLast_append_getLast? '\r' hlast).symm
  · rename_i hlast
    exact .inr ⟨String.ofList_toList.symm, hlast⟩

theorem linesOfPieces_concat_nil (ps : List (List Char)) : linesOfPieces (ps ++ [[]]) = ps.map dropReturn := by
  induction ps with
  | nil => rfl
  | cons piece rest ih =>
    rw [List.map_cons, ← ih]
    cases rest <;> rfl

theorem lines_assemblyText {ls : List String} (hne : ls ≠ []) (h : OneLines ls) :
    lines (assemblyText ls) = ls.map fun line => String.ofList (dropReturn line.toList) := by
  -- The newline at the end makes one more piece, which is empty and no line: every line has a newline behind it.
  have hjoin : assemblyText ls = joinLines (ls ++ [""]) := by
    rw [assemblyText, joinLines, joinLines, String.intercalate_append_of_ne_nil hne (by simp),
      String.intercalate_singleton, String.append_empty]
  have hsplit : splitAt '\n' (assemblyText ls).toList = ls.map String.toList ++ [[]] := by
    rw [hjoin, splitAt_joinLines (by simp) (oneLines_append.mpr ⟨h, by simp +decide⟩), List.map_append]
    rfl
  rw [lines, hsplit, linesOfPieces_concat_nil, List.map_map, List.map_map]
  rfl

theorem Host.WritesFile.readText {h : Host} {path : String} {ls : List String} {w : Workspace}
    (hwrites : h.WritesFile path ls w) :
    (h.writeRoutine path ls w).2.files.readText h.place path = .ok (assemblyText ls) := by
  obtain ⟨hok, hfile⟩ := hwrites
  rcases writeRoutine_cases h ls w path with ⟨files, hfiles, hwrite⟩ | ⟨e, hwrite⟩
  · rw [hwrite] at hfile ⊢
    have htext : String.fromUTF8? (assemblyText ls).toUTF8 = some (assemblyText ls) :=
      dif_pos (assemblyText ls).isValidUTF8
    rcases FileStore.write_received hfiles with hread | ⟨device, hdevice⟩ | ⟨marks, hpipe⟩
    · rw [FileStore.readText, hread, ok_bind, htext]
      rfl
    · simp [FileStore.isFile, hdevice] at hfile
    · simp [FileStore.isFile, hpipe] at hfile
  · rw [hwrite] at hok
    cases hok

theorem Kernel.specialize_ne_nil {t : Template} {settings : Settings} {k : Kernel} {worker : Worker}
    {ls : List String} (hk : Kernel.ofTemplate t settings = .ok k) (hls : k.specialize worker = .ok ls) : ls ≠ [] := by
  obtain ⟨p, rfl⟩ := Kernel.specialize_eq_ok hk hls
  refine List.append_ne_nil_of_right_ne_nil _ ?_
  cases settings.arch <;> simp [Arch.footer, Arch.intelEpilogue]

/-- The lines of a routine have no newlines, whatever texts its template has substituted, if its name has none and its
    body was added as text; and there is at least one line. Lines like these, written to a file, are its text. Where this
    text is added to a template, each line comes back with nothing lost but one carriage return at its end. -/
theorem routine_lines_survive :
    (∀ (t : Template) (texts : List String) (settings : Settings) (k : Kernel) (worker : Worker) (ls : List String),
      '\n' ∉ t.name.toList →
      Kernel.ofTemplate (texts.foldl Template.addBody { t with body := [] }) settings = .ok k →
      k.specialize worker = .ok ls → ls ≠ [] ∧ ∀ line ∈ ls, '\n' ∉ line.toList) ∧
    ∀ ls : List String, ls ≠ [] → (∀ line ∈ ls, '\n' ∉ line.toList) →
      (∀ (h : Host) (path : String) (w : Workspace), h.WritesFile path ls w →
        (h.writeRoutine path ls w).2.files.readText h.place path = .ok (assemblyText ls)) ∧
      ∃ read, List.Forall₂ ReadBack ls read ∧ ∀ t : Template, (t.addBody (assemblyText ls)).body = t.body ++ read := by
  refine ⟨fun t texts settings k worker ls hname hk hls => ?_, fun ls hne hone => ?_⟩
  · obtain ⟨hbody, hsame⟩ := Template.oneLines_foldl_addBody (t := { t with body := [] }) oneLines_nil texts
    refine ⟨Kernel.specialize_ne_nil hk hls, Kernel.oneLines_specialize ?_ hbody hk hls⟩
    rw [hsame]
    exact hname
  · refine ⟨fun h path w => Host.WritesFile.readText, _, ?_, fun t => congrArg _ (lines_assemblyText hne hone)⟩
    exact List.forall₂_map_right_iff.mpr (List.forall₂_same.mpr fun line _ => readBack_dropReturn line)

/-- A template with a constant of two lines. -/
def twoLineTemplate : Template where
  name := "k"
  constants := [("STEP", "add rdx, 1\r\nadd rdx, 2")]

/-- The lines of its routine, with the constant once in a line of code and once in a comment. -/
def twoLineRoutine : List String :=
  (Arch.header .x8664 "k").dropLast ++ ["add rdx, 1\r", "add rdx, 2", "# STEP"] ++ Arch.footer .x8664 "k"

def twoLineKernel : Kernel where
  template := { twoLineTemplate with body := ["STEP", "# STEP"] }
  settings := { arch := .x8664 }
  skeleton := ⟨Arch.header .x8664 "k", ["STEP", "# STEP"], Arch.footer .x8664 "k"⟩

theorem twoLineRoutine_survives :
    Kernel.ofTemplate (["STEP\r\n# STEP"].foldl Template.addBody twoLineTemplate) { arch := .x8664 } =
      .ok twoLineKernel ∧ twoLineKernel.specialize {} = .ok twoLineRoutine ∧
    (writingHost.writeRoutine "/k.s" twoLineRoutine compilerOnly).2.files.readText [] "/k.s" =
      .ok (assemblyText twoLineRoutine) ∧
    ∃ read, List.Forall₂ ReadBack twoLineRoutine read ∧
      (twoLineTemplate.addBody (assemblyText twoLineRoutine)).body = read := by
  have hk : Kernel.ofTemplate (["STEP\r\n# STEP"].foldl Template.addBody twoLineTemplate) { arch := .x8664 } =
      .ok twoLineKernel :=
    Kernel.ofTemplate_of_expanded { arch := .x8664 } (Registry.expandAt_of_plain (Nat.zero_le _) (by decide))
  have hlines : twoLineKernel.specialize {} = .ok twoLineRoutine := by decide +kernel
  obtain ⟨hroutine, hfile⟩ := routine_lines_survive
  obtain ⟨hne, hone⟩ := hroutine twoLineTemplate ["STEP\r\n# STEP"] _ _ {} twoLineRoutine (by decide) hk hlines
  obtain ⟨hwritten, read, hread, hadded⟩ := hfile twoLineRoutine hne hone
  have hwrites : writingHost.WritesFile "/k.s" twoLineRoutine compilerOnly := ⟨by decide +kernel, by decide +kernel⟩
  exact ⟨hk, hlines, hwritten writingHost "/k.s" compilerOnly hwrites, read, hread, hadded twoLineTemplate⟩

end BenchKernel
