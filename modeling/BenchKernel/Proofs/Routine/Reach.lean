import BenchKernel.Proofs.Routine.Layout
import Mathlib.Data.List.Nodup

/-! # How a stream's register gets into the body

A line of the expanded body does not have a stream's register as an identifier. The table can bring it in all the same:
with a text that has it, or with a key that stands beside a character of an identifier, where the text and what is
beside it make a new one. There is no other way. The texts that can have the register are the name, the constants and
the variables of the template, the loads, and the register's own entry once another text has brought in the name of the
stream. Where keys are whole identifiers wherever they occur, and neither the line nor a text has a stream or the mark,
the identifiers of the new line are those of the old one and of the texts. -/

namespace BenchKernel

open Text

/-! ### Texts that name a register -/

section
variable {arch : Arch} {register : String}

theorem not_names_toString (h : register ∈ arch.registers) (n : Nat) : ¬Names (toString n) register := by
  have hall : ∀ r ∈ arch.registers, (lowered r).toList.any Char.isLower = true := by cases arch <;> decide
  obtain ⟨c, hc, hlower⟩ := List.any_eq_true.mp (hall register h)
  rintro ⟨run, ⟨-, -, before, after, htext, -⟩, hrun⟩
  rw [← hrun, lowered, String.toList_ofList, String.toList_ofList, List.mem_map] at hc
  obtain ⟨d, hd, rfl⟩ := hc
  have hdigit : d.isDigit = true := isDigit_of_mem_toString (by rw [htext]; simp [hd])
  have hsmall : d.toNat ≤ 57 := (Char.isDigit_iff_toNat.mp hdigit).2
  have hsame : d.toLower = d := by
    refine dif_neg fun hupper => ?_
    have hcapital := toNat_of_isUpper (decide_eq_true hupper)
    omega
  have hletter := toNat_of_isLower (hsame ▸ hlower)
  omega

theorem eq_of_names_register {other : String} (hother : other ∈ arch.registers) (h : register ∈ arch.registers)
    (hnames : Names other register) : other = register := by
  obtain ⟨hlower, hne, hword⟩ := Arch.register_spec hother
  rw [names_iff, identifiers, runs_of_forall hne hword, (Arch.register_spec h).1, List.map_singleton,
    String.ofList_toList, hlower, List.mem_singleton] at hnames
  exact hnames.symm

end

/-- The entries whose texts the template gives. -/
def Template.given (t : Template) : List (String × String) := ("NAME", t.name) :: (t.constants ++ t.vars)

namespace RoutineParts
variable {t : Template} {arch : Arch} {worker : Worker} (p : RoutineParts t arch worker)
variable {b : BoundStream} {e : String × String} {line text : String}

/-- The entries of a table without those for the registers and the loads of the streams. -/
def inserted : List (String × String) :=
  ("NAME", t.name) :: p.bound.flatMap (fun b => b.entries.tail) ++ threadEntries worker ++ t.constants ++ t.vars

theorem entry_cases (h : e ∈ p.table.entries) :
    e ∈ p.inserted ∨ (∃ b ∈ p.bound, e = (b.stream.name, b.register)) ∨ e ∈ loadEntry arch p.bound := by
  rw [p.entries_eq] at h
  simp only [List.mem_append, List.mem_cons, List.mem_flatMap, or_assoc] at h
  simp only [inserted, List.mem_append, List.mem_cons, List.mem_flatMap, or_assoc]
  rcases h with h | ⟨b, hb, h⟩ | h | h | h | h
  · exact Or.inl h
  · rcases List.mem_cons.mp h with h | h
    · exact Or.inr (Or.inr (Or.inr (Or.inr (Or.inr (Or.inl ⟨b, hb, h⟩)))))
    · exact Or.inr (Or.inl ⟨b, hb, h⟩)
  all_goals simp [h]

/-- Of these entries only those of the template can have a register in their texts. The others are numbers. -/
theorem given_of_names (hb : b ∈ p.bound) (he : e ∈ p.inserted) (h : Names e.2 b.register) : e ∈ t.given := by
  have hregister := register_mem_of_bound p.placed hb
  simp only [inserted, List.mem_append, List.mem_cons, List.mem_flatMap, or_assoc] at he
  rcases he with he | ⟨other, -, he⟩ | he | he | he
  · simp [Template.given, he]
  · obtain ⟨⟨token, n⟩, -, rfl⟩ := List.mem_map.mp he
    exact absurd h (not_names_toString hregister n)
  · simp only [threadEntries, List.mem_cons, List.not_mem_nil, or_false] at he
    rcases he with rfl | rfl | rfl | rfl | rfl <;> exact absurd h (not_names_toString hregister _)
  · simp [Template.given, he]
  · simp [Template.given, he]

theorem entry_of_names (hb : b ∈ p.bound) (he : e ∈ p.table.entries) (h : Names e.2 b.register) :
    e ∈ t.given ∨ e ∈ loadEntry arch p.bound ∨ e = (b.stream.name, b.register) := by
  rcases p.entry_cases he with he | ⟨other, hother, rfl⟩ | he
  · exact Or.inl (p.given_of_names hb he h)
  · have hsame : other.register = b.register :=
      eq_of_names_register (register_mem_of_bound p.placed hother) (register_mem_of_bound p.placed hb) h
    obtain rfl : other = b := List.inj_on_of_nodup_map (nodup_bound_registers p.placed) hother hb hsame
    exact Or.inr (Or.inr rfl)
  · exact Or.inr (Or.inl he)

/-! ### Tidy lines -/

/-- The line and the texts that the table can put into it. -/
def sources (line : String) : List String := line :: p.inserted.map Prod.snd

/-- All keys but the mark are identifiers, and whole ones wherever they occur in the line or in the texts that the table
    can put into it. The streams and the mark do not occur there. -/
structure Tidy (line : String) : Prop where
  keys : ∀ e ∈ p.table.entries, e.1 ≠ streamMark → ∀ c ∈ e.1.toList, isWordChar c = true
  apart : ∀ e ∈ p.inserted, e.1 ≠ "" → ∀ text ∈ p.sources line, Apart isWordChar e.1.toList text.toList
  streams : ∀ s ∈ t.streams, ∀ text ∈ p.sources line, ¬s.name.toList <:+: text.toList
  mark : ∀ text ∈ p.sources line, ¬Names text "STREAM_POINTERS"

/-- Each identifier of a text is one of the line or of a text that the table can put into it. -/
def Within (line text : String) : Prop :=
  ∀ w ∈ runs isWordChar text.toList, ∃ source ∈ p.sources line, w ∈ runs isWordChar source.toList

variable {p}

theorem Tidy.not_streamMark (h : p.Tidy line) (htext : p.Within line text) :
    ¬streamMark.toList <:+: text.toList := by
  rintro ⟨before, after, hsplit⟩
  have hrun : "STREAM_POINTERS".toList ∈ runs isWordChar text.toList := by
    refine mem_runs_iff.mpr ⟨by decide, List.all_eq_true.mp (by decide), before ++ ['#'], '#' :: after, ?_,
      endsOutside_concat.mpr rfl, startsOutside_cons.mpr rfl⟩
    rw [← hsplit]
    simp [streamMark]
  obtain ⟨source, hsource, hmem⟩ := htext _ hrun
  exact h.mark source hsource ⟨_, mem_runs_iff.mp hmem, rfl⟩

/-- What consists of characters of identifiers comes from the line or from one text. -/
theorem Within.exists_source (htext : p.Within line text) {key : List Char} (hne : key ≠ [])
    (hword : ∀ c ∈ key, isWordChar c = true) (h : key <:+: text.toList) :
    ∃ source ∈ p.sources line, key <:+: source.toList := by
  obtain ⟨before, after, hsplit⟩ := h
  obtain ⟨left, right, hrun, -⟩ := exists_run_around hne hword before after
  rw [hsplit] at hrun
  obtain ⟨source, hsource, hmem⟩ := htext _ hrun
  obtain ⟨-, -, front, rest, heq, -⟩ := mem_runs_iff.mp hmem
  exact ⟨source, hsource, front ++ left, right ++ rest, by simp [heq]⟩

theorem Tidy.replaced (h : p.Tidy line) (he : e ∈ p.table.entries) (hne : e.1 ≠ "") (htext : p.Within line text) :
    p.Within line (Table.replaced text e) := by
  by_cases hoccurs : e.1.toList <:+: text.toList
  · have hkey : e.1.toList ≠ [] := fun hnil => hne (String.toList_eq_nil_iff.mp hnil)
    have hmark : e.1 ≠ streamMark := fun hmark => h.not_streamMark htext (hmark ▸ hoccurs)
    have hword := h.keys e he hmark
    -- Neither a stream nor the mark occurs, so that the text is one of the sources.
    have hinserted : e ∈ p.inserted := by
      rcases p.entry_cases he with he | ⟨b, hb, rfl⟩ | he
      · exact he
      · obtain ⟨source, hsource, hin⟩ := htext.exists_source hkey hword hoccurs
        exact absurd hin (h.streams b.stream (p.stream_mem hb) source hsource)
      · exact absurd (key_of_mem_loadEntry he) hmark
    have hapart : Apart isWordChar e.1.toList text.toList := by
      refine (apart_iff hkey hword).mpr fun w hw hin => ?_
      obtain ⟨source, hsource, hmem⟩ := htext w hw
      exact (apart_iff hkey hword).mp (h.apart e hinserted hne source hsource) w hmem hin
    intro w hw
    rw [Table.replaced_of_present hoccurs, String.toList_ofList] at hw
    rcases mem_runs_replaceAll hkey hapart hw with hw | hw
    · exact htext w hw
    · exact ⟨e.2, List.mem_cons_of_mem _ (List.mem_map_of_mem hinserted), hw⟩
  · rwa [Table.replaced_of_absent hoccurs]

theorem Tidy.onLine (h : p.Tidy line) : p.Within line (p.table.onLine line) := by
  have hfold : ∀ (es : List (String × String)) (text : String), (∀ e ∈ es, e ∈ p.table.entries ∧ e.1 ≠ "") →
      p.Within line text → p.Within line (es.foldl Table.replaced text) := by
    intro es
    induction es with
    | nil => exact fun _ _ htext => htext
    | cons e es ih =>
      intro text hes htext
      rw [List.forall_mem_cons] at hes
      exact ih _ hes.2 (h.replaced hes.1.1 hes.1.2 htext)
  rw [Table.onLine_eq_foldl]
  exact hfold _ _ (fun e he => Table.mem_ordered_iff.mp he) fun w hw => ⟨line, List.mem_cons_self, hw⟩

theorem entry_of_tidy (h : p.Tidy line) (hb : b ∈ p.bound) (hunnamed : ¬Names line b.register)
    (hnames : Names (p.table.onLine line) b.register) : ∃ e ∈ t.given, Names e.2 b.register := by
  obtain ⟨run, hrun, hword⟩ := hnames
  obtain ⟨source, hsource, hmem⟩ := h.onLine run (mem_runs_iff.mpr hrun)
  have hsourceNames : Names source b.register := ⟨run, mem_runs_iff.mp hmem, hword⟩
  rcases List.mem_cons.mp hsource with rfl | hsource
  · exact absurd hsourceNames hunnamed
  · obtain ⟨e, he, rfl⟩ := List.mem_map.mp hsource
    exact ⟨e, p.given_of_names hb he hsourceNames, hsourceNames⟩

end RoutineParts

/-- A line of the expanded body without the name of a stream gets the register `r` of a stream as an identifier in one
    replacement. Its key stands beside a character of an identifier or beside itself, or its text has `r`: it is the
    template's name, a constant, a variable or the loads, or it is `r` itself for the name of its stream, which the line
    did not have. A tidy line gets `r` only if the template's name, a constant or a variable has `r` in its text. -/
theorem register_enters_by_replacement (t : Template) (settings : Settings) (k : Kernel) (worker : Worker)
    (lines : List String) (hk : Kernel.ofTemplate t settings = .ok k) (hlines : k.specialize worker = .ok lines) :
    ∃ p : RoutineParts t settings.arch worker, ∀ b ∈ p.bound, ∀ line ∈ p.body,
      (∀ s ∈ t.streams, ¬s.name.toList <:+: line.toList) →
      ∀ out ∈ p.table.onCode (some settings.arch.commentMark) [line], Names out b.register →
        (∃ e text, p.table.Replaces line e text ∧ ¬Names text b.register ∧ Names (Table.replaced text e) b.register ∧
          (¬Apart isWordChar e.1.toList text.toList ∨
            Names e.2 b.register ∧ (e ∈ t.given ∨ e ∈ loadEntry settings.arch p.bound ∨
              e = (b.stream.name, b.register) ∧ text ≠ line))) ∧
        (p.Tidy line → ∃ e ∈ t.given, Names e.2 b.register) := by
  obtain ⟨p, -⟩ := Kernel.specialize_eq_ok hk hlines
  refine ⟨p, fun b hb line hline hstreams out hout hnames => ?_⟩
  have hunnamed : ¬Names line b.register := Arch.not_names_of_free (free_of_bound p.placed hb) hline
  have honLine : Names (p.table.onLine line) b.register := by
    rw [Table.onCode, List.flatMap_singleton] at hout
    split at hout
    · rw [List.mem_singleton.mp hout] at hnames
      exact absurd hnames hunnamed
    · exact names_of_mem_newlinePieces hout hnames
  refine ⟨?_, fun htidy => RoutineParts.entry_of_tidy htidy hb hunnamed honLine⟩
  obtain ⟨e, text, hreplaces, hbefore, hafter⟩ := Table.exists_replaces (P := (Names · b.register)) hunnamed honLine
  refine ⟨e, text, hreplaces, hbefore, hafter, ?_⟩
  by_cases hapart : Apart isWordChar e.1.toList text.toList
  · obtain ⟨hentry, hne⟩ := hreplaces.mem
    have htext : Names e.2 b.register := (Table.names_of_names_replaced hne hapart hafter).resolve_left hbefore
    refine Or.inr ⟨htext, ?_⟩
    rcases p.entry_of_names hb hentry htext with h | h | rfl
    · exact Or.inl h
    · exact Or.inr (Or.inl h)
    · refine Or.inr (Or.inr ⟨rfl, ?_⟩)
      rintro rfl
      exact hstreams b.stream (p.stream_mem hb) hreplaces.1
  · exact Or.inl hapart

/-- A template with a constant that is a register. -/
def aliasTemplate : Template where
  name := "k"
  body := ["add ACC, 1", "add rdx, [S]"]
  streams := [⟨"S", .double, ["N"]⟩]
  constants := [("ACC", "rax")]

theorem expanded_aliasTemplate : aliasTemplate.expanded .x8664 = .ok aliasTemplate.body :=
  Registry.expandAt_of_plain (Nat.zero_le _) (by decide)

def aliasParts : RoutineParts aliasTemplate .x8664 singleWorker where
  body := aliasTemplate.body
  bound := [⟨⟨"S", .double, ["N"]⟩, ⟨0x10000, [512]⟩, "rax"⟩]
  table := ⟨[("NAME", "k"), ("S", "rax"), ("N", "512"), (streamMark, "movabs rax, 0x10000"), ("NUM_THREADS", "1"),
    ("THREAD_ID", "0"), ("GROUP_ID", "0"), ("ITERATIONS", "1"), ("BYTES_PER_ITERATION", "0"), ("ACC", "rax")]⟩
  expanded := expanded_aliasTemplate
  placed := rfl
  tabled := rfl

/-- The line that adds to the constant has no stream and becomes one that adds to the register. -/
theorem aliasParts_line :
    (∀ s ∈ aliasTemplate.streams, ¬s.name.toList <:+: "add ACC, 1".toList) ∧
      "add rax, 1" ∈ aliasParts.table.onCode (some (Arch.commentMark .x8664)) ["add ACC, 1"] ∧
      Names "add rax, 1" "rax" := by
  refine ⟨fun s hs => ?_, by decide, names_iff.mpr (by decide)⟩
  obtain rfl : s = ⟨"S", .double, ["N"]⟩ := List.mem_singleton.mp hs
  rw [← occurs_eq_false_iff]
  rfl

/-- The body has a constant in the place of the register, so that the register is free for the stream. Then the constant
    brings the register into a line that has no stream. -/
theorem aliasTemplate_overwrites_stream :
    ∃ k lines, Kernel.ofTemplate aliasTemplate { arch := .x8664 } = .ok k ∧ k.specialize singleWorker = .ok lines ∧
      ∃ b ∈ aliasParts.bound, ∃ line ∈ aliasParts.body, Table.isComment (Arch.commentMark .x8664) line = false ∧
        (∀ s ∈ aliasTemplate.streams, ¬s.name.toList <:+: line.toList) ∧
        ∃ out ∈ aliasParts.table.onCode (some (Arch.commentMark .x8664)) [line], Names out b.register := by
  obtain ⟨hstreams, hout, hnames⟩ := aliasParts_line
  exact ⟨_, _, Kernel.ofTemplate_of_expanded _ expanded_aliasTemplate, rfl, _, List.mem_cons_self, "add ACC, 1",
    by decide, by decide, hstreams, "add rax, 1", hout, hnames⟩

theorem tidy_aliasParts : aliasParts.Tidy "add ACC, 1" := by
  have hkeys : ∀ e ∈ aliasParts.table.entries, e.1 = streamMark ∨ e.1.toList.all isWordChar = true := by decide
  have hword : ∀ e ∈ aliasParts.inserted, e.1.toList ≠ [] ∧ e.1.toList.all isWordChar = true := by decide
  have hwhole : ∀ e ∈ aliasParts.inserted, ∀ text ∈ aliasParts.sources "add ACC, 1",
      ∀ w ∈ runs isWordChar text.toList, occurs e.1.toList w = true → w = e.1.toList := by decide
  have hstreams : ∀ s ∈ aliasTemplate.streams, ∀ text ∈ aliasParts.sources "add ACC, 1",
      occurs s.name.toList text.toList = false := by decide
  have hmark : ∀ text ∈ aliasParts.sources "add ACC, 1", lowered "STREAM_POINTERS" ∉ identifiers text := by decide
  refine ⟨fun e he hne => List.all_eq_true.mp ((hkeys e he).resolve_left hne), fun e he _ text htext => ?_,
    fun s hs text htext => occurs_eq_false_iff.mp (hstreams s hs text htext),
    fun text htext => mt names_iff.mp (hmark text htext)⟩
  obtain ⟨hne, hall⟩ := hword e he
  exact (apart_iff hne (List.all_eq_true.mp hall)).mpr fun w hw h => hwhole e he text htext w hw (occurs_iff.mpr h)

theorem aliasTemplate_replacement :
    (∃ e text, aliasParts.table.Replaces "add ACC, 1" e text ∧ ¬Names text "rax" ∧
      Names (Table.replaced text e) "rax" ∧
      (¬Apart isWordChar e.1.toList text.toList ∨
        Names e.2 "rax" ∧ (e ∈ aliasTemplate.given ∨ e ∈ loadEntry .x8664 aliasParts.bound ∨
          e = ("S", "rax") ∧ text ≠ "add ACC, 1"))) ∧
      aliasParts.Tidy "add ACC, 1" ∧ ∃ e ∈ aliasTemplate.given, Names e.2 "rax" := by
  obtain ⟨hstreams, hout, hnames⟩ := aliasParts_line
  obtain ⟨p, hp⟩ := register_enters_by_replacement aliasTemplate { arch := .x8664 } _ singleWorker _
    (Kernel.ofTemplate_of_expanded _ expanded_aliasTemplate) rfl
  obtain rfl : p = aliasParts := Subsingleton.elim _ _
  obtain ⟨hentry, htidy⟩ := hp _ List.mem_cons_self "add ACC, 1" (by decide) hstreams "add rax, 1" hout hnames
  exact ⟨hentry, tidy_aliasParts, htidy tidy_aliasParts⟩

end BenchKernel
