import BenchKernel.Proofs.Grammar.Identifiers
import BenchKernel.Substitution.Worker

/-! # Registers of streams

A stream gets a register that no line of the expanded body has as an identifier. Since expansion loses no identifier,
the template's own lines do not have it either, markers included: no register that a template names, be it the counter
or the limit of a loop, is given to a stream. Two streams never share a register. -/

namespace BenchKernel

open Text

/-! ### Register tables -/

namespace Arch
variable {arch : Arch} {register : String}

theorem nodup_registers (arch : Arch) : arch.registers.Nodup := by
  cases arch <;> decide

theorem register_spec (h : register ∈ arch.registers) :
    lowered register = register ∧ register.toList ≠ [] ∧ ∀ c ∈ register.toList, isWordChar c = true := by
  have hall : ∀ r ∈ arch.registers, lowered r = r ∧ r.toList ≠ [] ∧ r.toList.all isWordChar = true := by
    cases arch <;> decide
  obtain ⟨hlower, hne, hword⟩ := hall register h
  exact ⟨hlower, hne, List.all_eq_true.mp hword⟩

theorem mem_freeRegisters {used : List String} :
    register ∈ arch.freeRegisters used ↔ register ∈ arch.registers ∧ register ∉ used := by
  simp [freeRegisters]

theorem nodup_freeRegisters (arch : Arch) (used : List String) : (arch.freeRegisters used).Nodup :=
  arch.nodup_registers.filter _

/-- No line has a register that is free beside these lines as an identifier. -/
theorem not_names_of_free {lines : List String} {line : String} (h : register ∈ arch.freeRegisters (usedWords lines))
    (hline : line ∈ lines) : ¬Names line register := by
  obtain ⟨hregister, hused⟩ := mem_freeRegisters.mp h
  intro hnames
  rw [names_iff, (register_spec hregister).1] at hnames
  exact hused (List.mem_flatMap.mpr ⟨line, hline, hnames⟩)

end Arch

theorem isWordChar_of_toLower {c : Char} (h : isWordChar c.toLower = true) : isWordChar c = true := by
  by_cases hupper : c.val ≥ 'A'.val ∧ c.val ≤ 'Z'.val
  · have hcapital : c.isUpper = true := decide_eq_true hupper
    exact isWordChar_iff.mpr (Or.inl hcapital)
  · have hsame : c.toLower = c := dif_neg hupper
    rwa [hsame] at h

/-- What is bounded in a line and reads like a register, in any case, makes the line name the register. -/
theorem names_register {arch : Arch} {line part register : String} (hregister : register ∈ arch.registers)
    (hpart : Delimited isWordChar part.toList line.toList) (h : lowered part = lowered register) :
    Names line register := by
  obtain ⟨hlower, hne, hword⟩ := Arch.register_spec hregister
  have hmap : part.toList.map Char.toLower = register.toList := by
    rw [← hlower, ← h, lowered, String.toList_ofList]
  refine ⟨part.toList, ⟨?_, fun c hc => isWordChar_of_toLower (hword _ ?_), hpart⟩, ?_⟩
  · rintro hnil
    rw [hnil, List.map_nil] at hmap
    exact hne hmap.symm
  · rw [← hmap]
    exact List.mem_map_of_mem hc
  · rw [String.ofList_toList, h]

/-! ### Streams with their registers -/

/-- The streams of a template are placed in their order, each with the placement of the same position and with the free
    register of the same position. -/
theorem placeStreams_eq_ok {t : Template} {arch : Arch} {lines : List String} {worker : Worker}
    {bound : List BoundStream} (h : placeStreams t arch lines worker = .ok bound) :
    bound.map BoundStream.stream = t.streams ∧ bound.map BoundStream.placement = worker.streams ∧
      bound.map BoundStream.register = (arch.freeRegisters (usedWords lines)).take t.streams.length := by
  simp only [placeStreams, throw_bind] at h
  obtain ⟨hcount, h⟩ := check_eq_ok.mp h
  obtain ⟨registers, htake, h⟩ := bind_eq_ok.mp h
  obtain ⟨-, -, h⟩ := bind_eq_ok.mp h
  cases h
  unfold takeRegisters at htake
  dsimp only at htake
  split at htake
  · cases htake
  · rename_i henough
    cases htake
    have hlength : ((arch.freeRegisters (usedWords lines)).take t.streams.length).length = t.streams.length := by
      rw [List.length_take]
      omega
    have hpairs : (t.streams.zip worker.streams).length = t.streams.length := by
      rw [List.length_zip]
      omega
    simp only [List.map_map]
    refine ⟨?_, ?_, ?_⟩
    · calc _ = (((t.streams.zip worker.streams).zip _).map Prod.fst).map Prod.fst := by rw [List.map_map]; rfl
        _ = t.streams := by rw [List.map_fst_zip (by omega), List.map_fst_zip (by omega)]
    · calc _ = (((t.streams.zip worker.streams).zip _).map Prod.fst).map Prod.snd := by rw [List.map_map]; rfl
        _ = worker.streams := by rw [List.map_fst_zip (by omega), List.map_snd_zip (by omega)]
    · calc _ = ((t.streams.zip worker.streams).zip _).map Prod.snd := rfl
        _ = _ := List.map_snd_zip (by omega)

section Placed
variable {t : Template} {arch : Arch} {lines : List String} {worker : Worker} {bound : List BoundStream}

theorem nodup_bound_registers (h : placeStreams t arch lines worker = .ok bound) :
    (bound.map BoundStream.register).Nodup := by
  rw [(placeStreams_eq_ok h).2.2]
  exact (arch.nodup_freeRegisters _).sublist (List.take_sublist _ _)

theorem free_of_bound {b : BoundStream} (h : placeStreams t arch lines worker = .ok bound) (hb : b ∈ bound) :
    b.register ∈ arch.freeRegisters (usedWords lines) := by
  have hmem : b.register ∈ bound.map BoundStream.register := List.mem_map_of_mem hb
  rw [(placeStreams_eq_ok h).2.2] at hmem
  exact List.mem_of_mem_take hmem

theorem register_mem_of_bound {b : BoundStream} (h : placeStreams t arch lines worker = .ok bound) (hb : b ∈ bound) :
    b.register ∈ arch.registers :=
  (Arch.mem_freeRegisters.mp (free_of_bound h hb)).1

/-- The entries of a worker's table are those of its streams between the name and the rest. -/
theorem Table.ofWorker_eq_ok {table : Table} (h : Table.ofWorker t arch lines worker = .ok table) :
    ∃ bound, placeStreams t arch lines worker = .ok bound ∧
      table.entries = ("NAME", t.name) :: bound.flatMap BoundStream.entries ++ loadEntry arch bound ++
        threadEntries worker ++ t.constants ++ t.vars := by
  obtain ⟨bound, hbound, h⟩ := bind_eq_ok.mp h
  cases h
  exact ⟨bound, hbound, rfl⟩

theorem Table.mem_entries_of_bound {table : Table} {b : BoundStream}
    (h : table.entries = ("NAME", t.name) :: bound.flatMap BoundStream.entries ++ loadEntry arch bound ++
      threadEntries worker ++ t.constants ++ t.vars) (hb : b ∈ bound) :
    (b.stream.name, b.register) ∈ table.entries := by
  have hmem : (b.stream.name, b.register) ∈ bound.flatMap BoundStream.entries :=
    List.mem_flatMap.mpr ⟨b, hb, List.mem_cons_self⟩
  simp [h, hmem]

end Placed

/-- The registers that a worker's table gives to the streams of a template are different from one another, and no line
    of the template's own body has one of them as an identifier, in any case. So no loop counts in one or holds its end
    in one. -/
theorem stream_registers_unnamed (t : Template) (arch : Arch) (worker : Worker) (body : List String) (table : Table)
    (hbody : t.expanded arch = .ok body) (htable : Table.ofWorker t arch body worker = .ok table) :
    ∃ bound, placeStreams t arch body worker = .ok bound ∧ bound.map BoundStream.stream = t.streams ∧
      (∀ b ∈ bound, (b.stream.name, b.register) ∈ table.entries) ∧ (bound.map BoundStream.register).Nodup ∧
      (∀ b ∈ bound, ∀ line ∈ t.body, ¬Names line b.register) ∧
      ∀ b ∈ bound, ∀ line ∈ t.body, ∀ l, (Frame.loop l).OpenedBy arch line →
        lowered l.counter ≠ lowered b.register ∧ lowered l.limit ≠ lowered b.register := by
  obtain ⟨bound, hbound, hentries⟩ := Table.ofWorker_eq_ok htable
  have hunnamed : ∀ b ∈ bound, ∀ line ∈ t.body, ¬Names line b.register := by
    intro b hb line hline hnames
    obtain ⟨out, hout, hnames⟩ := Template.exists_names_expanded hbody hline hnames
    exact Arch.not_names_of_free (free_of_bound hbound hb) hout hnames
  refine ⟨bound, hbound, (placeStreams_eq_ok hbound).1, fun b hb => Table.mem_entries_of_bound hentries hb,
    nodup_bound_registers hbound, hunnamed, fun b hb line hline l hopen => ?_⟩
  obtain ⟨hcounter, hlimit⟩ := Frame.delimited_registers hopen
  have hregister := register_mem_of_bound hbound hb
  exact ⟨fun h => hunnamed b hb line hline (names_register hregister hcounter h),
    fun h => hunnamed b hb line hline (names_register hregister hlimit h)⟩

/-- The body of a loop that copies one stream to another. -/
def copyNest : Forest :=
  .region (.loop ⟨"l", "rax", "0", "rdi", "N", .less, "1"⟩) "LOOP(l, rax=0, <, rdi=N, 1)" "LOOPEND(l)"
    (.plain "mov RBX, [STR0 + 8*rax]" (.plain "mov [STR1 + 8*rax], RBX" .nil)) .nil

def copyTemplate : Template where
  name := "copy"
  body := copyNest.lines
  streams := [⟨"STR0", .double, ["N"]⟩, ⟨"STR1", .double, ["N"]⟩]

def copyWorker : Worker where
  streams := [⟨0x10000, [512]⟩, ⟨0x20000, [512]⟩]

theorem expanded_copyTemplate : copyTemplate.expanded .x8664 = .ok (copyNest.render .x8664) := by
  refine Forest.expand_lines ⟨?_, ?_, by decide⟩ ?_
  · refine ⟨⟨⟨rfl, "rax=0", "<", "rdi=N", rfl, rfl, rfl, rfl, rfl⟩, ⟨rfl, rfl⟩, trivial, ?_⟩, ⟨?_, ?_, trivial⟩,
      trivial⟩
    · rintro l h
      cases h
      decide
    · decide
    · decide
  · exact ⟨by decide, trivial, trivial⟩
  · exact ⟨Frame.readable_loop_iff.mpr ⟨_, rfl⟩, trivial, trivial⟩

/-- The loop names `rax`, `RBX` and `rdi`, so that its streams get the next two registers. -/
theorem copyTemplate_registers :
    ∃ bound table, placeStreams copyTemplate .x8664 (copyNest.render .x8664) copyWorker = .ok bound ∧
      Table.ofWorker copyTemplate .x8664 (copyNest.render .x8664) copyWorker = .ok table ∧
      bound.map BoundStream.register = ["rcx", "rdx"] ∧
      ∀ b ∈ bound, ∀ line ∈ copyTemplate.body, ¬Names line b.register := by
  obtain ⟨table, htable⟩ : ∃ table, Table.ofWorker copyTemplate .x8664 (copyNest.render .x8664) copyWorker = .ok table :=
    ⟨_, rfl⟩
  obtain ⟨bound, hbound, -, -, -, hunnamed, -⟩ := stream_registers_unnamed copyTemplate .x8664 copyWorker
    (copyNest.render .x8664) table expanded_copyTemplate htable
  refine ⟨bound, table, hbound, htable, ?_, hunnamed⟩
  rw [(placeStreams_eq_ok hbound).2.2]
  decide

end BenchKernel
