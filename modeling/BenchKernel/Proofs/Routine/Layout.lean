import BenchKernel.Kernel
import BenchKernel.Proofs.Substitution.Order
import BenchKernel.Proofs.Substitution.Registers
import BenchKernel.Proofs.Target.Lines

/-! # The lines of a routine

A routine is the target's header and footer around the thread's lines: the loads in the place of the stream mark, and
the body with the table applied. Header and footer stand as they are. The loads do not: they are the text of one entry
of the table, and every key that comes after the mark is replaced in them too. They stand as they are if these keys do
not occur in them, for instance if each key has a capital letter. -/

namespace BenchKernel

open Text

/-! ### What a routine is made of -/

/-- The expanded body, the placed streams and the table from which the routine of a thread is made. -/
structure RoutineParts (t : Template) (arch : Arch) (worker : Worker) where
  body : List String
  bound : List BoundStream
  table : Table
  expanded : t.expanded arch = .ok body
  placed : placeStreams t arch body worker = .ok bound
  tabled : Table.ofWorker t arch body worker = .ok table

/-- A thread has one such body, one such list of streams and one such table. -/
instance (t : Template) (arch : Arch) (worker : Worker) : Subsingleton (RoutineParts t arch worker) where
  allEq := by
    rintro ⟨body, bound, table, hbody, hbound, htable⟩ ⟨body', bound', table', hbody', hbound', htable'⟩
    obtain rfl : body = body' := Except.ok.inj (hbody.symm.trans hbody')
    obtain rfl : bound = bound' := Except.ok.inj (hbound.symm.trans hbound')
    obtain rfl : table = table' := Except.ok.inj (htable.symm.trans htable')
    rfl

/-- The lines that load the addresses of the streams, in the order of the streams. -/
def RoutineParts.loads {t : Template} {arch : Arch} {worker : Worker} (p : RoutineParts t arch worker) : List String :=
  p.bound.flatMap (BoundStream.loads arch)

theorem Kernel.specialize_eq_ok {t : Template} {settings : Settings} {k : Kernel} {worker : Worker}
    {lines : List String} (hk : Kernel.ofTemplate t settings = .ok k) (h : k.specialize worker = .ok lines) :
    ∃ p : RoutineParts t settings.arch worker,
      lines = p.table.onHeader (!t.streams.isEmpty) (settings.arch.header t.name) ++
        p.table.onCode (some settings.arch.commentMark) p.body ++ settings.arch.footer t.name := by
  simp only [ofTemplate, Template.skeleton] at hk
  cases hbody : t.expanded settings.arch with
  | error stop => simp [hbody] at hk
  | ok body =>
    simp only [hbody, Except.ok.injEq] at hk
    subst hk
    obtain ⟨table, htable, h⟩ := bind_eq_ok.mp h
    cases h
    obtain ⟨bound, hbound, -⟩ := Table.ofWorker_eq_ok htable
    exact ⟨⟨body, bound, table, hbody, hbound, htable⟩, rfl⟩

theorem Kernel.ofTemplate_of_expanded {t : Template} {body : List String} (settings : Settings)
    (h : t.expanded settings.arch = .ok body) :
    Kernel.ofTemplate t settings =
      .ok ⟨t, settings, ⟨settings.arch.header t.name, body, settings.arch.footer t.name⟩⟩ := by
  rw [ofTemplate, Template.skeleton, h]

/-! ### The place of the mark -/

theorem Table.onHeader_header (table : Table) (hasStreams : Bool) (arch : Arch) (name : String) :
    table.onHeader hasStreams (arch.header name) =
      (arch.header name).dropLast ++ if hasStreams then newlinePieces (table.onLine streamMark) else [] := by
  obtain ⟨hheader, hplain⟩ := arch.header_eq name
  have hkept : ∀ before : List String, (∀ line ∈ before, trimmed line ≠ streamMark) →
      table.onHeader hasStreams before = before := by
    intro before hbefore
    induction before with
    | nil => rfl
    | cons line before ih =>
      rw [List.forall_mem_cons] at hbefore
      have hrest := ih hbefore.2
      rw [onHeader] at hrest
      rw [onHeader, List.flatMap_cons, if_pos (bne_iff_ne.mpr hbefore.1), hrest, List.singleton_append]
  have hmark : table.onHeader hasStreams [streamMark] =
      if hasStreams then newlinePieces (table.onLine streamMark) else [] := by
    have htrimmed : trimmed streamMark = streamMark := by decide
    cases hasStreams <;> simp [onHeader, onLines, onCode, htrimmed]
  calc table.onHeader hasStreams (arch.header name)
      = table.onHeader hasStreams (arch.header name).dropLast ++ table.onHeader hasStreams [streamMark] := by
        rw [onHeader, hheader, List.flatMap_append, List.dropLast_concat]
        rfl
    _ = _ := by rw [hkept _ hplain, hmark]

/-! ### The loads -/

/-- The keys that a template brings into its tables. -/
def Template.keys (t : Template) : List String :=
  t.streams.flatMap (fun s => s.name :: s.dims) ++ (t.constants ++ t.vars).map Prod.fst

namespace RoutineParts
variable {t : Template} {arch : Arch} {worker : Worker} (p : RoutineParts t arch worker)

theorem entries_eq :
    p.table.entries = ("NAME", t.name) :: p.bound.flatMap BoundStream.entries ++ loadEntry arch p.bound ++
      threadEntries worker ++ t.constants ++ t.vars := by
  obtain ⟨bound, hbound, hentries⟩ := Table.ofWorker_eq_ok p.tabled
  obtain rfl : bound = p.bound := Except.ok.inj (hbound.symm.trans p.placed)
  exact hentries

theorem stream_mem {b : BoundStream} (hb : b ∈ p.bound) : b.stream ∈ t.streams := by
  rw [← (placeStreams_eq_ok p.placed).1]
  exact List.mem_map_of_mem hb

theorem bound_eq_nil_iff : p.bound = [] ↔ t.streams = [] := by
  rw [← (placeStreams_eq_ok p.placed).1, List.map_eq_nil_iff]

theorem isLoadText_of_mem_loads {line : String} (h : line ∈ p.loads) : IsLoadText line := by
  obtain ⟨b, hb, hline⟩ := List.mem_flatMap.mp h
  exact isLoadText_streamLoads (register_mem_of_bound p.placed hb) hline

theorem loads_ne_nil (h : t.streams ≠ []) : p.loads ≠ [] := by
  have hnonempty : ∀ register address, arch.streamLoads register address ≠ [] := by
    intro register address
    cases arch <;> try exact List.cons_ne_nil _ _
    simp only [Arch.streamLoads, Power.loadAddress, Power.loadKnown]
    split <;> exact List.cons_ne_nil _ _
  obtain ⟨b, rest, hbound⟩ := List.exists_cons_of_ne_nil (mt p.bound_eq_nil_iff.mp h)
  rw [loads, hbound, List.flatMap_cons]
  exact List.append_ne_nil_of_left_ne_nil (hnonempty _ _) _

theorem newlinePieces_loads (h : t.streams ≠ []) : newlinePieces (joinLines p.loads) = p.loads := by
  refine newlinePieces_joinLines (p.loads_ne_nil h) fun line hline hc => ?_
  have hload := isLoadText_iff.mp (p.isLoadText_of_mem_loads hline) _ hc
  exact absurd hload (by decide)

theorem key_mem_of_mem_entries {b : BoundStream} {e : String × String} (h : e ∈ b.entries) :
    e.1 ∈ b.stream.name :: b.stream.dims := by
  rw [BoundStream.entries, List.mem_cons, List.mem_map] at h
  rcases h with rfl | ⟨⟨token, n⟩, hmem, rfl⟩
  · exact List.mem_cons_self
  · exact List.mem_cons_of_mem _ (List.of_mem_zip hmem).1

theorem key_of_mem_loadEntry {arch : Arch} {bound : List BoundStream} {e : String × String}
    (h : e ∈ loadEntry arch bound) : e.1 = streamMark := by
  unfold loadEntry at h
  split at h
  · cases h
  · rw [List.mem_singleton.mp h]

theorem key_mem {e : String × String} (h : e ∈ p.table.entries) :
    e.1 ∈ t.keys ∨ ∃ c ∈ e.1.toList, c.isUpper = true := by
  have hcapital : ∀ key ∈ ["NAME", streamMark, "NUM_THREADS", "THREAD_ID", "GROUP_ID", "ITERATIONS",
      "BYTES_PER_ITERATION"], ∃ c ∈ key.toList, c.isUpper = true := by
    simp only [← List.any_eq_true]
    decide
  rw [p.entries_eq] at h
  simp only [List.mem_append, List.mem_cons, or_assoc] at h
  rcases h with rfl | h | h | h | h | h
  · exact Or.inr (hcapital "NAME" (by simp))
  · obtain ⟨b, hb, he⟩ := List.mem_flatMap.mp h
    exact Or.inl (List.mem_append_left _ (List.mem_flatMap.mpr ⟨b.stream, p.stream_mem hb, key_mem_of_mem_entries he⟩))
  · rw [key_of_mem_loadEntry h]
    exact Or.inr (hcapital streamMark (by simp))
  · have hkey : e.1 ∈ (threadEntries worker).map Prod.fst := List.mem_map_of_mem h
    exact Or.inr (hcapital e.1 (List.mem_cons_of_mem _ (List.mem_cons_of_mem _ hkey)))
  · exact Or.inl (List.mem_append_right _ (List.mem_map_of_mem (List.mem_append_left _ h)))
  · exact Or.inl (List.mem_append_right _ (List.mem_map_of_mem (List.mem_append_right _ h)))

theorem isUpper_eq_false {c : Char} (h : c ∈ (joinLines p.loads).toList) : c.isUpper = false := by
  rcases mem_joinLines h with rfl | ⟨line, hline, hc⟩
  · decide
  · exact isUpper_of_isLoadChar (isLoadText_iff.mp (p.isLoadText_of_mem_loads hline) c hc)

/-- The mark becomes the loads, to which the entries behind the mark are applied. -/
theorem onLine_streamMark (hstreams : t.streams ≠ [])
    (hmark : ∀ s ∈ t.streams, s.name ≠ streamMark ∧ streamMark ∉ s.dims) :
    ∃ first later, p.table.ordered = first ++ (streamMark, joinLines p.loads) :: later ∧
      p.table.onLine streamMark = later.foldl Table.replaced (joinLines p.loads) := by
  have hload : loadEntry arch p.bound = [(streamMark, joinLines p.loads)] := by
    rw [loadEntry, if_neg (mt List.isEmpty_iff.mp (mt p.bound_eq_nil_iff.mp hstreams))]
    rfl
  have hentries : p.table.entries = ("NAME", t.name) :: p.bound.flatMap BoundStream.entries ++
      (streamMark, joinLines p.loads) :: (threadEntries worker ++ t.constants ++ t.vars) := by
    rw [p.entries_eq, hload]
    simp
  refine Table.onLine_key (by decide) hentries fun e he => ?_
  rcases List.mem_cons.mp he with rfl | he
  · exact (by decide : "NAME" ≠ streamMark)
  · obtain ⟨b, hb, he⟩ := List.mem_flatMap.mp he
    obtain ⟨hname, hdims⟩ := hmark b.stream (p.stream_mem hb)
    rcases List.mem_cons.mp (key_mem_of_mem_entries he) with hkey | hkey
    · rwa [hkey]
    · exact fun h => hdims (h ▸ hkey)

/-- No key but the mark occurs in the loads. -/
def Spared : Prop :=
  ∀ e ∈ p.table.entries, e.1 ≠ "" → e.1 ≠ streamMark → ¬e.1.toList <:+: (joinLines p.loads).toList

theorem spared_of_capitals (h : ∀ key ∈ t.keys, key ≠ "" → ∃ c ∈ key.toList, c.isUpper = true) : p.Spared := by
  intro e he hne _ hoccurs
  obtain ⟨c, hc, hupper⟩ := (p.key_mem he).elim (fun hkey => h e.1 hkey hne) id
  rw [p.isUpper_eq_false (hoccurs.subset hc)] at hupper
  cases hupper

theorem onLine_streamMark_of_spared (hstreams : t.streams ≠ [])
    (hmark : ∀ s ∈ t.streams, s.name ≠ streamMark ∧ streamMark ∉ s.dims) (hspared : p.Spared) :
    p.table.onLine streamMark = joinLines p.loads := by
  obtain ⟨first, later, hordered, hline⟩ := p.onLine_streamMark hstreams hmark
  rw [hline]
  refine Table.foldl_replaced_eq_self fun e he hoccurs => ?_
  obtain ⟨hmem, hne⟩ := Table.mem_ordered_iff.mp (show e ∈ p.table.ordered by simp [hordered, he])
  by_cases hkey : e.1 = streamMark
  · have hcapital := p.isUpper_eq_false (hoccurs.subset (show 'S' ∈ e.1.toList by rw [hkey]; decide))
    exact absurd hcapital (by decide)
  · exact hspared e hmem hne hkey hoccurs

end RoutineParts

/-- A routine is the header without its mark, the lines in the place of the mark, the body with the table applied to
    all but its comments, and the footer. In the place of the mark there is nothing if there are no streams. Otherwise
    the table makes these lines from the mark: unless a stream or a size token is called like the mark, they are the
    loads with all later keys replaced. They are the loads themselves, each register with its own address, if no key
    occurs in the loads, and so if every key of the template has a capital letter. -/
theorem specialize_layout (t : Template) (settings : Settings) (k : Kernel) (worker : Worker) (lines : List String)
    (hk : Kernel.ofTemplate t settings = .ok k) (hlines : k.specialize worker = .ok lines) :
    ∃ (p : RoutineParts t settings.arch worker) (loaded : List String),
      p.bound.map BoundStream.stream = t.streams ∧ p.bound.map BoundStream.placement = worker.streams ∧
      (∀ b ∈ p.bound, (b.stream.name, b.register) ∈ p.table.entries) ∧
      settings.arch.header t.name = (settings.arch.header t.name).dropLast ++ [streamMark] ∧
      lines = (settings.arch.header t.name).dropLast ++ loaded ++
        p.table.onCode (some settings.arch.commentMark) p.body ++ settings.arch.footer t.name ∧
      (t.streams = [] → loaded = []) ∧
      (t.streams ≠ [] → loaded = newlinePieces (p.table.onLine streamMark)) ∧
      ((∀ s ∈ t.streams, s.name ≠ streamMark ∧ streamMark ∉ s.dims) →
        (t.streams ≠ [] → ∃ first later, p.table.ordered = first ++ (streamMark, joinLines p.loads) :: later ∧
          loaded = newlinePieces (later.foldl Table.replaced (joinLines p.loads))) ∧
        (p.Spared → loaded = p.loads) ∧
        ((∀ key ∈ t.keys, key ≠ "" → ∃ c ∈ key.toList, c.isUpper = true) → loaded = p.loads)) := by
  obtain ⟨p, rfl⟩ := Kernel.specialize_eq_ok hk hlines
  obtain ⟨hstream, hplacement, -⟩ := placeStreams_eq_ok p.placed
  refine ⟨p, if t.streams = [] then [] else newlinePieces (p.table.onLine streamMark), hstream, hplacement,
    fun b hb => Table.mem_entries_of_bound p.entries_eq hb, (settings.arch.header_eq t.name).1, ?_, fun h => if_pos h,
    fun h => if_neg h, fun hmark => ?_⟩
  · rw [Table.onHeader_header]
    cases t.streams <;> rfl
  by_cases hstreams : t.streams = []
  · have hloads : p.loads = [] := by rw [RoutineParts.loads, p.bound_eq_nil_iff.mpr hstreams, List.flatMap_nil]
    rw [if_pos hstreams, hloads]
    exact ⟨fun h => absurd hstreams h, fun _ => rfl, fun _ => rfl⟩
  · have hspared : p.Spared → newlinePieces (p.table.onLine streamMark) = p.loads := fun h => by
      rw [p.onLine_streamMark_of_spared hstreams hmark h, p.newlinePieces_loads hstreams]
    rw [if_neg hstreams]
    refine ⟨fun _ => ?_, hspared, fun hcapitals => hspared (p.spared_of_capitals hcapitals)⟩
    obtain ⟨first, later, hordered, hline⟩ := p.onLine_streamMark hstreams hmark
    exact ⟨first, later, hordered, by rw [hline]⟩

/-- A template with a constant that is spelled like a part of an address. -/
def clashingTemplate : Template where
  name := "k"
  body := ["add rdx, [S]", "add rdx, x1"]
  streams := [⟨"S", .double, ["N"]⟩]
  constants := [("x1", "64")]

/-- A thread with one stream. -/
def singleWorker : Worker where
  streams := [⟨0x10000, [512]⟩]

theorem expanded_clashingTemplate : clashingTemplate.expanded .x8664 = .ok clashingTemplate.body :=
  Registry.expandAt_of_plain (Nat.zero_le _) (by decide)

def clashingParts : RoutineParts clashingTemplate .x8664 singleWorker where
  body := clashingTemplate.body
  bound := [⟨⟨"S", .double, ["N"]⟩, ⟨0x10000, [512]⟩, "rax"⟩]
  table := ⟨[("NAME", "k"), ("S", "rax"), ("N", "512"), (streamMark, "movabs rax, 0x10000"), ("NUM_THREADS", "1"),
    ("THREAD_ID", "0"), ("GROUP_ID", "0"), ("ITERATIONS", "1"), ("BYTES_PER_ITERATION", "0"), ("x1", "64")]⟩
  expanded := expanded_clashingTemplate
  placed := rfl
  tabled := rfl

/-- The constant is replaced in the load too, so that the register gets another address. -/
theorem clashingTemplate_layout :
    ∃ k lines, Kernel.ofTemplate clashingTemplate { arch := .x8664 } = .ok k ∧
      k.specialize singleWorker = .ok lines ∧ clashingParts.loads = ["movabs rax, 0x10000"] ∧
      lines = (Arch.header .x8664 "k").dropLast ++ ["movabs rax, 0640000"] ++ ["add rdx, [rax]", "add rdx, 64"] ++
        Arch.footer .x8664 "k" := by
  have hk := Kernel.ofTemplate_of_expanded { arch := .x8664 } expanded_clashingTemplate
  obtain ⟨p, loaded, -, -, -, -, hlines, -, hloaded, -⟩ :=
    specialize_layout clashingTemplate { arch := .x8664 } _ singleWorker _ hk rfl
  obtain rfl : p = clashingParts := Subsingleton.elim _ _
  refine ⟨_, _, hk, rfl, by decide, hlines.trans ?_⟩
  have hload : newlinePieces (clashingParts.table.onLine streamMark) = ["movabs rax, 0640000"] := by decide
  have hbody : clashingParts.table.onCode (some (Arch.commentMark .x8664)) clashingParts.body =
      ["add rdx, [rax]", "add rdx, 64"] := by decide
  rw [hloaded (by decide), hload, hbody]
  rfl

end BenchKernel
