import BenchKernel.Proofs.Substitution.Registers
import Mathlib.Data.List.Forall2

/-! # The table that a worker gets

A worker is refused for the first of three reasons that applies: it brings another number of streams than the template
declares, too few registers are free for them, or a stream brings another number of extents than it declares. Otherwise
it gets a table in which everything stands in a fixed order. In particular stream number `i` is bound to free register
number `i`, and its sizes to its own extents. What a register is bound to and which keys there are does not depend on the
worker. -/

namespace BenchKernel

open Text

/-! ### Checks in a row -/

section
variable {α ε : Type} {f : α → Except ε Unit} {l : List α} {e : ε}

theorem forM_cons_eq (a : α) (l : List α) : (a :: l).forM f = f a >>= fun _ => l.forM f := rfl

theorem forM_eq_ok_iff : l.forM f = .ok () ↔ ∀ a ∈ l, f a = .ok () := by
  induction l with
  | nil => exact ⟨fun _ => nofun, fun _ => rfl⟩
  | cons a l ih =>
    rw [forM_cons_eq, bind_eq_ok, List.forall_mem_cons, ← ih]
    exact ⟨fun ⟨_, ha, hl⟩ => ⟨ha, hl⟩, fun ⟨ha, hl⟩ => ⟨(), ha, hl⟩⟩

theorem forM_eq_error_iff : l.forM f = .error e ↔
    ∃ (i : Nat) (a : α), l[i]? = some a ∧ f a = .error e ∧ ∀ j < i, ∀ b, l[j]? = some b → f b = .ok () := by
  induction l with
  | nil => exact ⟨fun h => (by cases h), fun ⟨i, a, ha, _⟩ => (by simp at ha)⟩
  | cons a l ih =>
    rw [forM_cons_eq, bind_eq_error, ih]
    constructor
    · rintro (ha | ⟨_, ha, i, b, hb, herror, hbefore⟩)
      · exact ⟨0, a, rfl, ha, fun j hj => absurd hj (Nat.not_lt_zero j)⟩
      · refine ⟨i + 1, b, hb, herror, fun j hj c hc => ?_⟩
        cases j with
        | zero => exact Option.some.inj hc ▸ ha
        | succ j => exact hbefore j (Nat.lt_of_succ_lt_succ hj) c hc
    · rintro ⟨i, b, hb, herror, hbefore⟩
      cases i with
      | zero => exact Or.inl (Option.some.inj hb ▸ herror)
      | succ i =>
        exact Or.inr ⟨(), hbefore 0 (Nat.succ_pos i) a rfl, i, b, hb, herror, fun j hj => hbefore (j + 1) (by omega)⟩

end

/-! ### Free registers -/

instance (line word : String) : Decidable (Names line word) := decidable_of_iff _ names_iff.symm

/-- The registers of a target that no line has as an identifier, in the order of the target's table. -/
def Arch.unnamed (arch : Arch) (lines : List String) : List String :=
  arch.registers.filter fun r => ∀ line ∈ lines, ¬Names line r

theorem Arch.freeRegisters_usedWords (arch : Arch) (lines : List String) :
    arch.freeRegisters (usedWords lines) = arch.unnamed lines := by
  refine List.filter_congr fun r hr => ?_
  have hmem : r ∈ usedWords lines ↔ ∃ line ∈ lines, Names line r := by
    simp only [usedWords, List.mem_flatMap, names_iff, (register_spec hr).1]
  rw [Bool.eq_iff_iff, Bool.not_eq_true', List.contains_eq_mem, decide_eq_false_iff_not, decide_eq_true_eq, hmem]
  push Not
  rfl

/-! ### Streams by number -/

section
variable {t : Template} {arch : Arch} {lines : List String} {worker : Worker} {bound : List BoundStream} {e : SetupError}

/-- A bound stream is number `i` of the declared streams, with the placement and the register of the same number. -/
structure BoundAt (t : Template) (worker : Worker) (free : List String) (i : Nat) (b : BoundStream) : Prop where
  stream : t.streams[i]? = some b.stream
  placement : worker.streams[i]? = some b.placement
  register : free[i]? = some b.register

/-- Stream number `i` has an extent for each of its dimensions. -/
def ExtentsMatch (t : Template) (worker : Worker) (i : Nat) : Prop :=
  ∀ s p, t.streams[i]? = some s → worker.streams[i]? = some p → s.dims.length = p.extents.length

/-- The streams with their placements and registers, by position. -/
def boundStreams (t : Template) (worker : Worker) (free : List String) : List BoundStream :=
  ((t.streams.zip worker.streams).zip (free.take t.streams.length)).map fun ((s, p), r) => ⟨s, p, r⟩

theorem getElem?_boundStreams {free : List String} {i : Nat} {b : BoundStream} :
    (boundStreams t worker free)[i]? = some b ↔ BoundAt t worker free i b := by
  obtain ⟨s, p, r⟩ := b
  simp only [boundStreams, List.getElem?_map, Option.map_eq_some_iff, List.getElem?_zip_eq_some, Prod.exists,
    BoundStream.mk.injEq]
  constructor
  · rintro ⟨s', p', r', ⟨⟨hs, hp⟩, hr⟩, rfl, rfl, rfl⟩
    exact ⟨hs, hp, by rwa [List.getElem?_take_of_lt (List.getElem?_eq_some_iff.mp hs).1] at hr⟩
  · rintro ⟨hs, hp, hr⟩
    have hlt := (List.getElem?_eq_some_iff.mp hs).1
    exact ⟨s, p, r, ⟨⟨hs, hp⟩, by rw [List.getElem?_take_of_lt hlt]; exact hr⟩, rfl, rfl, rfl⟩

theorem length_boundStreams {free : List String} (hcount : t.streams.length = worker.streams.length)
    (hfree : t.streams.length ≤ free.length) : (boundStreams t worker free).length = t.streams.length := by
  simp only [boundStreams, List.length_map, List.length_zip, List.length_take]
  omega

theorem placeStreams_eq (t : Template) (arch : Arch) (lines : List String) (worker : Worker) :
    placeStreams t arch lines worker =
      if t.streams.length = worker.streams.length then
        if (arch.unnamed lines).length < t.streams.length then
          .error (.registersExhausted arch t.streams.length (arch.unnamed lines).length)
        else do
          (boundStreams t worker (arch.unnamed lines)).forM BoundStream.check
          return boundStreams t worker (arch.unnamed lines)
      else .error (.streamCount t.streams.length worker.streams.length) := by
  simp only [placeStreams, throw_bind, takeRegisters, Arch.freeRegisters_usedWords]
  split
  · split <;> rfl
  · rfl

theorem check_eq_ok_iff {b : BoundStream} : b.check = .ok () ↔ b.stream.dims.length = b.placement.extents.length := by
  unfold BoundStream.check
  split <;> simp [*]

theorem check_eq_error_iff {b : BoundStream} : b.check = .error e ↔
    b.stream.dims.length ≠ b.placement.extents.length ∧
      e = .extentMismatch b.stream.name b.stream.dims.length b.placement.extents.length := by
  unfold BoundStream.check
  split
  case isTrue h => exact ⟨fun hok => (by cases hok), fun hnot => absurd h hnot.1⟩
  case isFalse h => exact ⟨fun herror => ⟨h, (Except.error.inj herror).symm⟩, fun hnot => hnot.2 ▸ rfl⟩

/-! ### The outcome -/

/-- The number of streams is right and there is a register for each of them. -/
structure Provided (t : Template) (worker : Worker) (free : List String) : Prop where
  count : t.streams.length = worker.streams.length
  enough : t.streams.length ≤ free.length

theorem Provided.exists_boundAt {free : List String} (h : Provided t worker free) {i : Nat} {s : Stream}
    (hs : t.streams[i]? = some s) : ∃ b, BoundAt t worker free i b ∧ b.stream = s := by
  have hlt := (List.getElem?_eq_some_iff.mp hs).1
  have hcount := h.count
  have henough := h.enough
  exact ⟨⟨s, worker.streams[i], free[i]⟩, ⟨hs, by simp, by simp⟩, rfl⟩

theorem placeStreams_eq_ok_iff : placeStreams t arch lines worker = .ok bound ↔
    Provided t worker (arch.unnamed lines) ∧ (∀ i, ExtentsMatch t worker i) ∧
      bound = boundStreams t worker (arch.unnamed lines) := by
  rw [placeStreams_eq, check_eq_ok]
  constructor
  · rintro ⟨hcount, h⟩
    split at h
    · cases h
    · rename_i henough
      obtain ⟨_, hchecks, h⟩ := bind_eq_ok.mp h
      cases h
      refine ⟨⟨hcount, by omega⟩, fun i s p hs hp => ?_, rfl⟩
      have hprovided : Provided t worker (arch.unnamed lines) := ⟨hcount, by omega⟩
      obtain ⟨b, hb, rfl⟩ := hprovided.exists_boundAt hs
      rw [hb.placement] at hp
      cases hp
      exact check_eq_ok_iff.mp (forM_eq_ok_iff.mp hchecks b (List.mem_of_getElem? (getElem?_boundStreams.mpr hb)))
  · rintro ⟨⟨hcount, henough⟩, hmatch, rfl⟩
    refine ⟨hcount, ?_⟩
    rw [if_neg (by omega)]
    refine bind_eq_ok.mpr ⟨(), forM_eq_ok_iff.mpr fun b hb => check_eq_ok_iff.mpr ?_, rfl⟩
    obtain ⟨i, hi⟩ := List.getElem?_of_mem hb
    have hat := getElem?_boundStreams.mp hi
    exact hmatch i _ _ hat.stream hat.placement

/-- Stream number `i` is the first that has not an extent for each of its dimensions. -/
structure FirstMismatch (t : Template) (worker : Worker) (i : Nat) (s : Stream) (p : Placement) : Prop where
  stream : t.streams[i]? = some s
  placement : worker.streams[i]? = some p
  differ : s.dims.length ≠ p.extents.length
  before : ∀ j < i, ExtentsMatch t worker j

theorem placeStreams_eq_error_iff : placeStreams t arch lines worker = .error e ↔
    (t.streams.length ≠ worker.streams.length ∧ e = .streamCount t.streams.length worker.streams.length) ∨
    (t.streams.length = worker.streams.length ∧ (arch.unnamed lines).length < t.streams.length ∧
      e = .registersExhausted arch t.streams.length (arch.unnamed lines).length) ∨
    (Provided t worker (arch.unnamed lines) ∧ ∃ i s p, FirstMismatch t worker i s p ∧
      e = .extentMismatch s.name s.dims.length p.extents.length) := by
  rw [placeStreams_eq]
  by_cases hcount : t.streams.length = worker.streams.length
  swap
  · have hnot : ¬Provided t worker (arch.unnamed lines) := fun h => hcount h.count
    simp [hcount, hnot, eq_comm]
  by_cases hfew : (arch.unnamed lines).length < t.streams.length
  · have hnot : ¬Provided t worker (arch.unnamed lines) := fun h => absurd h.enough (by omega)
    simp [hcount, hcount ▸ hfew, hnot, eq_comm]
  have hprovided : Provided t worker (arch.unnamed lines) := ⟨hcount, by omega⟩
  rw [if_pos hcount, if_neg hfew, bind_eq_error, forM_eq_error_iff]
  have hrows : (∃ (i : Nat) (b : BoundStream), (boundStreams t worker (arch.unnamed lines))[i]? = some b ∧
      b.check = .error e ∧ ∀ j < i, ∀ c, (boundStreams t worker (arch.unnamed lines))[j]? = some c → c.check = .ok ()) ↔
      ∃ i s p, FirstMismatch t worker i s p ∧ e = .extentMismatch s.name s.dims.length p.extents.length := by
    simp only [getElem?_boundStreams, check_eq_ok_iff, check_eq_error_iff]
    constructor
    · rintro ⟨i, b, hb, ⟨hdiffer, he⟩, hbefore⟩
      refine ⟨i, b.stream, b.placement, ⟨hb.stream, hb.placement, hdiffer, fun j hj s p hs hp => ?_⟩, he⟩
      obtain ⟨c, hc, rfl⟩ := hprovided.exists_boundAt hs
      rw [hc.placement] at hp
      cases hp
      exact hbefore j hj c hc
    · rintro ⟨i, s, p, hfirst, he⟩
      obtain ⟨b, hb, rfl⟩ := hprovided.exists_boundAt hfirst.stream
      have hp := hfirst.placement
      rw [hb.placement] at hp
      cases hp
      exact ⟨i, b, hb, ⟨hfirst.differ, he⟩, fun j hj c hc => hfirst.before j hj _ _ hc.stream hc.placement⟩
  rw [hrows]
  constructor
  · rintro (hfirst | ⟨_, -, hnone⟩)
    · exact Or.inr (Or.inr ⟨hprovided, hfirst⟩)
    · cases hnone
  · rintro (⟨hne, -⟩ | ⟨-, hlt, -⟩ | ⟨-, hfirst⟩)
    · exact absurd hcount hne
    · exact absurd hlt hfew
    · exact Or.inl hfirst

/-- The entries that the sizes of a stream give: each token with the decimal text of its extent. -/
def sizeEntries (dims : List String) (extents : List Nat) : List (String × String) :=
  List.zipWith (fun token n => (token, toString n)) dims extents

/-- The entries of a table for some bound streams, in their order. -/
def tableEntries (t : Template) (arch : Arch) (worker : Worker) (bound : List BoundStream) : List (String × String) :=
  [("NAME", t.name)] ++
    bound.flatMap (fun b => (b.stream.name, b.register) :: sizeEntries b.stream.dims b.placement.extents) ++
    (if t.streams = [] then []
      else [("#STREAM_POINTERS#",
        "\n".intercalate (bound.flatMap fun b => arch.streamLoads b.register b.placement.address))]) ++
    [("NUM_THREADS", toString worker.threads), ("THREAD_ID", toString worker.thread),
      ("GROUP_ID", toString worker.group), ("ITERATIONS", toString worker.iterations),
      ("BYTES_PER_ITERATION", toString worker.bytesPerIteration)] ++
    t.constants ++ t.vars

/-- The streams of a template in their order, each with the placement and the free register of its number. -/
structure BoundInOrder (t : Template) (worker : Worker) (free : List String) (bound : List BoundStream) : Prop where
  length : bound.length = t.streams.length
  row : ∀ i b, bound[i]? = some b → BoundAt t worker free i b

theorem boundInOrder_boundStreams {free : List String} (h : Provided t worker free) :
    BoundInOrder t worker free (boundStreams t worker free) :=
  ⟨length_boundStreams h.count h.enough, fun _ _ => getElem?_boundStreams.mp⟩

theorem BoundInOrder.eq_boundStreams {free : List String} (hprovided : Provided t worker free)
    (h : BoundInOrder t worker free bound) : bound = boundStreams t worker free := by
  have hlength := h.length.trans (boundInOrder_boundStreams hprovided).length.symm
  refine List.ext_getElem? fun i => ?_
  cases hi : bound[i]? with
  | some b => exact (getElem?_boundStreams.mpr (h.row i b hi)).symm
  | none =>
    rw [List.getElem?_eq_none_iff] at hi
    exact (List.getElem?_eq_none_iff.mpr (by omega)).symm

/-- A declared stream is bound by its name to the free register of its number. -/
theorem BoundInOrder.exists_entry {free : List String} (arch : Arch) (h : BoundInOrder t worker free bound) {i : Nat}
    {s : Stream} (hs : t.streams[i]? = some s) :
    ∃ r, free[i]? = some r ∧ (s.name, r) ∈ tableEntries t arch worker bound := by
  have hlt : i < bound.length := h.length ▸ (List.getElem?_eq_some_iff.mp hs).1
  have hat := h.row i _ (List.getElem?_eq_getElem hlt)
  cases hs.symm.trans hat.stream
  refine ⟨bound[i].register, hat.register, ?_⟩
  have hmem : (bound[i].stream.name, bound[i].register) ∈ bound.flatMap fun b =>
      (b.stream.name, b.register) :: sizeEntries b.stream.dims b.placement.extents :=
    List.mem_flatMap.mpr ⟨bound[i], List.getElem_mem hlt, List.mem_cons_self⟩
  simp [tableEntries, hmem]

theorem ofWorker_eq_error_iff : Table.ofWorker t arch lines worker = .error e ↔
    placeStreams t arch lines worker = .error e := by
  unfold Table.ofWorker
  rw [bind_eq_error]
  exact ⟨fun h => h.resolve_right fun ⟨_, _, h⟩ => (by cases h), Or.inl⟩

theorem ofWorker_eq_ok_iff {table : Table} : Table.ofWorker t arch lines worker = .ok table ↔
    Provided t worker (arch.unnamed lines) ∧ (∀ i, ExtentsMatch t worker i) ∧
      ∃ bound, BoundInOrder t worker (arch.unnamed lines) bound ∧ table.entries = tableEntries t arch worker bound := by
  have hentries : ∀ {bound : List BoundStream}, BoundInOrder t worker (arch.unnamed lines) bound →
      ("NAME", t.name) :: bound.flatMap BoundStream.entries ++ loadEntry arch bound ++ threadEntries worker ++
        t.constants ++ t.vars = tableEntries t arch worker bound := by
    intro bound hbound
    have hempty : bound.isEmpty = true ↔ t.streams = [] := by
      rw [List.isEmpty_iff, ← List.length_eq_zero_iff, hbound.length, List.length_eq_zero_iff]
    have hsizes : BoundStream.entries =
        fun b => (b.stream.name, b.register) :: sizeEntries b.stream.dims b.placement.extents := by
      funext b
      rw [BoundStream.entries, List.map_zip_eq_zipWith]
      rfl
    simp only [loadEntry, hempty, hsizes]
    rfl
  unfold Table.ofWorker
  rw [bind_eq_ok]
  constructor
  · rintro ⟨bound, hbound, h⟩
    obtain ⟨hprovided, hmatch, rfl⟩ := placeStreams_eq_ok_iff.mp hbound
    cases h
    exact ⟨hprovided, hmatch, _, boundInOrder_boundStreams hprovided, hentries (boundInOrder_boundStreams hprovided)⟩
  · rintro ⟨hprovided, hmatch, bound, hbound, htable⟩
    refine ⟨bound, placeStreams_eq_ok_iff.mpr ⟨hprovided, hmatch, hbound.eq_boundStreams hprovided⟩, ?_⟩
    rw [hentries hbound, ← htable]
    rfl

/-! ### Two workers -/

/-- Two entries have the same key, and the same value unless the key is one for which each worker has a value of its
    own: a size, the stream mark or a number of the thread. -/
def Rebound (t : Template) (e e' : String × String) : Prop :=
  e.1 = e'.1 ∧ (e.2 = e'.2 ∨ e.1 ∈ t.streams.flatMap Stream.dims ∨
    e.1 ∈ ["#STREAM_POINTERS#", "NUM_THREADS", "THREAD_ID", "GROUP_ID", "ITERATIONS", "BYTES_PER_ITERATION"])

theorem rebound_same (t : Template) (l : List (String × String)) : List.Forall₂ (Rebound t) l l :=
  List.forall₂_same.mpr fun _ _ => ⟨rfl, Or.inl rfl⟩

theorem rebound_sizes {s : Stream} {extents extents' : List Nat} (hs : s ∈ t.streams)
    (h : s.dims.length = extents.length) (h' : s.dims.length = extents'.length) :
    List.Forall₂ (Rebound t) (sizeEntries s.dims extents) (sizeEntries s.dims extents') := by
  refine List.forall₂_iff_get.mpr ⟨by simp [sizeEntries, ← h, ← h'], fun i hi hi' => ?_⟩
  have hlt : i < s.dims.length := by
    simp only [sizeEntries, List.length_zipWith] at hi
    omega
  refine ⟨by simp [sizeEntries], Or.inr (Or.inl (List.mem_flatMap.mpr ⟨s, hs, ?_⟩))⟩
  simp [sizeEntries]

/-- Two workers that a template accepts get tables with the same keys in the same order. -/
theorem rebound_tableEntries {free : List String} {worker' : Worker} {bound' : List BoundStream}
    (hmatch : ∀ i, ExtentsMatch t worker i) (hmatch' : ∀ i, ExtentsMatch t worker' i)
    (h : BoundInOrder t worker free bound) (h' : BoundInOrder t worker' free bound') :
    List.Forall₂ (Rebound t) (tableEntries t arch worker bound) (tableEntries t arch worker' bound') := by
  have hrows : List.Forall₂ (fun b b' => List.Forall₂ (Rebound t)
      ((b.stream.name, b.register) :: sizeEntries b.stream.dims b.placement.extents)
      ((b'.stream.name, b'.register) :: sizeEntries b'.stream.dims b'.placement.extents)) bound bound' := by
    refine List.forall₂_iff_get.mpr ⟨h.length.trans h'.length.symm, fun i hi hi' => ?_⟩
    have hat := h.row i _ (List.getElem?_eq_getElem hi)
    have hat' := h'.row i _ (List.getElem?_eq_getElem hi')
    have hstream := Option.some.inj (hat.stream.symm.trans hat'.stream)
    have hregister := Option.some.inj (hat.register.symm.trans hat'.register)
    have hsizes := hmatch i _ _ hat.stream hat.placement
    have hsizes' := hmatch' i _ _ hat'.stream hat'.placement
    simp only [List.get_eq_getElem]
    rw [← hstream] at hsizes' ⊢
    rw [← hregister]
    exact .cons ⟨rfl, Or.inl rfl⟩ (rebound_sizes (List.mem_of_getElem? hat.stream) hsizes hsizes')
  have hmark : ∀ text text', List.Forall₂ (Rebound t)
      (if t.streams = [] then [] else [("#STREAM_POINTERS#", text)])
      (if t.streams = [] then [] else [("#STREAM_POINTERS#", text')]) := by
    intro text text'
    split
    · exact .nil
    · exact .cons ⟨rfl, Or.inr (Or.inr (by simp))⟩ .nil
  unfold tableEntries
  refine List.rel_append (List.rel_append (List.rel_append (List.rel_append
    (List.rel_append (rebound_same t _) (List.rel_flatMap hrows fun _ _ hrow => hrow)) (hmark _ _)) ?_)
    (rebound_same t _)) (rebound_same t _)
  -- The numbers of the threads are all that is left, and each is bound to its own.
  simp [Rebound]

end

/-- The table that a worker gets, in full. It is refused for a wrong number of streams, then for a lack of free
    registers, then for the first stream with a wrong number of extents, and each refusal reports what was counted. In
    every other case there is a table, and its entries are known in their order. Two workers of one template share the
    keys, their order and the registers of the streams: only sizes, the stream mark and the numbers of the thread are
    bound to values of their own. -/
theorem Table.ofWorker_outcome (t : Template) (arch : Arch) (lines : List String) (worker : Worker) :
    (∀ e, Table.ofWorker t arch lines worker = .error e ↔
      (t.streams.length ≠ worker.streams.length ∧ e = .streamCount t.streams.length worker.streams.length) ∨
      (t.streams.length = worker.streams.length ∧ (arch.unnamed lines).length < t.streams.length ∧
        e = .registersExhausted arch t.streams.length (arch.unnamed lines).length) ∨
      (Provided t worker (arch.unnamed lines) ∧ ∃ i s p, FirstMismatch t worker i s p ∧
        e = .extentMismatch s.name s.dims.length p.extents.length)) ∧
    (∀ table, Table.ofWorker t arch lines worker = .ok table ↔
      Provided t worker (arch.unnamed lines) ∧ (∀ i, ExtentsMatch t worker i) ∧ ∃ bound,
        BoundInOrder t worker (arch.unnamed lines) bound ∧ table.entries = tableEntries t arch worker bound) ∧
    (∀ worker' table table', Table.ofWorker t arch lines worker = .ok table →
      Table.ofWorker t arch lines worker' = .ok table' →
      List.Forall₂ (Rebound t) table.entries table'.entries ∧
        ∀ (i : Nat) (s : Stream), t.streams[i]? = some s → ∃ r, (arch.unnamed lines)[i]? = some r ∧
          (s.name, r) ∈ table.entries ∧ (s.name, r) ∈ table'.entries) := by
  refine ⟨fun e => ofWorker_eq_error_iff.trans placeStreams_eq_error_iff, fun table => ofWorker_eq_ok_iff,
    fun worker' table table' h h' => ?_⟩
  obtain ⟨-, hmatch, bound, hbound, hentries⟩ := ofWorker_eq_ok_iff.mp h
  obtain ⟨-, hmatch', bound', hbound', hentries'⟩ := ofWorker_eq_ok_iff.mp h'
  rw [hentries, hentries']
  refine ⟨rebound_tableEntries hmatch hmatch' hbound hbound', fun i s hs => ?_⟩
  obtain ⟨r, hr, hmem⟩ := hbound.exists_entry arch hs
  obtain ⟨r', hr', hmem'⟩ := hbound'.exists_entry arch hs
  cases hr.symm.trans hr'
  exact ⟨r, hr, hmem, hmem'⟩

/-- A second worker of the copying loop, with longer streams elsewhere. -/
def nextWorker : Worker where
  thread := 1
  streams := [⟨0x30000, [1024]⟩, ⟨0x40000, [1024]⟩]

/-- Two workers of the copying loop have their streams in the same registers. A worker with an extent too many for its
    second stream is refused for that stream. -/
theorem copyTemplate_tables :
    (∃ table table', Table.ofWorker copyTemplate .x8664 (copyNest.render .x8664) copyWorker = .ok table ∧
      Table.ofWorker copyTemplate .x8664 (copyNest.render .x8664) nextWorker = .ok table' ∧
      List.Forall₂ (Rebound copyTemplate) table.entries table'.entries ∧
      ("STR1", "rdx") ∈ table.entries ∧ ("STR1", "rdx") ∈ table'.entries) ∧
    Table.ofWorker copyTemplate .x8664 (copyNest.render .x8664)
      { nextWorker with streams := [⟨0x30000, [1024]⟩, ⟨0x40000, [1024, 2]⟩] } =
        .error (.extentMismatch "STR1" 1 2) := by
  obtain ⟨table, h⟩ : ∃ table, Table.ofWorker copyTemplate .x8664 (copyNest.render .x8664) copyWorker = .ok table :=
    ⟨_, rfl⟩
  obtain ⟨table', h'⟩ : ∃ table, Table.ofWorker copyTemplate .x8664 (copyNest.render .x8664) nextWorker = .ok table :=
    ⟨_, rfl⟩
  obtain ⟨-, -, hshared⟩ := Table.ofWorker_outcome copyTemplate .x8664 (copyNest.render .x8664) copyWorker
  obtain ⟨hrebound, hregisters⟩ := hshared nextWorker table table' h h'
  obtain ⟨r, hr, hmem, hmem'⟩ := hregisters 1 ⟨"STR1", .double, ["N"]⟩ rfl
  have hrdx : (Arch.x8664.unnamed (copyNest.render .x8664))[1]? = some "rdx" := by
    rw [← Arch.freeRegisters_usedWords]
    decide
  cases hr.symm.trans hrdx
  exact ⟨⟨table, table', h, h', hrebound, hmem, hmem'⟩, rfl⟩

end BenchKernel
