import BenchKernel.CommandLine.Run
import BenchKernel.Proofs.Routine.Layout
import BenchKernel.Proofs.Stream.Allocation
import BenchKernel.Proofs.Substitution.WorkerTable
import BenchKernel.Proofs.Toolchain.FailedBuilds

/-! # Routines written out

The workers of a command line have a buffer for every declared stream, with an extent for every size token. So all that
can keep a thread from its routine is that the body leaves too few registers free. This is the same for all threads:
either every thread has a routine, and then all of them are written out in order, or none has, and nothing is. -/

namespace BenchKernel

/-! ### Steps in a row -/

section
variable {α β γ ε : Type} {f : α → Except ε β} {l : List α} {bs : List β} {e : ε}

theorem mapM_eq_ok_iff : l.mapM f = .ok bs ↔ List.Forall₂ (fun a b => f a = .ok b) l bs := by
  induction l generalizing bs with
  | nil => cases bs <;> simp [pure, Except.pure]
  | cons a l ih =>
    simp only [List.mapM_cons, bind_eq_ok, List.forall₂_cons_left_iff, ih]
    constructor
    · rintro ⟨b, hb, rest, hrest, h⟩
      cases h
      exact ⟨b, rest, hb, hrest, rfl⟩
    · rintro ⟨b, rest, hb, hrest, rfl⟩
      exact ⟨b, hb, rest, hrest, rfl⟩

theorem exists_error_of_mapM (h : l.mapM f = .error e) : ∃ a ∈ l, f a = .error e := by
  induction l with
  | nil => cases h
  | cons a l ih =>
    simp only [List.mapM_cons, bind_eq_error] at h
    rcases h with ha | ⟨b, -, hrest | ⟨rest, -, hpure⟩⟩
    · exact ⟨a, List.mem_cons_self, ha⟩
    · obtain ⟨a', ha', herror⟩ := ih hrest
      exact ⟨a', List.mem_cons_of_mem _ ha', herror⟩
    · cases hpure

theorem forall₂_map_zipWith (g : α → β → γ) (h : List.Forall₂ (fun a b => f a = .ok b) l bs) :
    List.Forall₂ (fun a c => (f a).map (g a) = .ok c) l (List.zipWith g l bs) := by
  induction h with
  | nil => exact .nil
  | cons hb _ ih => exact .cons (by rw [hb]; rfl) ih

end

/-! ### Workers that bring what a template declares -/

/-- A worker has a placement for each stream of a template, with an extent for each of its dimensions. -/
def Suits (streams : List Stream) (worker : Worker) : Prop :=
  List.Forall₂ (fun s p => s.dims.length = p.extents.length) streams worker.streams

/-- Too few registers are free for the streams. -/
def Arch.exhausted (arch : Arch) (streams : List Stream) (lines : List String) : SetupError :=
  .registersExhausted arch streams.length (arch.unnamed lines).length

theorem ofWorker_eq_error_of_suits {t : Template} {arch : Arch} {lines : List String} {worker : Worker} {e : SetupError}
    (h : Suits t.streams worker) : Table.ofWorker t arch lines worker = .error e ↔
      (arch.unnamed lines).length < t.streams.length ∧ e = arch.exhausted t.streams lines := by
  have hcount : t.streams.length = worker.streams.length := h.length_eq
  rw [ofWorker_eq_error_iff, placeStreams_eq_error_iff]
  constructor
  · rintro (⟨hne, -⟩ | ⟨-, hfew, rfl⟩ | ⟨-, i, s, p, hfirst, -⟩)
    · exact absurd hcount hne
    · exact ⟨hfew, rfl⟩
    · obtain ⟨hs, rfl⟩ := List.getElem?_eq_some_iff.mp hfirst.stream
      obtain ⟨hp, rfl⟩ := List.getElem?_eq_some_iff.mp hfirst.placement
      exact absurd (h.get hs hp) hfirst.differ
  · rintro ⟨hfew, rfl⟩
    exact .inr (.inl ⟨hcount, hfew, rfl⟩)

theorem specialize_eq_error_of_suits {k : Kernel} {worker : Worker} {e : SetupError}
    (h : Suits k.template.streams worker) : k.specialize worker = .error e ↔
      (k.settings.arch.unnamed k.skeleton.body).length < k.template.streams.length ∧
        e = k.settings.arch.exhausted k.template.streams k.skeleton.body := by
  rw [← ofWorker_eq_error_of_suits h, Kernel.specialize, Skeleton.specialize, bind_eq_error]
  exact ⟨fun h => h.resolve_right fun ⟨_, _, h⟩ => (by cases h), .inl⟩

namespace CommandLine.Options
variable {o : Options}

theorem length_extents_of_buffer {address : Nat} {s : Stream} {b : Buffer} (h : o.buffer address s = .ok b) :
    s.dims.length = b.extents.length := by
  obtain ⟨extents, hextents, h⟩ := bind_eq_ok.mp h
  rw [reported_eq_ok, mapM_eq_ok_iff] at hextents
  split at h
  · rename_i allocated hallocated
    cases h
    obtain ⟨rfl, -⟩ := Buffer.allocate_eq_ok_iff.mp hallocated
    exact hextents.length_eq
  · cases h

theorem suits_workerOf {address : Nat → Nat} {buffers : List Buffer} (thread : Nat)
    (h : o.buffers address = .ok buffers) : Suits o.streams (o.workerOf thread buffers) := by
  have hrows := mapM_eq_ok_iff.mp h
  have hstreams : o.streams = o.streams.zipIdx.map Prod.fst := by simp
  rw [Suits, hstreams]
  refine List.forall₂_map_left_iff.mpr (List.forall₂_map_right_iff.mpr (hrows.imp ?_))
  rintro ⟨s, i⟩ b hb
  exact length_extents_of_buffer hb

theorem workers_eq_ok {address : Nat → Nat → Nat} {workers : List Worker} (h : o.workers address = .ok workers) :
    workers.map Worker.thread = List.range o.threads ∧ ∀ worker ∈ workers, Suits o.streams worker := by
  have hrows : List.Forall₂ (fun worker thread => Suits o.streams worker ∧ worker.thread = thread) workers
      (List.range o.threads) := by
    refine ((mapM_eq_ok_iff.mp h).imp fun thread worker hworker => ?_).flip
    obtain ⟨buffers, hbuffers, hworker⟩ := bind_eq_ok.mp hworker
    cases hworker
    exact ⟨suits_workerOf thread hbuffers, rfl⟩
  obtain ⟨hsuits, hthreads⟩ := (List.forall₂_and_left _ _).mp hrows
  rw [← List.forall₂_map_left_iff, List.forall₂_eq_eq_eq] at hthreads
  exact ⟨hthreads, hsuits⟩

theorem streams_of_kernel {env : Environment} {text : String} {k : Kernel} (h : o.kernel env text = .ok k) :
    k.template.streams = o.streams := by
  obtain ⟨name, -, h⟩ := bind_eq_ok.mp h
  cases hsettings : Settings.ofEnvironment env with
  | error e =>
    rw [hsettings] at h
    cases h
  | ok settings =>
    simp only [hsettings, ok_bind, Kernel.ofTemplate] at h
    cases hskeleton : (o.template name text).skeleton (o.settings settings).arch with
    | error stop =>
      rw [hskeleton] at h
      cases h
    | ok skeleton =>
      rw [hskeleton] at h
      cases h
      rfl

theorem prepare_eq_ok {h : Host} {env : Environment} {address : Nat → Nat → Nat} {fs : FileStore} {k : Kernel}
    {workers : List Worker} (hprepare : o.prepare h env address fs = .ok (k, workers)) :
    k.template.streams = o.streams ∧ o.workers address = .ok workers := by
  unfold prepare at hprepare
  split at hprepare
  · cases hprepare
  · obtain ⟨k', hk, hprepare⟩ := bind_eq_ok.mp hprepare
    obtain ⟨workers', hworkers, hprepare⟩ := bind_eq_ok.mp hprepare
    cases hprepare
    exact ⟨streams_of_kernel hk, hworkers⟩

/-! ### What is written out -/

/-- The lines of a routine, each ended by a newline, after a comment that names the thread if there are several. -/
def routineText (arch : Arch) (threads thread : Nat) (lines : List String) : String :=
  (if 1 < threads then arch.comment s!"thread {thread}" ++ "\n" else "") ++ String.join (lines.map (· ++ "\n"))

theorem threadListing_eq (k : Kernel) (worker : Worker) :
    o.threadListing k worker =
      (k.specialize worker).map (routineText k.settings.arch o.threads worker.thread) := by
  unfold threadListing
  cases k.specialize worker with
  | error e => rfl
  | ok lines =>
    refine congrArg Except.ok (String.toList_inj.mp ?_)
    unfold routineText
    split <;> simp [endedLines]

theorem listing_of_routines {k : Kernel} {workers : List Worker} {routines : List (List String)}
    (hthreads : workers.map Worker.thread = List.range o.threads)
    (h : List.Forall₂ (fun worker lines => k.specialize worker = .ok lines) workers routines) :
    o.listing k workers =
      .ok (String.join (List.zipWith (routineText k.settings.arch o.threads) (List.range o.threads) routines)) := by
  have htexts := forall₂_map_zipWith (fun worker => routineText k.settings.arch o.threads worker.thread) h
  simp only [← threadListing_eq] at htexts
  rw [listing, mapM_eq_ok_iff.mpr htexts, ← hthreads, List.zipWith_map_left]

theorem listing_of_error {k : Kernel} {workers : List Worker} {e : SetupError} (hne : workers ≠ [])
    (h : ∀ worker ∈ workers, k.specialize worker = .error e) : o.listing k workers = .error (.routine (.setup e)) := by
  obtain ⟨worker, rest, rfl⟩ := List.exists_cons_of_ne_nil hne
  have hfirst : o.threadListing k worker = .error e := by
    rw [threadListing_eq, h worker List.mem_cons_self]
    rfl
  rw [listing, List.mapM_cons, hfirst]
  rfl

/-- A text is delivered: printed, or written to the output file unless the file refuses it, and then nothing is
    changed. -/
def Delivers (o : Options) (h : Host) (w : Workspace) (text : String) (result : Report × Workspace) : Prop :=
  match o.output with
  | none => result = ({ out := text }, w)
  | some path =>
    (∃ files, w.files.write h.place path text.toUTF8 = .ok files ∧ files.Received h.place path text.toUTF8 ∧
      result = ({}, { w with files })) ∨
    ∃ e, w.files.write h.place path text.toUTF8 = .error e ∧ result = (stopReport (.error (.file e)), w)

section Runs
variable {h : Host} {env : Environment} {address : Nat → Nat → Nat} {w : Workspace} {k : Kernel} {workers : List Worker}
  (hcompile : o.compile = false) (hrun : o.run = false) (hprepare : o.prepare h env address w.files = .ok (k, workers))
include hcompile hrun hprepare

theorem execute_of_listing_error {e : RunError} (hlisting : o.listing k workers = .error e) :
    o.execute h env address w = (stopReport (.error e), w) := by
  simp [execute, hprepare, hcompile, hrun, hlisting]

theorem delivers_execute {text : String} (hlisting : o.listing k workers = .ok text) :
    o.Delivers h w text (o.execute h env address w) := by
  simp only [execute, hprepare, hcompile, hrun, hlisting, Delivers, writeListing, Bool.or_self, Bool.false_eq_true,
    ↓reduceIte]
  cases o.output with
  | none => rfl
  | some path =>
    unfold Host.writeText
    cases hwrite : w.files.write h.place path text.toUTF8 with
    | ok files => exact .inl ⟨files, hwrite, FileStore.write_received hwrite, by simp only [hwrite]⟩
    | error e => exact .inr ⟨e, hwrite, by simp only [hwrite]⟩

end Runs

end CommandLine.Options

open CommandLine CommandLine.Options

/-- A run that neither compiles nor runs routines writes all of them out or nothing. Its workers, one for each thread in
    order, get their tables unless too few registers are free, and then none of them does. If every thread has a
    routine, the texts of the routines in this order are delivered; otherwise all threads stop with the same error, which
    is reported and leaves the files alone. -/
theorem listing_all_or_nothing (o : Options) (h : Host) (env : Environment) (address : Nat → Nat → Nat) (w : Workspace)
    (k : Kernel) (workers : List Worker) (hcompile : o.compile = false) (hrun : o.run = false)
    (hprepare : o.prepare h env address w.files = .ok (k, workers)) :
    workers.map Worker.thread = List.range o.threads ∧
    (∀ worker ∈ workers, ∀ e, Table.ofWorker k.template k.settings.arch k.skeleton.body worker = .error e →
      e = k.settings.arch.exhausted o.streams k.skeleton.body) ∧
    ((∃ routines, List.Forall₂ (fun worker lines => k.specialize worker = .ok lines) workers routines ∧
        o.Delivers h w
          (String.join (List.zipWith (routineText k.settings.arch o.threads) (List.range o.threads) routines))
          (o.execute h env address w)) ∨
      (workers ≠ [] ∧
        (∀ worker ∈ workers, k.specialize worker = .error (k.settings.arch.exhausted o.streams k.skeleton.body)) ∧
        o.execute h env address w =
          (stopReport (.error (.routine (.setup (k.settings.arch.exhausted o.streams k.skeleton.body)))), w))) := by
  obtain ⟨hstreams, hworkers⟩ := prepare_eq_ok hprepare
  obtain ⟨hthreads, hsuits⟩ := workers_eq_ok hworkers
  rw [← hstreams] at hsuits ⊢
  refine ⟨hthreads, fun worker hworker e he => ((ofWorker_eq_error_of_suits (hsuits worker hworker)).mp he).2, ?_⟩
  cases hroutines : workers.mapM k.specialize with
  | ok routines =>
    have hall := mapM_eq_ok_iff.mp hroutines
    exact .inl ⟨routines, hall, delivers_execute hcompile hrun hprepare (listing_of_routines hthreads hall)⟩
  | error e =>
    -- One thread without a routine shows that registers are missing, which is nothing of that thread alone.
    obtain ⟨worker, hworker, he⟩ := exists_error_of_mapM hroutines
    obtain ⟨hfew, rfl⟩ := (specialize_eq_error_of_suits (hsuits worker hworker)).mp he
    have hall : ∀ worker ∈ workers, k.specialize worker =
        .error (k.settings.arch.exhausted k.template.streams k.skeleton.body) :=
      fun worker hworker => (specialize_eq_error_of_suits (hsuits worker hworker)).mpr ⟨hfew, rfl⟩
    have hne := List.ne_nil_of_mem hworker
    exact .inr ⟨hne, hall, execute_of_listing_error hcompile hrun hprepare (listing_of_error hne hall)⟩

/-- Files with the body of a routine. -/
def bodyOnly : Workspace := { files := { nodes := [(["add.s"], .plainFile "add rdx, [S]\n".toUTF8 false)] } }

/-- Two threads with a stream of four numbers each. -/
def twoThreads : Options where
  body := "/add.s"
  arch := some .x8664
  streams := [⟨"S", .double, ["N"]⟩]
  sizes := [("N", "4")]
  threads := 2

/-- Where the streams of a thread start. -/
def pageOf (thread _ : Nat) : Nat := 0x10000 * (thread + 1)

def addKernel : Kernel where
  template := twoThreads.template "add" "add rdx, [S]\n"
  settings := { arch := .x8664 }
  skeleton := ⟨Arch.header .x8664 "add", ["add rdx, [S]"], Arch.footer .x8664 "add"⟩

def addWorker (thread : Nat) : Worker :=
  { thread, threads := 2, bytesPerIteration := 32, streams := [⟨pageOf thread 0, [4]⟩] }

theorem prepare_twoThreads :
    twoThreads.prepare writingHost [] pageOf bodyOnly.files = .ok (addKernel, [addWorker 0, addWorker 1]) := by
  have hread : bodyOnly.files.readText writingHost.place twoThreads.body = .ok "add rdx, [S]\n" := by decide +kernel
  have hname : twoThreads.routineName = .ok "add" := by decide +kernel
  have hsettings : Settings.ofEnvironment [] = .ok { arch := .x8664 } := by decide
  have htemplate : Kernel.ofTemplate (twoThreads.template "add" "add rdx, [S]\n")
      (twoThreads.settings { arch := .x8664 }) = .ok addKernel :=
    Kernel.ofTemplate_of_expanded _ (Registry.expandAt_of_plain (Nat.zero_le _) (by decide))
  have hworkers : twoThreads.workers pageOf = .ok [addWorker 0, addWorker 1] := by decide +kernel
  simp only [prepare, hread, kernel, hname, reported, hsettings, ok_bind, htemplate, hworkers]
  rfl

theorem twoThreads_listed :
    ∃ first second, addKernel.specialize (addWorker 0) = .ok first ∧ addKernel.specialize (addWorker 1) = .ok second ∧
      twoThreads.execute writingHost [] pageOf bodyOnly =
        ({ out := routineText .x8664 2 0 first ++ routineText .x8664 2 1 second }, bodyOnly) := by
  obtain ⟨-, -, ⟨routines, hroutines, hdelivers⟩ | ⟨-, hall, -⟩⟩ := listing_all_or_nothing twoThreads writingHost [] pageOf
    bodyOnly addKernel [addWorker 0, addWorker 1] rfl rfl prepare_twoThreads
  · obtain ⟨first, rest, hfirst, hrest, rfl⟩ := List.forall₂_cons_left_iff.mp hroutines
    obtain ⟨second, rest, hsecond, hnil, rfl⟩ := List.forall₂_cons_left_iff.mp hrest
    obtain rfl := List.forall₂_nil_left_iff.mp hnil
    refine ⟨first, second, hfirst, hsecond, ?_⟩
    rw [← String.append_empty (s := routineText .x8664 2 1 second), ← String.join_nil, ← String.join_cons,
      ← String.join_cons]
    exact hdelivers
  · exact absurd (hall (addWorker 0) (by simp)) (by decide)

end BenchKernel
