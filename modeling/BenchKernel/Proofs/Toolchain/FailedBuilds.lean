import BenchKernel.Proofs.Toolchain.PrivateFiles

/-! # What a failed build has done

A build settles the routine and the compiler, writes the routine and then runs the compiler and loads what it made. The
kind of an error tells how far it came. An error of the settings or of the search for a compiler has touched nothing. One
of a directory or a file has started no program, and has made directories at most. Every other error comes after the
whole text of the routine was written, on which the compiler has then been started once. -/

namespace BenchKernel

/-! ### What a write leaves -/

namespace FileStore
variable {fs fs' : FileStore} {cwd : Place} {path : String} {content : ByteArray}

/-- A path leads to a file with some bytes, or to a device or a pipe, which take bytes and do not keep them. -/
def Received (fs : FileStore) (cwd : Place) (path : String) (content : ByteArray) : Prop :=
  fs.read cwd path = .ok content ∨ (∃ device, fs.find cwd path = .ok (.device device)) ∨
    ∃ marks, fs.find cwd path = .ok (.fifo marks)

/-- What was written stands in the file to which the path leads, through whatever links. -/
theorem write_received (h : fs.write cwd path content = .ok fs') : fs'.Received cwd path content := by
  obtain ⟨place, -, hpath, -⟩ := write_found h
  rcases write_leaves h with hholds | ⟨place, hplace, htakes⟩
  · exact .inl (hholds.read hpath)
  · rw [Received, find, hplace, ok_bind, nodeAt]
    rcases htakes with ⟨device, hnode⟩ | ⟨marks, hnode⟩
    · exact .inr (.inl ⟨device, by simp [hnode, hpath]⟩)
    · exact .inr (.inr ⟨marks, by simp [hnode, hpath]⟩)

end FileStore

/-! ### One build -/

/-- An error that a build can only report after it has asked for the compiler to be run. -/
def ToolchainError.isLate : ToolchainError → Bool
  | compilerNotFound .. | unwritable .. => false
  | spawn .. | compilerFailed .. | load .. | symbol .. => true

namespace Host
variable {h : Host} {w w' : Workspace} {e : ToolchainError}

/-- The host is asked to run a program, whatever becomes of it. -/
def afterRunning (h : Host) (i : Invocation) (w : Workspace) : Workspace :=
  ⟨(h.launch i w.files).2, w.launched ++ [i]⟩

theorem compile_eq {compiler : String} {flags : List String} {assembly object : String} {r : Except ToolchainError Unit}
    (hcompile : h.compile compiler flags assembly object w = (r, w')) :
    w' = h.afterRunning (compileInvocation compiler flags assembly object) w ∧ ∀ e, r = .error e → e.isLate = true := by
  unfold compile run at hcompile
  dsimp only at hcompile
  cases hlaunch : (h.launch (compileInvocation compiler flags assembly object) w.files).1 with
  | error cause =>
    rw [hlaunch] at hcompile
    cases hcompile
    refine ⟨rfl, fun e he => ?_⟩
    cases he
    rfl
  | ok result =>
    rw [hlaunch] at hcompile
    cases hcompile
    refine ⟨rfl, fun e he => ?_⟩
    split at he
    · cases he
    · cases he
      rfl

theorem isLate_of_loadObject {path symbol : String} {fs : FileStore} (hload : h.loadObject path symbol fs = .error e) :
    e.isLate = true := by
  unfold loadObject at hload
  split at hload
  · cases hload
    rfl
  · split at hload
    · cases hload
    · cases hload
      rfl

/-- Assembling fails at its write, without effects, or after it, with the compiler as the only program that was run. -/
theorem assemble_error_cases {compiler name dir : String} {arch : Arch} {lines : List String} {thread : Nat}
    (hassemble : h.assemble compiler arch lines name thread dir w = (.error e, w')) :
    (∃ path cause, e = .unwritable path cause) ∧ w' = w ∨
      e.isLate = true ∧ ∃ written, h.writeText (assemblyPath dir name thread) (assemblyText lines) w = (.ok (), written) ∧
        w' = h.afterRunning (compileInvocation compiler arch.objectFlags (assemblyPath dir name thread)
          (objectPath dir name thread)) written := by
  unfold assemble writeRoutine at hassemble
  dsimp only at hassemble
  cases hwrite : w.files.write h.place (assemblyPath dir name thread) (assemblyText lines).toUTF8 with
  | error cause =>
    simp only [writeText, hwrite] at hassemble
    cases hassemble
    exact .inl ⟨⟨_, _, rfl⟩, rfl⟩
  | ok files =>
    simp only [writeText, hwrite] at hassemble ⊢
    rcases hcompile : h.compile compiler arch.objectFlags (assemblyPath dir name thread) (objectPath dir name thread)
      { w with files } with ⟨cause | _, w''⟩
    all_goals
      obtain ⟨rfl, hlate⟩ := compile_eq hcompile
      rw [hcompile] at hassemble
      dsimp only at hassemble
    · cases hassemble
      exact .inr ⟨hlate _ rfl, _, rfl, rfl⟩
    · split at hassemble
      case h_1 cause hload =>
        cases hassemble
        exact .inr ⟨isLate_of_loadObject hload, _, rfl, rfl⟩
      case h_2 => cases hassemble

end Host

namespace Kernel
variable {k : Kernel} {h : Host} {worker : Worker} {w w' : Workspace} {e : BuildError}

/-- The whole text of a thread's routine was written, and the compiler has then been run on it, as the one program that
    the build has run. -/
def RanAfterWriting (k : Kernel) (h : Host) (worker : Worker) (w w' : Workspace) : Prop :=
  ∃ lines compiler written, k.specialize worker = .ok lines ∧
    h.writeText (assemblyPath k.settings.directory k.template.name worker.thread) (Text.joinLines lines ++ "\n")
      (h.makeDirectories k.settings.directory w).2 = (.ok (), written) ∧
    written.files.Received h.place (assemblyPath k.settings.directory k.template.name worker.thread)
      (Text.joinLines lines ++ "\n").toUTF8 ∧
    written.launched = w.launched ∧
    w' = h.afterRunning (compileInvocation compiler k.settings.arch.objectFlags
      (assemblyPath k.settings.directory k.template.name worker.thread)
      (objectPath k.settings.directory k.template.name worker.thread)) written

/-- What a build can have done to a workspace when it reports an error. That a file which cannot be written is as it was
    before rests on writes being all or nothing in a file store, as they are when a file cannot be opened; a disk that is
    full can also cut a file short. -/
def EffectsOf (k : Kernel) (h : Host) (worker : Worker) (w w' : Workspace) : BuildError → Prop
  | .setup _ | .toolchain (.compilerNotFound _) => w' = w
  | .toolchain (.unwritable ..) => w'.launched = w.launched ∧ FileStore.AddsDirectories w.files w'.files
  | .toolchain (.spawn ..) | .toolchain (.compilerFailed ..) | .toolchain (.load ..) | .toolchain (.symbol ..) =>
    k.RanAfterWriting h worker w w'

theorem effectsOf_of_isLate {cause : ToolchainError} (hlate : cause.isLate = true) (hran : k.RanAfterWriting h worker w w') :
    k.EffectsOf h worker w w' (.toolchain cause) := by
  cases cause with
  | compilerNotFound | unwritable => cases hlate
  | spawn | compilerFailed | load | symbol => exact hran

theorem effectsOf_of_unwritable {path : String} {cause : OsError} :
    k.EffectsOf h worker w (h.makeDirectories k.settings.directory w).2 (.toolchain (.unwritable path cause)) :=
  ⟨rfl, FileStore.makeDirectories_addsDirectories w.files h.place k.settings.directory⟩

theorem received_of_writeText {path text : String} {written : Workspace}
    (hwrite : h.writeText path text w = (.ok (), written)) :
    written.files.Received h.place path text.toUTF8 ∧ written.launched = w.launched := by
  unfold Host.writeText at hwrite
  split at hwrite
  case h_1 files hfiles =>
    cases hwrite
    exact ⟨FileStore.write_received hfiles, rfl⟩
  case h_2 => cases hwrite

theorem build_effectsOf (hbuild : k.build h worker w = (.error e, w')) : k.EffectsOf h worker w w' e := by
  unfold build at hbuild
  cases hlines : k.specialize worker with
  | error cause =>
    rw [hlines] at hbuild
    cases hbuild
    rfl
  | ok lines =>
    rw [hlines] at hbuild
    dsimp only at hbuild
    unfold resolveCompiler at hbuild
    cases hcompiler : (compilerNames k.settings.compilers).findSome? (h.lookup w.files k.settings.searchPath) with
    | none =>
      rw [hcompiler] at hbuild
      cases hbuild
      rfl
    | some compiler =>
      rw [hcompiler] at hbuild
      dsimp only at hbuild
      generalize hdirs : h.makeDirectories k.settings.directory w = made at hbuild
      obtain ⟨cause | _, made⟩ := made
      · cases hbuild
        have heffects := @effectsOf_of_unwritable k h worker w k.settings.directory cause
        rwa [hdirs] at heffects
      · dsimp only at hbuild
        rcases hassemble : h.assemble compiler k.settings.arch lines k.template.name worker.thread
          k.settings.directory made with ⟨cause | _, after⟩
        all_goals
          rw [hassemble] at hbuild
          cases hbuild
        rcases Host.assemble_error_cases hassemble with ⟨⟨path, cause, rfl⟩, rfl⟩ | ⟨hlate, written, hwrite, rfl⟩
        · have heffects := @effectsOf_of_unwritable k h worker w path cause
          rwa [hdirs] at heffects
        · obtain ⟨hreceived, hlaunched⟩ := received_of_writeText hwrite
          have hmade : made.launched = w.launched := by
            rw [show made = (h.makeDirectories k.settings.directory w).2 from (congrArg Prod.snd hdirs).symm]
            rfl
          refine effectsOf_of_isLate hlate ⟨lines, compiler, written, hlines, ?_, hreceived, hlaunched.trans hmade, rfl⟩
          rw [hdirs]
          exact hwrite

/-! ### All builds -/

theorem buildAll_append (k : Kernel) (h : Host) (workers others : List Worker) (w : Workspace) :
    k.buildAll h (workers ++ others) w =
      ((k.buildAll h workers w).1 ++ (k.buildAll h others (k.buildAll h workers w).2).1,
        (k.buildAll h others (k.buildAll h workers w).2).2) := by
  induction workers generalizing w with
  | nil => rfl
  | cons worker rest ih => simp only [List.cons_append, buildAll_cons, ih]

/-- Building one thread more goes on from the workspace that the threads before it left. -/
theorem buildAll_take_succ {workers : List Worker} {i : Nat} (hworker : workers[i]? = some worker) :
    (k.buildAll h (workers.take (i + 1)) w).2 = (k.build h worker (k.buildAll h (workers.take i) w).2).2 := by
  rw [List.take_add_one, hworker, Option.toList_some, buildAll_append]
  rfl

end Kernel

/-- A build that fails has done no more than its error tells, and so has each of several builds, from the workspace that
    the builds before it left. An error of the settings or of the search for a compiler leaves everything as it was; with
    an error of a directory or a file no program was run and nothing but directories is new, as a write of a file store
    that fails leaves no part of its text; and with every other error the whole text of the routine was written before
    the compiler was run on it. -/
theorem failed_builds_stop_early (k : Kernel) (h : Host) :
    (∀ worker w e w', k.build h worker w = (.error e, w') → k.EffectsOf h worker w w' e) ∧
      ∀ workers w i e, (k.buildAll h workers w).1[i]? = some (.error e) → ∃ worker, workers[i]? = some worker ∧
        k.EffectsOf h worker (k.buildAll h (workers.take i) w).2 (k.buildAll h (workers.take (i + 1)) w).2 e := by
  refine ⟨fun worker w e w' => Kernel.build_effectsOf, fun workers w i e hfailed => ?_⟩
  rw [Kernel.getElem?_buildAll, Option.map_eq_some_iff] at hfailed
  obtain ⟨worker, hworker, hfailed⟩ := hfailed
  refine ⟨worker, hworker, Kernel.build_effectsOf ?_⟩
  rw [Kernel.buildAll_take_succ hworker, ← hfailed]

/-- A stream too many for the first of two threads leaves the files alone. The second one is built from them: its lines
    are written and compiled, and what the compiler made cannot be loaded. -/
theorem idleKernel_failures :
    (idleKernel.buildAll writingHost [{ streams := [⟨0x1000, []⟩] }] compilerOnly).2 = compilerOnly ∧
      idleKernel.RanAfterWriting writingHost { thread := 7 } compilerOnly
        (idleKernel.buildAll writingHost [{ streams := [⟨0x1000, []⟩] }, { thread := 7 }] compilerOnly).2 := by
  obtain ⟨-, hall⟩ := failed_builds_stop_early idleKernel writingHost
  have hsetup : (idleKernel.buildAll writingHost [{ streams := [⟨0x1000, []⟩] }, { thread := 7 }] compilerOnly).1[0]? =
      some (.error (.setup (.streamCount 0 1))) := by decide +kernel
  have hload : (idleKernel.buildAll writingHost [{ streams := [⟨0x1000, []⟩] }, { thread := 7 }] compilerOnly).1[1]? =
      some (.error (.toolchain (.load "/w/k_7.so"))) := by decide +kernel
  obtain ⟨first, -, hfirst⟩ := hall _ _ _ _ hsetup
  obtain ⟨second, hsecond, hran⟩ := hall _ _ _ _ hload
  cases hsecond
  have hunchanged : (idleKernel.buildAll writingHost [{ streams := [⟨0x1000, []⟩] }] compilerOnly).2 = compilerOnly := hfirst
  refine ⟨hunchanged, ?_⟩
  rw [List.take_succ_cons, List.take_zero, hunchanged] at hran
  exact hran

end BenchKernel
