import BenchKernel.Kernel
import BenchKernel.Proofs.Host.FileStore
import BenchKernel.Proofs.Host.Path
import BenchKernel.Proofs.Target.Lines

/-! # Files of threads that are built together

The files of a thread have its number in their names, so no two threads have a path in common. What a build wrote is
therefore still there after all other builds, whether they succeeded or failed, if compilers change nothing but their
output and the paths of the other threads do not lead to the same file: through a link one thread can write to the file
of another. -/

namespace BenchKernel

/-! ### Names of files -/

/-- How the name of a file of a thread ends. -/
def ending (thread : Nat) (extension : String) : String := "_" ++ toString thread ++ extension

/-- The two kinds of files that a thread has. -/
def extensions : List String := [".s", ".so"]

theorem assemblyPath_eq (dir name : String) (thread : Nat) :
    assemblyPath dir name thread = Path.join dir (name ++ ending thread ".s") := by
  show Path.join dir (name ++ "_" ++ toString thread ++ ".s") = _
  simp only [ending, String.append_assoc]

theorem objectPath_eq (dir name : String) (thread : Nat) :
    objectPath dir name thread = Path.join dir (name ++ ending thread ".so") := by
  show Path.join dir (name ++ "_" ++ toString thread ++ ".so") = _
  simp only [ending, String.append_assoc]

theorem extension_eq_dot_cons {extension : String} (h : extension ∈ extensions) :
    ∃ rest, extension.toList = '.' :: rest ∧ ∀ c ∈ rest, (c != '/') = true := by
  simp only [extensions, List.mem_cons, List.not_mem_nil, or_false] at h
  rcases h with rfl | rfl
  · exact ⟨['s'], rfl, by simp⟩
  · exact ⟨['s', 'o'], rfl, by simp⟩

theorem ending_injective {t t' : Nat} {e e' : String} (he : e ∈ extensions) (he' : e' ∈ extensions)
    (h : ending t e = ending t' e') : t = t' ∧ e = e' := by
  obtain ⟨rest, hrest, -⟩ := extension_eq_dot_cons he
  obtain ⟨rest', hrest', -⟩ := extension_eq_dot_cons he'
  have hcs := congrArg String.toList h
  simp only [ending, String.toList_append, hrest, hrest', List.append_assoc] at hcs
  have hcs := List.append_cancel_left hcs
  have hdigits : ∀ (n : Nat) (cs : List Char), ((toString n).toList ++ '.' :: cs).takeWhile Char.isDigit =
      (toString n).toList := by
    intro n cs
    rw [List.takeWhile_append_of_pos fun c hc => isDigit_of_mem_toString hc]
    simp
  have hnumber : (toString t).toList = (toString t').toList := by
    rw [← hdigits t rest, hcs, hdigits]
  refine ⟨?_, String.toList_injective ?_⟩
  · rw [Nat.toString_eq_ofList_toDigits, Nat.toString_eq_ofList_toDigits, String.toList_ofList,
      String.toList_ofList] at hnumber
    have hvalue := congrArg (Nat.ofDigitChars 10 · 0) hnumber
    rwa [Nat.ofDigitChars_toDigits (by decide) (by decide), Nat.ofDigitChars_toDigits (by decide) (by decide)] at hvalue
  · rw [hnumber] at hcs
    rw [hrest, hrest']
    exact List.append_cancel_left hcs

theorem isEnding_ending (t : Nat) {e : String} (he : e ∈ extensions) : Path.IsEnding (ending t e) := by
  obtain ⟨rest, hrest, hslash⟩ := extension_eq_dot_cons he
  refine ⟨by simp [ending], ?_⟩
  simp only [ending, String.toList_append, hrest, List.forall_mem_append, List.forall_mem_cons]
  refine ⟨⟨by simp, fun c hc => ?_⟩, by decide, hslash⟩
  rw [bne_iff_ne]
  rintro rfl
  exact absurd (isDigit_of_mem_toString hc) (by decide)

theorem append_ending_ne_dots (base : String) (t : Nat) (e : String) :
    base ++ ending t e ≠ "." ∧ base ++ ending t e ≠ ".." := by
  have hscore : '_' ∈ (base ++ ending t e).toList := by simp [ending]
  constructor <;> intro h <;> rw [h] at hscore <;> exact absurd hscore (by decide)

/-- The last names of the paths of threads have the same beginning. -/
theorem exists_fileName? (dir name : String) :
    ∃ base, ∀ thread, Path.fileName? (assemblyPath dir name thread) = some (base ++ ending thread ".s") ∧
      Path.fileName? (objectPath dir name thread) = some (base ++ ending thread ".so") := by
  obtain ⟨above, base, hnames⟩ := Path.exists_names_join dir name
  refine ⟨base, fun thread => ?_⟩
  rw [assemblyPath_eq, objectPath_eq]
  have hdots := append_ending_ne_dots base thread
  exact ⟨Path.fileName?_of_names (hnames (isEnding_ending thread (by decide))) (hdots _).1 (hdots _).2,
    Path.fileName?_of_names (hnames (isEnding_ending thread (by decide))) (hdots _).1 (hdots _).2⟩

theorem not_isSame_of_fileName? {p q : String} (h : Path.fileName? p ≠ Path.fileName? q) : Path.isSame p q = false := by
  refine beq_eq_false_iff_ne.mpr fun hsame => h ?_
  rw [Path.fileName?, Path.fileName?, hsame]

/-- Whatever the directory and the name, two paths of threads are the same only if both are of the same kind and of the
    same thread. -/
theorem paths_differ (dir name : String) (t t' : Nat) :
    Path.isSame (assemblyPath dir name t) (objectPath dir name t') = false ∧
      (t ≠ t' → Path.isSame (assemblyPath dir name t) (assemblyPath dir name t') = false) := by
  obtain ⟨base, hnames⟩ := exists_fileName? dir name
  have hending : ∀ {e e' : String}, e ∈ extensions → e' ∈ extensions →
      some (base ++ ending t e) = some (base ++ ending t' e') → t = t' ∧ e = e' := fun he he' heq =>
    ending_injective he he' ((String.append_right_inj base).mp (Option.some.inj heq))
  refine ⟨not_isSame_of_fileName? ?_, fun hne => not_isSame_of_fileName? ?_⟩
  · rw [(hnames t).1, (hnames t').2]
    exact fun heq => absurd (hending (by decide) (by decide) heq).2 (by decide)
  · rw [(hnames t).1, (hnames t').1]
    exact fun heq => hne (hending (by decide) (by decide) heq).1

theorem assemblyPath_ne {dir name : String} {t t' : Nat} (h : t ≠ t') :
    assemblyPath dir name t ≠ assemblyPath dir name t' := by
  intro heq
  have hdiffer := (paths_differ dir name t t').2 h
  rw [heq, Path.isSame, beq_self_eq_true] at hdiffer
  cases hdiffer

theorem namesDirectory_assemblyPath (dir name : String) (thread : Nat) :
    FileStore.namesDirectory (assemblyPath dir name thread) = false := by
  have hending := isEnding_ending thread (show ".s" ∈ extensions by decide)
  obtain ⟨before, last, -, -, hjoin⟩ := Path.exists_join_eq dir name
  rw [FileStore.namesDirectory, assemblyPath_eq, hjoin hending, ← List.append_assoc,
    List.getLast?_append_of_ne_nil _ hending.ne_nil, beq_eq_false_iff_ne]
  intro hlast
  exact absurd (hending.noSlash _ (List.mem_of_getLast? hlast)) (by decide)

/-! ### One build -/

/-- The compilers of a host change nothing but what they are told to write. -/
def Host.HasTidyCompilers (h : Host) : Prop :=
  ∀ compiler flags assembly object fs,
    FileStore.ChangesOnly h.place object fs (h.launch (compileInvocation compiler flags assembly object) fs).2

/-- Lines can be written to a path, and it leads to a file then. -/
def Host.WritesFile (h : Host) (path : String) (lines : List String) (w : Workspace) : Prop :=
  (h.writeRoutine path lines w).1 = .ok () ∧ (h.writeRoutine path lines w).2.files.isFile h.place path = true

theorem writeRoutine_cases (h : Host) (lines : List String) (w : Workspace) (path : String) :
    (∃ files, w.files.write h.place path (assemblyText lines).toUTF8 = .ok files ∧
        h.writeRoutine path lines w = (.ok (), { w with files })) ∨
      ∃ e, h.writeRoutine path lines w = (.error e, w) := by
  unfold Host.writeRoutine Host.writeText
  cases w.files.write h.place path (assemblyText lines).toUTF8 with
  | ok files => exact .inl ⟨files, rfl, rfl⟩
  | error e => exact .inr ⟨_, rfl⟩

theorem compile_files (h : Host) (compiler : String) (flags : List String) (assembly object : String) (w : Workspace) :
    (h.compile compiler flags assembly object w).2.files =
      (h.launch (compileInvocation compiler flags assembly object) w.files).2 := by
  unfold Host.compile Host.run
  dsimp only
  cases (h.launch (compileInvocation compiler flags assembly object) w.files).1 <;> rfl

/-- Assembling writes the lines and then does no more to the files than to run the compiler. -/
theorem assemble_files (h : Host) (compiler : String) (arch : Arch) (lines : List String) (name : String) (thread : Nat)
    (dir : String) (w : Workspace) :
    (h.assemble compiler arch lines name thread dir w).2.files =
      if (h.writeRoutine (assemblyPath dir name thread) lines w).1 = .ok () then
        (h.launch (compileInvocation compiler arch.objectFlags (assemblyPath dir name thread)
          (objectPath dir name thread)) (h.writeRoutine (assemblyPath dir name thread) lines w).2.files).2
      else w.files := by
  unfold Host.assemble
  dsimp only
  rcases writeRoutine_cases h lines w (assemblyPath dir name thread) with ⟨files, -, hwrite⟩ | ⟨e, hwrite⟩
  · rw [hwrite, if_pos rfl, ← compile_files]
    dsimp only
    rcases h.compile compiler arch.objectFlags (assemblyPath dir name thread) (objectPath dir name thread)
      { w with files } with ⟨_ | _, w''⟩
    · rfl
    · dsimp only
      cases h.loadObject (objectPath dir name thread) name w''.files <;> rfl
  · rw [hwrite, if_neg nofun]

namespace Kernel
variable {k : Kernel} {h : Host} {worker : Worker} {w : Workspace} {path : String} {content : ByteArray}

/-- The path of the assembly file of a thread. -/
abbrev assembly (k : Kernel) (worker : Worker) : String :=
  assemblyPath k.settings.directory k.template.name worker.thread

/-- The path of the object file of a thread. -/
abbrev object (k : Kernel) (worker : Worker) : String :=
  objectPath k.settings.directory k.template.name worker.thread

/-- The workspace with the directory of the files, in which a routine is written. -/
abbrev prepared (k : Kernel) (h : Host) (w : Workspace) : Workspace := (h.makeDirectories k.settings.directory w).2

/-- The workspace with the lines of a routine, in which it is compiled. -/
abbrev written (k : Kernel) (h : Host) (worker : Worker) (lines : List String) (w : Workspace) : Workspace :=
  (h.writeRoutine (k.assembly worker) lines (k.prepared h w)).2

/-- In a workspace the assembly file of a thread gets written: there is a routine and a compiler, the directory can be
    made and the lines be written, and they are written to a file and not to a device or a pipe. -/
def Writes (k : Kernel) (h : Host) (worker : Worker) (w : Workspace) (lines : List String) : Prop :=
  k.specialize worker = .ok lines ∧
    (∃ compiler, resolveCompiler (h.lookup w.files k.settings.searchPath) k.settings.compilers = .ok compiler) ∧
    (h.makeDirectories k.settings.directory w).1 = .ok () ∧
    h.WritesFile (k.assembly worker) lines (k.prepared h w)

/-- The paths of a thread go past a file. Its lines are not written to where the path of the file leads, unless this is
    the file of the thread itself. And when it is compiled, the path of its object does not stand for what that path
    leads to, nor for a directory or a link. -/
def PassesBy (k : Kernel) (h : Host) (worker : Worker) (w : Workspace) (path : String) : Prop :=
  (k.assembly worker ≠ path → ∀ place ∈ ((k.prepared h w).files.locate h.place (k.assembly worker)).toOption.toList,
    (k.prepared h w).files.locate h.place path ≠ .ok place) ∧
  ∀ lines ∈ (k.specialize worker).toOption.toList,
    (k.written h worker lines w).files.IsApart h.place (k.object worker) path

instance : Decidable (k.PassesBy h worker w path) := inferInstanceAs (Decidable (_ ∧ _))

/-- A build ends before it writes, or it writes the routine and then runs a compiler on it. -/
theorem build_cases (k : Kernel) (h : Host) (worker : Worker) (w : Workspace) :
    (FileStore.AddsDirectories w.files (k.build h worker w).2.files ∧ ∀ lines, ¬k.Writes h worker w lines) ∨
      ∃ lines files compiler, k.specialize worker = .ok lines ∧
        (k.prepared h w).files.write h.place (k.assembly worker) (assemblyText lines).toUTF8 = .ok files ∧
        (k.written h worker lines w).files = files ∧
        (k.build h worker w).2.files = (h.launch (compileInvocation compiler k.settings.arch.objectFlags
          (k.assembly worker) (k.object worker)) files).2 := by
  have hmade : FileStore.AddsDirectories w.files (k.prepared h w).files :=
    FileStore.makeDirectories_addsDirectories w.files h.place k.settings.directory
  unfold Writes build
  cases k.specialize worker with
  | error e => exact .inl ⟨.refl _, fun lines hwrites => by cases hwrites.1⟩
  | ok lines =>
    dsimp only
    cases resolveCompiler (h.lookup w.files k.settings.searchPath) k.settings.compilers with
    | error e =>
      refine .inl ⟨.refl _, fun lines hwrites => ?_⟩
      obtain ⟨-, ⟨compiler, hcompiler⟩, -⟩ := hwrites
      cases hcompiler
    | ok compiler =>
      dsimp only
      unfold written prepared at *
      generalize h.makeDirectories k.settings.directory w = made at *
      obtain ⟨_ | _, made⟩ := made
      · exact .inl ⟨hmade, fun lines hwrites => by cases hwrites.2.2.1⟩
      · dsimp only at *
        have hfiles := assemble_files h compiler k.settings.arch lines k.template.name worker.thread
          k.settings.directory made
        rcases hassemble : h.assemble compiler k.settings.arch lines k.template.name worker.thread
          k.settings.directory made with ⟨_ | _, built⟩
        all_goals
          rw [hassemble] at hfiles
          rcases writeRoutine_cases h lines made (k.assembly worker) with ⟨files, hok, hwrite⟩ | ⟨e, hwrite⟩
          · rw [hwrite, if_pos rfl] at hfiles
            exact .inr ⟨lines, files, compiler, rfl, hok, by rw [hwrite], hfiles⟩
          · rw [hwrite, if_neg nofun] at hfiles
            refine .inl ⟨hfiles ▸ hmade, fun lines' hwrites => ?_⟩
            obtain ⟨hlines, -, -, hwrites, -⟩ := hwrites
            cases hlines
            rw [hwrite] at hwrites
            cases hwrites

/-- A build leaves a file alone that the paths of its thread go past. -/
theorem build_keeps (htidy : h.HasTidyCompilers) (hpass : k.PassesBy h worker w path) (hne : k.assembly worker ≠ path)
    (hholds : w.files.Holds h.place path content) : (k.build h worker w).2.files.Holds h.place path content := by
  rcases build_cases k h worker w with ⟨hmade, -⟩ | ⟨lines, files, compiler, hlines, hwrite, hwritten, hbuilt⟩
  · exact hholds.kept fun p node hnode _ => hmade.keeps hnode
  · have hmade := FileStore.makeDirectories_addsDirectories w.files h.place k.settings.directory
    have hprepared : (k.prepared h w).files.Holds h.place path content := hholds.kept fun p node hnode _ => hmade.keeps hnode
    have hfile : files.Holds h.place path content := by
      refine hprepared.kept fun p node hnode hneeded => FileStore.write_keeps hwrite hnode ?_
      refine hneeded.imp_right fun hplace hsame => hpass.1 hne p ?_ hplace
      simp [hsame, Except.toOption]
    have hapart := hpass.2 lines (by simp [hlines, Except.toOption])
    rw [hwritten] at hapart
    rw [hbuilt]
    exact hfile.apart hapart (htidy _ _ _ _ _)

/-- A build leaves the lines in the file to which it has written them. -/
theorem build_holds (htidy : h.HasTidyCompilers) {lines : List String} (hwrites : k.Writes h worker w lines)
    (hpass : k.PassesBy h worker w (k.assembly worker)) :
    (k.build h worker w).2.files.Holds h.place (k.assembly worker) (assemblyText lines).toUTF8 := by
  rcases build_cases k h worker w with ⟨-, hnone⟩ | ⟨lines', files, compiler, hlines, hwrite, hwritten, hbuilt⟩
  · exact absurd hwrites (hnone lines)
  · obtain ⟨hlines', -, -, -, hfile⟩ := hwrites
    obtain rfl : lines' = lines := Except.ok.inj (hlines.symm.trans hlines')
    have hapart := hpass.2 lines' (by simp [hlines, Except.toOption])
    rw [hwritten] at hfile hapart
    rw [hbuilt]
    exact (FileStore.write_holds hwrite hfile).apart hapart (htidy _ _ _ _ _)

/-! ### All builds -/

theorem buildAll_cons (k : Kernel) (h : Host) (worker : Worker) (rest : List Worker) (w : Workspace) :
    k.buildAll h (worker :: rest) w =
      ((k.build h worker w).1 :: (k.buildAll h rest (k.build h worker w).2).1,
        (k.buildAll h rest (k.build h worker w).2).2) := rfl

theorem length_buildAll (k : Kernel) (h : Host) (workers : List Worker) (w : Workspace) :
    (k.buildAll h workers w).1.length = workers.length := by
  induction workers generalizing w with
  | nil => rfl
  | cons worker rest ih => rw [buildAll_cons, List.length_cons, ih, List.length_cons]

/-- Each thread has its outcome, which is that of its build after the builds before it, whatever became of them. -/
theorem getElem?_buildAll (k : Kernel) (h : Host) (workers : List Worker) (w : Workspace) (i : Nat) :
    (k.buildAll h workers w).1[i]? =
      workers[i]?.map fun worker => (k.build h worker (k.buildAll h (workers.take i) w).2).1 := by
  induction workers generalizing w i with
  | nil => simp [buildAll]
  | cons worker rest ih =>
    rw [buildAll_cons]
    cases i with
    | zero => rfl
    | succ i => simp only [List.getElem?_cons_succ, ih, List.take_succ_cons, buildAll_cons]

variable {workers : List Worker}

theorem buildAll_keeps (htidy : h.HasTidyCompilers) (hne : ∀ other ∈ workers, k.assembly other ≠ path)
    (hpass : ∀ j other, workers[j]? = some other → k.PassesBy h other (k.buildAll h (workers.take j) w).2 path)
    (hholds : w.files.Holds h.place path content) : (k.buildAll h workers w).2.files.Holds h.place path content := by
  induction workers generalizing w with
  | nil => exact hholds
  | cons worker rest ih =>
    rw [List.forall_mem_cons] at hne
    have hbuilt := build_keeps htidy (hpass 0 worker rfl) hne.1 hholds
    rw [buildAll_cons]
    exact ih hne.2 (fun j other hother => hpass (j + 1) other hother) hbuilt

/-- What was written for a thread is there when all are built, if the paths of the threads that were built since have
    gone past it. -/
theorem buildAll_holds (htidy : h.HasTidyCompilers) (hnodup : (workers.map Worker.thread).Nodup) {i : Nat}
    {lines : List String} (hworker : workers[i]? = some worker)
    (hwrites : k.Writes h worker (k.buildAll h (workers.take i) w).2 lines)
    (hpass : ∀ j other, i ≤ j → workers[j]? = some other →
      k.PassesBy h other (k.buildAll h (workers.take j) w).2 (k.assembly worker)) :
    (k.buildAll h workers w).2.files.Holds h.place (k.assembly worker) (assemblyText lines).toUTF8 := by
  induction workers generalizing w i with
  | nil => cases hworker
  | cons first rest ih =>
    rw [List.map_cons, List.nodup_cons] at hnodup
    rw [buildAll_cons]
    cases i with
    | zero =>
      obtain rfl : first = worker := Option.some.inj hworker
      have hothers : ∀ other ∈ rest, k.assembly other ≠ k.assembly first := fun other hother =>
        assemblyPath_ne fun hsame => hnodup.1 (hsame ▸ List.mem_map_of_mem hother)
      exact buildAll_keeps htidy hothers (fun j other hother => hpass (j + 1) other (Nat.zero_le _) hother)
        (build_holds htidy hwrites (hpass 0 first (Nat.zero_le 0) rfl))
    | succ i =>
      exact ih hnodup.2 hworker hwrites fun j other hle hother => hpass (j + 1) other (Nat.succ_le_succ hle) hother

end Kernel

/-- A host on which every program does something to the path that is its last argument. No object can be loaded. -/
def outputHost (change : FileStore → String → FileStore) : Host where
  cwd := "/"
  searchPath := none
  which _ _ name := some name
  launch i fs := (.ok ⟨.exited 0, ByteArray.empty, ByteArray.empty⟩, change fs (i.arguments.getLast?.getD ""))
  loads _ _ := false
  finds _ _ _ := false
  symbols _ := none

theorem hasTidyCompilers_outputHost {change : FileStore → String → FileStore}
    (h : ∀ fs path, FileStore.ChangesOnly [] path fs (change fs path)) : (outputHost change).HasTidyCompilers := by
  intro compiler flags assembly object fs
  have hroot : (outputHost change).place = [] := show Path.names "/" = [] by decide +kernel
  have hlaunch : ((outputHost change).launch (compileInvocation compiler flags assembly object) fs).2 =
      change fs object := by
    simp [outputHost, compileInvocation]
  rw [hroot, hlaunch]
  exact h fs object

/-- A host on which every program writes an empty file. -/
def writingHost : Host := outputHost fun fs path => ((fs.write [] path ByteArray.empty).toOption).getD fs

theorem hasTidyCompilers_writingHost : writingHost.HasTidyCompilers := by
  refine hasTidyCompilers_outputHost fun fs path => ?_
  cases hwrite : fs.write [] path ByteArray.empty with
  | ok fs' => exact FileStore.write_changesOnly hwrite
  | error e => exact fun place => .inl rfl

/-- A kernel whose routine does nothing, built in a directory that has to be made. -/
def idleKernel : Kernel where
  template := { name := "k" }
  settings := { arch := .x8664, directory := "/w", compilers := ["/cc"] }
  skeleton := ⟨[], ["nop"], []⟩

/-- Files with nothing but a compiler. -/
def compilerOnly : Workspace := { files := { nodes := [(["cc"], .plainFile ByteArray.empty true)] } }

/-- A kernel whose routine names its thread. -/
def numberedKernel : Kernel := { idleKernel with skeleton := ⟨[], ["mov rax, THREAD_ID"], []⟩ }

/-- Files with a compiler, and with a link from the assembly file of one thread to that of another. -/
def linkedFiles : Workspace where
  files :=
    { nodes := [(["cc"], .plainFile ByteArray.empty true), (["w"], .directory .open), (["w", "k_70.s"], .link "k_7.s")] }

/-- A host on which every program puts a link to another directory in place of its output. -/
def relinkingHost : Host := outputHost fun fs path =>
  match fs.locateName [] path with
  | .ok place => fs.put place (.link "/far/sub")
  | .error _ => fs

theorem hasTidyCompilers_relinkingHost : relinkingHost.HasTidyCompilers := by
  refine hasTidyCompilers_outputHost fun fs path p => ?_
  cases hplace : fs.locateName [] path with
  | ok place =>
    by_cases hp : p = place
    · exact .inr (by simp [FileStore.reach, hplace, hp, Except.toOption])
    · exact .inl (FileStore.get?_put_of_ne hp)
  | error e => exact .inl rfl

/-- A kernel for which the object file of one thread is the directory on the way to all files. -/
def nestedKernel : Kernel :=
  { numberedKernel with
    template := { name := "../k" }
    settings := { arch := .x8664, directory := "/w/k_7.so", compilers := ["/cc"] } }

/-- Files with a compiler, and with another directory that has a file of the same name as a thread. -/
def farFiles : Workspace where
  files :=
    { nodes := [(["cc"], .plainFile ByteArray.empty true), (["far"], .directory .open),
        (["far", "sub"], .directory .open), (["far", "k_7.s"], .plainFile "other\n".toUTF8 false)] }

end BenchKernel
