import BenchKernel.Host.FileStore
import BenchKernel.Proofs.Outcome
import Mathlib.Data.List.Basic

/-! # What an operation leaves of a file store

Where a path leads depends on the directories and links on the way and on nothing else. So a path still leads to the
place to which it led before, after operations that take away no directory and no link, as long as that place does not
become a link. -/

namespace BenchKernel

namespace Node

/-- Whether a path can lead on through a node. -/
def leadsOn : Node → Bool
  | directory _ | link _ => true
  | _ => false

end Node

namespace FileStore

variable {fs fs' fs'' : FileStore} {place p : Place} {node : Node}

/-! ### One place -/

theorem lookup_cons_ite (entry : Place × Node) (rest : List (Place × Node)) :
    (entry :: rest).lookup p = if p = entry.1 then some entry.2 else rest.lookup p := by
  obtain ⟨q, n⟩ := entry
  by_cases h : p = q
  · rw [if_pos h, h, List.lookup_cons_self]
  · rw [if_neg h, List.lookup_cons, beq_eq_false_iff_ne.mpr h]

theorem lookup_map_put (nodes : List (Place × Node)) :
    (nodes.map fun entry => if entry.1 = place then (place, node) else entry).lookup p =
      if p = place then (nodes.lookup place).map fun _ => node else nodes.lookup p := by
  induction nodes with
  | nil => simp
  | cons entry rest ih =>
    rw [List.map_cons, lookup_cons_ite, lookup_cons_ite, lookup_cons_ite, ih]
    by_cases hentry : entry.1 = place <;> by_cases hp : p = place <;> grind

theorem lookup_put : (fs.put place node).nodes.lookup p = if p = place then some node else fs.nodes.lookup p := by
  unfold put
  split
  case isTrue hsome =>
    obtain ⟨old, hold⟩ := Option.isSome_iff_exists.mp hsome
    rw [lookup_map_put, hold, Option.map_some]
  case isFalse hnone =>
    rw [List.lookup_append, lookup_cons_ite]
    by_cases hp : p = place
    · rw [if_pos hp, if_pos hp, hp, Option.not_isSome_iff_eq_none.mp hnone, Option.none_or]
    · rw [if_neg hp, if_neg hp, List.lookup_nil, Option.or_none]

theorem get?_of_nodes_eq (h : fs'.nodes = fs.nodes) (p : Place) : fs'.get? p = fs.get? p := by
  rw [get?, get?, h]

theorem get?_put_of_ne (h : p ≠ place) : (fs.put place node).get? p = fs.get? p := by
  unfold get?
  rw [lookup_put, if_neg h]

theorem get?_put_self (hne : place ≠ []) (hdevice : Device.at? place = none) :
    (fs.put place node).get? place = some node := by
  unfold get?
  rw [if_neg (by simpa using hne), hdevice]
  exact lookup_put.trans (if_pos rfl)

/-! ### Where paths lead -/

/-- Every directory and every link of a file store is in another one. -/
def KeepsWays (fs fs' : FileStore) : Prop :=
  ∀ p node, fs.get? p = some node → node.leadsOn = true → fs'.get? p = some node

section Paths
variable {name : String} {names : List String} {whole : Bool} {way : Way} {q : Place} {links : Nat}

theorem descend_directory {next : Place} (h : fs.descend place name = .ok next) :
    ∃ marks, fs.get? place = some (.directory marks) := by
  unfold descend at h
  split at h
  case h_1 | h_3 => cases h
  case h_2 marks hmarks => exact ⟨marks, hmarks⟩

/-- Going down one name stops at a link that has to be followed, and goes on otherwise. -/
theorem advance_cons_eq_ok {rest : List String} :
    fs.advance whole place (name :: rest) = .ok way ↔ ∃ next, fs.descend place name = .ok next ∧
      ((∃ target, fs.get? next = some (.link target) ∧
          way = if whole || !rest.isEmpty then .linked place target rest else .reached next) ∨
        (∀ target, fs.get? next ≠ some (.link target)) ∧ fs.advance whole next rest = .ok way) := by
  rw [advance, bind_eq_ok]
  refine exists_congr fun next => and_congr_right fun _ => ?_
  split
  case h_1 target htarget =>
    rw [htarget]
    split <;> simp [pure, Except.pure, eq_comm]
  case h_2 hlink =>
    constructor
    · exact fun h => .inr ⟨hlink, h⟩
    · rintro (⟨target, htarget, -⟩ | ⟨-, h⟩)
      · exact absurd htarget (hlink target)
      · exact h

/-- Following a path reaches a place, or comes to a link and follows what it stands for. -/
theorem follow_eq_ok : fs.follow whole links place names = .ok q ↔
    fs.advance whole place names = .ok (.reached q) ∨ ∃ directory target rest fewer,
      fs.advance whole place names = .ok (.linked directory target rest) ∧ links = fewer + 1 ∧
      fs.follow whole fewer (if Path.isAbsolute target then [] else directory) (Path.names target ++ rest) = .ok q := by
  rw [follow.eq_def, bind_eq_ok]
  constructor
  · rintro ⟨reached | ⟨directory, target, rest⟩, hway, h⟩
    · cases h
      exact .inl hway
    · cases links with
      | zero => cases h
      | succ fewer => exact .inr ⟨directory, target, rest, fewer, hway, rfl, h⟩
  · rintro (hway | ⟨directory, target, rest, fewer, hway, rfl, h⟩)
    · exact ⟨_, hway, rfl⟩
    · exact ⟨_, hway, h⟩

variable {path : String} {cwd : Place}

theorem trace_eq_ok : fs.trace whole cwd path = .ok q ↔
    (path.toList.any (·.toNat == 0) = false ∧ path.isEmpty = false ∧ path.utf8ByteSize ≤ longestPath) ∧
      fs.follow whole mostLinks (if Path.isAbsolute path then [] else cwd) (Path.names path) = .ok q := by
  unfold trace
  by_cases hzero : path.toList.any (·.toNat == 0) = true
  · rw [if_pos hzero]
    simp [hzero]
  · by_cases hempty : path.isEmpty = true
    · rw [if_neg hzero, if_pos hempty]
      simp [hempty]
    · by_cases hlong : longestPath < path.utf8ByteSize
      · rw [if_neg hzero, if_neg hempty, if_pos hlong]
        simp [Nat.not_le.mpr hlong]
      · rw [if_neg hzero, if_neg hempty, if_neg hlong]
        simp only [Bool.not_eq_true] at hzero hempty
        simp [hzero, hempty, Nat.not_lt.mp hlong]

namespace KeepsWays

theorem descend {next : Place} (hkeep : KeepsWays fs fs') (h : fs.descend place name = .ok next) :
    fs'.descend place name = .ok next := by
  obtain ⟨marks, hmarks⟩ := descend_directory h
  unfold FileStore.descend at h ⊢
  rw [hkeep place _ hmarks rfl]
  rwa [hmarks] at h

/-- Only at the place that is reached can a link turn up that was not there. -/
theorem advance (hkeep : KeepsWays fs fs') (h : fs.advance true place names = .ok way)
    (hend : ∀ q, way = .reached q → ∀ target, fs'.get? q ≠ some (.link target)) :
    fs'.advance true place names = .ok way := by
  induction names generalizing place with
  | nil => exact h
  | cons name rest ih =>
    obtain ⟨next, hnext, hway⟩ := advance_cons_eq_ok.mp h
    refine advance_cons_eq_ok.mpr ⟨next, hkeep.descend hnext, ?_⟩
    rcases hway with ⟨target, hlink, hway⟩ | ⟨-, hrest⟩
    · exact .inl ⟨target, hkeep next _ hlink rfl, hway⟩
    · refine .inr ⟨?_, ih hrest⟩
      cases rest with
      | nil => exact hend next (Except.ok.inj hrest).symm
      | cons second rest =>
        -- More names follow, so there is a directory.
        obtain ⟨_, hsecond, -⟩ := advance_cons_eq_ok.mp hrest
        obtain ⟨marks, hmarks⟩ := descend_directory hsecond
        intro target hlink
        rw [hkeep next _ hmarks rfl] at hlink
        cases hlink

theorem follow (hkeep : KeepsWays fs fs') (h : fs.follow true links place names = .ok q)
    (hend : ∀ target, fs'.get? q ≠ some (.link target)) : fs'.follow true links place names = .ok q := by
  induction links using Nat.strongRecOn generalizing place names with
  | ind links ih =>
    rcases follow_eq_ok.mp h with hway | ⟨directory, target, rest, fewer, hway, rfl, hrest⟩
    · exact follow_eq_ok.mpr (.inl (hkeep.advance hway fun p hp => by cases hp; exact hend))
    · have hway' := hkeep.advance hway fun p hp => by cases hp
      exact follow_eq_ok.mpr
        (.inr ⟨directory, target, rest, fewer, hway', rfl, ih fewer (Nat.lt_succ_self fewer) hrest⟩)

theorem locate (hkeep : KeepsWays fs fs') (h : fs.locate cwd path = .ok q)
    (hend : ∀ target, fs'.get? q ≠ some (.link target)) : fs'.locate cwd path = .ok q :=
  trace_eq_ok.mpr ((trace_eq_ok.mp h).imp_right fun hfollow => hkeep.follow hfollow hend)

end KeepsWays

end Paths

/-! ### Writing, making directories and running programs -/

section Changes
variable {path other : String} {cwd : Place} {content : ByteArray}

/-- A path leads to a file with some bytes. -/
def Holds (fs : FileStore) (cwd : Place) (path : String) (content : ByteArray) : Prop :=
  ∃ place marks, fs.locate cwd path = .ok place ∧ fs.get? place = some (.file content marks)

/-- Whether a path leads to a file. -/
def isFile (fs : FileStore) (cwd : Place) (path : String) : Bool :=
  match fs.find cwd path with
  | .ok (.file _ _) => true
  | _ => false

theorem exists_holds (h : fs.isFile cwd path = true) : ∃ bytes, fs.Holds cwd path bytes := by
  unfold isFile at h
  split at h
  case h_1 bytes marks hfind =>
    obtain ⟨place, hplace, hnode⟩ := bind_eq_ok.mp hfind
    refine ⟨bytes, place, marks, hplace, ?_⟩
    unfold nodeAt at hnode
    split at hnode
    case h_1 | h_2 => cases hnode
    case h_3 node _ hget =>
      split at hnode
      · cases hnode
      · rw [hget, Except.ok.inj hnode]
  case h_2 => cases h

theorem writeDevice_nodes {device : Device} (h : fs.writeDevice device content = .ok fs') : fs'.nodes = fs.nodes := by
  unfold writeDevice at h
  split at h
  case h_4 =>
    split at h
    · cases h
      rfl
    · cases h
  all_goals cases h <;> rfl

/-- A file is written over a file or where there is nothing, or the bytes go through a device or a pipe. -/
theorem write_found (h : fs.write cwd path content = .ok fs') :
    ∃ place, fs.locate cwd path = .ok place ∧ namesDirectory path = false ∧
      ((∃ marks, fs' = fs.put place (.file content marks) ∧
          ∀ node, fs.get? place = some node → ∃ old marks, node = .file old marks) ∨
        fs'.nodes = fs.nodes ∧ ∃ node, fs.get? place = some node ∧
          ((∃ device, node = .device device) ∨ ∃ marks, node = .fifo marks)) := by
  unfold write at h
  obtain ⟨place, hplace, h⟩ := bind_eq_ok.mp h
  by_cases hdir : namesDirectory path = true
  · simp only [hdir, if_true] at h
    cases h
  · simp only [Bool.not_eq_true] at hdir
    simp only [hdir, Bool.false_eq_true, if_false] at h
    refine ⟨place, hplace, hdir, ?_⟩
    split at h
    case h_1 | h_3 | h_4 => cases h
    case h_2 hfile =>
      cases h
      exact .inl ⟨_, rfl, fun node hnode => ⟨_, _, Option.some.inj (hnode.symm.trans hfile)⟩⟩
    case h_5 hfifo =>
      cases h
      exact .inr ⟨rfl, _, hfifo, .inr ⟨_, rfl⟩⟩
    case h_6 hdevice => exact .inr ⟨writeDevice_nodes h, _, hdevice, .inl ⟨_, rfl⟩⟩
    case h_7 hnone =>
      split at h
      · cases h
        refine .inl ⟨_, rfl, fun node hnode => ?_⟩
        rw [hnone] at hnode
        cases hnode
      · cases h

/-- Where there is no directory and no device, a file that is put is there. -/
theorem get?_put_file {marks : Marks} (hold : ∀ node, fs.get? place = some node → ∃ old marks, node = .file old marks) :
    (fs.put place (.file content marks)).get? place = some (.file content marks) := by
  have hne : place ≠ [] := by
    rintro rfl
    obtain ⟨_, _, hfile⟩ := hold _ rfl
    cases hfile
  refine get?_put_self hne ?_
  cases hat : Device.at? place with
  | none => rfl
  | some device =>
    obtain ⟨_, _, hfile⟩ := hold (.device device) (by simp [get?, hne, hat])
    cases hfile

/-- A write puts no file over a directory or a link. -/
theorem write_cases (h : fs.write cwd path content = .ok fs') :
    ∃ place, fs.locate cwd path = .ok place ∧
      ((∃ marks, fs' = fs.put place (.file content marks) ∧ ∀ node, fs.get? place = some node → node.leadsOn = false) ∨
        fs'.nodes = fs.nodes) := by
  obtain ⟨place, hplace, -, ⟨marks, hput, hold⟩ | ⟨hnodes, -⟩⟩ := write_found h
  · refine ⟨place, hplace, .inl ⟨marks, hput, fun node hnode => ?_⟩⟩
    obtain ⟨old, marks, rfl⟩ := hold node hnode
    rfl
  · exact ⟨place, hplace, .inr hnodes⟩

/-- Whatever leads on is kept, and so is all that is not where the path leads. -/
theorem write_keeps (h : fs.write cwd path content = .ok fs') (hnode : fs.get? p = some node)
    (hother : node.leadsOn = true ∨ fs.locate cwd path ≠ .ok p) : fs'.get? p = some node := by
  obtain ⟨place, hplace, ⟨marks, rfl, hold⟩ | hnodes⟩ := write_cases h
  · have hne : p ≠ place := by
      rintro rfl
      rcases hother with hleads | hother
      · rw [hold node hnode] at hleads
        cases hleads
      · exact hother hplace
    rwa [get?_put_of_ne hne]
  · rwa [get?_of_nodes_eq hnodes]

theorem write_keepsWays (h : fs.write cwd path content = .ok fs') : KeepsWays fs fs' :=
  fun _ _ hnode hleads => write_keeps h hnode (.inl hleads)

/-- A path to which bytes were written leads to a file with them, through whatever links, or to a device or a pipe. -/
theorem write_leaves (h : fs.write cwd path content = .ok fs') :
    fs'.Holds cwd path content ∨ ∃ place, fs'.locate cwd path = .ok place ∧
      ((∃ device, fs'.get? place = some (.device device)) ∨ ∃ marks, fs'.get? place = some (.fifo marks)) := by
  have hways := write_keepsWays h
  obtain ⟨place, hplace, -, ⟨marks, rfl, hold⟩ | ⟨hnodes, node, hnode, htakes⟩⟩ := write_found h
  · have hfile : (fs.put place (.file content marks)).get? place = _ := get?_put_file hold
    exact .inl ⟨place, marks, hways.locate hplace (by simp [hfile]), hfile⟩
  · rw [← get?_of_nodes_eq hnodes] at hnode
    rcases htakes with ⟨device, rfl⟩ | ⟨marks, rfl⟩
    · exact .inr ⟨place, hways.locate hplace (by simp [hnode]), .inl ⟨device, hnode⟩⟩
    · exact .inr ⟨place, hways.locate hplace (by simp [hnode]), .inr ⟨marks, hnode⟩⟩

theorem write_holds (h : fs.write cwd path content = .ok fs') (hfile : fs'.isFile cwd path = true) :
    fs'.Holds cwd path content := by
  rcases write_leaves h with hholds | ⟨place, hplace, htakes⟩
  · exact hholds
  · obtain ⟨bytes, found, marks, hfound, hget⟩ := exists_holds hfile
    obtain rfl : place = found := Except.ok.inj (hplace.symm.trans hfound)
    rw [hget] at htakes
    rcases htakes with ⟨_, hnode⟩ | ⟨_, hnode⟩ <;> cases hnode

/-- A file keeps its bytes when nothing is lost that leads on, nor what the path leads to. -/
theorem Holds.kept (h : fs.Holds cwd path content)
    (hkeep : ∀ p node, fs.get? p = some node → node.leadsOn = true ∨ fs.locate cwd path = .ok p →
      fs'.get? p = some node) : fs'.Holds cwd path content := by
  obtain ⟨place, marks, hplace, hfile⟩ := h
  have hways : KeepsWays fs fs' := fun p node hnode hleads => hkeep p node hnode (.inl hleads)
  have hfile' := hkeep place _ hfile (.inr hplace)
  exact ⟨place, marks, hways.locate hplace (by simp [hfile']), hfile'⟩

theorem Holds.read (h : fs.Holds cwd path content) (hpath : namesDirectory path = false) :
    fs.read cwd path = .ok content := by
  obtain ⟨place, marks, hplace, hget⟩ := h
  have hnode : fs.nodeAt path place = .ok (.file content marks) := by simp [nodeAt, hget, hpath]
  simp only [FileStore.read, find, hplace, ok_bind, hnode]
  rfl

/-- One file store comes from another by new directories. -/
def AddsDirectories (fs fs' : FileStore) : Prop :=
  ∀ place, fs'.get? place = fs.get? place ∨
    fs.get? place = none ∧ ∃ marks, fs'.get? place = some (.directory marks)

namespace AddsDirectories

theorem refl (fs : FileStore) : AddsDirectories fs fs := fun _ => .inl rfl

theorem keeps (h : AddsDirectories fs fs') (hnode : fs.get? p = some node) : fs'.get? p = some node := by
  rcases h p with heq | ⟨hnone, -⟩
  · rw [heq, hnode]
  · rw [hnode] at hnone
    cases hnone

theorem trans (h : AddsDirectories fs fs') (h' : AddsDirectories fs' fs'') : AddsDirectories fs fs'' := by
  intro place
  rcases h place with heq | ⟨hnone, marks, hmarks⟩
  · rw [← heq]
    exact h' place
  · exact .inr ⟨hnone, marks, h'.keeps hmarks⟩

end AddsDirectories

theorem makeDirectory_addsDirectories (h : fs.makeDirectory cwd path = .ok fs') : AddsDirectories fs fs' := by
  unfold makeDirectory at h
  obtain ⟨place, -, h⟩ := bind_eq_ok.mp h
  split at h
  case h_1 => cases h
  case h_2 hnone =>
    split at h
    case isFalse => cases h
    case isTrue =>
      cases h
      have hne : place ≠ [] := by
        rintro rfl
        cases hnone
      have hdevice : Device.at? place = none := by
        unfold get? at hnone
        rw [if_neg (by simpa using hne)] at hnone
        split at hnone
        · cases hnone
        · assumption
      intro q
      by_cases hq : q = place
      · rw [hq]
        exact .inr ⟨hnone, _, get?_put_self hne hdevice⟩
      · exact .inl (get?_put_of_ne hq)

theorem makeAll_addsDirectories (fs : FileStore) (cwd : Place) (path : String) (parts : List Path.Component) :
    AddsDirectories fs (fs.makeAll cwd path parts).2 := by
  induction parts generalizing fs path with
  | nil =>
    rw [makeAll]
    split
    case h_1 h => exact makeDirectory_addsDirectories h
    case h_2 => exact .refl fs
  | cons part above ih =>
    have habove := ih fs (Path.ofComponents (part :: above).reverse)
    rw [makeAll]
    split
    case h_1 h => exact makeDirectory_addsDirectories h
    case h_2 =>
      split
      case h_1 heq =>
        rw [heq] at habove
        exact habove
      case h_2 made heq =>
        rw [heq] at habove
        split
        case h_1 h => exact habove.trans (makeDirectory_addsDirectories h)
        case h_2 => exact habove
    case h_3 => exact .refl fs

theorem makeDirectories_addsDirectories (fs : FileStore) (cwd : Place) (path : String) :
    AddsDirectories fs (fs.makeDirectories cwd path).2 := by
  unfold makeDirectories
  split
  · exact .refl fs
  · exact makeAll_addsDirectories fs cwd path _

/-- The places that a path stands for: the one to which it leads and, if its last name is a link, the one of the link. -/
def reach (fs : FileStore) (cwd : Place) (path : String) : List Place :=
  (fs.locate cwd path).toOption.toList ++ (fs.locateName cwd path).toOption.toList

/-- One file store comes from another by changes to what a path stands for, and to nothing else. -/
def ChangesOnly (cwd : Place) (path : String) (fs fs' : FileStore) : Prop :=
  ∀ place, fs'.get? place = fs.get? place ∨ place ∈ fs.reach cwd path

theorem mem_reach_of_locate (h : fs.locate cwd path = .ok p) : p ∈ fs.reach cwd path := by
  simp [reach, h, Except.toOption]

theorem write_changesOnly (h : fs.write cwd path content = .ok fs') : ChangesOnly cwd path fs fs' := by
  intro q
  obtain ⟨place, hplace, ⟨marks, rfl, -⟩ | hnodes⟩ := write_cases h
  · by_cases hq : q = place
    · exact .inr (hq ▸ mem_reach_of_locate hplace)
    · exact .inl (get?_put_of_ne hq)
  · exact .inl (get?_of_nodes_eq hnodes q)

/-- A path stands for nothing to which another one leads, and for nothing through which paths lead. -/
def IsApart (fs : FileStore) (cwd : Place) (path other : String) : Prop :=
  ∀ place ∈ fs.reach cwd path, fs.locate cwd other ≠ .ok place ∧ (fs.get? place).any Node.leadsOn = false

instance : Decidable (fs.IsApart cwd path other) :=
  inferInstanceAs (Decidable (∀ place ∈ fs.reach cwd path, _))

theorem Holds.apart (h : fs.Holds cwd other content) (hapart : fs.IsApart cwd path other)
    (hchanges : ChangesOnly cwd path fs fs') : fs'.Holds cwd other content := by
  refine h.kept fun p node hnode hneeded => ?_
  rcases hchanges p with heq | hreach
  · rw [heq, hnode]
  · obtain ⟨hplace, hleads⟩ := hapart p hreach
    rw [hnode, Option.any_some] at hleads
    rcases hneeded with hneeded | hneeded
    · rw [hleads] at hneeded
      cases hneeded
    · exact absurd hneeded hplace

end Changes

end FileStore

end BenchKernel
