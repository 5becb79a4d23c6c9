import BenchKernel.Proofs.Stream.Allocation

/-! # Buffers as arrays

Whatever a program does with an allocated buffer, the elements stay inside the storage, and an element is what was last
written to it. Every write is a patch of some bytes among those of the elements, and a patch changes no byte beside it.
So what a run of steps keeps follows from what one step can do (`Fits.writesOnly_after`). -/

namespace BenchKernel.Buffer

variable {b c : Buffer} {type : ElementType} {i position : Nat} {new : List UInt8} {v : Double}

/-! ### Elements in the storage -/

/-- The elements lie in the storage, and a process can address all of it. -/
structure Fits (b : Buffer) : Prop where
  inside : b.offset + b.length * b.type.size ≤ b.storage.length
  addressable : b.storage.length < 2 ^ 63

/-- One buffer is another but for the bytes of the elements in a range. -/
structure ChangesOnly (b c : Buffer) (first stop : Nat) : Prop where
  type : c.type = b.type
  extents : c.extents = b.extents
  length : c.length = b.length
  address : c.address = b.address
  offset : c.offset = b.offset
  room : c.storage.length = b.storage.length
  outside : ∀ k, k < b.offset + first ∨ b.offset + stop ≤ k → c.storage[k]? = b.storage[k]?

/-- The bytes of an element. -/
def element (b : Buffer) (i : Nat) : List UInt8 := (b.bytes.drop (i * b.type.size)).take b.type.size

theorem stop_le_iff : i * b.type.size + b.type.size ≤ b.length * b.type.size ↔ i < b.length := by
  rw [← Nat.succ_mul]
  exact Nat.mul_le_mul_right_iff (size_pos b.type)

theorem Fits.length_bytes (h : b.Fits) : b.bytes.length = b.length * b.type.size := by
  have := h.inside
  rw [bytes, List.length_take, List.length_drop]
  omega

theorem element_eq (hi : i < b.length) :
    b.element i = (b.storage.drop (b.offset + i * b.type.size)).take b.type.size := by
  have hstop := stop_le_iff.mpr hi
  rw [element, bytes, List.drop_take, List.take_take, List.drop_drop, Nat.min_eq_left (by omega)]

/-- An element depends on its own bytes only. -/
theorem ChangesOnly.element_eq {first stop : Nat} (h : ChangesOnly b c first stop) (hi : i < b.length)
    (houtside : i * b.type.size + b.type.size ≤ first ∨ stop ≤ i * b.type.size) : c.element i = b.element i := by
  rw [Buffer.element_eq (h.length ▸ hi), Buffer.element_eq hi, h.offset, h.type]
  refine List.ext_getElem? fun k => ?_
  rw [List.getElem?_take, List.getElem?_take, List.getElem?_drop, List.getElem?_drop]
  split
  · exact h.outside _ (by omega)
  · rfl

/-! ### Patches -/

theorem getElem?_patch (hroom : b.offset + position + new.length ≤ b.storage.length) (k : Nat) :
    (b.patch position new).storage[k]? =
      if b.offset + position ≤ k ∧ k < b.offset + position + new.length then new[k - (b.offset + position)]?
      else b.storage[k]? := by
  have htake : (b.storage.take (b.offset + position)).length = b.offset + position := by
    rw [List.length_take]
    omega
  simp only [patch, List.append_assoc]
  rcases Nat.lt_or_ge k (b.offset + position) with hbefore | hfrom
  · rw [if_neg (by omega), List.getElem?_append_left (by omega), List.getElem?_take_of_lt hbefore]
  · rw [List.getElem?_append_right (by omega), htake]
    rcases Nat.lt_or_ge k (b.offset + position + new.length) with hin | hafter
    · rw [if_pos ⟨hfrom, hin⟩, List.getElem?_append_left (by omega)]
    · rw [if_neg (by omega), List.getElem?_append_right (by omega), List.getElem?_drop]
      congr 1
      omega

theorem changesOnly_patch (hroom : b.offset + position + new.length ≤ b.storage.length) :
    ChangesOnly b (b.patch position new) position (position + new.length) := by
  refine ⟨rfl, rfl, rfl, rfl, rfl, ?_, fun k hk => ?_⟩
  · simp only [patch, List.length_append, List.length_take, List.length_drop]
    omega
  · rw [getElem?_patch hroom, if_neg (by omega)]

/-- An element of a patched buffer is the part of the patch that covers it. -/
theorem element_patch (hi : i < b.length) (hroom : b.offset + position + new.length ≤ b.storage.length)
    (hfirst : position ≤ i * b.type.size) (hstop : i * b.type.size + b.type.size ≤ position + new.length) :
    (b.patch position new).element i = (new.drop (i * b.type.size - position)).take b.type.size := by
  have hpatched : (b.patch position new).element i =
      ((b.patch position new).storage.drop (b.offset + i * b.type.size)).take b.type.size := Buffer.element_eq hi
  rw [hpatched]
  refine List.ext_getElem? fun k => ?_
  rw [List.getElem?_take, List.getElem?_take, List.getElem?_drop, List.getElem?_drop, getElem?_patch hroom]
  split
  · rw [if_pos (by omega)]
    congr 1
    omega
  · rfl

/-! ### Reading and writing -/

theorem length_write (type : ElementType) (v : Double) : (Codec.write type v).length = type.size := by
  have hbytes : ∀ count n, (Codec.toBytes count n).length = count := by
    intro count
    induction count with
    | zero => exact fun _ => rfl
    | succ count ih => exact fun n => by rw [Codec.toBytes, List.length_cons, ih]
  exact hbytes _ _

/-- An element past the last one is a fault, and so is every index whose bytes do not end at a word. -/
theorem Fits.position_eq (h : b.Fits) (i : Nat) :
    b.position i = if i < b.length then .ok (i * b.type.size) else .error (.access i) := by
  have hinside := h.inside
  have haddressable := h.addressable
  have hstop := @stop_le_iff b i
  simp only [position, h.length_bytes, wordMax_lt_iff, Nat.succ_mul]
  by_cases hi : i < b.length
  · rw [if_pos hi, if_neg (by have := hstop.mpr hi; omega)]
  · rw [if_neg hi, if_pos (by have := mt hstop.mp hi; omega)]

theorem Fits.get_eq (h : b.Fits) (i : Nat) :
    b.get i = if i < b.length then .ok (Codec.read b.type (b.element i)) else .error (.access i) := by
  rw [get, h.position_eq]
  split <;> rfl

theorem Fits.set_eq (h : b.Fits) (i : Nat) (v : Double) :
    b.set i v = if i < b.length then .ok (b.patch (i * b.type.size) (Codec.write b.type v)) else .error (.access i) := by
  rw [set, h.position_eq]
  split <;> rfl

theorem Fits.room_set (h : b.Fits) (hi : i < b.length) (v : Double) :
    b.offset + i * b.type.size + (Codec.write b.type v).length ≤ b.storage.length := by
  have hinside := h.inside
  have hstop := stop_le_iff.mpr hi
  rw [length_write]
  omega

theorem length_filled (b : Buffer) (v : Double) :
    (List.replicate b.length (Codec.write b.type v)).flatten.length = b.length * b.type.size := by
  rw [List.length_flatten, List.map_replicate, List.sum_replicate_nat, length_write]

theorem Fits.room_fill (h : b.Fits) (v : Double) :
    b.offset + 0 + (List.replicate b.length (Codec.write b.type v)).flatten.length ≤ b.storage.length := by
  rw [length_filled]
  exact h.inside

theorem take_drop_replicate_flatten {n : Nat} (hi : i < n) (bytes : List UInt8) :
    ((List.replicate n bytes).flatten.drop (i * bytes.length)).take bytes.length = bytes := by
  induction n generalizing i with
  | zero => omega
  | succ n ih =>
    rw [List.replicate_succ, List.flatten_cons]
    cases i with
    | zero => rw [Nat.zero_mul, List.drop_zero, List.take_left]
    | succ i =>
      rw [Nat.add_mul, Nat.one_mul, Nat.add_comm, ← List.drop_drop, List.drop_left]
      exact ih (by omega)

theorem Fits.element_fill (h : b.Fits) (hi : i < b.length) (v : Double) :
    (b.fill v).element i = Codec.write b.type v := by
  have hstop := stop_le_iff.mpr hi
  rw [fill, element_patch hi (h.room_fill v) (Nat.zero_le _) (by rw [length_filled]; omega), Nat.sub_zero,
    ← length_write b.type v]
  exact take_drop_replicate_flatten hi _

theorem Fits.element_set (h : b.Fits) (hi : i < b.length) (v : Double) :
    (b.patch (i * b.type.size) (Codec.write b.type v)).element i = Codec.write b.type v := by
  rw [element_patch hi (h.room_set hi v) le_rfl (by rw [length_write]), Nat.sub_self, List.drop_zero,
    ← length_write b.type v, List.take_length]

/-! ### Steps -/

/-- What a program does with a buffer. -/
inductive Step
  | fill (value : Double)
  | set (index : Nat) (value : Double)
  | get (index : Nat)
  | poke (index : Nat) (byte : UInt8)

/-- The buffer that a step leaves, or its fault. -/
def Step.result (b : Buffer) : Step → Except Fault Buffer
  | fill v => .ok (b.fill v)
  | set i v => b.set i v
  | get i => (b.get i).map fun _ => b
  | poke k byte => b.poke k byte

/-- A step is a write to an element, whole or in part. -/
def Step.Touches (type : ElementType) (i : Nat) : Step → Prop
  | fill _ => True
  | set j _ => j = i
  | get _ => False
  | poke k _ => i * type.size ≤ k ∧ k < i * type.size + type.size

/-- The buffer after a step. A fault leaves it as it was. -/
def after (b : Buffer) (s : Step) : Buffer := (s.result b).toOption.getD b

def afterAll (b : Buffer) (steps : List Step) : Buffer := steps.foldl after b

theorem ChangesOnly.refl (b : Buffer) (first stop : Nat) : ChangesOnly b b first stop :=
  ⟨rfl, rfl, rfl, rfl, rfl, rfl, fun _ _ => rfl⟩

theorem ChangesOnly.widen {first stop n : Nat} (h : ChangesOnly b c first stop) (hn : stop ≤ n) :
    ChangesOnly b c 0 n :=
  ⟨h.type, h.extents, h.length, h.address, h.offset, h.room, fun k hk => h.outside k (by omega)⟩

theorem ChangesOnly.trans {d : Buffer} {first stop : Nat} (h : ChangesOnly b c first stop)
    (h' : ChangesOnly c d first stop) : ChangesOnly b d first stop :=
  ⟨h'.type.trans h.type, h'.extents.trans h.extents, h'.length.trans h.length, h'.address.trans h.address,
    h'.offset.trans h.offset, h'.room.trans h.room,
    fun k hk => (h'.outside k (h.offset ▸ hk)).trans (h.outside k hk)⟩

theorem ChangesOnly.fits {first stop : Nat} (h : ChangesOnly b c first stop) (hb : b.Fits) : c.Fits :=
  ⟨by rw [h.offset, h.length, h.type, h.room]; exact hb.inside, h.room ▸ hb.addressable⟩

/-- A step that leaves `c` has changed bytes in a range that lies in the elements, beside those that it does not
    touch. -/
def Step.WritesOnly (s : Step) (b c : Buffer) : Prop :=
  ∃ first stop, ChangesOnly b c first stop ∧ stop ≤ b.length * b.type.size ∧
    ∀ i, ¬s.Touches b.type i → i * b.type.size + b.type.size ≤ first ∨ stop ≤ i * b.type.size

theorem Step.writesOnly_refl (s : Step) (b : Buffer) : s.WritesOnly b b :=
  ⟨0, 0, ChangesOnly.refl b 0 0, Nat.zero_le _, fun _ _ => Or.inr (Nat.zero_le _)⟩

theorem Fits.writesOnly_set (h : b.Fits) (hi : i < b.length) (v : Double) :
    (Step.set i v).WritesOnly b (b.patch (i * b.type.size) (Codec.write b.type v)) := by
  refine ⟨_, _, changesOnly_patch (h.room_set hi v), ?_, fun j hj => ?_⟩
  · rw [length_write]
    exact stop_le_iff.mpr hi
  · rw [length_write, ← Nat.succ_mul, ← Nat.succ_mul]
    rcases Nat.lt_or_gt_of_ne (Ne.symm hj) with hlt | hlt
    · exact Or.inl (Nat.mul_le_mul_right _ hlt)
    · exact Or.inr (Nat.mul_le_mul_right _ hlt)

theorem Fits.writesOnly_poke (h : b.Fits) {k : Nat} (hk : k < b.bytes.length) (byte : UInt8) :
    (Step.poke k byte).WritesOnly b (b.patch k [byte]) := by
  have hinside := h.inside
  rw [h.length_bytes] at hk
  refine ⟨_, _, changesOnly_patch ?_, ?_, fun i hi => ?_⟩ <;> simp only [Step.Touches, List.length_singleton] at *
  all_goals omega

theorem Fits.writesOnly_result (h : b.Fits) {s : Step} (hc : s.result b = .ok c) : s.WritesOnly b c := by
  cases s with
  | fill v =>
    cases hc
    exact ⟨0, _, changesOnly_patch (h.room_fill v), by rw [length_filled]; omega, fun i hi => absurd trivial hi⟩
  | set j v =>
    rw [Step.result, h.set_eq] at hc
    split at hc
    · rename_i hj
      cases hc
      exact h.writesOnly_set hj v
    · cases hc
  | get j =>
    rw [Step.result] at hc
    cases hget : b.get j <;> rw [hget] at hc <;> cases hc
    exact Step.writesOnly_refl _ b
  | poke k byte =>
    rw [Step.result, poke] at hc
    split at hc
    · cases hc
    · rename_i hk
      cases hc
      exact h.writesOnly_poke (not_le.mp hk) byte

/-- All that a step can do. -/
theorem Fits.writesOnly_after (h : b.Fits) (s : Step) : s.WritesOnly b (b.after s) := by
  rw [Buffer.after]
  cases hs : s.result b with
  | error f => exact s.writesOnly_refl b
  | ok c => exact h.writesOnly_result hs

/-! ### Runs -/

theorem Fits.after (h : b.Fits) (s : Step) :
    (b.after s).Fits ∧ ChangesOnly b (b.after s) 0 (b.length * b.type.size) := by
  obtain ⟨first, stop, hchanges, hstop, -⟩ := h.writesOnly_after s
  exact ⟨hchanges.fits h, hchanges.widen hstop⟩

theorem Fits.afterAll (h : b.Fits) (steps : List Step) :
    (b.afterAll steps).Fits ∧ ChangesOnly b (b.afterAll steps) 0 (b.length * b.type.size) := by
  induction steps generalizing b with
  | nil => exact ⟨h, ChangesOnly.refl ..⟩
  | cons s steps ih =>
    obtain ⟨hfits, hstep⟩ := h.after s
    obtain ⟨hfits', hrun⟩ := ih hfits
    rw [hstep.length, hstep.type] at hrun
    exact ⟨hfits', hstep.trans hrun⟩

theorem Fits.element_after (h : b.Fits) (hi : i < b.length) {s : Step} (hs : ¬s.Touches b.type i) :
    (b.after s).element i = b.element i := by
  obtain ⟨first, stop, hchanges, -, hbeside⟩ := h.writesOnly_after s
  exact hchanges.element_eq hi (hbeside i hs)

/-- A run keeps the elements that none of its steps touches. -/
theorem Fits.element_afterAll (h : b.Fits) (hi : i < b.length) {steps : List Step}
    (hs : ∀ s ∈ steps, ¬s.Touches b.type i) : (b.afterAll steps).element i = b.element i := by
  induction steps generalizing b with
  | nil => rfl
  | cons s steps ih =>
    rw [List.forall_mem_cons] at hs
    obtain ⟨hfits, hstep⟩ := h.after s
    exact (ih hfits (hstep.length ▸ hi) (hstep.type ▸ hs.2)).trans (h.element_after hi hs.1)

/-- A whole write to an element is what is read from it. -/
theorem Fits.element_after_write (h : b.Fits) (hi : i < b.length) {s : Step} (hs : s = .fill v ∨ s = .set i v) :
    (b.after s).element i = Codec.write b.type v := by
  rcases hs with rfl | rfl
  · exact h.element_fill hi v
  · rw [Buffer.after, Step.result, h.set_eq, if_pos hi]
    exact h.element_set hi v

/-! ### Allocated buffers -/

theorem fits_of_allocate {address : Nat} {extents : List Nat} (h : allocate address type extents = .ok b) : b.Fits := by
  obtain ⟨rfl, hsmall, -⟩ := allocate_eq_ok_iff.mp h
  have hoffset : alignOffset address < 64 := Nat.mod_lt _ (by decide)
  constructor <;> simp only [zeroed, List.length_replicate]
  · rw [paddedSize]
    omega
  · exact hsmall

theorem element_of_allocate {address : Nat} {extents : List Nat} (h : allocate address type extents = .ok b)
    (hi : i < b.length) : b.element i = List.replicate type.size 0 := by
  have hinside := (fits_of_allocate h).inside
  have hstop := stop_le_iff.mpr hi
  rw [element_eq hi]
  obtain ⟨rfl, -⟩ := allocate_eq_ok_iff.mp h
  simp only [zeroed, List.length_replicate] at hinside hstop ⊢
  rw [List.drop_replicate, List.take_replicate, Nat.min_eq_left (by omega)]

/-- What holds of a buffer `c` at every point of a run that started with `b`. -/
structure ArrayState (b c : Buffer) : Prop where
  shape : c.type = b.type ∧ c.extents = b.extents ∧ c.length = b.length ∧ c.offset = b.offset
  length_bytes : c.bytes.length = c.length * c.type.size
  inside : c.offset + c.length * c.type.size ≤ c.storage.length
  get_faults : ∀ i, (∃ f, c.get i = .error f) ↔ c.length ≤ i
  set_faults : ∀ i v, (∃ f, c.set i v = .error f) ↔ c.length ≤ i
  /-- An index whose bytes do not end at a word is past the last element. -/
  past : ∀ i, 2 ^ 64 ≤ (i + 1) * c.type.size → c.length ≤ i
  set_changes : ∀ i v d, c.set i v = .ok d →
    ChangesOnly c d (i * c.type.size) ((i + 1) * c.type.size) ∧ d.element i = Codec.write c.type v
  fill_changes : ∀ v, ChangesOnly c (c.fill v) 0 (c.length * c.type.size) ∧
    ∀ i, i < c.length → (c.fill v).element i = Codec.write c.type v

theorem Fits.arrayState {first stop : Nat} (h : c.Fits) (hc : ChangesOnly b c first stop) : ArrayState b c where
  shape := ⟨hc.type, hc.extents, hc.length, hc.offset⟩
  length_bytes := h.length_bytes
  inside := h.inside
  get_faults i := by
    rw [h.get_eq]
    by_cases hi : i < c.length <;> simp [hi]
    omega
  set_faults i v := by
    rw [h.set_eq]
    by_cases hi : i < c.length <;> simp [hi]
    omega
  past i hlarge := by
    by_contra hi
    have hstop := stop_le_iff.mpr (not_le.mp hi)
    have hinside := h.inside
    have haddressable := h.addressable
    rw [Nat.succ_mul] at hlarge
    omega
  set_changes i v d hd := by
    rw [h.set_eq] at hd
    split at hd
    · rename_i hi
      cases hd
      have hchanges := changesOnly_patch (h.room_set hi v)
      rw [length_write, ← Nat.succ_mul] at hchanges
      exact ⟨hchanges, h.element_set hi v⟩
    · cases hd
  fill_changes v := by
    have hchanges := changesOnly_patch (h.room_fill v)
    rw [length_filled, Nat.zero_add] at hchanges
    exact ⟨hchanges, fun i hi => h.element_fill hi v⟩

/-- An allocated buffer is an array over every run, wherever its storage starts: an element reads as what the last
    step that wrote it whole has written, if no later step touched it, and as zero bytes if no step ever did. -/
theorem runs_as_array {address : Nat} {extents : List Nat} (h : allocate address type extents = .ok b)
    (steps : List Step) :
    (b.type = type ∧ b.extents = extents) ∧ ArrayState b (b.afterAll steps) ∧
    (∀ i v before s later, i < b.length → steps = before ++ s :: later → s = .fill v ∨ s = .set i v →
      (∀ t ∈ later, ¬t.Touches type i) →
      (b.afterAll steps).get i = .ok (Codec.read type (Codec.write type v))) ∧
    (∀ i, i < b.length → (∀ s ∈ steps, ¬s.Touches type i) →
      (b.afterAll steps).get i = .ok (Codec.read type (List.replicate type.size 0))) := by
  have hfits := fits_of_allocate h
  have hshape : b.type = type ∧ b.extents = extents := by
    obtain ⟨rfl, -⟩ := allocate_eq_ok_iff.mp h
    exact ⟨rfl, rfl⟩
  obtain ⟨hend, hrun⟩ := hfits.afterAll steps
  have hget : ∀ i, i < b.length → (b.afterAll steps).get i = .ok (Codec.read type ((b.afterAll steps).element i)) := by
    intro i hi
    rw [hend.get_eq, hrun.length, if_pos hi, hrun.type, hshape.1]
  refine ⟨hshape, hend.arrayState hrun, fun i v before s later hi hsteps hs hlater => ?_, fun i hi hs => ?_⟩
  · -- The write is the step after `before`, and the steps of `later` keep what it has written.
    obtain ⟨hbefore, hfirst⟩ := hfits.afterAll before
    obtain ⟨hwritten, hstep⟩ := hbefore.after s
    have hi' : i < (b.afterAll before).length := hfirst.length ▸ hi
    have hlast : b.afterAll steps = ((b.afterAll before).after s).afterAll later := by
      rw [hsteps, afterAll, List.foldl_append, List.foldl_cons]
      rfl
    have hkept := hwritten.element_afterAll (hstep.length ▸ hi')
      (by rw [hstep.type, hfirst.type, hshape.1]; exact hlater)
    rw [hget i hi, hlast, hkept, hbefore.element_after_write hi' hs, hfirst.type, hshape.1]
  · rw [hget i hi, hfits.element_afterAll hi (hshape.1 ▸ hs), element_of_allocate h hi]

/-- The double 2.75. -/
def sample : Double := ⟨0x4006000000000000⟩

/-- Steps beside an element and at fault leave what was written to it, cut to an integer. -/
theorem sample_run : allocate 24 .int [3] = .ok (zeroed 24 .int [3]) ∧
    ((zeroed 24 .int [3]).afterAll [.fill sample, .set 1 sample, .poke 8 255, .set (2 ^ 62) sample, .get 7]).get 1 =
      .ok ⟨0x4000000000000000⟩ := by
  have h : allocate 24 .int [3] = .ok (zeroed 24 .int [3]) := by rfl
  have hlater : ∀ t ∈ [Step.poke 8 255, .set (2 ^ 62) sample, .get 7], ¬t.Touches .int 1 := by
    simp [Step.Touches, ElementType.size]
  refine ⟨h, ((runs_as_array h _).2.2.1 1 sample [.fill sample] (.set 1 sample) _ (by decide) rfl (Or.inr rfl)
    hlater).trans ?_⟩
  decide

end BenchKernel.Buffer
