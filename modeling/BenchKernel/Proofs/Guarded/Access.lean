import BenchKernel.Proofs.Outcome
import Mathlib.Data.List.Basic

/-! # Guarded access

The definitions that run take lines and texts apart by their shape, so there is no position in them that could be
wrong. A computation that keeps positions instead has to look up, cut and count, and each of these can be asked for
something that is not there. Here such operations are guarded: what they cannot do is a breach, which no error
describes and nothing recovers from. A guarded computation agrees with a plain one when it comes to the same outcome,
and then it has no breach.

A counter may go up to a limit, the size of the text or of the list of lines that it counts in. These are sizes of what
is held in memory and fit in a word. Room that a list asks for in advance is the sum of such sizes, and left out. -/

namespace BenchKernel

/-- What an operation by position cannot do. -/
inductive Breach
  | index (i length : Nat)
  | slice (first stop length : Nat)
  /-- An offset in bytes inside a character or behind the text. -/
  | offset (n : Nat)
  | underflow (n taken : Nat)
  | overflow (n limit : Nat)
  /-- A case that was taken to be impossible. -/
  | impossible
  deriving DecidableEq, Repr

/-- A computation that ends in a breach, reports an error or has a result. -/
abbrev Guarded (ε : Type) := ExceptT ε (Except Breach)

namespace Guarded

variable {ε α β γ δ : Type}

def breach (b : Breach) : Guarded ε α := ExceptT.mk (.error b)

/-- A computation without breaches. -/
def plain (x : Except ε α) : Guarded ε α := ExceptT.mk (.ok x)

/-- Changes the errors of a computation. -/
def mapError (f : ε → δ) (x : Guarded ε α) : Guarded δ α := ExceptT.mk (x.run.map (Except.mapError f))

/-- Reports the errors of a computation as stops. -/
def reported (x : Guarded ε α) : Guarded (Stop ε) α := mapError .error x

/-- Lets the faults of a computation through as stops. -/
def faulting (x : Guarded Fault α) : Guarded (Stop ε) α := mapError .fault x

/-! ### Operations -/

/-- The element of a list at a position. -/
def item (l : List α) (i : Nat) : Guarded ε α :=
  match l[i]? with
  | some a => pure a
  | none => breach (.index i l.length)

/-- The elements of a list from a position on, up to another one. -/
def slice (l : List α) (first stop : Nat) : Guarded ε (List α) :=
  if first ≤ stop ∧ stop ≤ l.length then pure ((l.take stop).drop first) else breach (.slice first stop l.length)

/-- Adds to a counter. -/
def raise (limit a b : Nat) : Guarded ε Nat := if a + b ≤ limit then pure (a + b) else breach (.overflow (a + b) limit)

/-- Takes from a counter. -/
def lower (a b : Nat) : Guarded ε Nat := if b ≤ a then pure (a - b) else breach (.underflow a b)

theorem item_eq {l : List α} {i : Nat} {a : α} (h : l[i]? = some a) : (item l i : Guarded ε α) = pure a := by
  rw [item, h]

theorem slice_append (a b c : List α) :
    (slice (a ++ b ++ c) a.length (a.length + b.length) : Guarded ε (List α)) = pure b := by
  have htake : (a ++ b ++ c).take (a.length + b.length) = a ++ b := List.take_left' (by simp)
  rw [slice, if_pos (by simp), htake, List.drop_left]

theorem slice_start (a b : List α) : (slice (a ++ b) 0 a.length : Guarded ε (List α)) = pure a := by
  have := @slice_append ε α [] a b
  rwa [List.length_nil, Nat.zero_add] at this

theorem slice_end (a b : List α) : (slice (a ++ b) a.length (a ++ b).length : Guarded ε (List α)) = pure b := by
  have := @slice_append ε α a b []
  rwa [List.append_nil, ← List.length_append] at this

theorem raise_eq {limit a b : Nat} (h : a + b ≤ limit) : (raise limit a b : Guarded ε Nat) = pure (a + b) := if_pos h

theorem lower_eq {a b : Nat} (h : b ≤ a) : (lower a b : Guarded ε Nat) = pure (a - b) := if_pos h

/-! ### Agreement -/

/-- A guarded computation ends as a plain one does: with the same error, or with a related result. -/
def Agrees (R : α → β → Prop) (x : Guarded ε α) : Except ε β → Prop
  | .ok b => ∃ a, x = pure a ∧ R a b
  | .error e => x = throw e

section
variable {R : α → β → Prop} {S : γ → δ → Prop} {x : Guarded ε α} {y : Except ε β}

theorem agrees_pure {a : α} {b : β} (h : R a b) : Agrees R (pure a : Guarded ε α) (.ok b) := ⟨a, rfl, h⟩

theorem agrees_throw (e : ε) : Agrees R (throw e : Guarded ε α) (.error e) := rfl

theorem Agrees.bind (h : Agrees R x y) {f : α → Guarded ε γ} {g : β → Except ε δ}
    (hf : ∀ a b, y = .ok b → R a b → Agrees S (f a) (g b)) : Agrees S (x >>= f) (y >>= g) := by
  cases y with
  | error e =>
    cases h
    exact agrees_throw e
  | ok b =>
    obtain ⟨a, rfl, hab⟩ := h
    exact hf a b rfl hab

theorem Agrees.map (h : Agrees R x y) {g : β → δ} {S : α → δ → Prop} (hS : ∀ a b, R a b → S a (g b)) :
    Agrees S x (y >>= fun b => pure (g b)) := by
  cases y with
  | error e => exact h
  | ok b =>
    obtain ⟨a, rfl, hab⟩ := h
    exact agrees_pure (hS a b hab)

theorem plain_ok (a : α) : (plain (.ok a) : Guarded ε α) = pure a := rfl

theorem agrees_plain (x : Except ε α) : Agrees Eq (plain x) x := by
  cases x with
  | error e => rfl
  | ok a => exact ⟨a, rfl, rfl⟩

theorem eq_plain_of_agrees {x : Guarded ε α} {y : Except ε α} (h : Agrees Eq x y) : x = plain y := by
  cases y with
  | error e => exact h
  | ok b =>
    obtain ⟨a, rfl, rfl⟩ := h
    rfl

theorem Agrees.mapError (h : Agrees R x y) (f : ε → δ) : Agrees R (Guarded.mapError f x) (y.mapError f) := by
  cases y with
  | error e =>
    cases h
    rfl
  | ok b =>
    obtain ⟨a, rfl, hab⟩ := h
    exact ⟨a, rfl, hab⟩

theorem Agrees.reported (h : Agrees R x y) : Agrees R (Guarded.reported x) (BenchKernel.reported y) := by
  have heq : BenchKernel.reported y = y.mapError .error := by cases y <;> rfl
  rw [heq]
  exact h.mapError Stop.error

theorem Agrees.faulting {x : Guarded Fault α} {y : Except Fault β} (h : Agrees R x y) :
    Agrees R (Guarded.faulting x : Guarded (Stop ε) α) (BenchKernel.faulting y) := by
  have heq : (BenchKernel.faulting y : Except (Stop ε) β) = y.mapError .fault := by cases y <;> rfl
  rw [heq]
  exact h.mapError Stop.fault

end

end Guarded

end BenchKernel
