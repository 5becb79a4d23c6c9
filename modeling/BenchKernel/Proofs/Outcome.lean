import BenchKernel.Fault

/-! # Outcomes taken apart

A computation that can stop is a sequence of steps. When it ends with a result every step had one; when it
stops, one step did and all before it had a result. -/

namespace BenchKernel

theorem ok_bind {ε α β : Type} (a : α) (f : α → Except ε β) : (Except.ok a >>= f) = f a := rfl

theorem throw_bind {ε α β : Type} (e : ε) (f : α → Except ε β) : ((throw e : Except ε α) >>= f) = .error e := rfl

theorem bind_eq_ok {ε α β : Type} {x : Except ε α} {f : α → Except ε β} {b : β} :
    (x >>= f) = .ok b ↔ ∃ a, x = .ok a ∧ f a = .ok b := by
  cases x with
  | error e => exact ⟨fun h => (by cases h), fun ⟨a, h, _⟩ => (by cases h)⟩
  | ok a =>
    refine ⟨fun h => ⟨a, rfl, h⟩, ?_⟩
    rintro ⟨a', h, hf⟩
    cases h
    exact hf

theorem bind_eq_error {ε α β : Type} {x : Except ε α} {f : α → Except ε β} {e : ε} :
    (x >>= f) = .error e ↔ x = .error e ∨ ∃ a, x = .ok a ∧ f a = .error e := by
  cases x with
  | error e' =>
    refine ⟨fun h => Or.inl (by cases h; rfl), ?_⟩
    rintro (h | ⟨a, h, -⟩)
    · cases h; rfl
    · cases h
  | ok a =>
    refine ⟨fun h => Or.inr ⟨a, rfl, h⟩, ?_⟩
    rintro (h | ⟨a', h, hf⟩)
    · cases h
    · cases h; exact hf

theorem check_eq_ok {ε α : Type} {c : Prop} [Decidable c] {x : Except ε α} {e : ε} {a : α} :
    (if c then x else .error e) = .ok a ↔ c ∧ x = .ok a := by
  by_cases h : c <;> simp [h]

theorem reported_eq_ok {ε α : Type} {x : Except ε α} {a : α} : reported x = .ok a ↔ x = .ok a := by
  cases x <;> simp [reported]

theorem reported_eq_error {ε α : Type} {x : Except ε α} {s : Stop ε} :
    reported x = .error s ↔ ∃ e, x = .error e ∧ s = .error e := by
  cases x <;> simp [reported, eq_comm]

theorem reported_bind {ε α β : Type} (x : Except ε α) (f : α → Except ε β) :
    reported (x >>= f) = reported x >>= fun a => reported (f a) := by
  cases x <;> rfl

theorem faulting_eq_ok {ε α : Type} {x : Except Fault α} {a : α} :
    (faulting x : Except (Stop ε) α) = .ok a ↔ x = .ok a := by
  cases x <;> simp [faulting]

theorem faulting_eq_error {ε α : Type} {x : Except Fault α} {f : Fault} :
    (faulting x : Except (Stop ε) α) = .error (.fault f) ↔ x = .error f := by
  cases x <;> simp [faulting]

end BenchKernel
