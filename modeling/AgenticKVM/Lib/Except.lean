import Mathlib.Data.List.Forall2
import Mathlib.Logic.Basic

/-! # Composed computations that may raise

How the outcome of a composed `Except` computation is that of its parts. -/

namespace AgenticKVM.Lib

variable {ε α β : Type}

/-- A composed computation returns exactly when both its parts do. -/
theorem except_bind_eq_ok {m : Except ε α} {f : α → Except ε β} {b : β} :
    m >>= f = .ok b ↔ ∃ a, m = .ok a ∧ f a = .ok b := by
  cases m with
  | error e => simp [bind, Except.bind]
  | ok a => simp [bind, Except.bind]

/-- A check and what follows it return exactly when both do. -/
theorem except_check_eq_ok {m : Except ε Unit} {f : Unit → Except ε β} {b : β} :
    m >>= f = .ok b ↔ m = .ok () ∧ f () = .ok b := by
  rw [except_bind_eq_ok]
  exact ⟨fun ⟨(), both⟩ => both, fun both => ⟨(), both⟩⟩

/-- A composed computation raises what its first part raises, or what its second part does. -/
theorem except_bind_eq_error {m : Except ε α} {f : α → Except ε β} {e : ε} :
    m >>= f = .error e ↔ m = .error e ∨ ∃ a, m = .ok a ∧ f a = .error e := by
  cases m with
  | error d => simp [bind, Except.bind]
  | ok a => simp [bind, Except.bind]

/-- A computation goes on from what was returned. -/
@[simp] theorem except_ok_bind (a : α) (f : α → Except ε β) : (Except.ok a >>= f) = f a := rfl

/-- A computation ends at what was raised. -/
@[simp] theorem except_error_bind (e : ε) (f : α → Except ε β) :
    (Except.error e >>= f) = .error e := rfl

/-- `pure` returns. -/
@[simp] theorem except_pure (a : α) : (pure a : Except ε α) = .ok a := rfl

/-- `throw` raises. -/
@[simp] theorem except_throw (e : ε) : (throw e : Except ε α) = .error e := rfl

/-- Where each item is computed, so is the list. -/
theorem except_mapM_eq_ok {f : α → Except ε β} {items : List α} {results : List β}
    (each : List.Forall₂ (fun a b => f a = .ok b) items results) :
    items.mapM f = .ok results := by
  induction each with
  | nil => rfl
  | cons here _ ih =>
      rw [List.mapM_cons, here, except_ok_bind, ih]
      rfl

end AgenticKVM.Lib
