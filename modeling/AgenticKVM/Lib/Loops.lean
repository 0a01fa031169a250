import Mathlib.Data.Nat.Basic

/-! # While loops

`LoopEnds guard body start last` says that `while guard(state): state = body(state)`, begun in
`start`, stops in `last`. A loop stops in one state at most (`LoopEnds.unique`), it stops at all
where every round makes a measure smaller (`LoopEnds.exists_of_shrinks`), and what every round keeps
holds of the state it stops in (`LoopEnds.kept`). -/

namespace AgenticKVM.Lib

variable {σ τ : Type} {guard : σ → Bool} {body : σ → σ}

/-- **The runs of a while loop**: it stops where its guard fails, and otherwise goes on from the
state its body leaves. -/
inductive LoopEnds (guard : σ → Bool) (body : σ → σ) : σ → σ → Prop
  | stop {state : σ} (fails : guard state = false) : LoopEnds guard body state state
  | round {state last : σ} (goes : guard state = true)
      (rest : LoopEnds guard body (body state) last) : LoopEnds guard body state last

namespace LoopEnds

/-- The guard fails in the state a loop stops in. -/
theorem guard_eq_false {start last : σ} (ends : LoopEnds guard body start last) :
    guard last = false := by
  induction ends with
  | stop fails => exact fails
  | round _ _ ih => exact ih

/-- A loop stops in one state at most. -/
theorem unique {start last last' : σ} (ends : LoopEnds guard body start last)
    (ends' : LoopEnds guard body start last') : last = last' := by
  induction ends with
  | stop fails =>
      cases ends' with
      | stop _ => rfl
      | round goes _ => rw [fails] at goes; cases goes
  | round goes _ ih =>
      cases ends' with
      | stop fails => rw [fails] at goes; cases goes
      | round _ rest' => exact ih rest'

/-- **Invariant rule**: a value that every round keeps is the same at the end. -/
theorem kept {f : σ → τ} (keeps : ∀ state, guard state = true → f (body state) = f state)
    {start last : σ} (ends : LoopEnds guard body start last) : f last = f start := by
  induction ends with
  | stop _ => rfl
  | @round state last goes _ ih => exact ih.trans (keeps state goes)

/-- **Termination rule**: a loop whose rounds make a measure smaller stops. -/
theorem exists_of_shrinks (measure : σ → Nat)
    (shrinks : ∀ state, guard state = true → measure (body state) < measure state) (start : σ) :
    ∃ last, LoopEnds guard body start last := by
  -- the induction is on the measure of the state the loop is begun in
  induction size : measure start using Nat.strong_induction_on generalizing start with
  | _ size' ih =>
      cases goes : guard start with
      | false => exact ⟨start, stop goes⟩
      | true =>
          have smaller := shrinks start goes
          obtain ⟨last, rest⟩ := ih (measure (body start)) (by omega) (body start) rfl
          exact ⟨last, round goes rest⟩

end LoopEnds

end AgenticKVM.Lib
