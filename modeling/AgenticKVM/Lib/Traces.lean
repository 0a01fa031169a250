import AgenticKVM.Lib.Prog

/-! # The order and the number of effects

Two properties of every run of a program, whether it returns or raises: `Preceded p g m`, an effect
with `p` only comes after one with `g`, and `AtMost p n m`, no run performs more than `n` effects
with `p`. The first half of the module is about the forms of exception handling, which keep the
effects of their parts (`tryFinally`, `suppress`, `mapError`). -/

namespace AgenticKVM.Lib.Prog

variable {η σ ε α β : Type}

/-! ## Exception handling -/

/-- `try: m finally: cleanup`. What the cleanup raises takes the place of what `m` returned or
raised. -/
def tryFinally (m : Prog η σ ε α) (cleanup : Prog η σ ε Unit) : Prog η σ ε α := fun history s =>
  let first := m history s
  let last := cleanup (history ++ first.effects) first.state
  ⟨last.result.bind fun _ => first.result, last.state, first.effects ++ last.effects⟩

/-- `try: m except caught: pass`. -/
def suppress (caught : ε → Bool) (m : Prog η σ ε Unit) : Prog η σ ε Unit := fun history s =>
  let outcome := m history s
  ⟨match outcome.result with
    | .error e => if caught e then .ok () else .error e
    | .ok () => .ok (), outcome.state, outcome.effects⟩

/-- `try: m except e: raise f(e)`. -/
def mapError (f : ε → ε) (m : Prog η σ ε α) : Prog η σ ε α := fun history s =>
  ⟨(m history s).result.mapError f, (m history s).state, (m history s).effects⟩

section Handling

variable {history effects : List η} {s s' : σ}

/-- The cleanup runs after whatever the program did. -/
@[simp] theorem tryFinally_effects (m : Prog η σ ε α) (cleanup : Prog η σ ε Unit) :
    (tryFinally m cleanup history s).effects = (m history s).effects ++
      (cleanup (history ++ (m history s).effects) (m history s).state).effects := rfl

/-- Suppressing an exception leaves the effects. -/
@[simp] theorem suppress_effects (caught : ε → Bool) (m : Prog η σ ε Unit) :
    (suppress caught m history s).effects = (m history s).effects := rfl

/-- Translating an exception leaves the effects. -/
@[simp] theorem mapError_effects (f : ε → ε) (m : Prog η σ ε α) :
    (mapError f m history s).effects = (m history s).effects := rfl

/-- A protected program that returns has returned by itself, and was cleaned up after. -/
theorem tryFinally_run_inv {m : Prog η σ ε α} {cleanup : Prog η σ ε Unit} {a : α}
    (run : tryFinally m cleanup history s = ⟨.ok a, s', effects⟩) :
    ∃ mid before after, m history s = ⟨.ok a, mid, before⟩ ∧
      cleanup (history ++ before) mid = ⟨.ok (), s', after⟩ ∧ effects = before ++ after := by
  match first : m history s with
  | ⟨result, mid, before⟩ =>
      match last : cleanup (history ++ before) mid with
      | ⟨.error e, state, after⟩ =>
          simp only [tryFinally, first, last, Except.bind] at run
          cases run
      | ⟨.ok (), state, after⟩ =>
          simp only [tryFinally, first, last, Except.bind] at run
          cases run
          exact ⟨mid, before, after, rfl, last, rfl⟩

/-- A program that returns has met no handler. -/
theorem mapError_run_inv {f : ε → ε} {m : Prog η σ ε α} {a : α}
    (run : mapError f m history s = ⟨.ok a, s', effects⟩) :
    m history s = ⟨.ok a, s', effects⟩ := by
  match outcome : m history s with
  | ⟨.error e, state, performed⟩ =>
      simp only [mapError, outcome, Except.mapError] at run
      cases run
  | ⟨.ok b, state, performed⟩ =>
      simp only [mapError, outcome, Except.mapError] at run
      cases run
      rfl

end Handling

section Traces

variable {p g : η → Prop}

/-- A program never performs an effect, whatever it raises instead. -/
theorem Never.mapError {f : ε → ε} {m : Prog η σ ε α} (never : Never m p) :
    Never (mapError f m) p :=
  fun history s => never history s

/-- A program never performs an effect, whatever is suppressed. -/
theorem Never.suppress {caught : ε → Bool} {m : Prog η σ ε Unit} (never : Never m p) :
    Never (suppress caught m) p :=
  fun history s => never history s

/-- A program with a cleanup never performs an effect where neither does. -/
theorem Never.tryFinally {m : Prog η σ ε α} {cleanup : Prog η σ ε Unit} (first : Never m p)
    (last : Never cleanup p) : Never (tryFinally m cleanup) p := by
  rintro history s ⟨effect, member, holds⟩
  rw [tryFinally_effects, List.mem_append] at member
  rcases member with member | member
  · exact first history s ⟨effect, member, holds⟩
  · exact last _ _ ⟨effect, member, holds⟩

/-! ## What comes before -/

/-- In every run an effect with `p` comes after an effect with `g`. -/
def Preceded (p g : η → Prop) (m : Prog η σ ε α) : Prop :=
  ∀ history s before effect after, (m history s).effects = before ++ effect :: after →
    p effect → ∃ earlier ∈ before, g earlier

/-- A program that returns has performed an effect with `g`. -/
def Shows (g : η → Prop) (m : Prog η σ ε α) : Prop :=
  ∀ history s a, (m history s).result = .ok a → ∃ effect ∈ (m history s).effects, g effect

/-- Where an effect is never performed, whatever is asked to precede it does. -/
theorem Never.preceded {m : Prog η σ ε α} (never : Never m p) : Preceded p g m := by
  intro history s before effect after split holds
  refine absurd ⟨effect, ?_, holds⟩ (never history s)
  rw [split]
  exact List.mem_append_right before List.mem_cons_self

/-- What is performed after a part that never does `p` comes after all of that part. -/
theorem Never.bind_split {m : Prog η σ ε α} {f : α → Prog η σ ε β} (never : Never m p)
    {history before after : List η} {s : σ} {effect : η}
    (split : ((m >>= f) history s).effects = before ++ effect :: after) (holds : p effect) :
    ∃ a mid, (m history s).result = .ok a ∧ ∃ between,
      before = (m history s).effects ++ between ∧
      (f a (history ++ (m history s).effects) mid).effects = between ++ effect :: after := by
  match run : m history s with
  | ⟨.error e, mid, first⟩ =>
      rw [bind_run_error run f] at split
      refine absurd ⟨effect, ?_, holds⟩ (never history s)
      rw [run]
      show effect ∈ first
      rw [show first = before ++ effect :: after from split]
      exact List.mem_append_right before List.mem_cons_self
  | ⟨.ok a, mid, first⟩ =>
      rw [bind_run_ok run f, Outcome.prepend_effects] at split
      refine ⟨a, mid, rfl, ?_⟩
      rcases List.append_eq_append_iff.mp split with
        ⟨between, isBefore, rest⟩ | ⟨inside, isFirst, rest⟩
      · exact ⟨between, isBefore, rest⟩
      · -- the effect would be one of the first part
        cases inside with
        | nil => exact ⟨[], by simpa using isFirst.symm, by simpa using rest.symm⟩
        | cons head tail =>
            injection rest with same _
            refine absurd ⟨effect, ?_, holds⟩ (never history s)
            rw [run]
            show effect ∈ first
            rw [isFirst, same]
            exact List.mem_append_right before List.mem_cons_self

/-- **The guard rule**: after a part that never does `p` and returns only where it has done `g`,
every effect with `p` comes after one with `g`. -/
theorem Never.preceded_bind {m : Prog η σ ε α} {f : α → Prog η σ ε β} (never : Never m p)
    (shows : Shows g m) : Preceded p g (m >>= f) := by
  intro history s before effect after split holds
  obtain ⟨a, mid, returned, between, rfl, -⟩ := never.bind_split split holds
  obtain ⟨earlier, member, guard⟩ := shows history s a returned
  exact ⟨earlier, List.mem_append_left between member, guard⟩

/-- A part that never does `p` may come first. -/
theorem Preceded.bind {m : Prog η σ ε α} {f : α → Prog η σ ε β} (never : Never m p)
    (rest : ∀ a, Preceded p g (f a)) : Preceded p g (m >>= f) := by
  intro history s before effect after split holds
  obtain ⟨a, mid, -, between, rfl, later⟩ := never.bind_split split holds
  obtain ⟨earlier, member, guard⟩ := rest a _ _ between effect after later holds
  exact ⟨earlier, List.mem_append_right _ member, guard⟩

/-- What precedes an effect does so whatever is raised instead. -/
theorem Preceded.mapError {f : ε → ε} {m : Prog η σ ε α} (preceded : Preceded p g m) :
    Preceded p g (Prog.mapError f m) :=
  fun history s => preceded history s

/-- A cleanup that never does `p` may come last. -/
theorem Preceded.tryFinally {m : Prog η σ ε α} {cleanup : Prog η σ ε Unit}
    (preceded : Preceded p g m) (last : Never cleanup p) :
    Preceded p g (Prog.tryFinally m cleanup) := by
  intro history s before effect after split holds
  rw [tryFinally_effects] at split
  rcases List.append_eq_append_iff.mp split with ⟨between, -, rest⟩ | ⟨inside, isFirst, rest⟩
  · -- the effect would be one of the cleanup
    refine absurd ⟨effect, ?_, holds⟩ (last (history ++ (m history s).effects) (m history s).state)
    rw [rest]
    exact List.mem_append_right between List.mem_cons_self
  · cases inside with
    | nil =>
        refine absurd ⟨effect, ?_, holds⟩
          (last (history ++ (m history s).effects) (m history s).state)
        rw [List.nil_append] at rest
        rw [← rest]
        exact List.mem_cons_self
    | cons head tail =>
        injection rest with same _
        subst same
        exact preceded history s before effect tail isFirst holds

end Traces

/-! ## How often -/

/-- No run performs more than `n` effects with `p`. -/
def AtMost (p : η → Bool) (n : Nat) (m : Prog η σ ε α) : Prop :=
  ∀ history s, (m history s).effects.countP p ≤ n

section Counts

variable {p : η → Bool} {n : Nat}

/-- What is never performed is performed at most any number of times. -/
theorem Never.atMost {m : Prog η σ ε α} (never : Never m (p · = true)) : AtMost p n m := by
  intro history s
  have none : (m history s).effects.countP p = 0 := by
    rw [List.countP_eq_zero]
    intro effect member holds
    exact never history s ⟨effect, member, holds⟩
  omega

/-- One effect is at most one effect with `p`. -/
theorem AtMost.perform (answer : List η → η × Except ε α) :
    AtMost p 1 (perform answer : Prog η σ ε α) := by
  intro history s
  rw [perform_run, List.countP_singleton]
  split <;> omega

/-- An effect is as often performed, whatever is raised instead. -/
theorem AtMost.mapError {f : ε → ε} {m : Prog η σ ε α} (most : AtMost p n m) :
    AtMost p n (Prog.mapError f m) :=
  fun history s => most history s

/-- The effects with `p` are those of the second part, where the first never does `p`. -/
theorem AtMost.bind {m : Prog η σ ε α} {f : α → Prog η σ ε β} (never : Never m (p · = true))
    (rest : ∀ a, AtMost p n (f a)) : AtMost p n (m >>= f) := by
  intro history s
  have none := @Never.atMost η σ ε α p 0 m never history s
  match run : m history s with
  | ⟨.error e, mid, first⟩ =>
      rw [run] at none
      rw [bind_run_error run f]
      exact Nat.le_trans none (Nat.zero_le n)
  | ⟨.ok a, mid, first⟩ =>
      rw [run] at none
      rw [bind_run_ok run f, Outcome.prepend_effects, List.countP_append]
      have later := rest a (history ++ first) mid
      have none : first.countP p ≤ 0 := none
      omega

/-- The effects with `p` are those of the first part, where the second never does `p`. -/
theorem AtMost.bind_never {m : Prog η σ ε α} {f : α → Prog η σ ε β} (most : AtMost p n m)
    (never : ∀ a, Never (f a) (p · = true)) : AtMost p n (m >>= f) := by
  intro history s
  have first := most history s
  match run : m history s with
  | ⟨.error e, mid, before⟩ =>
      rw [run] at first
      rw [bind_run_error run f]
      exact first
  | ⟨.ok a, mid, before⟩ =>
      rw [run] at first
      rw [bind_run_ok run f, Outcome.prepend_effects, List.countP_append]
      have none := @Never.atMost η σ ε β p 0 (f a) (never a) (history ++ before) mid
      have first : before.countP p ≤ n := first
      omega

/-- The effects with `p` are those of the protected part, where the cleanup never does `p`. -/
theorem AtMost.tryFinally {m : Prog η σ ε α} {cleanup : Prog η σ ε Unit} (most : AtMost p n m)
    (never : Never cleanup (p · = true)) : AtMost p n (Prog.tryFinally m cleanup) := by
  intro history s
  rw [tryFinally_effects, List.countP_append]
  have first := most history s
  have none := @Never.atMost η σ ε Unit p 0 cleanup never
    (history ++ (m history s).effects) (m history s).state
  omega

end Counts

/-! ## Opened and closed -/

/-- **Closed once**: nothing is opened and nothing closed, or one thing is opened and closed once,
at the very end. -/
def ClosedOnce (opens closes : η → Prop) (effects : List η) : Prop :=
  (∀ effect ∈ effects, ¬ opens effect ∧ ¬ closes effect) ∨
    ∃ before opened inner closed, effects = before ++ opened :: (inner ++ [closed]) ∧
      opens opened ∧ closes closed ∧
      ∀ effect ∈ before ++ inner, ¬ opens effect ∧ ¬ closes effect

section Brackets

variable {opens closes : η → Prop}

/-- Effects that open and close nothing may come first. -/
theorem ClosedOnce.append {first effects : List η}
    (none : ∀ effect ∈ first, ¬ opens effect ∧ ¬ closes effect)
    (once : ClosedOnce opens closes effects) : ClosedOnce opens closes (first ++ effects) := by
  rcases once with neither | ⟨before, opened, inner, closed, rfl, isOpened, isClosed, others⟩
  · left
    intro effect member
    rcases List.mem_append.mp member with member | member
    exacts [none effect member, neither effect member]
  · refine .inr ⟨first ++ before, opened, inner, closed, by simp, isOpened, isClosed, ?_⟩
    intro effect member
    rw [List.append_assoc] at member
    rcases List.mem_append.mp member with member | member
    exacts [none effect member, others effect member]

/-- A first part that opens and closes nothing. -/
theorem ClosedOnce.bind {m : Prog η σ ε α} {f : α → Prog η σ ε β} {history : List η} {s : σ}
    (none : Never m fun effect => opens effect ∨ closes effect)
    (rest : ∀ a history s, ClosedOnce opens closes (f a history s).effects) :
    ClosedOnce opens closes ((m >>= f) history s).effects := by
  have neither : ∀ effect ∈ (m history s).effects, ¬ opens effect ∧ ¬ closes effect := by
    intro effect member
    rw [← not_or]
    exact fun holds => none history s ⟨effect, member, holds⟩
  match run : m history s with
  | ⟨.error e, mid, first⟩ =>
      rw [run] at neither
      rw [bind_run_error run f]
      exact .inl neither
  | ⟨.ok a, mid, first⟩ =>
      rw [run] at neither
      rw [bind_run_ok run f, Outcome.prepend_effects]
      exact (rest a _ _).append neither

end Brackets

end AgenticKVM.Lib.Prog
