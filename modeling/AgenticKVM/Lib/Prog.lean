import Mathlib.Data.List.Basic

/-! # Programs with effects, exceptions and a state

A program reads the effects that have been performed before it (`history`), may change a state,
may perform further effects and may raise. Changes of the state and effects that precede a raise
stay, as they do in a language with exceptions. The environment is a function of the history, so
that any adaptive behaviour of it is one such function.

The rules below say how the run of a composed program is made of the runs of its parts. Proofs about
programs go forward with `bind_run_ok`, backward from an effect with `Does.bind_inv`, and over the
state with `Keeps.bind`. -/

namespace AgenticKVM.Lib

/-- What one run of a program leaves: its result, the state after it and the effects it performed,
oldest first. -/
structure Outcome (η σ ε α : Type) where
  result : Except ε α
  state : σ
  effects : List η

/-- The outcome of a run that performed some effects before. -/
def Outcome.prepend {η σ ε α : Type} (before : List η) (outcome : Outcome η σ ε α) :
    Outcome η σ ε α :=
  ⟨outcome.result, outcome.state, before ++ outcome.effects⟩

section Prepend

variable {η σ ε α : Type} (before : List η) (outcome : Outcome η σ ε α)

@[simp] theorem Outcome.prepend_result : (outcome.prepend before).result = outcome.result := rfl

@[simp] theorem Outcome.prepend_state : (outcome.prepend before).state = outcome.state := rfl

@[simp] theorem Outcome.prepend_effects :
    (outcome.prepend before).effects = before ++ outcome.effects := rfl

@[simp] theorem Outcome.prepend_nil : outcome.prepend [] = outcome := rfl

@[simp] theorem Outcome.prepend_prepend (earlier : List η) :
    (outcome.prepend before).prepend earlier = outcome.prepend (earlier ++ before) := by
  simp only [Outcome.prepend, List.append_assoc]

end Prepend

/-- A program over effects `η`, states `σ` and exceptions `ε`. -/
def Prog (η σ ε α : Type) : Type := List η → σ → Outcome η σ ε α

namespace Prog

variable {η σ ε α β : Type}

/-- Return a value and do nothing else. -/
def ret (a : α) : Prog η σ ε α := fun _ s => ⟨.ok a, s, []⟩

/-- Run `m` and, unless it raises, go on with `f` from the history and the state `m` leaves. -/
def bind (m : Prog η σ ε α) (f : α → Prog η σ ε β) : Prog η σ ε β := fun history s =>
  match m history s with
  | ⟨.error e, s', effects⟩ => ⟨.error e, s', effects⟩
  | ⟨.ok a, s', effects⟩ => (f a (history ++ effects) s').prepend effects

instance : Monad (Prog η σ ε) where
  pure := ret
  bind := bind

/-- Raise an exception. -/
def throw (e : ε) : Prog η σ ε α := fun _ s => ⟨.error e, s, []⟩

/-- Read the state. -/
def get : Prog η σ ε σ := fun _ s => ⟨.ok s, s, []⟩

/-- Change the state. -/
def modify (f : σ → σ) : Prog η σ ε Unit := fun _ s => ⟨.ok (), f s, []⟩

/-- A computation without effects that may raise. -/
def ofExcept (r : Except ε α) : Prog η σ ε α := fun _ s => ⟨r, s, []⟩

/-- Perform one effect: the environment's answer to the history is recorded and returned. -/
def perform (answer : List η → η × Except ε α) : Prog η σ ε α := fun history s =>
  ⟨(answer history).2, s, [(answer history).1]⟩

/-! ## Runs -/

section Runs

variable {history effects : List η} {s s' : σ}

@[simp] theorem pure_run (a : α) : (pure a : Prog η σ ε α) history s = ⟨.ok a, s, []⟩ := rfl

@[simp] theorem throw_run (e : ε) :
    (throw e : Prog η σ ε α) history s = ⟨.error e, s, []⟩ := rfl

@[simp] theorem get_run : (get : Prog η σ ε σ) history s = ⟨.ok s, s, []⟩ := rfl

@[simp] theorem modify_run (f : σ → σ) :
    (modify f : Prog η σ ε Unit) history s = ⟨.ok (), f s, []⟩ := rfl

@[simp] theorem ofExcept_run (r : Except ε α) :
    (ofExcept r : Prog η σ ε α) history s = ⟨r, s, []⟩ := rfl

@[simp] theorem perform_run (answer : List η → η × Except ε α) :
    (perform answer : Prog η σ ε α) history s
      = ⟨(answer history).2, s, [(answer history).1]⟩ := rfl

/-- Where the first part returns, a composed program goes on with the second. -/
theorem bind_run_ok {m : Prog η σ ε α} {a : α} (run : m history s = ⟨.ok a, s', effects⟩)
    (f : α → Prog η σ ε β) :
    (m >>= f) history s = (f a (history ++ effects) s').prepend effects := by
  change bind m f history s = _
  simp only [bind, run]

/-- Where the first part raises, so does a composed program, and the second part never runs. -/
theorem bind_run_error {m : Prog η σ ε α} {e : ε} (run : m history s = ⟨.error e, s', effects⟩)
    (f : α → Prog η σ ε β) : (m >>= f) history s = ⟨.error e, s', effects⟩ := by
  change bind m f history s = _
  simp only [bind, run]

/-- Reading the state first changes nothing. -/
@[simp] theorem get_bind_run (f : σ → Prog η σ ε β) : (get >>= f) history s = f s history s := by
  rw [bind_run_ok get_run f, List.append_nil, Outcome.prepend_nil]

/-- After a change of the state the rest runs from the new one. -/
@[simp] theorem modify_bind_run (g : σ → σ) (f : Unit → Prog η σ ε β) :
    (modify g >>= f) history s = f () history (g s) := by
  rw [bind_run_ok (modify_run g) f, List.append_nil, Outcome.prepend_nil]

/-- A program that only returns hands its value on, with the history and the state as they were. -/
@[simp] theorem pure_bind_run (a : α) (f : α → Prog η σ ε β) :
    ((pure a : Prog η σ ε α) >>= f) history s = f a history s := by
  rw [bind_run_ok (pure_run a) f, List.append_nil, Outcome.prepend_nil]

/-- After a computation without effects that returns, a composed program goes on where it was. -/
theorem ofExcept_bind_run {r : Except ε α} {a : α} (returned : r = .ok a) (f : α → Prog η σ ε β) :
    (ofExcept r >>= f) history s = f a history s := by
  rw [returned, bind_run_ok (ofExcept_run (Except.ok a)) f, List.append_nil, Outcome.prepend_nil]

/-- A computation without effects that raises ends a composed program where it was. -/
theorem ofExcept_bind_run_error {r : Except ε α} {e : ε} (raised : r = .error e)
    (f : α → Prog η σ ε β) : (ofExcept r >>= f) history s = ⟨.error e, s, []⟩ := by
  rw [raised, bind_run_error (ofExcept_run (Except.error e)) f]

/-- A computation without effects at the end changes the result only. -/
theorem bind_ofExcept_run (m : Prog η σ ε α) (f : α → Except ε β) :
    (m >>= fun a => ofExcept (f a)) history s
      = ⟨(m history s).result.bind f, (m history s).state, (m history s).effects⟩ := by
  match run : m history s with
  | ⟨.error e, mid, before⟩ =>
      rw [bind_run_error run]
      rfl
  | ⟨.ok a, mid, before⟩ =>
      rw [bind_run_ok run, ofExcept_run, Outcome.prepend, List.append_nil]
      rfl

/-- A composed program that returns has returned from its first part. -/
theorem bind_run_inv {m : Prog η σ ε α} {f : α → Prog η σ ε β} {b : β}
    (run : (m >>= f) history s = ⟨.ok b, s', effects⟩) :
    ∃ a mid before after, m history s = ⟨.ok a, mid, before⟩ ∧
      f a (history ++ before) mid = ⟨.ok b, s', after⟩ ∧ effects = before ++ after := by
  match first : m history s with
  | ⟨.error e, mid, before⟩ =>
      rw [bind_run_error first f] at run
      cases run
  | ⟨.ok a, mid, before⟩ =>
      rw [bind_run_ok first f] at run
      match second : f a (history ++ before) mid with
      | ⟨result, state, after⟩ =>
          rw [second] at run
          cases run
          exact ⟨a, mid, before, after, rfl, second, rfl⟩

/-- A computation without effects that returns gives its value and leaves everything alone. -/
theorem ofExcept_run_inv {r : Except ε α} {a : α}
    (run : (ofExcept r : Prog η σ ε α) history s = ⟨.ok a, s', effects⟩) :
    r = .ok a ∧ s' = s ∧ effects = [] := by
  rw [ofExcept_run] at run
  cases run
  exact ⟨rfl, rfl, rfl⟩

end Runs

/-! ## What a program does

`Does m p history s` says that the run of `m` performs an effect with property `p`. -/

/-- The run of `m` performs an effect that satisfies `p`. -/
def Does (m : Prog η σ ε α) (p : η → Prop) (history : List η) (s : σ) : Prop :=
  ∃ effect ∈ (m history s).effects, p effect

/-- A program that never performs an effect with property `p`, from any history and state. -/
def Never (m : Prog η σ ε α) (p : η → Prop) : Prop := ∀ history s, ¬ Does m p history s

section Does

variable {p : η → Prop} {history : List η} {s : σ}

/-- A composed program does what its first part does and, where that returns, what its second
part does from there. -/
theorem does_bind {m : Prog η σ ε α} {f : α → Prog η σ ε β} :
    Does (m >>= f) p history s ↔
      Does m p history s ∨ ∃ a mid before, m history s = ⟨.ok a, mid, before⟩ ∧
        Does (f a) p (history ++ before) mid := by
  match first : m history s with
  | ⟨.error e, mid, before⟩ => simp [Does, bind_run_error first f, first]
  | ⟨.ok a, mid, before⟩ =>
      simp only [Does, bind_run_ok first f, first, Outcome.prepend_effects, List.mem_append,
        or_and_right, exists_or]
      constructor
      · rintro (here | later)
        exacts [Or.inl here, Or.inr ⟨a, mid, before, rfl, later⟩]
      · rintro (here | ⟨_, _, _, same, later⟩)
        · exact Or.inl here
        · cases same
          exact Or.inr later

/-- **Inversion**: what a composed program does and its first part never does, its second part does,
from where the first returned. -/
theorem Does.bind_inv {m : Prog η σ ε α} {f : α → Prog η σ ε β} (never : Never m p)
    (does : Does (m >>= f) p history s) :
    ∃ a mid before, m history s = ⟨.ok a, mid, before⟩ ∧
      Does (f a) p (history ++ before) mid := by
  rw [does_bind] at does
  exact does.resolve_left (never history s)

/-- After a first part that returns without doing `p`, a composed program does `p` exactly when
its second part does. -/
theorem does_bind_ok {m : Prog η σ ε α} {f : α → Prog η σ ε β} {a : α} {mid : σ}
    {before : List η} (never : Never m p) (run : m history s = ⟨.ok a, mid, before⟩) :
    Does (m >>= f) p history s ↔ Does (f a) p (history ++ before) mid := by
  rw [does_bind, or_iff_right (never history s)]
  constructor
  · rintro ⟨_, _, _, run', does⟩
    rw [run] at run'
    cases run'
    exact does
  · exact fun does => ⟨a, mid, before, run, does⟩

/-- After a computation without effects, a composed program does what its second part does. -/
theorem does_ofExcept_bind {r : Except ε α} {f : α → Prog η σ ε β} :
    Does (ofExcept r >>= f) p history s ↔ ∃ a, r = .ok a ∧ Does (f a) p history s := by
  cases r with
  | error e =>
      simp only [Does, bind_run_error (ofExcept_run (Except.error e)) f, List.not_mem_nil,
        false_and, exists_false, reduceCtorEq]
  | ok a =>
      simp only [Does, bind_run_ok (ofExcept_run (Except.ok a)) f, Outcome.prepend_nil,
        List.append_nil, Except.ok.injEq, exists_eq_left']

/-- Returning performs nothing. -/
theorem Never.pure (a : α) : Never (pure a : Prog η σ ε α) p := by
  rintro history s ⟨effect, member, -⟩
  cases member

/-- Raising performs nothing. -/
theorem Never.throw (e : ε) : Never (throw e : Prog η σ ε α) p := by
  rintro history s ⟨effect, member, -⟩
  cases member

/-- A change of the state performs nothing. -/
theorem Never.modify (f : σ → σ) : Never (modify f : Prog η σ ε Unit) p := by
  rintro history s ⟨effect, member, -⟩
  cases member

/-- Reading the state performs nothing. -/
theorem Never.get : Never (get : Prog η σ ε σ) p := by
  rintro history s ⟨effect, member, -⟩
  cases member

/-- A computation that may raise performs nothing. -/
theorem Never.ofExcept (r : Except ε α) : Never (ofExcept r : Prog η σ ε α) p := by
  rintro history s ⟨effect, member, -⟩
  cases member

/-- Performing an effect that can only be answered outside `p` never does `p`. -/
theorem Never.perform {answer : List η → η × Except ε α} (outside : ∀ h, ¬ p (answer h).1) :
    Never (perform answer : Prog η σ ε α) p := by
  rintro history s ⟨effect, member, holds⟩
  rw [perform_run, List.mem_singleton] at member
  subst member
  exact outside history holds

/-- Programs that never perform an effect never do so one after the other. -/
theorem Never.bind {m : Prog η σ ε α} {f : α → Prog η σ ε β} (first : Never m p)
    (second : ∀ a, Never (f a) p) : Never (m >>= f) p := by
  intro history s does
  obtain ⟨a, mid, before, -, later⟩ := does.bind_inv first
  exact second a _ _ later

end Does

/-! ## What a program keeps

`Keeps R m` says that the states before and after every run of `m` are related by `R`, whether the
run returns or raises. -/

/-- Every run of `m` relates the state before it to the state after it by `R`. -/
def Keeps (R : σ → σ → Prop) (m : Prog η σ ε α) : Prop :=
  ∀ history s, R s (m history s).state

section Keeps

variable {R : σ → σ → Prop}

/-- Returning keeps a reflexive relation. -/
theorem Keeps.pure (refl : ∀ s, R s s) (a : α) : Keeps R (pure a : Prog η σ ε α) :=
  fun _ s => refl s

/-- Raising keeps a reflexive relation. -/
theorem Keeps.throw (refl : ∀ s, R s s) (e : ε) : Keeps R (throw e : Prog η σ ε α) :=
  fun _ s => refl s

/-- Reading the state keeps a reflexive relation. -/
theorem Keeps.get (refl : ∀ s, R s s) : Keeps R (get : Prog η σ ε σ) :=
  fun _ s => refl s

/-- A computation that may raise keeps a reflexive relation. -/
theorem Keeps.ofExcept (refl : ∀ s, R s s) (r : Except ε α) :
    Keeps R (ofExcept r : Prog η σ ε α) :=
  fun _ s => refl s

/-- An interaction keeps a reflexive relation: it does not touch the state. -/
theorem Keeps.perform (refl : ∀ s, R s s) (answer : List η → η × Except ε α) :
    Keeps R (perform answer : Prog η σ ε α) :=
  fun _ s => refl s

/-- Programs that keep a transitive relation keep it one after the other. -/
theorem Keeps.bind (trans : ∀ {a b c}, R a b → R b c → R a c) {m : Prog η σ ε α}
    {f : α → Prog η σ ε β} (first : Keeps R m) (second : ∀ a, Keeps R (f a)) :
    Keeps R (m >>= f) := by
  intro history s
  have here := first history s
  match run : m history s with
  | ⟨.error e, mid, before⟩ =>
      rw [bind_run_error run f]
      rw [run] at here
      exact here
  | ⟨.ok a, mid, before⟩ =>
      rw [bind_run_ok run f, Outcome.prepend_state]
      rw [run] at here
      exact trans here (second a _ mid)

/-- Reading the state: it is enough that the rest keeps `R` from the state that was read. -/
theorem Keeps.get_bind {f : σ → Prog η σ ε β}
    (rest : ∀ history s, R s (f s history s).state) : Keeps R (Prog.get >>= f) := by
  intro history s
  rw [get_bind_run]
  exact rest history s

end Keeps

/-! ## What ends a run

`Ends p m` says that an effect with property `p` is the last thing a run of `m` does: nothing
follows it, and the run raises. -/

/-- Effects with property `p` occur only as the last effect of a run that raises. -/
def Ends (p : η → Prop) (m : Prog η σ ε α) : Prop :=
  ∀ history s, (∀ effect ∈ (m history s).effects.dropLast, ¬ p effect) ∧
    ∀ a, (m history s).result = .ok a → ∀ effect ∈ (m history s).effects, ¬ p effect

section Ends

variable {p : η → Prop}

/-- Where such an effect occurs, nothing comes after it. -/
theorem Ends.nothing_after {m : Prog η σ ε α} (ends : Ends p m) {history : List η} {s : σ}
    {before after : List η} {effect : η}
    (occurs : (m history s).effects = before ++ effect :: after) (holds : p effect) :
    after = [] := by
  by_contra more
  refine (ends history s).1 effect ?_ holds
  rw [occurs, List.dropLast_append_of_ne_nil (List.cons_ne_nil effect after),
    List.dropLast_cons_of_ne_nil more]
  exact List.mem_append_right before List.mem_cons_self

/-- A program that never does `p` cannot be ended by it. -/
theorem Never.ends {m : Prog η σ ε α} (never : Never m p) : Ends p m := by
  intro history s
  have none : ∀ effect ∈ (m history s).effects, ¬ p effect := fun effect member holds =>
    never history s ⟨effect, member, holds⟩
  exact ⟨fun effect member => none effect (List.dropLast_subset _ member), fun _ _ => none⟩

/-- An effect that is only performed with `p` where it raises. -/
theorem Ends.perform {answer : List η → η × Except ε α}
    (raises : ∀ h a, (answer h).2 = .ok a → ¬ p (answer h).1) :
    Ends p (perform answer : Prog η σ ε α) := by
  intro history s
  rw [perform_run]
  refine ⟨fun effect member => (List.not_mem_nil member).elim, fun a returned effect member => ?_⟩
  rw [List.mem_singleton.mp member]
  exact raises history a returned

/-- Programs in which the effect only ends a run that raises are so one after the other. -/
theorem Ends.bind {m : Prog η σ ε α} {f : α → Prog η σ ε β} (first : Ends p m)
    (second : ∀ a, Ends p (f a)) : Ends p (m >>= f) := by
  intro history s
  match run : m history s with
  | ⟨.error e, mid, before⟩ =>
      rw [bind_run_error run f]
      have here := (first history s).1
      rw [run] at here
      exact ⟨here, fun b returned => by cases returned⟩
  | ⟨.ok a, mid, before⟩ =>
      rw [bind_run_ok run f]
      have here := (first history s).2 a
      rw [run] at here
      have here : ∀ effect ∈ before, ¬ p effect := here rfl
      obtain ⟨last, returned⟩ := second a (history ++ before) mid
      simp only [Outcome.prepend_effects, Outcome.prepend_result]
      constructor
      · intro effect member
        -- the last effect is one of the second part, unless that has none
        by_cases nothing : (f a (history ++ before) mid).effects = []
        · rw [nothing, List.append_nil] at member
          exact here effect (List.dropLast_subset _ member)
        · rw [List.dropLast_append_of_ne_nil nothing] at member
          rcases List.mem_append.mp member with member | member
          exacts [here effect member, last effect member]
      · intro b ok effect member
        rcases List.mem_append.mp member with member | member
        exacts [here effect member, returned b ok effect member]

end Ends

/-! ## What returns -/

/-- The run of `m` returns. -/
def Returns (m : Prog η σ ε α) (history : List η) (s : σ) : Prop :=
  ∃ a, (m history s).result = .ok a

section Returns

variable {history before : List η} {s mid : σ}

/-- Returning returns. -/
theorem returns_pure (a : α) : Returns (pure a : Prog η σ ε α) history s := ⟨a, rfl⟩

/-- After a first part that returns, a composed program returns exactly where its second part
does. -/
theorem returns_bind_ok {m : Prog η σ ε α} {f : α → Prog η σ ε β} {a : α}
    (run : m history s = ⟨.ok a, mid, before⟩) :
    Returns (m >>= f) history s ↔ Returns (f a) (history ++ before) mid := by
  unfold Returns
  rw [bind_run_ok run, Outcome.prepend_result]

/-- Where the first part raises, a composed program does not return. -/
theorem not_returns_bind {m : Prog η σ ε α} {f : α → Prog η σ ε β} {e : ε}
    (run : m history s = ⟨.error e, mid, before⟩) : ¬ Returns (m >>= f) history s := by
  rintro ⟨b, returned⟩
  rw [bind_run_error run f] at returned
  cases returned

/-- After a computation without effects, a composed program returns where both do. -/
theorem returns_ofExcept_bind {r : Except ε α} {f : α → Prog η σ ε β} :
    Returns (ofExcept r >>= f) history s ↔ ∃ a, r = .ok a ∧ Returns (f a) history s := by
  cases r with
  | error e =>
      simp only [Returns, bind_run_error (ofExcept_run (Except.error e)) f, reduceCtorEq,
        exists_false, false_and]
  | ok a =>
      simp only [Returns, bind_run_ok (ofExcept_run (Except.ok a)) f, List.append_nil,
        Outcome.prepend_nil, Except.ok.injEq, exists_eq_left']

end Returns

/-! ## What is caught -/

/-- `m` with what it raises handed back as a value. -/
def attempt (m : Prog η σ ε α) : Prog η σ ε (Except ε α) := fun history s =>
  ⟨.ok (m history s).result, (m history s).state, (m history s).effects⟩

/-- An attempt always returns: it hands on what was returned or raised. -/
@[simp] theorem attempt_run (m : Prog η σ ε α) (history : List η) (s : σ) :
    attempt m history s
      = ⟨.ok (m history s).result, (m history s).state, (m history s).effects⟩ := rfl

/-- What is raised is a value, so a program goes on after it. -/
theorem attempt_bind_run (m : Prog η σ ε α) (f : Except ε α → Prog η σ ε β) (history : List η)
    (s : σ) :
    (attempt m >>= f) history s
      = (f (m history s).result (history ++ (m history s).effects)
          (m history s).state).prepend (m history s).effects :=
  bind_run_ok (attempt_run m history s) f

/-- Where nothing is done with what an attempt leaves, its effects are all there is. -/
theorem does_attempt_ofExcept {m : Prog η σ ε α} {f : Except ε α → Except ε β} {p : η → Prop}
    {history : List η} {s : σ} :
    Does (attempt m >>= fun result => ofExcept (f result)) p history s ↔ Does m p history s := by
  simp only [Does, attempt_bind_run, ofExcept_run, Outcome.prepend_effects, List.append_nil]

/-- A value read off what happened before. -/
def ask (read : List η → α) : Prog η σ ε α := fun history s => ⟨.ok (read history), s, []⟩

/-- A program that asks the history hands on what it reads there. -/
@[simp] theorem ask_bind_run (read : List η → α) (f : α → Prog η σ ε β) (history : List η) (s : σ) :
    (ask read >>= f) history s = f (read history) history s := by
  have run : (ask read : Prog η σ ε α) history s = ⟨.ok (read history), s, []⟩ := rfl
  rw [bind_run_ok run f, List.append_nil, Outcome.prepend_nil]

/-! ## Programs within programs

A program over effects and states of its own can be run as a part of a larger one: its effects are
recorded there as the larger program's, and its state is a part of the larger program's state. -/

section Within

variable {ζ τ : Type} {wrap : ζ → η} {enter : σ → τ} {leave : σ → τ → σ}
  {m : List η → Prog ζ τ ε α} {history : List η} {s : σ}

/-- The run of an inner program, which is told what happened before it, as a part of an outer
one. -/
def within (wrap : ζ → η) (enter : σ → τ) (leave : σ → τ → σ) (m : List η → Prog ζ τ ε α) :
    Prog η σ ε α := fun history s =>
  let inner := m history [] (enter s)
  ⟨inner.result, leave s inner.state, inner.effects.map wrap⟩

@[simp] theorem within_result :
    (within wrap enter leave m history s).result = (m history [] (enter s)).result := rfl

@[simp] theorem within_state :
    (within wrap enter leave m history s).state
      = leave s (m history [] (enter s)).state := rfl

@[simp] theorem within_effects :
    (within wrap enter leave m history s).effects
      = (m history [] (enter s)).effects.map wrap := rfl

/-- The outer program does what the inner one does, under the outer name. -/
theorem does_within {p : η → Prop} :
    Does (within wrap enter leave m) p history s ↔
      Does (m history) (fun effect => p (wrap effect)) [] (enter s) := by
  simp only [Does, within_effects, List.mem_map]
  constructor
  · rintro ⟨_, ⟨effect, member, rfl⟩, holds⟩
    exact ⟨effect, member, holds⟩
  · rintro ⟨effect, member, holds⟩
    exact ⟨wrap effect, ⟨effect, member, rfl⟩, holds⟩

end Within

section Zoom

variable {τ : Type} {enter : σ → τ} {leave : σ → τ → σ} {m : Prog η τ ε α} {history : List η} {s : σ}

/-- A program on a part of the state. -/
def zoom (enter : σ → τ) (leave : σ → τ → σ) (m : Prog η τ ε α) : Prog η σ ε α := fun history s =>
  ⟨(m history (enter s)).result, leave s (m history (enter s)).state,
    (m history (enter s)).effects⟩

@[simp] theorem zoom_result :
    (zoom enter leave m history s).result = (m history (enter s)).result := rfl

@[simp] theorem zoom_state :
    (zoom enter leave m history s).state = leave s (m history (enter s)).state := rfl

@[simp] theorem zoom_effects :
    (zoom enter leave m history s).effects = (m history (enter s)).effects := rfl

end Zoom

end Prog

end AgenticKVM.Lib
