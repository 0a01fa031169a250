import Mathlib.Data.List.Basic

/-! # Reads through a cache

Computations that read a source and keep in a cache what they have read. A cache that agrees with
the source does not show (`CachedM.Transparent`): a computation comes to what it comes to without a
cache (`CachedM.direct`), and leaves a cache that agrees. The rules follow the operations. -/

namespace AgenticKVM.Lib

/-- A computation that may raise and whose cache outlives what it raises. -/
abbrev CachedM (κ α ε : Type) : Type → Type := ExceptT ε (StateM (List (κ × α)))

namespace CachedM

variable {κ α ε β γ : Type} [DecidableEq κ]

/-- The outcome of a computation from a cache, with the cache it leaves. -/
def outcome (m : CachedM κ α ε β) (cache : List (κ × α)) : Except ε β × List (κ × α) := m cache

/-- Whatever is cached is what the source has. -/
def Agrees (source : κ → Except ε α) (cache : List (κ × α)) : Prop :=
  ∀ key value, cache.lookup key = some value → source key = .ok value

/-- An empty cache agrees with every source. -/
theorem agrees_nil (source : κ → Except ε α) : Agrees source [] :=
  fun _ _ found => by cases found

/-- What has just been read from the source may be cached. -/
theorem Agrees.cons {source : κ → Except ε α} {cache : List (κ × α)} (agrees : Agrees source cache)
    {key : κ} {value : α} (read : source key = .ok value) : Agrees source ((key, value) :: cache) := by
  intro other value' found
  rw [List.lookup_cons] at found
  by_cases same : other = key
  · rw [same, beq_self_eq_true] at found
    cases found
    rw [same, read]
  · rw [beq_false_of_ne same] at found
    exact agrees other value' found

/-- Read through the cache: what is not cached is read from the source and cached. -/
def fetch (source : κ → Except ε α) (key : κ) : CachedM κ α ε α := fun cache =>
  match cache.lookup key with
  | some value => (.ok value, cache)
  | none =>
      match source key with
      | .ok value => (.ok value, (key, value) :: cache)
      | .error e => (.error e, cache)

/-- An outcome that does not depend on the cache. -/
def lift (result : Except ε β) : CachedM κ α ε β := fun cache => (result, cache)

/-- What a computation comes to without anything cached. -/
def direct (m : CachedM κ α ε β) : Except ε β := (outcome m []).1

/-- **A cache that agrees does not show**: from every such cache a computation has the outcome it
has without a cache, and it leaves a cache that agrees. -/
def Transparent (source : κ → Except ε α) (m : CachedM κ α ε β) : Prop :=
  ∀ cache, Agrees source cache →
    (outcome m cache).1 = direct m ∧ Agrees source (outcome m cache).2

section Rules

variable {source : κ → Except ε α} {m : CachedM κ α ε β} {f : β → CachedM κ α ε γ}

omit [DecidableEq κ] in
/-- The outcome of a sequence: of its first part where that raises. -/
theorem outcome_bind (cache : List (κ × α)) :
    outcome (m >>= f) cache = match outcome m cache with
      | (.ok value, after) => outcome (f value) after
      | (.error e, after) => (.error e, after) := by
  change (StateT.bind m (ExceptT.bindCont f) cache : Id _) = _
  unfold StateT.bind outcome
  cases m cache with
  | mk result after => cases result <;> rfl

omit [DecidableEq κ] in
@[simp] theorem direct_pure (value : β) : direct (pure value : CachedM κ α ε β) = .ok value := rfl

omit [DecidableEq κ] in
@[simp] theorem direct_lift (result : Except ε β) :
    direct (lift result : CachedM κ α ε β) = result := rfl

@[simp] theorem direct_fetch (key : κ) : direct (fetch source key) = source key := by
  unfold direct outcome fetch
  simp only [List.lookup_nil]
  cases source key <;> rfl

theorem Transparent.pure (value : β) : Transparent source (pure value) :=
  fun _ agrees => ⟨rfl, agrees⟩

theorem Transparent.lift (result : Except ε β) : Transparent source (lift result) :=
  fun _ agrees => ⟨rfl, agrees⟩

/-- A read through the cache has the outcome of the source. -/
theorem Transparent.fetch (key : κ) : Transparent source (fetch source key) := by
  intro cache agrees
  rw [direct_fetch]
  unfold outcome CachedM.fetch
  cases found : cache.lookup key with
  | some value => exact ⟨(agrees key value found).symm, agrees⟩
  | none =>
      cases read : source key with
      | ok value => exact ⟨rfl, agrees.cons read⟩
      | error e => exact ⟨rfl, agrees⟩

/-- Without a cache a sequence of transparent computations is the sequence of what they come to. -/
theorem direct_bind (first : Transparent source m) (rest : ∀ value, Transparent source (f value)) :
    direct (m >>= f) = direct m >>= fun value => direct (f value) := by
  obtain ⟨-, after⟩ := first [] (agrees_nil source)
  unfold direct
  rw [outcome_bind]
  cases run : outcome m [] with
  | mk result cache =>
      rw [run] at after
      cases result with
      | ok value => exact (rest value cache after).1
      | error e => rfl

/-- A sequence is transparent where its parts are. -/
theorem Transparent.bind (first : Transparent source m)
    (rest : ∀ value, Transparent source (f value)) : Transparent source (m >>= f) := by
  intro cache agrees
  obtain ⟨here, after⟩ := first cache agrees
  rw [direct_bind first rest, outcome_bind, ← here]
  cases run : outcome m cache with
  | mk result cache' =>
      rw [run] at after
      cases result with
      | ok value => exact rest value cache' after
      | error e => exact ⟨rfl, after⟩

end Rules

end CachedM

end AgenticKVM.Lib
