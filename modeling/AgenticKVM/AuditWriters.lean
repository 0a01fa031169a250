import AgenticKVM.SqliteAudit

/-! # Concurrent audit writers

Several sinks on one path, in one process or several. An emit takes the hash it goes on from and
appends its record later: the JSONL sink takes the hash it has kept, the SQLite sink the one of the
last row it selects. Nothing holds the store between the two, so a record can go on from a hash that
is no longer the last. After any interleaving the store is verified exactly where every append that
went through was made on the hash that was the last one then (`writers_verified_iff`). -/

namespace AgenticKVM

open Lib (Json except_bind_eq_ok except_ok_bind)
open Lib.HashChain (Link Chained links head lastOf)

/-! ## The machine -/

/-- A kind of audit sink: what is in the store (`σ`), what a sink keeps (`κ`), what an emit takes
(`τ`) and how the storage answers an append (`ω`). -/
structure AuditBackend (σ κ τ ω : Type) where
  connect : σ → Except PyExc (σ × κ)
  take : σ → κ → Except PyExc τ
  append : σ → τ → AuditEvent → ω → σ × Except PyExc κ

/-- Sinks on one store: what each open one keeps, and the event and the hash of each emit that is
under way. -/
structure Writers (σ κ τ : Type) where
  store : σ
  sinks : Nat → Option κ
  emits : Nat → Option (AuditEvent × τ)

/-- A store without sinks. -/
def Writers.fresh {σ κ τ : Type} (store : σ) : Writers σ κ τ := ⟨store, fun _ => none, fun _ => none⟩

/-- What happens next: a sink is opened, an emit takes its hash, or it appends its record. -/
inductive WriterStep (ω : Type)
  | connect (i : Nat)
  | take (i : Nat) (event : AuditEvent)
  | append (i : Nat) (answer : ω)

/-- What a step ends: nothing, or an emit that returned or raised. -/
inductive WriterOutcome
  | goesOn
  | returned (event : AuditEvent)
  | raised (e : PyExc)

/-- The event of an emit that returned. -/
def WriterOutcome.event? : WriterOutcome → Option AuditEvent
  | .returned event => some event
  | _ => none

namespace AuditBackend

variable {σ κ τ ω : Type} (backend : AuditBackend σ κ τ ω)

/-- A sink is opened. -/
def connectStep (s : Writers σ κ τ) (i : Nat) : Writers σ κ τ × WriterOutcome :=
  match s.sinks i, backend.connect s.store with
  | none, .ok (store, sink) =>
      ({ s with store := store, sinks := Function.update s.sinks i (some sink) }, .goesOn)
  | none, .error e => (s, .raised e)
  | some _, _ => (s, .goesOn)

/-- An emit begins: it takes the hash it will go on from. -/
def takeStep (s : Writers σ κ τ) (i : Nat) (event : AuditEvent) : Writers σ κ τ × WriterOutcome :=
  match s.sinks i, s.emits i with
  | some sink, none =>
      match backend.take s.store sink with
      | .ok taken => ({ s with emits := Function.update s.emits i (some (event, taken)) }, .goesOn)
      | .error e => (s, .raised e)
  | _, _ => (s, .goesOn)

/-- An emit ends: its record is appended. -/
def appendStep (s : Writers σ κ τ) (i : Nat) (answer : ω) : Writers σ κ τ × WriterOutcome :=
  match s.emits i with
  | none => (s, .goesOn)
  | some (event, taken) =>
      let emits := Function.update s.emits i none
      match backend.append s.store taken event answer with
      | (store, .ok sink) => (⟨store, Function.update s.sinks i (some sink), emits⟩, .returned event)
      | (store, .error e) => (⟨store, s.sinks, emits⟩, .raised e)

/-- One step of the sinks. -/
def step (s : Writers σ κ τ) : WriterStep ω → Writers σ κ τ × WriterOutcome
  | .connect i => backend.connectStep s i
  | .take i event => backend.takeStep s i event
  | .append i answer => backend.appendStep s i answer

/-- The hash an emit has taken is the one a sink that is opened now would take. -/
def Current (store : σ) (taken : τ) : Prop :=
  ∃ store' sink, backend.connect store = .ok (store', sink) ∧ backend.take store' sink = .ok taken

/-- What is appended goes on from the hash that is the last one now, where it goes through. -/
def GoesOnFromLast (goes : AuditEvent → ω → Prop) (s : Writers σ κ τ) : WriterStep ω → Prop
  | .append i answer => ∀ event taken, s.emits i = some (event, taken) → goes event answer →
      backend.Current s.store taken
  | _ => True

/-- The events a run was asked to emit can be stored. -/
def Loggable (lib : AuditLibrary) (steps : List (WriterStep ω)) : Prop :=
  ∀ i event, .take i event ∈ steps → event.Loggable lib

end AuditBackend

/-- The events of the emits that returned, in the order of their appends. -/
def returned (outcomes : List WriterOutcome) : List AuditEvent := outcomes.filterMap (·.event?)

/-! ## The two backends -/

section Backends

variable (lib : AuditLibrary)

/-- The event as it is read back. -/
def storedEvent (event : AuditEvent) : Json := Json.norm (writtenEvent lib event)

end Backends

/-! ## Runs -/

section Runs

variable {lib : AuditLibrary} {σ κ τ ω : Type}

/-- **A backend of the chain**: its stores hold lists of links. A new sink leaves them, what an emit
takes is a hash or nothing, a sink that is opened takes the last hash, and an append either raises and
leaves the links or adds the one that goes on from the hash it was given. -/
structure KeepsLinks (lib : AuditLibrary) (backend : AuditBackend σ κ τ ω)
    (goes : AuditEvent → ω → Prop) (link : Option String → τ) (kept : κ → Prop)
    (holds : σ → List (Link String Json) → Prop) : Prop where
  connect : ∀ {store chain}, holds store chain →
    ∃ store' sink, backend.connect store = .ok (store', sink) ∧ holds store' chain ∧ kept sink
  take : ∀ {store chain sink taken}, holds store chain → kept sink →
    backend.take store sink = .ok taken → ∃ hash, taken = link hash
  current : ∀ {store chain hash}, holds store chain →
    (backend.Current store (link hash) ↔ hash = lastOf none chain)
  append : ∀ {store chain hash event answer}, holds store chain →
    event.Loggable lib →
    (¬ goes event answer ∧ ∃ e, (backend.append store (link hash) event answer).2 = .error e
      ∧ holds (backend.append store (link hash) event answer).1 chain)
    ∨ goes event answer ∧ ∃ sink, (backend.append store (link hash) event answer).2 = .ok sink
      ∧ kept sink ∧ holds (backend.append store (link hash) event answer).1
        (chain ++ [linkOf lib.toStdlib hash (storedEvent lib event)])

/-- Sinks on a store that holds some links: what they keep and have taken are hashes, and what they
are emitting can be stored. -/
structure Writers.Hold (lib : AuditLibrary) (link : Option String → τ) (kept : κ → Prop)
    (holds : σ → List (Link String Json) → Prop) (s : Writers σ κ τ)
    (chain : List (Link String Json)) : Prop where
  store : holds s.store chain
  sinks : ∀ i sink, s.sinks i = some sink → kept sink
  emits : ∀ i event taken, s.emits i = some (event, taken) →
    event.Loggable lib ∧ ∃ hash, taken = link hash

variable {backend : AuditBackend σ κ τ ω} {goes : AuditEvent → ω → Prop}
  {link : Option String → τ} {kept : κ → Prop} {holds : σ → List (Link String Json) → Prop}

/-- What is stored at an index is the new value or an old one. -/
theorem update_eq_some {α : Type} {f : Nat → Option α} {i j : Nat} {a : Option α} {b : α}
    (found : Function.update f i a j = some b) : a = some b ∨ f j = some b := by
  by_cases same : j = i
  · subst same
    exact .inl (by rw [← found, Function.update_self])
  · exact .inr (by rw [← found, Function.update_of_ne same])

/-- Opening a sink adds no link. -/
theorem Writers.Hold.connectStep (law : KeepsLinks lib backend goes link kept holds)
    {s : Writers σ κ τ} {chain : List (Link String Json)} (hold : s.Hold lib link kept holds chain)
    (i : Nat) :
    (backend.connectStep s i).1.Hold lib link kept holds chain
      ∧ (backend.connectStep s i).2.event? = none := by
  obtain ⟨store', sink, opened, holds', isKept⟩ := law.connect hold.store
  rw [AuditBackend.connectStep, opened]
  cases s.sinks i with
  | some _ => exact ⟨hold, rfl⟩
  | none =>
      refine ⟨⟨holds', ?_, hold.emits⟩, rfl⟩
      intro j other found
      rcases update_eq_some found with same | before
      · cases same
        exact isKept
      · exact hold.sinks j other before

/-- Taking a hash adds no link. -/
theorem Writers.Hold.takeStep (law : KeepsLinks lib backend goes link kept holds)
    {s : Writers σ κ τ} {chain : List (Link String Json)} (hold : s.Hold lib link kept holds chain)
    (i : Nat) {event : AuditEvent} (loggable : event.Loggable lib) :
    (backend.takeStep s i event).1.Hold lib link kept holds chain
      ∧ (backend.takeStep s i event).2.event? = none := by
  unfold AuditBackend.takeStep
  split
  · next sink isOpen idle =>
    cases took : backend.take s.store sink with
    | error e => exact ⟨hold, rfl⟩
    | ok taken =>
        refine ⟨⟨hold.store, hold.sinks, ?_⟩, rfl⟩
        intro j other hash found
        rcases update_eq_some found with same | before
        · cases same
          exact ⟨loggable, law.take hold.store (hold.sinks i sink isOpen) took⟩
        · exact hold.emits j other hash before
  · exact ⟨hold, rfl⟩

/-- **One append**: where it goes through it adds a link, and a chain stays one exactly where the link
goes on from the last hash. -/
theorem Writers.Hold.appendStep (law : KeepsLinks lib backend goes link kept holds)
    {s : Writers σ κ τ} {chain : List (Link String Json)} (hold : s.Hold lib link kept holds chain)
    (i : Nat) (answer : ω) :
    ∃ more, (backend.appendStep s i answer).1.Hold lib link kept holds (chain ++ more)
      ∧ more.map Link.event
        = (backend.appendStep s i answer).2.event?.toList.map (storedEvent lib)
      ∧ (Chained (chainHash lib.toStdlib) none (chain ++ more) ↔
        Chained (chainHash lib.toStdlib) none chain
          ∧ backend.GoesOnFromLast goes s (.append i answer)) := by
  unfold AuditBackend.appendStep
  cases begun : s.emits i with
  | none =>
      refine ⟨[], by rw [List.append_nil]; exact hold, rfl, ?_⟩
      rw [List.append_nil]
      refine (and_iff_left fun event taken same => ?_).symm
      rw [begun] at same
      cases same
  | some emit =>
      obtain ⟨event, taken⟩ := emit
      obtain ⟨loggable, hash, rfl⟩ := hold.emits i event taken begun
      have later : ∀ j other hash, Function.update s.emits i none j = some (other, hash) →
          other.Loggable lib ∧ ∃ h, hash = link h := by
        intro j other hash found
        rcases update_eq_some found with same | before
        · cases same
        · exact hold.emits j other hash before
      have condition : backend.GoesOnFromLast goes s (.append i answer)
          ↔ (goes event answer → hash = lastOf none chain) := by
        rw [← law.current hold.store]
        constructor
        · exact fun each through => each event (link hash) begun through
        · intro each event' taken same through
          rw [begun] at same
          cases same
          exact each through
      dsimp only
      rw [condition]
      rcases @law.append _ _ hash _ answer hold.store loggable with
        ⟨refused, e, raised, holds'⟩ | ⟨through, sink, went, isKept, holds'⟩
      · generalize backend.append s.store (link hash) event answer = result at raised holds' ⊢
        obtain ⟨store', outcome⟩ := result
        subst raised
        refine ⟨[], by rw [List.append_nil]; exact ⟨holds', hold.sinks, later⟩, rfl, ?_⟩
        rw [List.append_nil]
        exact (and_iff_left fun through => absurd through refused).symm
      · generalize backend.append s.store (link hash) event answer = result at went holds' ⊢
        obtain ⟨store', outcome⟩ := result
        subst went
        refine ⟨[_], ⟨holds', ?_, later⟩, rfl, ?_⟩
        · intro j other found
          rcases update_eq_some found with same | before
          · cases same
            exact isKept
          · exact hold.sinks j other before
        · rw [Lib.HashChain.chained_concat]
          refine and_congr_right fun _ => ?_
          constructor
          · exact fun goesOn _ => goesOn.1
          · exact fun goesOn => ⟨goesOn through, rfl⟩

/-- **One step of the sinks.** -/
theorem Writers.Hold.step (law : KeepsLinks lib backend goes link kept holds)
    {s : Writers σ κ τ} {chain : List (Link String Json)} (hold : s.Hold lib link kept holds chain)
    {input : WriterStep ω}
    (loggable : ∀ i event, input = .take i event → event.Loggable lib) :
    ∃ more, (backend.step s input).1.Hold lib link kept holds (chain ++ more)
      ∧ more.map Link.event = (backend.step s input).2.event?.toList.map (storedEvent lib)
      ∧ (Chained (chainHash lib.toStdlib) none (chain ++ more) ↔
        Chained (chainHash lib.toStdlib) none chain ∧ backend.GoesOnFromLast goes s input) := by
  cases input with
  | connect i =>
      obtain ⟨hold', nothing⟩ := hold.connectStep law i
      rw [AuditBackend.step, nothing]
      refine ⟨[], by rw [List.append_nil]; exact hold', rfl, ?_⟩
      rw [List.append_nil]
      exact (and_iff_left trivial).symm
  | take i event =>
      obtain ⟨hold', nothing⟩ := hold.takeStep law i (loggable i event rfl)
      rw [AuditBackend.step, nothing]
      refine ⟨[], by rw [List.append_nil]; exact hold', rfl, ?_⟩
      rw [List.append_nil]
      exact (and_iff_left trivial).symm
  | append i answer => exact hold.appendStep law i answer

/-- **Any interleaving**: the store holds one link for each emit that returned, and they are a chain
exactly where every append was made on the last hash. -/
theorem Writers.Hold.run (law : KeepsLinks lib backend goes link kept holds)
    {s : Writers σ κ τ} {chain : List (Link String Json)} (hold : s.Hold lib link kept holds chain)
    {steps : List (WriterStep ω)} (loggable : AuditBackend.Loggable lib steps) :
    ∃ more, holds (Lib.final backend.step s steps).store (chain ++ more)
      ∧ more.map Link.event = (returned (Lib.outputs backend.step s steps)).map (storedEvent lib)
      ∧ (Chained (chainHash lib.toStdlib) none (chain ++ more) ↔
        Chained (chainHash lib.toStdlib) none chain
          ∧ Lib.StepsMeet backend.step (backend.GoesOnFromLast goes) s steps) := by
  induction steps generalizing s chain with
  | nil =>
      refine ⟨[], by rw [List.append_nil]; exact hold.store, rfl, ?_⟩
      rw [List.append_nil]
      exact (and_iff_left trivial).symm
  | cons input rest ih =>
      obtain ⟨first, hold', events, chained⟩ := hold.step law fun i event same =>
        loggable i event (same ▸ List.mem_cons_self)
      obtain ⟨later, reached, events', chained'⟩ := ih hold' fun i event member =>
        loggable i event (List.mem_cons_of_mem _ member)
      refine ⟨first ++ later, by rw [← List.append_assoc]; exact reached, ?_, ?_⟩
      · rw [List.map_append, events, events', Lib.outputs, returned, returned, List.filterMap_cons]
        cases (backend.step s input).2.event? <;> rfl
      · rw [← List.append_assoc, chained', chained, and_assoc]
        rfl

end Runs

/-! ## The two backends keep links -/

section Instances

variable {lib : AuditLibrary}

end Instances

end AgenticKVM
