import Mathlib.Algebra.Ring.Nat
import Mathlib.Data.List.Basic

/-! # Runs of a machine

A machine answers an input with an output and goes to a new state. `outputs` lists what a run
answers, and two rules carry a property of one step over to runs of any length: an invariant rule
(`outputs_forall`), where each step may be under a condition on the state it starts from, and a rule
for single-use tokens (`SingleUse.uses_le_one`): when every use of a token marks it as spent and a
spent token is never used, no run uses a token twice. -/

namespace AgenticKVM.Lib

variable {σ ι ο κ : Type}

/-- The outputs of a run, in order. -/
def outputs (step : σ → ι → σ × ο) : σ → List ι → List ο
  | _, [] => []
  | s, input :: rest => (step s input).2 :: outputs step (step s input).1 rest

/-- The state a run ends in. -/
def final (step : σ → ι → σ × ο) : σ → List ι → σ
  | s, [] => s
  | s, input :: rest => final step (step s input).1 rest

/-- Every step of the run starts in a state that meets the condition `cond` for its input. -/
def StepsMeet (step : σ → ι → σ × ο) (cond : σ → ι → Prop) : σ → List ι → Prop
  | _, [] => True
  | s, input :: rest => cond s input ∧ StepsMeet step cond (step s input).1 rest

variable {step : σ → ι → σ × ο}

/-- A run in two parts ends where the second part does from the first one's end. -/
theorem final_append {s : σ} (first second : List ι) :
    final step s (first ++ second) = final step (final step s first) second := by
  induction first generalizing s with
  | nil => rfl
  | cons input rest ih => exact ih

theorem outputs_append {s : σ} (first second : List ι) :
    outputs step s (first ++ second)
      = outputs step s first ++ outputs step (final step s first) second := by
  induction first generalizing s with
  | nil => rfl
  | cons input rest ih => exact congrArg _ ih

/-- What a run answers at a position is what its step there answers, from the end of the run so
far. -/
theorem outputs_getElem? {s : σ} (inputs : List ι) (k : Nat) :
    (outputs step s inputs)[k]?
      = inputs[k]?.map fun input => (step (final step s (inputs.take k)) input).2 := by
  induction inputs generalizing s k with
  | nil => rfl
  | cons input rest ih =>
      cases k with
      | zero => rfl
      | succ k => exact ih k

/-- **Invariant rule**: when a step that meets the condition keeps the invariant and answers well,
so does every run whose steps all meet it. -/
theorem outputs_forall {inv : σ → Prop} {good : ο → Prop} {cond : σ → ι → Prop}
    (preserved : ∀ s input, inv s → cond s input →
      inv (step s input).1 ∧ good (step s input).2)
    {s : σ} (start : inv s) {inputs : List ι} (meet : StepsMeet step cond s inputs) :
    ∀ output ∈ outputs step s inputs, good output := by
  induction inputs generalizing s with
  | nil => intro output member; cases member
  | cons input rest ih =>
      obtain ⟨here, later⟩ := meet
      obtain ⟨next, answer⟩ := preserved s input start here
      intro output member
      rcases List.mem_cons.mp member with rfl | member
      exacts [answer, ih next later output member]

/-- When every step answers well, so does every run. -/
theorem outputs_forall_of_each {good : ο → Prop} (each : ∀ s input, good (step s input).2)
    (s : σ) (inputs : List ι) : ∀ output ∈ outputs step s inputs, good output := by
  induction inputs generalizing s with
  | nil => intro output member; cases member
  | cons input rest ih =>
      intro output member
      rcases List.mem_cons.mp member with rfl | member
      exacts [each s input, ih _ output member]

/-- A condition that is always met is met by every run. -/
theorem StepsMeet.of_forall {cond : σ → ι → Prop} (always : ∀ s input, cond s input)
    (s : σ) (inputs : List ι) : StepsMeet step cond s inputs := by
  induction inputs generalizing s with
  | nil => trivial
  | cons input rest ih => exact ⟨always s input, ih _⟩

/-- What is known of each input may be added to the condition. -/
theorem StepsMeet.and_mem {cond : σ → ι → Prop} {known : ι → Prop} {s : σ} {inputs : List ι}
    (meet : StepsMeet step cond s inputs) (each : ∀ input ∈ inputs, known input) :
    StepsMeet step (fun s input => known input ∧ cond s input) s inputs := by
  induction inputs generalizing s with
  | nil => trivial
  | cons input rest ih =>
      obtain ⟨here, later⟩ := meet
      exact ⟨⟨each input List.mem_cons_self, here⟩,
        ih later fun other member => each other (List.mem_cons_of_mem _ member)⟩

/-! ## Single use -/

/-- How often an output uses a token, and which tokens a state has marked as spent, such that each
token is used at most once: a step uses a token at most once, never a spent one, and marks the ones
it uses; marks stay. -/
structure SingleUse (step : σ → ι → σ × ο) (spent : σ → κ → Prop) (uses : ο → κ → Nat) :
    Prop where
  once : ∀ s input token, uses (step s input).2 token ≤ 1
  fresh : ∀ s input token, spent s token → uses (step s input).2 token = 0
  marked : ∀ s input token, uses (step s input).2 token ≠ 0 → spent (step s input).1 token
  kept : ∀ s input token, spent s token → spent (step s input).1 token

/-- What one step may do about tokens in a single-use discipline: it uses each one at most once and
none that is spent, marks what it uses, and takes back no mark. -/
structure SpendsOnce (spent : σ → κ → Prop) (uses : ο → κ → Nat) (before : σ) (output : ο)
    (after : σ) : Prop where
  once : ∀ token, uses output token ≤ 1
  fresh : ∀ token, spent before token → uses output token = 0
  marked : ∀ token, uses output token ≠ 0 → spent after token
  kept : ∀ token, spent before token → spent after token

/-- A step that uses nothing and takes back no mark is one. -/
theorem SpendsOnce.idle {spent : σ → κ → Prop} {uses : ο → κ → Nat} {before after : σ} {output : ο}
    (unused : ∀ token, uses output token = 0)
    (kept : ∀ token, spent before token → spent after token) :
    SpendsOnce spent uses before output after where
  once token := by
    rw [unused]
    exact Nat.zero_le 1
  fresh token _ := unused token
  marked token used := absurd (unused token) used
  kept := kept

/-- **Two such steps make one**, where the uses add up. -/
theorem SpendsOnce.trans {spent : σ → κ → Prop} {uses : ο → κ → Nat} {before mid after : σ}
    {first second both : ο} (one : SpendsOnce spent uses before first mid)
    (other : SpendsOnce spent uses mid second after)
    (adds : ∀ token, uses both token = uses first token + uses second token) :
    SpendsOnce spent uses before both after where
  once token := by
    rw [adds]
    have here := one.once token
    by_cases unused : uses first token = 0
    · have later := other.once token
      omega
    · have later := other.fresh token (one.marked token unused)
      omega
  fresh token done := by
    rw [adds, one.fresh token done, other.fresh token (one.kept token done)]
  marked token used := by
    rw [adds] at used
    by_cases unused : uses first token = 0
    · exact other.marked token (by omega)
    · exact other.kept token (one.marked token unused)
  kept token done := other.kept token (one.kept token done)

/-- A step that does so from every state is one of single use. -/
theorem SingleUse.of_spendsOnce {spent : σ → κ → Prop} {uses : ο → κ → Nat}
    (each : ∀ s input, SpendsOnce spent uses s (step s input).2 (step s input).1) :
    SingleUse step spent uses where
  once s input := (each s input).once
  fresh s input := (each s input).fresh
  marked s input := (each s input).marked
  kept s input := (each s input).kept

/-- The uses of a token in a run. -/
def totalUses (uses : ο → κ → Nat) (run : List ο) (token : κ) : Nat :=
  (run.map fun output => uses output token).sum

namespace SingleUse

variable {spent : σ → κ → Prop} {uses : ο → κ → Nat}

/-- A spent token is never used again. -/
theorem uses_eq_zero (law : SingleUse step spent uses) {token : κ} {s : σ} (done : spent s token)
    (inputs : List ι) : totalUses uses (outputs step s inputs) token = 0 := by
  induction inputs generalizing s with
  | nil => rfl
  | cons input rest ih =>
      have here := law.fresh s input token done
      have later := ih (law.kept s input token done)
      simp only [totalUses, outputs, List.map_cons, List.sum_cons] at later ⊢
      omega

/-- **Single use**: no run uses a token twice. -/
theorem uses_le_one (law : SingleUse step spent uses) (s : σ) (inputs : List ι) (token : κ) :
    totalUses uses (outputs step s inputs) token ≤ 1 := by
  induction inputs generalizing s with
  | nil => exact Nat.zero_le 1
  | cons input rest ih =>
      have here := law.once s input token
      by_cases used : uses (step s input).2 token = 0
      · have later := ih (step s input).1
        simp only [totalUses, outputs, List.map_cons, List.sum_cons] at later ⊢
        omega
      · have later := law.uses_eq_zero (law.marked s input token used) rest
        simp only [totalUses, outputs, List.map_cons, List.sum_cons] at later ⊢
        omega

/-- Tokens that are used wherever they are named are named once in a run. -/
theorem nodup [DecidableEq κ] (law : SingleUse step spent uses) {name : ο → Option κ}
    (used : ∀ output token, name output = some token → uses output token ≠ 0) (s : σ)
    (inputs : List ι) : ((outputs step s inputs).filterMap name).Nodup := by
  rw [List.nodup_iff_count]
  intro token
  refine Nat.le_trans ?_ (law.uses_le_one s inputs token)
  generalize outputs step s inputs = run
  induction run with
  | nil => exact Nat.zero_le _
  | cons output rest ih =>
      simp only [totalUses, List.map_cons, List.sum_cons] at ih ⊢
      cases named : name output with
      | none =>
          rw [List.filterMap_cons_none named]
          omega
      | some other =>
          rw [List.filterMap_cons_some named, List.count_cons]
          have here := used output other named
          split
          · next same =>
              rw [beq_iff_eq] at same
              subst same
              omega
          · omega

end SingleUse

end AgenticKVM.Lib
