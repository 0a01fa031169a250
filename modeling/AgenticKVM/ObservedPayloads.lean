import AgenticKVM.Lib.JsonLookup
import AgenticKVM.ObserveRedaction

/-! # What is masked in an observed payload

The redaction of observed payloads masks the sensitive keys of every mapping it reaches through
mappings, and leaves lists to the generic redactor, which does not know these keys. A payload is
covered exactly where the generic redactor replaces the sensitive entries of such lists by itself
(`observePayload_covers_iff`). -/

namespace AgenticKVM

open Lib (Json)

/-! ## Positions -/

/-- A position below another one. -/
theorem PyValue.at_append (value : PyValue) (path rest : List PathStep) :
    value.at (path ++ rest) = (value.at path).bind fun inner => inner.at rest := by
  induction path generalizing value with
  | nil => rfl
  | cons step path ih =>
      rw [List.cons_append, PyValue.at, PyValue.at, Option.bind_assoc]
      congr 1
      funext child
      exact ih child

/-- What a tree contains is a tree. -/
theorem PyValue.StringKeyed.at {value inner : PyValue} (keyed : value.StringKeyed)
    {path : List PathStep} (found : value.at path = some inner) : inner.StringKeyed := by
  induction path generalizing value with
  | nil =>
      cases found
      exact keyed
  | cons step rest ih =>
      obtain ⟨child, isChild, later⟩ := Option.bind_eq_some_iff.mp found
      exact ih (keyed.child isChild) later

/-- The key nearest to the end of a path. -/
theorem nearestKey_append_key (key : String) (path : List PathStep) (k : String) :
    nearestKey key (path ++ [.key k]) = k := by
  induction path generalizing key with
  | nil => rfl
  | cons step path ih => exact ih _

/-- What a JSON value contains is JSON. -/
theorem child_ofJson {v : Json} {step : PathStep} {child : PyValue}
    (found : (PyValue.ofJson v).child step = some child) : ∃ w, child = PyValue.ofJson w := by
  cases v with
  | list items =>
      cases step with
      | key k => cases found
      | item i =>
          have items_get : ∀ (items : List Json) (i : Nat),
              (PyValue.ofItems items)[i]? = items[i]?.map PyValue.ofJson := by
            intro items
            induction items with
            | nil => exact fun _ => rfl
            | cons v rest ih =>
                intro i
                cases i with
                | zero => rfl
                | succ i => exact ih i
          have isItem : (PyValue.ofItems items)[i]? = some child := found
          rw [items_get, Option.map_eq_some_iff] at isItem
          obtain ⟨w, -, rfl⟩ := isItem
          exact ⟨w, rfl⟩
  | obj entries =>
      cases step with
      | item i => cases found
      | key k =>
          have isEntry : paramGet (PyValue.ofEntries entries) k = some child := found
          rw [paramGet_ofEntries, Option.map_eq_some_iff] at isEntry
          obtain ⟨w, -, rfl⟩ := isEntry
          exact ⟨w, rfl⟩
  | _ => cases step <;> cases found

theorem at_ofJson {path : List PathStep} {v : Json} {inner : PyValue}
    (found : (PyValue.ofJson v).at path = some inner) : ∃ w, inner = PyValue.ofJson w := by
  induction path generalizing v with
  | nil =>
      cases found
      exact ⟨v, rfl⟩
  | cons step rest ih =>
      obtain ⟨child, isChild, later⟩ := Option.bind_eq_some_iff.mp found
      obtain ⟨w, rfl⟩ := child_ofJson isChild
      exact ih later

/-! ## Coverage -/

/-- The value at a position is hidden: the mark stands there or at a position above. -/
def MaskedAt (redacted : PyValue) (path : List PathStep) : Prop :=
  ∃ p, p <+: path ∧ redacted.at p = some (.str redactedMark)

/-- **Coverage**: every value that stands under a sensitive key, at any depth, is hidden. -/
def CoversSensitive (std : Stdlib) (original redacted : PyValue) : Prop :=
  ∀ path k hidden, isMaskedKey std k = true → original.at (path ++ [.key k]) = some hidden →
    MaskedAt redacted (path ++ [.key k])

/-- A way through mappings only, under keys that are neither masked nor replaced. -/
def OpenWay (std : Stdlib) (way : List PathStep) : Prop :=
  ∀ step ∈ way, ∃ k, step = .key k ∧ OpenKey std k

/-- **A covered entry**: where the way to it goes on from an open way into a list, its value is the
mark already, or it lies at or below a position that the generic redactor replaces in the list. -/
def EntryCovered (lib : AuditLibrary) (payload : PyValue) (path : List PathStep) (k : String)
    (hidden : PyValue) : Prop :=
  ∀ way items rest, path = way ++ rest → OpenWay lib.toStdlib way →
    payload.at way = some (.list items) →
    hidden = .str redactedMark
      ∨ ∃ p, p <+: rest ++ [.key k] ∧ p ∈ replacedAt lib "" false (.list items)

/-- **Covered lists**: in every list that is reached on an open way, each sensitive entry is
covered. -/
def ListsCovered (lib : AuditLibrary) (payload : PyValue) : Prop :=
  ∀ path k hidden, isMaskedKey lib.toStdlib k = true → payload.at (path ++ [.key k]) = some hidden →
    EntryCovered lib payload path k hidden

/-- An entry below an open key is covered where it is covered in the value under the key. -/
theorem entryCovered_child {lib : AuditLibrary} {payload child : PyValue} {k k' : String}
    {path : List PathStep} {hidden : PyValue} (openKey : OpenKey lib.toStdlib k')
    (found : payload.child (.key k') = some child) :
    EntryCovered lib payload (.key k' :: path) k hidden ↔ EntryCovered lib child path k hidden := by
  constructor
  · intro covered way items rest same openWay reached
    refine covered (.key k' :: way) items rest (by rw [same]; rfl) ?_ ?_
    · intro step member
      rcases List.mem_cons.mp member with rfl | member
      · exact ⟨k', rfl, openKey⟩
      · exact openWay step member
    · rw [PyValue.at, found]
      exact reached
  · intro covered way items rest same openWay reached
    cases way with
    | nil =>
        -- a value with an entry is no list
        cases reached
        cases found
    | cons step way =>
        cases same
        rw [PyValue.at, found] at reached
        exact covered way items rest rfl
          (fun step member => openWay step (List.mem_cons_of_mem _ member)) reached

/-! ## What is masked stays masked -/

section Masked

variable {lib : AuditLibrary} {key path : String} {fullCapture : Bool} {value : PyValue}

/-- The mark stands under a key that is no key of typed text. -/
def KeyMasked (std : Stdlib) (redacted : PyValue) (path : List PathStep) : Prop :=
  ∃ p k, p ++ [.key k] <+: path ∧ isHidTextKey std k = false
    ∧ redacted.at (p ++ [.key k]) = some (.str redactedMark)

theorem KeyMasked.maskedAt {std : Stdlib} {steps : List PathStep}
    (masked : KeyMasked std value steps) : MaskedAt value steps := by
  obtain ⟨p, k, before, -, found⟩ := masked
  exact ⟨p ++ [.key k], before, found⟩

/-- What is masked in a child is masked in the value. -/
theorem KeyMasked.cons {std : Stdlib} {step : PathStep} {steps : List PathStep} {child : PyValue}
    (masked : KeyMasked std child steps) (found : value.child step = some child) :
    KeyMasked std value (step :: steps) := by
  obtain ⟨p, k, before, untyped, mark⟩ := masked
  refine ⟨step :: p, k, (List.prefix_cons_inj step).mpr before, untyped, ?_⟩
  rw [List.cons_append, PyValue.at, found]
  exact mark

/-- A masked key of a mapping. -/
theorem keyMasked_of_child {std : Stdlib} {k : String} {steps : List PathStep}
    (untyped : isHidTextKey std k = false)
    (found : value.child (.key k) = some (.str redactedMark)) :
    KeyMasked std value (.key k :: steps) := by
  refine ⟨[], k, ⟨steps, rfl⟩, untyped, ?_⟩
  rw [List.nil_append, PyValue.at, found]
  rfl

/-- A secret key is no key of typed text. -/
theorem isHidTextKey_of_secret {std : Stdlib} (secret : isSecretKey std key = true) :
    isHidTextKey std key = false := by
  have apart : ∀ name ∈ hidTextKeys, name ∉ credentialFieldKeys ∧ name ∉ rawArtifactKeys := by
    decide +kernel
  by_contra typed
  rw [Bool.not_eq_false, isHidTextKey, decide_eq_true_eq] at typed
  obtain ⟨noCredential, noRaw⟩ := apart _ typed
  rw [isSecretKey, isCredentialFieldKey, Bool.or_eq_true, decide_eq_true_eq,
    decide_eq_true_eq] at secret
  exact secret.elim noCredential noRaw

/-- The mark stays where typed text is not expected. -/
theorem redactValue_mark (untyped : isHidTextKey lib.toStdlib key = false) :
    (redactValue lib key path fullCapture (.str redactedMark)).value = .str redactedMark := by
  rw [redactValue, redactText, untyped, if_neg Bool.false_ne_true]
  split_ifs <;> rfl

/-- **The generic redactor keeps what is masked masked.** -/
theorem KeyMasked.redactValue {steps : List PathStep}
    (masked : KeyMasked lib.toStdlib value steps) (plain : isSecretKey lib.toStdlib key = false)
    (keyed : value.StringKeyed) :
    KeyMasked lib.toStdlib (redactValue lib key path fullCapture value).value steps := by
  obtain ⟨p, k, before, untyped, found⟩ := masked
  induction p generalizing key path fullCapture value steps with
  | nil =>
      obtain ⟨rest, rfl⟩ := before
      obtain ⟨child, isChild, same⟩ := Option.bind_eq_some_iff.mp found
      cases same
      have visited : (isRedactionsKey lib.toStdlib key && value.isSequence) = false := by
        cases value with
        | dict entries => exact Bool.and_false _
        | _ => cases isChild
      obtain ⟨path', children⟩ :=
        @redactValue_child lib key path fullCapture value plain visited keyed (.key k)
      rw [isChild, Option.map_some, PathStep.keyFrom, redactValue_mark untyped] at children
      exact keyMasked_of_child untyped children
  | cons step rest ih =>
      obtain ⟨tail, rfl⟩ := before
      rw [List.cons_append, PyValue.at] at found
      obtain ⟨child, isChild, later⟩ := Option.bind_eq_some_iff.mp found
      by_cases listed : (isRedactionsKey lib.toStdlib key && value.isSequence) = true
      · -- the list is left as it is
        rw [redactValue_listed listed plain]
        exact ⟨step :: rest, k, List.prefix_append _ _, untyped, found⟩
      · rw [Bool.not_eq_true] at listed
        obtain ⟨path', children⟩ :=
          @redactValue_child lib key path fullCapture value plain listed keyed step
        rw [isChild, Option.map_some] at children
        by_cases secret : isSecretKey lib.toStdlib (step.keyFrom key) = true
        · -- the child is replaced as a whole
          cases step with
          | item i => exact absurd (plain.symm.trans secret) Bool.false_ne_true
          | key k' =>
              rw [redactValue_secret secret] at children
              exact keyMasked_of_child (isHidTextKey_of_secret secret) children
        · rw [Bool.not_eq_true] at secret
          exact (ih secret (keyed.child isChild) (List.prefix_append _ tail) later).cons children

/-- What is replaced because of a secret key stands under a key of its own. -/
theorem endsWithKey_of_replaced {steps : List PathStep} (keyed : value.StringKeyed)
    (plain : isSecretKey lib.toStdlib key = false)
    (secret : isSecretKey lib.toStdlib (nearestKey key steps) = true)
    (member : steps ∈ replacedAt lib key fullCapture value) : ∃ p k, steps = p ++ [.key k] := by
  induction steps generalizing key fullCapture value with
  | nil => exact absurd (plain.symm.trans secret) Bool.false_ne_true
  | cons step rest ih =>
      obtain ⟨-, -, child, isChild, inside⟩ := (cons_mem_replacedAt_iff keyed).mp member
      by_cases here : isSecretKey lib.toStdlib (step.keyFrom key) = true
      · rw [replacedAt_secret here, List.mem_singleton] at inside
        subst inside
        cases step with
        | key k => exact ⟨[], k, rfl⟩
        | item i => exact absurd (plain.symm.trans here) Bool.false_ne_true
      · rw [Bool.not_eq_true] at here
        obtain ⟨p, k, rfl⟩ := ih (keyed.child isChild) here secret inside
        exact ⟨step :: p, k, rfl⟩

/-- A value with something inside is a container. -/
theorem isContainer_of_at {step : PathStep} {rest : List PathStep} {inner : PyValue}
    (found : value.at (step :: rest) = some inner) : value.isContainer = true := by
  obtain ⟨child, isChild, -⟩ := Option.bind_eq_some_iff.mp found
  cases value with
  | list items | tuple items | dict entries => rfl
  | _ => cases step <;> cases isChild

/-- **What the generic redactor replaces on the way to a sensitive entry is masked.** -/
theorem keyMasked_of_replaced (plain : isSecretKey lib.toStdlib key = false)
    (keyed : value.StringKeyed) {steps p : List PathStep} {k : String} {hidden : PyValue}
    (masked : isMaskedKey lib.toStdlib k = true)
    (found : value.at (steps ++ [.key k]) = some hidden)
    (noBytes : ∀ data, hidden ≠ .bytes data) (before : p <+: steps ++ [.key k])
    (member : p ∈ replacedAt lib key fullCapture value) :
    KeyMasked lib.toStdlib (redactValue lib key path fullCapture value).value
      (steps ++ [.key k]) := by
  obtain ⟨capture, original, mark, isOriginal, replaced, stands⟩ :=
    @redactValue_at_replaced lib key path fullCapture value p keyed member
  obtain ⟨tail, whole⟩ := before
  rw [← whole, PyValue.at_append, isOriginal, Option.bind_some] at found
  by_cases secret : isSecretKey lib.toStdlib (nearestKey key p) = true
  · rw [replacement_secret secret] at replaced
    cases replaced
    obtain ⟨q, k', rfl⟩ := endsWithKey_of_replaced keyed plain secret member
    rw [nearestKey_append_key] at secret
    exact ⟨q, k', ⟨tail, whole⟩, isHidTextKey_of_secret secret, stands⟩
  · rw [Bool.not_eq_true] at secret
    cases tail with
    | cons step rest =>
        -- only secret keys replace containers
        rw [replacement_container secret (isContainer_of_at found)] at replaced
        cases replaced
    | nil =>
        rw [List.append_nil] at whole
        subst whole
        cases found
        have untyped := isHidTextKey_of_masked masked
        rw [nearestKey_append_key] at replaced secret
        have isMark : mark = .str redactedMark := by
          cases hidden with
          | str s =>
              simp only [replacement, secret, untyped, Bool.false_eq_true, if_false] at replaced
              split_ifs at replaced
              exact (Option.some.inj replaced).symm
          | bytes data => exact absurd rfl (noBytes data)
          | _ =>
              simp only [replacement, secret, Bool.false_eq_true, if_false] at replaced
              cases replaced
        rw [isMark] at stands
        exact ⟨steps, k, List.prefix_rfl, untyped, stands⟩

/-- **A covered entry is masked.** -/
theorem keyMasked_of_covered (lower : lib.lower "" = "") {k : String}
    (masked : isMaskedKey lib.toStdlib k = true) (steps : List PathStep) {v : Json}
    {hidden : PyValue} (readable : Json.Readable lib.readFloat v)
    (found : (PyValue.ofJson v).at (steps ++ [.key k]) = some hidden)
    (covered : EntryCovered lib (PyValue.ofJson v) steps k hidden) :
    KeyMasked lib.toStdlib (redactPikvmObservePayload lib (PyValue.ofJson v))
      (steps ++ [.key k]) := by
  have noKey := isSecretKey_empty lower
  obtain ⟨w, rfl⟩ := at_ofJson found
  induction steps generalizing v with
  | nil =>
      obtain ⟨child, isChild, -⟩ := Option.bind_eq_some_iff.mp found
      cases v with
      | obj entries =>
          obtain ⟨path, capture, children⟩ := redactPikvmObservePayload_child lower
            (storableEntries_ofEntries readable.1 readable.2) k
          have isEntry : paramGet (PyValue.ofEntries entries) k = some child := isChild
          have untyped := isHidTextKey_of_masked masked
          rw [isEntry, Option.map_some, observedChild, masked, if_pos rfl,
            redactValue_mark untyped] at children
          exact keyMasked_of_child untyped children
      | _ => cases isChild
  | cons step rest ih =>
      cases v with
      | list items =>
          have keyed := (storable_ofJson readable).stringKeyed
          rcases covered [] (PyValue.ofItems items) (step :: rest) rfl
            (fun _ member => by cases member) rfl with same | ⟨p, before, member⟩
          · rw [same] at found
            have here : KeyMasked lib.toStdlib (PyValue.ofJson (.list items))
                (step :: rest ++ [.key k]) :=
              ⟨step :: rest, k, List.prefix_rfl, isHidTextKey_of_masked masked, found⟩
            exact here.redactValue noKey keyed
          · exact keyMasked_of_replaced noKey keyed masked found
              (fun data same => by cases w <;> cases same) before member
      | obj entries =>
          rw [List.cons_append, PyValue.at] at found
          obtain ⟨child, isChild, later⟩ := Option.bind_eq_some_iff.mp found
          cases step with
          | item i => cases isChild
          | key k' =>
              obtain ⟨path, capture, children⟩ := redactPikvmObservePayload_child lower
                (storableEntries_ofEntries readable.1 readable.2) k'
              have isEntry : paramGet (PyValue.ofEntries entries) k' = some child := isChild
              rw [isEntry, Option.map_some] at children
              by_cases masked' : isMaskedKey lib.toStdlib k' = true
              · have untyped := isHidTextKey_of_masked masked'
                rw [observedChild, masked', if_pos rfl, redactValue_mark untyped] at children
                exact keyMasked_of_child untyped children
              · by_cases secret : isSecretKey lib.toStdlib k' = true
                · rw [redactValue_secret secret] at children
                  exact keyMasked_of_child (isHidTextKey_of_secret secret) children
                · rw [Bool.not_eq_true] at masked' secret
                  rw [paramGet_ofEntries, Option.map_eq_some_iff] at isEntry
                  obtain ⟨v', lookup, rfl⟩ := isEntry
                  have readable' := readable.lookup lookup
                  have inner := ih readable' later
                    ((entryCovered_child ⟨masked', secret⟩ isChild).mp covered)
                  rw [observedChild, masked', if_neg Bool.false_ne_true] at children
                  have keyed := (redactPikvmObservePayload_storable
                    (storable_ofJson readable')).stringKeyed
                  exact (inner.redactValue secret keyed).cons children
      | _ =>
          obtain ⟨child, isChild, -⟩ := Option.bind_eq_some_iff.mp found
          cases step <;> cases isChild

/-! ## What is left -/

/-- **A value the generic redactor leaves**: nothing on the way to it is replaced, and neither is
the value, which is not the mark itself. Below a list of paths nothing is looked at. -/
def Spared (lib : AuditLibrary) (key : String) (value : PyValue) : List PathStep → Prop
  | [] => isSecretKey lib.toStdlib key = false ∧ Untouched lib key value
      ∧ value ≠ .str redactedMark
  | step :: rest => isSecretKey lib.toStdlib key = false ∧ ∃ child, value.child step = some child ∧
      if (isRedactionsKey lib.toStdlib key && value.isSequence) = true then
        ∃ left, child.at rest = some left ∧ left ≠ .str redactedMark
      else Spared lib (step.keyFrom key) child rest

/-- What is kept is there. -/
theorem Spared.at {steps : List PathStep} (kept : Spared lib key value steps) :
    ∃ left, value.at steps = some left ∧ left ≠ .str redactedMark := by
  induction steps generalizing key value with
  | nil => exact ⟨value, rfl, kept.2.2⟩
  | cons step rest ih =>
      obtain ⟨-, child, isChild, inside⟩ := kept
      rw [PyValue.at, isChild, Option.bind_some]
      split_ifs at inside
      · exact inside
      · exact ih inside

/-- Values with one node are alike: both untouched or neither, and both the mark or neither. -/
theorem untouched_of_node {v w : PyValue} (same : w.node = v.node) (untouched : Untouched lib key v)
    (other : v ≠ .str redactedMark) : Untouched lib key w ∧ w ≠ .str redactedMark := by
  have leaf {v : PyValue} (leaf : v.isContainer = false) : v.node = .leaf v := by
    cases v with
    | list items | tuple items | dict entries => cases leaf
    | _ => rfl
  by_cases container : w.isContainer = true
  · cases w with
    | list items | tuple items | dict entries => exact ⟨trivial, fun same => by cases same⟩
    | _ => cases container
  · rw [Bool.not_eq_true] at container
    rw [leaf container] at same
    cases v with
    | list items | tuple items | dict entries => cases same
    | _ =>
        cases same
        exact ⟨untouched, other⟩

/-- **The generic redactor keeps what it leaves.** -/
theorem Spared.redactValue {steps : List PathStep} (kept : Spared lib key value steps)
    (keyed : value.StringKeyed) :
    Spared lib key (redactValue lib key path fullCapture value).value steps := by
  induction steps generalizing key path fullCapture value with
  | nil =>
      obtain ⟨plain, untouched, other⟩ := kept
      have same := @node_redactValue lib key path fullCapture value
        (replacement_of_untouched plain untouched) keyed
      exact ⟨plain, untouched_of_node same untouched other⟩
  | cons step rest ih =>
      obtain ⟨plain, child, isChild, inside⟩ := kept
      by_cases listed : (isRedactionsKey lib.toStdlib key && value.isSequence) = true
      · rw [redactValue_listed listed plain]
        exact ⟨plain, child, isChild, inside⟩
      · rw [if_neg listed] at inside
        have container : value.isContainer = true := by
          cases value with
          | list items | tuple items | dict entries => rfl
          | _ => cases step <;> cases isChild
        have same := @node_redactValue lib key path fullCapture value
          (replacement_container plain container) keyed
        have sequence : (redactValue lib key path fullCapture value).value.isSequence
            = value.isSequence := by
          revert same
          cases redactValue lib key path fullCapture value with
          | mk left _ _ =>
              intro same
              cases value with
              | list items | tuple items | dict entries =>
                  cases left with
                  | list _ | tuple _ | dict _ => first | rfl | cases same
                  | _ => cases same
              | _ => cases container
        obtain ⟨path', children⟩ := @redactValue_child lib key path fullCapture value plain
          (Bool.not_eq_true _ ▸ listed) keyed step
        rw [isChild, Option.map_some] at children
        refine ⟨plain, _, children, ?_⟩
        rw [sequence, if_neg listed]
        exact ih inside (keyed.child isChild)

/-- Where no position on the way is replaced, a value is kept. -/
theorem spared_of_outside {steps : List PathStep} (keyed : value.StringKeyed) {left : PyValue}
    (found : value.at steps = some left) (other : left ≠ .str redactedMark)
    (untyped : isHidTextKey lib.toStdlib (nearestKey key steps) = false)
    (outside : ∀ p, p <+: steps → p ∉ replacedAt lib key fullCapture value) :
    Spared lib key value steps := by
  have here := outside [] List.nil_prefix
  rw [nil_mem_replacedAt_iff, Bool.not_eq_true, Option.isSome_eq_false_iff,
    Option.isNone_iff_eq_none] at here
  have plain := plain_of_replacement here
  induction steps generalizing key fullCapture value with
  | nil =>
      cases found
      refine ⟨plain, ?_, other⟩
      have untyped : isHidTextKey lib.toStdlib key = false := untyped
      cases left with
      | str s =>
          refine ⟨untyped, ?_⟩
          simp only [replacement, plain, untyped, Bool.false_eq_true, if_false] at here
          split_ifs at here with looks
          rw [not_and_or, not_not, Bool.not_eq_true] at looks
          exact looks
      | bytes data =>
          simp only [replacement, plain, Bool.false_eq_true, if_false] at here
          cases here
      | _ => trivial
  | cons step rest ih =>
      obtain ⟨child, isChild, later⟩ := Option.bind_eq_some_iff.mp found
      refine ⟨plain, child, isChild, ?_⟩
      by_cases listed : (isRedactionsKey lib.toStdlib key && value.isSequence) = true
      · rw [if_pos listed]
        exact ⟨left, later, other⟩
      · rw [if_neg listed]
        rw [Bool.not_eq_true] at listed
        have outsideChild : ∀ p, p <+: rest → p ∉ replacedAt lib (step.keyFrom key)
            (childCapture lib.toStdlib fullCapture value) child := by
          intro p before member
          refine outside (step :: p) ((List.prefix_cons_inj step).mpr before) ?_
          exact (cons_mem_replacedAt_iff keyed).mpr ⟨plain, listed, child, isChild, member⟩
        have here := outsideChild [] List.nil_prefix
        rw [nil_mem_replacedAt_iff, Bool.not_eq_true, Option.isSome_eq_false_iff,
          Option.isNone_iff_eq_none] at here
        exact ih (keyed.child isChild) later untyped outsideChild here (plain_of_replacement here)

/-- Under no key a value is looked at as under any other plain key, down to the first key. -/
theorem Spared.underKey (lower : lib.lower "" = "") {steps : List PathStep} {k : String}
    (kept : Spared lib "" value (steps ++ [.key k])) (plain : isSecretKey lib.toStdlib key = false) :
    Spared lib key value (steps ++ [.key k]) := by
  have unlisted : isRedactionsKey lib.toStdlib "" = false := by
    rw [isRedactionsKey, lower]
    decide
  have intoMapping {k : String} {rest : List PathStep} {value : PyValue}
      (kept : Spared lib "" value (.key k :: rest)) : Spared lib key value (.key k :: rest) := by
    obtain ⟨-, child, isChild, inside⟩ := kept
    have mapping : value.isSequence = false := by
      cases value with
      | list items | tuple items => cases isChild
      | _ => rfl
    refine ⟨plain, child, isChild, ?_⟩
    rw [mapping, Bool.and_false, if_neg Bool.false_ne_true] at inside ⊢
    exact inside
  induction steps generalizing value with
  | nil => exact intoMapping kept
  | cons step rest ih =>
      cases step with
      | key k' => exact intoMapping kept
      | item i =>
          obtain ⟨-, child, isChild, inside⟩ := kept
          rw [unlisted, Bool.false_and, if_neg Bool.false_ne_true] at inside
          refine ⟨plain, child, isChild, ?_⟩
          split_ifs
          · exact inside.at
          · exact ih inside

/-- On an open way the generic redactor reaches every value. -/
theorem redactValue_at_open {way : List PathStep} (openWay : OpenWay lib.toStdlib way)
    (plain : isSecretKey lib.toStdlib key = false) (keyed : value.StringKeyed) {inner : PyValue}
    (found : value.at way = some inner) :
    inner.StringKeyed ∧ isSecretKey lib.toStdlib (nearestKey key way) = false
      ∧ ∃ path' capture, (redactValue lib key path fullCapture value).value.at way
        = some (redactValue lib (nearestKey key way) path' capture inner).value := by
  induction way generalizing key path fullCapture value with
  | nil =>
      cases found
      exact ⟨keyed, plain, path, fullCapture, rfl⟩
  | cons step rest ih =>
      obtain ⟨k, rfl, openKey⟩ := openWay step List.mem_cons_self
      obtain ⟨child, isChild, later⟩ := Option.bind_eq_some_iff.mp found
      have visited : (isRedactionsKey lib.toStdlib key && value.isSequence) = false := by
        cases value with
        | dict entries => exact Bool.and_false _
        | _ => cases isChild
      obtain ⟨path', children⟩ :=
        @redactValue_child lib key path fullCapture value plain visited keyed (.key k)
      rw [isChild, Option.map_some] at children
      rw [PyValue.at, children, Option.bind_some]
      exact ih (fun step member => openWay step (List.mem_cons_of_mem _ member)) openKey.plain
        (keyed.child isChild) later

/-- On an open way nothing changes the key a list stands under. -/
theorem nearestKey_way {way : List PathStep} {k : String} (openWay : OpenWay lib.toStdlib way)
    (further : way ≠ []) : nearestKey k way = nearestKey "" way := by
  cases way with
  | nil => exact absurd rfl further
  | cons step rest =>
      obtain ⟨k', rfl, -⟩ := openWay step List.mem_cons_self
      rfl

/-- **What an uncovered list holds is left** at the end of every open way. -/
theorem spared_of_openWay (lower : lib.lower "" = "") {way : List PathStep} {v : Json}
    (readable : Json.Readable lib.readFloat v) (openWay : OpenWay lib.toStdlib way)
    {items : List PyValue} (reached : (PyValue.ofJson v).at way = some (.list items))
    {steps : List PathStep} {k : String}
    (kept : Spared lib "" (.list items) (steps ++ [.key k])) :
    ∃ inner, (redactPikvmObservePayload lib (PyValue.ofJson v)).at way = some inner
      ∧ Spared lib (nearestKey "" way) inner (steps ++ [.key k]) := by
  induction way generalizing v with
  | nil =>
      have same : PyValue.ofJson v = .list items := Option.some.inj reached
      have keyed := (storable_ofJson readable).stringKeyed
      rw [same] at keyed ⊢
      exact ⟨_, rfl, kept.redactValue keyed⟩
  | cons step rest ih =>
      obtain ⟨k', rfl, openKey⟩ := openWay step List.mem_cons_self
      obtain ⟨child, isChild, later⟩ := Option.bind_eq_some_iff.mp reached
      cases v with
      | obj entries =>
          obtain ⟨path, capture, children⟩ := redactPikvmObservePayload_child lower
            (storableEntries_ofEntries readable.1 readable.2) k'
          have isEntry : paramGet (PyValue.ofEntries entries) k' = some child := isChild
          rw [isEntry, Option.map_some, observedChild, openKey.insensitive,
            if_neg Bool.false_ne_true] at children
          rw [paramGet_ofEntries, Option.map_eq_some_iff] at isEntry
          obtain ⟨v', lookup, rfl⟩ := isEntry
          have readable' := readable.lookup lookup
          have openRest : OpenWay lib.toStdlib rest :=
            fun step member => openWay step (List.mem_cons_of_mem _ member)
          obtain ⟨inner, found, keptInner⟩ := ih readable' openRest later
          have keyed := (redactPikvmObservePayload_storable (storable_ofJson readable')).stringKeyed
          obtain ⟨keyedInner, plain, path', capture', stands⟩ :=
            @redactValue_at_open lib k' path capture _ rest openRest openKey.plain keyed inner found
          refine ⟨_, (congrArg (fun child => child.bind fun inner => inner.at rest) children).trans
            stands, ?_⟩
          have underKey : Spared lib (nearestKey k' rest) inner (steps ++ [.key k]) := by
            by_cases further : rest = []
            · subst further
              exact keptInner.underKey lower openKey.plain
            · rw [nearestKey_way openRest further]
              exact keptInner
          exact underKey.redactValue keyedInner
      | _ => cases isChild

/-- Where the mark stands above a position there is nothing at the position. -/
theorem not_maskedAt {steps : List PathStep} {left : PyValue} (found : value.at steps = some left)
    (other : left ≠ .str redactedMark) : ¬ MaskedAt value steps := by
  rintro ⟨p, ⟨tail, rfl⟩, mark⟩
  rw [PyValue.at_append, mark, Option.bind_some] at found
  cases tail with
  | nil => exact other (Option.some.inj found).symm
  | cons step rest =>
      obtain ⟨_, isChild, -⟩ := Option.bind_eq_some_iff.mp found
      cases step <;> cases isChild

end Masked

/-- **A sensitive entry is hidden exactly where it is covered.** -/
theorem maskedAt_iff_covered {lib : AuditLibrary} (lower : lib.lower "" = "") {payload : Json}
    (readable : Json.Readable lib.readFloat payload) {path : List PathStep} {k : String}
    {hidden : PyValue} (masked : isMaskedKey lib.toStdlib k = true)
    (found : (PyValue.ofJson payload).at (path ++ [.key k]) = some hidden) :
    MaskedAt (redactPikvmObservePayload lib (PyValue.ofJson payload)) (path ++ [.key k])
      ↔ EntryCovered lib (PyValue.ofJson payload) path k hidden := by
  constructor
  · rintro maskedAt way items rest rfl openWay reached
    by_contra uncovered
    rw [not_or, not_exists] at uncovered
    obtain ⟨other, outside⟩ := uncovered
    rw [List.append_assoc, PyValue.at_append, reached] at found
    have keyed := (storable_ofJson readable).stringKeyed.at reached
    have kept : Spared lib "" (.list items) (rest ++ [.key k]) := by
      refine spared_of_outside keyed found other ?_ fun p before member => outside p ⟨before, member⟩
      rw [nearestKey_append_key]
      exact isHidTextKey_of_masked masked
    obtain ⟨inner, stands, keptInner⟩ := spared_of_openWay lower readable openWay reached kept
    obtain ⟨left, isLeft, notMark⟩ := keptInner.at
    refine not_maskedAt ?_ notMark maskedAt
    rw [List.append_assoc, PyValue.at_append, stands]
    exact isLeft
  · intro covered
    exact (keyMasked_of_covered lower masked path readable found covered).maskedAt

/-- **The redaction of observed payloads covers a payload exactly where its lists are covered.** -/
theorem observePayload_covers_iff {lib : AuditLibrary} (lower : lib.lower "" = "") {payload : Json}
    (readable : Json.Readable lib.readFloat payload) :
    CoversSensitive lib.toStdlib (PyValue.ofJson payload)
        (redactPikvmObservePayload lib (PyValue.ofJson payload))
      ↔ ListsCovered lib (PyValue.ofJson payload) :=
  forall₅_congr fun _ _ _ masked found => maskedAt_iff_covered lower readable masked found

end AgenticKVM
