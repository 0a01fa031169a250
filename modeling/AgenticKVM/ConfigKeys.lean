import Mathlib.Logic.Relation
import AgenticKVM.ConfigLoader

/-! # Unsafe keys of a configuration

The scan for unsafe keys runs before anything else of a configuration is read. It passes exactly the
documents that hold no unsafe entry at any depth (`rejectUnsafeConfigKeys_eq_ok`), and what it
raises is always a `ConfigValidationError`. It does not go on below a credential reference, and need
not: a valid one is a text, which holds nothing. -/

namespace AgenticKVM

open Lib (except_bind_eq_ok except_ok_bind)

/-! ## Entries -/

/-- The values a mapping, a list, a tuple or a set holds. -/
inductive Holds : PyValue → PyValue → Prop
  | entry {entries : Params} {key child : PyValue} : (key, child) ∈ entries →
      Holds (.dict entries) child
  | listItem {items : List PyValue} {child : PyValue} : child ∈ items → Holds (.list items) child
  | tupleItem {items : List PyValue} {child : PyValue} : child ∈ items → Holds (.tuple items) child
  | setItem {items : List PyValue} {child : PyValue} : child ∈ items → Holds (.set items) child

/-- **An entry at any depth**: an entry of a mapping that is reached through any nesting of
mappings, lists, tuples and sets. -/
def EntryWithin (value key child : PyValue) : Prop :=
  ∃ entries, Relation.ReflTransGen Holds value (.dict entries) ∧ (key, child) ∈ entries

section Keys

variable (std : Stdlib)

/-- A key that looks like the name of a secret. -/
def SecretLike (key : PyValue) : Prop :=
  ∃ fragment ∈ secretKeyFragments, containsText (std.lower (pyStr std key)) fragment = true

/-- A key that asks for code to be imported. -/
def DynamicImportLike (key : PyValue) : Prop :=
  std.lower (pyStr std key) ∈ dynamicImportConfigKeys

/-- The key of a credential reference. -/
def IsCredentialRef (key : PyValue) : Prop := std.lower (pyStr std key) = "credential_ref"

/-- A text with an allowed scheme. -/
def AllowedReference (value : PyValue) : Prop :=
  ∃ text scheme, value = .str text ∧ scheme ∈ allowedCredentialRefSchemes
    ∧ startsWith text scheme = true

/-- **An unsafe entry**: a credential reference that is no text with an allowed scheme, or any other
secret-like or dynamic-import key. -/
def UnsafeEntry (key child : PyValue) : Prop :=
  (IsCredentialRef std key ∧ ¬ AllowedReference child)
    ∨ (¬ IsCredentialRef std key ∧ (SecretLike std key ∨ DynamicImportLike std key))

/-- No entry at any depth is unsafe. -/
def OnlySafeKeys (value : PyValue) : Prop :=
  ∀ key child, EntryWithin value key child → ¬ UnsafeEntry std key child

end Keys

section Scan

variable {std : Stdlib}

/-- The entries of a mapping are its own and those within its values. -/
theorem onlySafeKeys_dict {entries : Params} :
    OnlySafeKeys std (.dict entries)
      ↔ ∀ key child, (key, child) ∈ entries →
        ¬ UnsafeEntry std key child ∧ OnlySafeKeys std child := by
  constructor
  · intro safe key child member
    refine ⟨safe key child ⟨entries, .refl, member⟩, ?_⟩
    rintro key' child' ⟨entries', reached, member'⟩
    exact safe key' child' ⟨entries', reached.head (.entry member), member'⟩
  · rintro each key child ⟨entries', reached, member⟩
    rcases Relation.ReflTransGen.cases_head reached with same | ⟨inner, holds, later⟩
    · cases same
      exact (each key child member).1
    · cases holds with
      | entry member' => exact (each _ _ member').2 key child ⟨entries', later, member⟩

/-- The entries of a sequence are those within its items. -/
theorem onlySafeKeys_items {value : PyValue} {items : List PyValue}
    (noMapping : ∀ entries, value ≠ .dict entries)
    (held : ∀ child, Holds value child ↔ child ∈ items) :
    OnlySafeKeys std value ↔ ∀ item ∈ items, OnlySafeKeys std item := by
  constructor
  · rintro safe item member key child ⟨entries, reached, entry⟩
    exact safe key child ⟨entries, reached.head ((held item).mpr member), entry⟩
  · rintro each key child ⟨entries, reached, entry⟩
    rcases Relation.ReflTransGen.cases_head reached with same | ⟨inner, holds, later⟩
    · exact absurd same (noMapping entries)
    · exact each inner ((held inner).mp holds) key child ⟨entries, later, entry⟩

/-- A list holds its items. -/
theorem holds_list {items : List PyValue} {child : PyValue} :
    Holds (.list items) child ↔ child ∈ items := by
  refine ⟨fun holds => ?_, .listItem⟩
  cases holds with
  | listItem member => exact member

/-- A tuple holds its items. -/
theorem holds_tuple {items : List PyValue} {child : PyValue} :
    Holds (.tuple items) child ↔ child ∈ items := by
  refine ⟨fun holds => ?_, .tupleItem⟩
  cases holds with
  | tupleItem member => exact member

/-- A set holds its items. -/
theorem holds_set {items : List PyValue} {child : PyValue} :
    Holds (.set items) child ↔ child ∈ items := by
  refine ⟨fun holds => ?_, .setItem⟩
  cases holds with
  | setItem member => exact member

/-- A value that holds nothing has no entries. -/
theorem onlySafeKeys_leaf {value : PyValue} (noMapping : ∀ entries, value ≠ .dict entries)
    (holdsNothing : ∀ child, ¬ Holds value child) : OnlySafeKeys std value := by
  refine (onlySafeKeys_items noMapping fun child => ?_).mpr fun _ member =>
    absurd member List.not_mem_nil
  exact iff_of_false (holdsNothing child) List.not_mem_nil

/-- A text with an allowed scheme is not blank. -/
theorem strip_ne_empty_of_scheme {text scheme : String}
    (allowed : scheme ∈ allowedCredentialRefSchemes) (starts : startsWith text scheme = true) :
    strip text ≠ "" := by
  intro blank
  -- the first letter of a scheme is no space
  have letters : (allowedCredentialRefSchemes.all fun scheme =>
      scheme.toList.any fun c => !isSpace c) = true := by decide +kernel
  obtain ⟨c, letter, noSpace⟩ := List.any_eq_true.mp (List.all_eq_true.mp letters scheme allowed)
  rw [Bool.not_eq_true'] at noSpace
  have member := (List.isPrefixOf_iff_prefix.mp starts).mem letter
  exact absurd (noSpace.symm.trans (isSpace_of_strip blank c member)) Bool.false_ne_true

/-- The validation of a reference accepts the texts with an allowed scheme. -/
theorem validateCredentialReference_isOk_iff {path : String} {value : PyValue} :
    (∃ text, validateCredentialReference path value = .ok text) ↔ AllowedReference value := by
  cases value with
  | str text =>
      rw [validateCredentialReference]
      constructor
      · rintro ⟨text', valid⟩
        split_ifs at valid with blank allowed
        obtain ⟨scheme, member, starts⟩ := List.any_eq_true.mp allowed
        exact ⟨text, scheme, rfl, member, starts⟩
      · rintro ⟨text', scheme, same, member, starts⟩
        cases same
        rw [if_neg (strip_ne_empty_of_scheme member starts),
          if_pos (List.any_eq_true.mpr ⟨scheme, member, starts⟩)]
        exact ⟨_, rfl⟩
  | _ =>
      refine iff_of_false ?_ ?_
      · rintro ⟨_, valid⟩
        cases valid
      · rintro ⟨_, _, same, -⟩
        cases same

/-- A reference with an allowed scheme holds no entries. -/
theorem AllowedReference.onlySafeKeys {value : PyValue} (allowed : AllowedReference value) :
    OnlySafeKeys std value := by
  obtain ⟨text, _, rfl, -⟩ := allowed
  exact onlySafeKeys_leaf (fun _ same => nomatch same) (fun _ holds => nomatch holds)

/-- A credential reference is validated, and its value not looked into. -/
theorem rejectUnsafeEntries_reference {path : String} {key child : PyValue} {rest : Params}
    (reference : IsCredentialRef std key) :
    rejectUnsafeEntries std path ((key, child) :: rest)
      = validateCredentialReference (path ++ "." ++ pyStr std key) child >>=
        fun _ => rejectUnsafeEntries std path rest := by
  rw [rejectUnsafeEntries]
  exact if_pos reference

/-- Any other entry is checked by its key, and then its value is scanned. -/
theorem rejectUnsafeEntries_other {path : String} {key child : PyValue} {rest : Params}
    (other : ¬ IsCredentialRef std key) :
    rejectUnsafeEntries std path ((key, child) :: rest)
      = raiseIf (secretKeyFragments.any (containsText (std.lower (pyStr std key))) = true)
          (configError ("Secret-like config key rejected: " ++ (path ++ "." ++ pyStr std key))) >>=
        fun _ => raiseIf (std.lower (pyStr std key) ∈ dynamicImportConfigKeys)
          (configError
            ("Dynamic import config key rejected: " ++ (path ++ "." ++ pyStr std key))) >>=
        fun _ => rejectUnsafeConfigKeys std (path ++ "." ++ pyStr std key) child >>=
        fun _ => rejectUnsafeEntries std path rest := by
  rw [rejectUnsafeEntries]
  exact if_neg other

/-- **One entry passes** where it is safe and so is everything within its value. -/
theorem rejectUnsafeEntries_cons_eq_ok {path : String} {key child : PyValue} {rest : Params}
    (below : ∀ path, rejectUnsafeConfigKeys std path child = .ok () ↔ OnlySafeKeys std child) :
    rejectUnsafeEntries std path ((key, child) :: rest) = .ok ()
      ↔ (¬ UnsafeEntry std key child ∧ OnlySafeKeys std child)
        ∧ rejectUnsafeEntries std path rest = .ok () := by
  unfold UnsafeEntry
  by_cases reference : IsCredentialRef std key
  · rw [rejectUnsafeEntries_reference reference, except_bind_eq_ok, exists_and_right,
      validateCredentialReference_isOk_iff]
    refine and_congr_left fun _ => ?_
    constructor
    · intro allowed
      refine ⟨?_, allowed.onlySafeKeys⟩
      rintro (⟨-, refused⟩ | ⟨other, -⟩)
      · exact refused allowed
      · exact other reference
    · rintro ⟨safe, -⟩
      by_contra refused
      exact safe (.inl ⟨reference, refused⟩)
  · have secret : (secretKeyFragments.any (containsText (std.lower (pyStr std key))) = true)
        ↔ SecretLike std key := List.any_eq_true
    rw [rejectUnsafeEntries_other reference]
    simp only [except_bind_eq_ok, raiseIf_eq_ok, below, secret]
    constructor
    · rintro ⟨_, noSecret, _, noImport, _, safe, later⟩
      refine ⟨⟨?_, safe⟩, later⟩
      rintro (⟨isReference, -⟩ | ⟨-, isSecret | isImport⟩)
      · exact reference isReference
      · exact noSecret isSecret
      · exact noImport isImport
    · rintro ⟨⟨safe, below⟩, later⟩
      exact ⟨(), fun isSecret => safe (.inr ⟨reference, .inl isSecret⟩), (),
        fun isImport => safe (.inr ⟨reference, .inr isImport⟩), (), below, later⟩

mutual

/-- **The scan passes exactly the documents without an unsafe entry.** -/
theorem rejectUnsafeConfigKeys_eq_ok (path : String) (value : PyValue) :
    rejectUnsafeConfigKeys std path value = .ok () ↔ OnlySafeKeys std value := by
  match value with
  | .dict entries => 
      rw [rejectUnsafeConfigKeys, onlySafeKeys_dict]
      exact rejectUnsafeEntries_eq_ok path entries
  | .list items =>
      rw [rejectUnsafeConfigKeys,
        onlySafeKeys_items (fun _ same => by cases same) fun _ => holds_list]
      exact rejectUnsafeItems_eq_ok path 0 items
  | .tuple items =>
      rw [rejectUnsafeConfigKeys,
        onlySafeKeys_items (fun _ same => by cases same) fun _ => holds_tuple]
      exact rejectUnsafeItems_eq_ok path 0 items
  | .set items =>
      rw [rejectUnsafeConfigKeys,
        onlySafeKeys_items (fun _ same => by cases same) fun _ => holds_set]
      exact rejectUnsafeItems_eq_ok path 0 items
  | .none | .bool _ | .int _ | .float _ | .str _ | .bytes _ | .object _ _ =>
      exact iff_of_true rfl
        (onlySafeKeys_leaf (fun _ same => nomatch same) (fun _ holds => nomatch holds))

/-- **Items pass** exactly where each has safe keys only, at whatever path and index they are
checked. -/
theorem rejectUnsafeItems_eq_ok (path : String) (index : Nat) (items : List PyValue) :
    rejectUnsafeItems std path index items = .ok () ↔ ∀ item ∈ items, OnlySafeKeys std item := by
  match items with
  | [] => exact iff_of_true rfl nofun
  | item :: rest =>
      rw [rejectUnsafeItems, except_bind_eq_ok, List.forall_mem_cons,
        ← rejectUnsafeConfigKeys_eq_ok (path ++ "[" ++ toString index ++ "]") item,
        ← rejectUnsafeItems_eq_ok path (index + 1) rest]
      exact ⟨fun ⟨_, here, later⟩ => ⟨here, later⟩, fun ⟨here, later⟩ => ⟨(), here, later⟩⟩

/-- **Entries pass** exactly where each is safe itself and has safe keys only below it. -/
theorem rejectUnsafeEntries_eq_ok (path : String) (entries : Params) :
    rejectUnsafeEntries std path entries = .ok ()
      ↔ ∀ key child, (key, child) ∈ entries →
        ¬ UnsafeEntry std key child ∧ OnlySafeKeys std child := by
  match entries with
  | [] => exact iff_of_true rfl nofun
  | (key, child) :: rest =>
      rw [rejectUnsafeEntries_cons_eq_ok fun path => rejectUnsafeConfigKeys_eq_ok path child,
        rejectUnsafeEntries_eq_ok path rest]
      constructor
      · rintro ⟨here, later⟩ key' child' member
        rcases List.mem_cons.mp member with same | member
        · cases same
          exact here
        · exact later key' child' member
      · intro each
        exact ⟨each key child List.mem_cons_self,
          fun key' child' member => each key' child' (List.mem_cons_of_mem _ member)⟩

end

/-! ## What the scan raises -/

/-- A computation that fails with a `ConfigValidationError` if it fails. -/
def RaisesConfigErrors {α : Type} (result : Except PyExc α) : Prop :=
  ∀ e, result = .error e → ∃ message, e = configError message

/-- A computation of two parts raises configuration errors only where both do. -/
theorem RaisesConfigErrors.bind {α β : Type} {result : Except PyExc α} {f : α → Except PyExc β}
    (first : RaisesConfigErrors result) (rest : ∀ value, RaisesConfigErrors (f value)) :
    RaisesConfigErrors (result >>= f) := by
  cases result with
  | ok value => exact rest value
  | error e =>
      intro e' same
      cases same
      exact first e rfl

/-- A check raises the configuration error it names. -/
theorem raisesConfigErrors_raiseIf {condition : Prop} [Decidable condition] (message : String) :
    RaisesConfigErrors (raiseIf condition (configError message)) := by
  intro e same
  unfold raiseIf at same
  split_ifs at same
  cases same
  exact ⟨message, rfl⟩

/-- The check of a credential reference raises configuration errors only. -/
theorem raisesConfigErrors_reference (path : String) (value : PyValue) :
    RaisesConfigErrors (validateCredentialReference path value) := by
  intro e same
  cases value with
  | str text =>
      rw [validateCredentialReference] at same
      split_ifs at same <;> cases same <;> exact ⟨_, rfl⟩
  | _ =>
      cases same
      exact ⟨_, rfl⟩

/-- What returns raises nothing. -/
theorem RaisesConfigErrors.ok {α : Type} (value : α) : RaisesConfigErrors (.ok value) :=
  fun _ same => nomatch same

mutual

/-- **The scan raises nothing but a `ConfigValidationError`.** -/
theorem raisesConfigErrors_scan (path : String) (value : PyValue) :
    RaisesConfigErrors (rejectUnsafeConfigKeys std path value) := by
  match value with
  | .dict entries =>
      rw [rejectUnsafeConfigKeys]
      exact raisesConfigErrors_entries path entries
  | .list items | .tuple items | .set items =>
      rw [rejectUnsafeConfigKeys]
      exact raisesConfigErrors_items path 0 items
  | .none | .bool _ | .int _ | .float _ | .str _ | .bytes _ | .object _ _ => exact .ok ()

/-- The check of items raises configuration errors only. -/
theorem raisesConfigErrors_items (path : String) (index : Nat) (items : List PyValue) :
    RaisesConfigErrors (rejectUnsafeItems std path index items) := by
  match items with
  | [] => exact .ok ()
  | item :: rest =>
      rw [rejectUnsafeItems]
      exact (raisesConfigErrors_scan _ item).bind fun _ => raisesConfigErrors_items _ _ rest

/-- The check of entries raises configuration errors only. -/
theorem raisesConfigErrors_entries (path : String) (entries : Params) :
    RaisesConfigErrors (rejectUnsafeEntries std path entries) := by
  match entries with
  | [] => exact .ok ()
  | (key, child) :: rest =>
      have later := raisesConfigErrors_entries path rest
      by_cases reference : IsCredentialRef std key
      · rw [rejectUnsafeEntries_reference reference]
        exact (raisesConfigErrors_reference _ _).bind fun _ => later
      · rw [rejectUnsafeEntries_other reference]
        exact (raisesConfigErrors_raiseIf _).bind fun _ => (raisesConfigErrors_raiseIf _).bind
          fun _ => (raisesConfigErrors_scan _ child).bind fun _ => later

end

end Scan

/-- **No configuration with an unsafe key is accepted.** A mapping that is accepted holds no
secret-like and no dynamic-import key at any depth, but for credential references that are texts
with an allowed scheme. Where such a key, or another credential reference, occurs anywhere, a
`ConfigValidationError` is raised. -/
theorem configFromMapping_rejects_unsafe (lib : ConfigLibrary) (raw : Params) :
    (∀ config, configFromMapping lib raw = .ok config → OnlySafeKeys lib.toStdlib (.dict raw))
      ∧ ∀ key child, EntryWithin (.dict raw) key child → UnsafeEntry lib.toStdlib key child →
        ∃ message, configFromMapping lib raw = .error (configError message) := by
  constructor
  · intro config accepted
    obtain ⟨_, scanned, -⟩ := except_bind_eq_ok.mp accepted
    exact (rejectUnsafeConfigKeys_eq_ok "config" _).mp scanned
  · intro key child within unsafeEntry
    cases scanned : rejectUnsafeConfigKeys lib.toStdlib "config" (.dict raw) with
    | ok _ =>
        have safe := (rejectUnsafeConfigKeys_eq_ok "config" _).mp scanned
        exact absurd unsafeEntry (safe key child within)
    | error e =>
        obtain ⟨message, rfl⟩ := raisesConfigErrors_scan "config" (.dict raw) e scanned
        refine ⟨message, ?_⟩
        rw [configFromMapping, scanned]
        rfl

end AgenticKVM
