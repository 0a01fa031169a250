import AgenticKVM.TowerClearance

/-! # Policy files

How a parsed policy document becomes a policy (`load_policy_file`), beside the schema that says what
a policy document is (`policy.schema.json`). The loader reads less than the schema demands and
coerces what it reads, so a document can be loaded that the schema refuses: its scopes then need not
be the documented ones. `policyFileSound_iff` says for which documents the loader keeps to the
schema. -/

namespace AgenticKVM

open Lib (Json except_bind_eq_ok except_ok_bind except_pure)

variable (std : Stdlib) (registry : CapabilityRegistry)

/-! ## Python constructors on JSON values -/

/-- Whether `hash(value)` returns. -/
def hashable : Json → Bool
  | .list _ | .obj _ => false
  | .null | .bool _ | .int _ | .float _ | .str _ => true

/-- The error of a value that cannot be hashed. -/
def unhashable (v : Json) : PyExc :=
  .typeError ("unhashable type: '" ++ (PyValue.ofJson v).typeName ++ "'")

/-- `iter(value)`, with all the items it gives. -/
def iterItems (v : Json) : Except PyExc (List Json) :=
  match jsonTuple v with
  | some items => .ok items
  | none => .error (.typeError ("'" ++ (PyValue.ofJson v).typeName ++ "' object is not iterable"))

/-- `frozenset(value)`, its items in the order they are read. -/
def frozenset (v : Json) : Except PyExc (List Json) := do
  let items ← iterItems v
  match items.find? fun item => !hashable item with
  | some item => .error (unhashable item)
  | none => .ok items

/-- An item of the sequence `dict` is given, as a pair. -/
def dictPair (index : Nat) (item : Json) : Except PyExc (PyValue × PyValue) :=
  let place := "dictionary update sequence element #" ++ toString index
  match jsonTuple item with
  | none => .error (.typeError ("cannot convert " ++ place ++ " to a sequence"))
  | some [key, value] =>
      if hashable key then .ok (PyValue.ofJson key, PyValue.ofJson value)
      else .error (unhashable key)
  | some items => .error (.valueError
      (place ++ " has length " ++ toString items.length ++ "; 2 is required"))

/-- The items of the sequence `dict` is given, as pairs. -/
def dictPairs (index : Nat) : List Json → Except PyExc Params
  | [] => .ok []
  | item :: rest => do
      let pair ← dictPair index item
      return pair :: (← dictPairs (index + 1) rest)

/-- `dict(value)`, as the entries it is filled with, in order. -/
def dictOf : Json → Except PyExc Params
  | .obj entries => .ok (PyValue.ofEntries entries)
  | v => do dictPairs 0 (← iterItems v)

/-! ## The loader -/

/-- A `PolicyRule` as the loader builds it: nothing checks the type of its reason. -/
structure LoadedRule where
  decision : PolicyDecision
  limits : Params
  reason : Json

/-- A `CapabilityPolicy` as the loader builds it: nothing checks the types of the members of its
scopes. The deny sets are empty, and audit and emergency stop are required. -/
structure LoadedPolicy where
  name : String
  mode : ControlMode
  targetAllow : List Json
  allowRealHardware : Bool
  sessionAllow : List Json
  rules : List (String × LoadedRule)

/-- Whether an id lies in a loaded scope: `allows` of `TargetScope` and of `SessionScope`. -/
def loadedScopeAllows (allow : List Json) : Option String → Bool
  | none => allow.isEmpty
  | some id => allow.isEmpty || allow.any fun member => isText member id

/-- The checks of the document's defaults. -/
def checkDefaults (raw : List (String × Json)) : Except PyExc Unit :=
  match jsonGet raw "defaults" with
  | .obj defaults => do
      raiseIf (¬ isText (jsonGet defaults "unknown_capability") PolicyDecision.deny.value)
        (.valueError "Policy defaults must deny unknown capabilities")
      raiseIf (¬ isText (jsonGet defaults "audit") "mandatory")
        (.valueError "Policy defaults must require mandatory audit")
      raiseIf (¬ isText (jsonGet defaults "secrets") "redact_by_default")
        (.valueError "Policy defaults must redact secrets by default")
  | _ => .error (.valueError "Policy file must contain defaults")

/-- The document's scope: what is not an object counts as an empty one. -/
def policyScope (raw : List (String × Json)) : List (String × Json) :=
  match jsonGet raw "scope" with
  | .obj scope => scope
  | _ => []

/-- `normalize_policy_decision` of a JSON value. -/
def normalizeDecisionValue : Json → Except PyExc PolicyDecision
  | .str text => normalizePolicyDecision text
  | v => .error (.valueError ("Unknown policy decision: " ++ jsonStr std v))

/-- One item of the document's rules. -/
def policyRule : Json → Except PyExc (String × LoadedRule)
  | .obj item =>
      match jsonGet item "capability" with
      | .str capabilityId => do
          raiseIf (registry.get capabilityId = none)
            (.valueError ("Unknown capability in policy: " ++ capabilityId))
          let decision ← normalizeDecisionValue std (jsonGetD item "decision" (.str ""))
          let limits ← dictOf (jsonGetD item "limits" (.obj []))
          return (capabilityId, ⟨decision, limits, jsonGet item "notes"⟩)
      | _ => .error (.valueError "Policy rule capability must be a string")
  | _ => .error (.valueError "Policy rules must be objects")

/-- The document's rules, added to those before: of two rules for a capability the later stays. -/
def policyRules (rules : List (String × LoadedRule)) :
    List Json → Except PyExc (List (String × LoadedRule))
  | [] => .ok rules
  | item :: rest => do
      let rule ← policyRule std registry item
      policyRules (dictSet rules rule.1 rule.2) rest

/-- `raw["mode"]`. -/
def policyMode (raw : List (String × Json)) : Except PyExc ControlMode :=
  match raw.lookup "mode" with
  | some mode => normalizeControlMode std (jsonStr std mode)
  | none => .error (.keyError "'mode'")

/-- `load_policy_file`, from the parsed document. -/
def loadPolicyFile : Json → Except PyExc LoadedPolicy
  | .obj raw => do
      checkDefaults raw
      let targetAllow ← frozenset (jsonGetD (policyScope raw) "targets" (.list []))
      let allowRealHardware := truthy (jsonGetD (policyScope raw) "allow_real_hardware" (.bool false))
      let sessionAllow ← frozenset (jsonGetD (policyScope raw) "sessions" (.list []))
      let rules ← policyRules std registry [] (← iterItems (jsonGetD raw "rules" (.list [])))
      let mode ← policyMode std raw
      return { name := jsonStr std (jsonGetD raw "name" (.str "unnamed policy"))
               mode, targetAllow, allowRealHardware, sessionAllow, rules }
  | _ => .error (.valueError "Policy file must contain a JSON object")

/-! ## The schema -/

/-- A text of at least one character. -/
def nonEmptyText : Json → Bool
  | .str s => s ≠ ""
  | _ => false

/-- A text. -/
def isString : Json → Bool
  | .str _ => true
  | _ => false

/-- A boolean. -/
def isBoolean : Json → Bool
  | .bool _ => true
  | _ => false

/-- An object. -/
def isObject : Json → Bool
  | .obj _ => true
  | _ => false

/-- One of the given texts. -/
def isOneOf (texts : List String) (v : Json) : Bool := texts.any fun text => isText v text

/-- The texts among JSON values. -/
def textsOf (items : List Json) : List String :=
  items.filterMap fun
    | .str s => some s
    | _ => none

/-- An array of distinct texts of at least one character. -/
def uniqueTexts : Json → Bool
  | .list items => items.all nonEmptyText && decide (textsOf items).Nodup
  | _ => false

/-- A property that has to be there. -/
def demands (entries : List (String × Json)) (key : String) (check : Json → Bool) : Bool :=
  (entries.lookup key).any check

/-- A property that is checked where it is there. -/
def permits (entries : List (String × Json)) (key : String) (check : Json → Bool) : Bool :=
  (entries.lookup key).all check

/-- No properties but the given ones. -/
def onlyKeys (entries : List (String × Json)) (keys : List String) : Bool :=
  entries.all fun entry => entry.1 ∈ keys

/-- `$defs.policyDecision`. -/
def policyDecisionSchema : Json → Bool :=
  isOneOf ["deny", "ask_each_time", "ask_once_per_session", "allow", "allow_with_limits"]

/-- `properties.defaults`. -/
def defaultsSchema : Json → Bool
  | .obj defaults =>
      onlyKeys defaults ["unknown_capability", "unmatched_capability", "audit", "secrets"]
      && demands defaults "unknown_capability" (isText · "deny")
      && permits defaults "unmatched_capability" policyDecisionSchema
      && demands defaults "audit" (isText · "mandatory")
      && demands defaults "secrets" (isText · "redact_by_default")
  | _ => false

/-- `properties.scope`. -/
def scopeSchema : Json → Bool
  | .obj scope =>
      onlyKeys scope ["targets", "sessions", "allow_real_hardware"]
      && permits scope "targets" uniqueTexts
      && permits scope "sessions" uniqueTexts
      && permits scope "allow_real_hardware" isBoolean
  | _ => false

/-- `properties.rules.items`. -/
def ruleSchema : Json → Bool
  | .obj item =>
      onlyKeys item ["capability", "family", "decision", "dangerous", "requires_explicit_scope",
        "requires_explanation", "limits", "notes"]
      && demands item "capability" nonEmptyText
      && permits item "family" (isOneOf capabilityFamilies)
      && demands item "decision" policyDecisionSchema
      && permits item "dangerous" isBoolean
      && permits item "requires_explicit_scope" isBoolean
      && permits item "requires_explanation" isBoolean
      && permits item "limits" isObject
      && permits item "notes" isString
  | _ => false

/-- `properties.rules`. -/
def rulesSchema : Json → Bool
  | .list items => items.all ruleSchema
  | _ => false

/-- `policy.schema.json`. -/
def policySchema : Json → Bool
  | .obj raw =>
      onlyKeys raw ["version", "name", "description", "mode", "defaults", "scope", "rules",
        "dangerous_actions", "hard_invariants"]
      && demands raw "version" nonEmptyText
      && demands raw "name" nonEmptyText
      && permits raw "description" isString
      && demands raw "mode" (isOneOf ["Observe", "Assisted", "Supervised", "Full Control", "Custom"])
      && demands raw "defaults" defaultsSchema
      && permits raw "scope" scopeSchema
      && demands raw "rules" rulesSchema
      && permits raw "dangerous_actions" uniqueTexts
      && permits raw "hard_invariants" uniqueTexts
  | _ => false

/-! ## What the loader accepts -/

/-- What a `frozenset` can be made of. -/
def SetLike (v : Json) : Prop :=
  ∃ items, jsonTuple v = some items ∧ ∀ item ∈ items, hashable item = true

/-- What a `dict` can be made of. -/
def DictLike (v : Json) : Prop :=
  isObject v = true ∨ ∃ items, jsonTuple v = some items ∧
    ∀ item ∈ items, ∃ key value, jsonTuple item = some [key, value] ∧ hashable key = true

/-- A rule the loader takes: an object that names a registered capability and a decision, with
limits a `dict` can be made of. -/
structure RuleLoadable (item : List (String × Json)) : Prop where
  capability : ∃ capabilityId capability, jsonGet item "capability" = .str capabilityId ∧
    registry.get capabilityId = some capability
  decision : ∃ decision : PolicyDecision,
    jsonGetD item "decision" (.str "") = .str decision.value
  limits : DictLike (jsonGetD item "limits" (.obj []))

/-- **What the loader checks of a document**: its defaults, that its scopes can be iterated and
their members hashed, its rules and that its mode can be read. -/
structure Loadable (raw : List (String × Json)) : Prop where
  defaults : ∃ defaults, jsonGet raw "defaults" = .obj defaults ∧
    jsonGet defaults "unknown_capability" = .str "deny" ∧
    jsonGet defaults "audit" = .str "mandatory" ∧
    jsonGet defaults "secrets" = .str "redact_by_default"
  targets : SetLike (jsonGetD (policyScope raw) "targets" (.list []))
  sessions : SetLike (jsonGetD (policyScope raw) "sessions" (.list []))
  rules : ∃ items, jsonTuple (jsonGetD raw "rules" (.list [])) = some items ∧
    ∀ item ∈ items, ∃ entries, item = .obj entries ∧ RuleLoadable registry entries
  mode : ∃ value mode, raw.lookup "mode" = some value ∧
    normalizeControlMode std (jsonStr std value) = .ok mode

theorem iterItems_eq_ok {v : Json} {items : List Json} :
    iterItems v = .ok items ↔ jsonTuple v = some items := by
  unfold iterItems
  cases jsonTuple v with
  | none => simp
  | some found => simp

/-- A set is made of hashable items. -/
theorem frozenset_eq_ok {v : Json} {items : List Json} :
    frozenset v = .ok items ↔ jsonTuple v = some items ∧ ∀ item ∈ items, hashable item = true := by
  unfold frozenset
  rw [except_bind_eq_ok]
  constructor
  · rintro ⟨read, iterated, checked⟩
    cases bad : read.find? (fun item => !hashable item) with
    | some item =>
        rw [bad] at checked
        cases checked
    | none =>
        rw [bad] at checked
        cases checked
        refine ⟨iterItems_eq_ok.mp iterated, fun item member => ?_⟩
        simpa using List.find?_eq_none.mp bad item member
  · rintro ⟨iterated, fine⟩
    refine ⟨items, iterItems_eq_ok.mpr iterated, ?_⟩
    have none : items.find? (fun item => !hashable item) = none :=
      List.find?_eq_none.mpr fun item member => by simp [fine item member]
    rw [none]

/-- A pair is made of a sequence of two items, the first of them hashable. -/
theorem dictPair_isOk {index : Nat} {item : Json} :
    (∃ pair, dictPair index item = .ok pair) ↔
      ∃ key value, jsonTuple item = some [key, value] ∧ hashable key = true := by
  unfold dictPair
  dsimp only
  split
  · next unreadable => simp [unreadable]
  · next key value read =>
      by_cases hash : hashable key = true <;> simp [read, hash]
  · next items other read =>
      constructor
      · rintro ⟨pair, raised⟩
        cases raised
      · rintro ⟨key, value, pair, -⟩
        rw [read] at pair
        exact absurd (Option.some.inj pair) (other key value)

theorem dictPairs_isOk {items : List Json} {index : Nat} :
    (∃ pairs, dictPairs index items = .ok pairs) ↔
      ∀ item ∈ items, ∃ key value, jsonTuple item = some [key, value] ∧ hashable key = true := by
  induction items generalizing index with
  | nil => simp [dictPairs]
  | cons item rest ih =>
      rw [List.forall_mem_cons, ← @dictPair_isOk index, ← @ih (index + 1)]
      constructor
      · rintro ⟨pairs, built⟩
        obtain ⟨pair, first, built⟩ := except_bind_eq_ok.mp built
        obtain ⟨more, others, -⟩ := except_bind_eq_ok.mp built
        exact ⟨⟨pair, first⟩, more, others⟩
      · rintro ⟨⟨pair, first⟩, more, others⟩
        exact ⟨pair :: more, by rw [dictPairs, first, except_ok_bind, others]; rfl⟩

theorem dictOf_isOk {v : Json} : (∃ entries, dictOf v = .ok entries) ↔ DictLike v := by
  have sequence (object : isObject v = false) (same : dictOf v = iterItems v >>= dictPairs 0) :
      (∃ entries, dictOf v = .ok entries) ↔ DictLike v := by
    rw [same, DictLike, object]
    simp only [Bool.false_eq_true, false_or]
    constructor
    · rintro ⟨entries, built⟩
      obtain ⟨items, iterated, built⟩ := except_bind_eq_ok.mp built
      exact ⟨items, iterItems_eq_ok.mp iterated, dictPairs_isOk.mp ⟨entries, built⟩⟩
    · rintro ⟨items, iterated, pairs⟩
      obtain ⟨entries, built⟩ := (@dictPairs_isOk items 0).mpr pairs
      exact ⟨entries, except_bind_eq_ok.mpr ⟨items, iterItems_eq_ok.mpr iterated, built⟩⟩
  cases v with
  | obj entries => exact ⟨fun _ => Or.inl rfl, fun _ => ⟨_, rfl⟩⟩
  | null | bool | int | float | str | list => exact sequence rfl rfl

/-- A decision is read from exactly its text. -/
theorem normalizeDecisionValue_eq_ok {v : Json} {decision : PolicyDecision} :
    normalizeDecisionValue std v = .ok decision ↔ v = .str decision.value := by
  constructor
  · intro read
    cases v with
    | str text =>
        have read : normalizePolicyDecision text = .ok decision := read
        unfold normalizePolicyDecision at read
        split at read <;> cases read <;> rfl
    | null | bool | int | float | list | obj => cases read
  · rintro rfl
    exact normalizePolicyDecision_value decision

variable {std registry}

/-- A rule is taken exactly where it is loadable. -/
theorem policyRule_isOk {item : Json} :
    (∃ rule, policyRule std registry item = .ok rule) ↔
      ∃ entries, item = .obj entries ∧ RuleLoadable registry entries := by
  constructor
  · rintro ⟨rule, taken⟩
    cases item with
    | obj entries =>
        refine ⟨entries, rfl, ?_⟩
        rw [policyRule] at taken
        split at taken
        · next capabilityId named =>
            obtain ⟨_, known, taken⟩ := except_bind_eq_ok.mp taken
            obtain ⟨decision, decided, taken⟩ := except_bind_eq_ok.mp taken
            obtain ⟨limits, limited, -⟩ := except_bind_eq_ok.mp taken
            obtain ⟨capability, found⟩ :=
              Option.ne_none_iff_exists'.mp (raiseIf_eq_ok.mp known)
            exact ⟨⟨capabilityId, capability, named, found⟩,
              ⟨decision, (normalizeDecisionValue_eq_ok std).mp decided⟩,
              dictOf_isOk.mp ⟨limits, limited⟩⟩
        · cases taken
    | null | bool | int | float | str | list => cases taken
  · rintro ⟨entries, rfl, ⟨capabilityId, capability, named, found⟩, ⟨decision, decided⟩, limited⟩
    obtain ⟨limits, limited⟩ := dictOf_isOk.mpr limited
    refine ⟨(capabilityId, ⟨decision, limits, jsonGet entries "notes"⟩), ?_⟩
    rw [policyRule, named]
    dsimp only
    rw [raiseIf_of_not (by simp [found]), except_ok_bind,
      (normalizeDecisionValue_eq_ok std).mpr decided, except_ok_bind, limited]
    rfl

theorem policyRules_isOk {items : List Json} {rules : List (String × LoadedRule)} :
    (∃ loaded, policyRules std registry rules items = .ok loaded) ↔
      ∀ item ∈ items, ∃ entries, item = .obj entries ∧ RuleLoadable registry entries := by
  induction items generalizing rules with
  | nil => simp [policyRules]
  | cons item rest ih =>
      rw [List.forall_mem_cons, ← @policyRule_isOk std]
      constructor
      · rintro ⟨loaded, taken⟩
        obtain ⟨rule, first, taken⟩ := except_bind_eq_ok.mp taken
        exact ⟨⟨rule, first⟩, ih.mp ⟨loaded, taken⟩⟩
      · rintro ⟨⟨rule, first⟩, others⟩
        obtain ⟨loaded, taken⟩ := (@ih (dictSet rules rule.1 rule.2)).mpr others
        exact ⟨loaded, by rw [policyRules, first, except_ok_bind, taken]⟩

/-- The defaults pass where they say what they have to say. -/
theorem checkDefaults_isOk {raw : List (String × Json)} :
    checkDefaults raw = .ok () ↔
      ∃ defaults, jsonGet raw "defaults" = .obj defaults ∧
        jsonGet defaults "unknown_capability" = .str "deny" ∧
        jsonGet defaults "audit" = .str "mandatory" ∧
        jsonGet defaults "secrets" = .str "redact_by_default" := by
  unfold checkDefaults
  split
  · next defaults read =>
      have required {key text : String} {e : PyExc} {u : Unit} :
          raiseIf (¬ isText (jsonGet defaults key) text = true) e = .ok u ↔
            jsonGet defaults key = .str text := by
        rw [raiseIf_eq_ok, not_not, isText_iff]
      constructor
      · intro passed
        obtain ⟨_, unknown, passed⟩ := except_bind_eq_ok.mp passed
        obtain ⟨_, audit, secrets⟩ := except_bind_eq_ok.mp passed
        exact ⟨defaults, read, required.mp unknown, required.mp audit, required.mp secrets⟩
      · rintro ⟨found, same, unknown, audit, secrets⟩
        rw [read] at same
        cases same
        exact except_bind_eq_ok.mpr ⟨(), required.mpr unknown,
          except_bind_eq_ok.mpr ⟨(), required.mpr audit, required.mpr secrets⟩⟩
  · next other =>
      constructor
      · intro raised
        cases raised
      · rintro ⟨defaults, read, -⟩
        exact absurd read (other defaults)

/-- What a loaded policy's scopes are made of. -/
structure LoadedFrom (raw : List (String × Json)) (policy : LoadedPolicy) : Prop where
  targets : jsonTuple (jsonGetD (policyScope raw) "targets" (.list []))
    = some policy.targetAllow
  sessions : jsonTuple (jsonGetD (policyScope raw) "sessions" (.list []))
    = some policy.sessionAllow
  realHardware : policy.allowRealHardware
    = truthy (jsonGetD (policyScope raw) "allow_real_hardware" (.bool false))

/-- A document that is loaded is loadable, and its scopes are read from it. -/
theorem loadPolicyFile_ok {raw : List (String × Json)} {policy : LoadedPolicy}
    (loaded : loadPolicyFile std registry (.obj raw) = .ok policy) :
    Loadable std registry raw ∧ LoadedFrom raw policy := by
  obtain ⟨_, defaults, loaded⟩ := except_bind_eq_ok.mp loaded
  obtain ⟨targets, targetsEq, loaded⟩ := except_bind_eq_ok.mp loaded
  obtain ⟨sessions, sessionsEq, loaded⟩ := except_bind_eq_ok.mp loaded
  obtain ⟨items, itemsEq, loaded⟩ := except_bind_eq_ok.mp loaded
  obtain ⟨rules, rulesEq, loaded⟩ := except_bind_eq_ok.mp loaded
  obtain ⟨mode, modeEq, loaded⟩ := except_bind_eq_ok.mp loaded
  cases loaded
  obtain ⟨readTargets, fineTargets⟩ := frozenset_eq_ok.mp targetsEq
  obtain ⟨readSessions, fineSessions⟩ := frozenset_eq_ok.mp sessionsEq
  refine ⟨⟨checkDefaults_isOk.mp defaults, ⟨targets, readTargets, fineTargets⟩,
    ⟨sessions, readSessions, fineSessions⟩, ⟨items, iterItems_eq_ok.mp itemsEq,
      policyRules_isOk.mp ⟨rules, rulesEq⟩⟩, ?_⟩, ⟨readTargets, readSessions, rfl⟩⟩
  unfold policyMode at modeEq
  split at modeEq
  · next value present => exact ⟨value, mode, present, modeEq⟩
  · cases modeEq

/-- **What the loader accepts**: exactly the loadable documents. -/
theorem loadPolicyFile_isOk {raw : List (String × Json)} :
    (∃ policy, loadPolicyFile std registry (.obj raw) = .ok policy) ↔
      Loadable std registry raw := by
  constructor
  · rintro ⟨policy, loaded⟩
    exact (loadPolicyFile_ok loaded).1
  · rintro ⟨defaults, ⟨targets, readTargets⟩, ⟨sessions, readSessions⟩, ⟨items, iterated, fine⟩,
      ⟨value, mode, present, modeEq⟩⟩
    obtain ⟨rules, rulesEq⟩ := (@policyRules_isOk std registry items []).mpr fine
    have read : policyMode std raw = .ok mode := by
      rw [policyMode, present]
      exact modeEq
    rw [loadPolicyFile, checkDefaults_isOk.mpr defaults, except_ok_bind,
      frozenset_eq_ok.mpr readTargets, except_ok_bind, frozenset_eq_ok.mpr readSessions,
      except_ok_bind, iterItems_eq_ok.mpr iterated, except_ok_bind, rulesEq, except_ok_bind, read,
      except_ok_bind]
    exact ⟨_, rfl⟩

/-! ## What the loader leaves unchecked -/

/-- What the schema demands of a rule beyond what the loader checks. -/
structure RuleRest (item : List (String × Json)) : Prop where
  keys : onlyKeys item ["capability", "family", "decision", "dangerous",
    "requires_explicit_scope", "requires_explanation", "limits", "notes"] = true
  family : permits item "family" (isOneOf capabilityFamilies) = true
  dangerous : permits item "dangerous" isBoolean = true
  explicitScope : permits item "requires_explicit_scope" isBoolean = true
  explanation : permits item "requires_explanation" isBoolean = true
  limits : permits item "limits" isObject = true
  notes : permits item "notes" isString = true

/-- **What the loader leaves unchecked**: the schema's demands on a document beyond what the loader
checks. Scopes are checked for nothing but that they can be iterated. -/
structure DocumentRest (raw : List (String × Json)) : Prop where
  keys : onlyKeys raw ["version", "name", "description", "mode", "defaults", "scope", "rules",
    "dangerous_actions", "hard_invariants"] = true
  version : demands raw "version" nonEmptyText = true
  name : demands raw "name" nonEmptyText = true
  description : permits raw "description" isString = true
  mode : demands raw "mode"
    (isOneOf ["Observe", "Assisted", "Supervised", "Full Control", "Custom"]) = true
  defaults : ∀ defaults, jsonGet raw "defaults" = .obj defaults →
    onlyKeys defaults ["unknown_capability", "unmatched_capability", "audit", "secrets"] = true ∧
    permits defaults "unmatched_capability" policyDecisionSchema = true
  scope : permits raw "scope" scopeSchema = true
  rules : ∃ items, raw.lookup "rules" = some (.list items) ∧
    ∀ item, .obj item ∈ items → RuleRest item
  dangerousActions : permits raw "dangerous_actions" uniqueTexts = true
  hardInvariants : permits raw "hard_invariants" uniqueTexts = true

/-- A value that is read and is not the default is there. -/
theorem lookup_of_jsonGetD {entries : List (String × Json)} {key : String} {default v : Json}
    (read : jsonGetD entries key default = v) (ne : v ≠ default) :
    entries.lookup key = some v := by
  unfold jsonGetD at read
  cases found : entries.lookup key with
  | none =>
      rw [found] at read
      exact absurd read.symm ne
  | some value =>
      rw [found] at read
      exact congrArg some read

theorem demands_of_lookup {entries : List (String × Json)} {key : String} {v : Json}
    {check : Json → Bool} (found : entries.lookup key = some v) :
    demands entries key check = check v := by
  rw [demands, found]
  rfl

theorem permits_of_lookup {entries : List (String × Json)} {key : String} {v : Json}
    {check : Json → Bool} (found : entries.lookup key = some v) :
    permits entries key check = check v := by
  rw [permits, found]
  rfl

/-- A text of the schema's decisions. -/
theorem policyDecisionSchema_value (decision : PolicyDecision) :
    policyDecisionSchema (.str decision.value) = true := by
  cases decision <;> decide

/-- A loadable rule meets the schema where the rest of it does. -/
theorem RuleLoadable.schema_iff {item : List (String × Json)}
    (loadable : RuleLoadable registry item) : ruleSchema (.obj item) = true ↔ RuleRest item := by
  obtain ⟨⟨capabilityId, capability, named, found⟩, ⟨decision, decided⟩, -⟩ := loadable
  have present : capabilityId ≠ "" := by
    rw [← CapabilityRegistry.id_of_get found]
    exact capability.id_ne_empty
  have capabilityFine : demands item "capability" nonEmptyText = true := by
    rw [demands_of_lookup (lookup_of_jsonGetD named (by simp))]
    simp [nonEmptyText, present]
  have nonEmpty : decision.value ≠ "" := by cases decision <;> decide
  have decisionFine : demands item "decision" policyDecisionSchema = true := by
    rw [demands_of_lookup (lookup_of_jsonGetD decided (by simpa using nonEmpty))]
    exact policyDecisionSchema_value decision
  simp only [ruleSchema, Bool.and_eq_true, capabilityFine, decisionFine, and_true]
  constructor
  · rintro ⟨⟨⟨⟨⟨⟨keys, family⟩, dangerous⟩, explicitScope⟩, explanation⟩, limits⟩, notes⟩
    exact ⟨keys, family, dangerous, explicitScope, explanation, limits, notes⟩
  · rintro ⟨keys, family, dangerous, explicitScope, explanation, limits, notes⟩
    exact ⟨⟨⟨⟨⟨⟨keys, family⟩, dangerous⟩, explicitScope⟩, explanation⟩, limits⟩, notes⟩

/-- The rules of a loadable document meet the schema where they are a list and the rest of each
does. -/
theorem rulesSchema_iff {raw : List (String × Json)}
    (loadable : ∃ items, jsonTuple (jsonGetD raw "rules" (.list [])) = some items ∧
      ∀ item ∈ items, ∃ entries, item = .obj entries ∧ RuleLoadable registry entries) :
    demands raw "rules" rulesSchema = true ↔
      ∃ items, raw.lookup "rules" = some (.list items) ∧
        ∀ item, .obj item ∈ items → RuleRest item := by
  obtain ⟨items, read, fine⟩ := loadable
  constructor
  · intro demanded
    cases found : raw.lookup "rules" with
    | none =>
        rw [demands, found] at demanded
        cases demanded
    | some v =>
        rw [demands_of_lookup found] at demanded
        cases v with
        | list listed =>
            refine ⟨listed, rfl, fun item member => ?_⟩
            rw [jsonGetD, found] at read
            cases read
            obtain ⟨entries, same, loadable⟩ := fine _ member
            cases same
            exact loadable.schema_iff.mp (List.all_eq_true.mp demanded _ member)
        | null | bool | int | float | str | obj => cases demanded
  · rintro ⟨listed, found, rest⟩
    rw [jsonGetD, found] at read
    cases read
    rw [demands_of_lookup found, rulesSchema, List.all_eq_true]
    intro item member
    obtain ⟨entries, rfl, loadable⟩ := fine item member
    exact loadable.schema_iff.mpr (rest entries member)

/-- **A loadable document meets the schema** exactly where what the loader leaves unchecked is as
the schema says. -/
theorem Loadable.schema_iff {raw : List (String × Json)} (loadable : Loadable std registry raw) :
    policySchema (.obj raw) = true ↔ DocumentRest raw := by
  obtain ⟨⟨defaults, read, unknown, audit, secrets⟩, -, -, rules, -⟩ := loadable
  have defaultsFine : demands raw "defaults" defaultsSchema = true ↔
      onlyKeys defaults ["unknown_capability", "unmatched_capability", "audit", "secrets"]
        = true ∧ permits defaults "unmatched_capability" policyDecisionSchema = true := by
    rw [demands_of_lookup (lookup_of_jsonGetD read (by simp)), defaultsSchema,
      demands_of_lookup (lookup_of_jsonGetD unknown (by simp)),
      demands_of_lookup (lookup_of_jsonGetD audit (by simp)),
      demands_of_lookup (lookup_of_jsonGetD secrets (by simp))]
    simp only [Bool.and_eq_true, isText_iff, and_true]
  simp only [policySchema, Bool.and_eq_true, defaultsFine, rulesSchema_iff rules]
  constructor
  · rintro ⟨⟨⟨⟨⟨⟨⟨⟨⟨keys, version⟩, name⟩, description⟩, mode⟩, inner⟩, scope⟩, rules⟩, actions⟩,
      invariants⟩
    refine ⟨keys, version, name, description, mode, ?_, scope, rules, actions, invariants⟩
    intro other same
    rw [read] at same
    cases same
    exact inner
  · rintro ⟨keys, version, name, description, mode, inner, scope, rules, actions, invariants⟩
    exact ⟨⟨⟨⟨⟨⟨⟨⟨⟨keys, version⟩, name⟩, description⟩, mode⟩, inner defaults read⟩, scope⟩, rules⟩,
      actions⟩, invariants⟩

/-! ## What a document means -/

/-- The ids a document lists under a key of its scope. -/
def listedIds (raw : List (String × Json)) (key : String) : List String :=
  match raw.lookup "scope" with
  | some (.obj scope) =>
      match scope.lookup key with
      | some (.list items) => textsOf items
      | _ => []
  | _ => []

/-- **A policy that is what its document says**: its scopes allow the listed ids, and real hardware
where the document says `true`. -/
structure Documented (raw : List (String × Json)) (policy : LoadedPolicy) : Prop where
  targets : policy.targetAllow = (listedIds raw "targets").map .str
  sessions : policy.sessionAllow = (listedIds raw "sessions").map .str
  realHardware : policy.allowRealHardware = true ↔
    ∃ scope, raw.lookup "scope" = some (.obj scope) ∧
      scope.lookup "allow_real_hardware" = some (.bool true)

/-- **The loader keeps to the schema** on a document: it raises, or the document meets the schema
and the loaded policy is what it says. -/
def PolicyFileSound (std : Stdlib) (registry : CapabilityRegistry) (document : Json) : Prop :=
  ∀ policy, loadPolicyFile std registry document = .ok policy →
    policySchema document = true ∧
      ∃ raw, document = .obj raw ∧ Documented raw policy

/-- Texts are what an array of texts consists of. -/
theorem map_textsOf {items : List Json} (texts : items.all nonEmptyText = true) :
    (textsOf items).map .str = items := by
  induction items with
  | nil => rfl
  | cons item rest ih =>
      rw [List.all_cons, Bool.and_eq_true] at texts
      obtain ⟨first, others⟩ := texts
      cases item with
      | str s => exact congrArg (Json.str s :: ·) (ih others)
      | null | bool | int | float | list | obj => cases first

/-- What is read of a scope that meets the schema are the ids it lists. -/
theorem read_eq_listedIds {raw : List (String × Json)} {key : String} {allow : List Json}
    (fine : ∀ scope, raw.lookup "scope" = some (.obj scope) →
      permits scope key uniqueTexts = true)
    (read : jsonTuple (jsonGetD (policyScope raw) key (.list [])) = some allow) :
    allow = (listedIds raw key).map .str := by
  unfold policyScope jsonGet at read
  unfold listedIds
  cases found : raw.lookup "scope" with
  | none =>
      rw [found] at read
      cases read
      rfl
  | some scopeValue =>
  rw [found] at read
  cases scopeValue with
  | obj scope =>
      have allowed := fine scope found
      have read : jsonTuple (jsonGetD scope key (.list [])) = some allow := read
      cases here : scope.lookup key with
      | none =>
          rw [jsonGetD, here] at read
          cases read
          dsimp only
          rw [here]
          rfl
      | some v =>
          rw [jsonGetD, here] at read
          rw [permits_of_lookup here] at allowed
          dsimp only
          rw [here]
          cases v with
          | list items =>
              rw [uniqueTexts, Bool.and_eq_true] at allowed
              cases read
              exact (map_textsOf allowed.1).symm
          | null | bool | int | float | str | obj => cases allowed
  | null | bool | int | float | str | list =>
      cases read
      rfl

/-- A policy that is read from a document with a scope of the schema is what the document says. -/
theorem LoadedFrom.documented {raw : List (String × Json)} {policy : LoadedPolicy}
    (read : LoadedFrom raw policy) (scopeFine : permits raw "scope" scopeSchema = true) :
    Documented raw policy := by
  have parts (scope : List (String × Json)) (found : raw.lookup "scope" = some (.obj scope)) :
      permits scope "targets" uniqueTexts = true ∧ permits scope "sessions" uniqueTexts = true ∧
        permits scope "allow_real_hardware" isBoolean = true := by
    rw [permits_of_lookup found] at scopeFine
    simp only [scopeSchema, Bool.and_eq_true] at scopeFine
    exact ⟨scopeFine.1.1.2, scopeFine.1.2, scopeFine.2⟩
  refine ⟨read_eq_listedIds (fun scope found => (parts scope found).1) read.targets,
    read_eq_listedIds (fun scope found => (parts scope found).2.1) read.sessions, ?_⟩
  rw [read.realHardware]
  unfold policyScope jsonGet
  cases found : raw.lookup "scope" with
  | none => simp [jsonGetD, truthy]
  | some scopeValue =>
  cases scopeValue with
  | obj scope =>
      have allowed := (parts scope found).2.2
      cases here : scope.lookup "allow_real_hardware" with
      | none => simp [jsonGetD, here, truthy]
      | some v =>
          rw [permits_of_lookup here] at allowed
          cases v with
          | bool b => simp [jsonGetD, here, truthy]
          | null | int | float | str | list | obj => cases allowed
  | null | bool | int | float | str | list => simp [jsonGetD, truthy]

/-- **Exactly when the loader keeps to the schema**: the document fails one of the loader's checks,
or what the loader leaves unchecked is as the schema says. -/
theorem policyFileSound_iff (std : Stdlib) (registry : CapabilityRegistry) (document : Json) :
    PolicyFileSound std registry document ↔
      ∀ raw, document = .obj raw → Loadable std registry raw → DocumentRest raw := by
  constructor
  · rintro sound raw rfl loadable
    obtain ⟨policy, loaded⟩ := loadPolicyFile_isOk.mpr loadable
    exact loadable.schema_iff.mp (sound policy loaded).1
  · intro rest policy loaded
    cases document with
    | obj raw =>
        obtain ⟨loadable, read⟩ := loadPolicyFile_ok loaded
        have fine := rest raw rfl loadable
        exact ⟨loadable.schema_iff.mpr fine, raw, rfl, read.documented fine.scope⟩
    | null | bool | int | float | str | list => cases loaded

/-- A document whose targets are an empty text and whose `allow_real_hardware` is the text
`false`. -/
def looseDocument : Json :=
  .obj [("version", .str "1"), ("name", .str "lab"), ("mode", .str "Full Control"),
    ("defaults", .obj [("unknown_capability", .str "deny"), ("audit", .str "mandatory"),
      ("secrets", .str "redact_by_default")]),
    ("scope", .obj [("targets", .str ""), ("allow_real_hardware", .str "false")]),
    ("rules", .list [])]

/-- The loose document becomes a policy that allows every target and real hardware. -/
theorem not_policyFileSound :
    (∃ policy, loadPolicyFile Deployment.library defaultCapabilityRegistry looseDocument
        = .ok policy ∧
      (∀ id, loadedScopeAllows policy.targetAllow id = true) ∧ policy.allowRealHardware = true) ∧
    ¬ ∀ (std : Stdlib) (registry : CapabilityRegistry) (document : Json),
      PolicyFileSound std registry document := by
  have mode : normalizeControlMode Deployment.library "Full Control" = .ok .fullControl := by
    decide +kernel
  have loaded : loadPolicyFile Deployment.library defaultCapabilityRegistry looseDocument
      = .ok ⟨"lab", .fullControl, [], true, [], []⟩ := by
    rw [looseDocument, loadPolicyFile]
    have read : policyMode Deployment.library
        [("version", .str "1"), ("name", .str "lab"), ("mode", .str "Full Control"),
          ("defaults", .obj [("unknown_capability", .str "deny"), ("audit", .str "mandatory"),
            ("secrets", .str "redact_by_default")]),
          ("scope", .obj [("targets", .str ""), ("allow_real_hardware", .str "false")]),
          ("rules", .list [])] = .ok .fullControl := mode
    rw [read]
    rfl
  refine ⟨⟨_, loaded, ?_, rfl⟩, fun sound => ?_⟩
  · intro id
    cases id <;> rfl
  · have refused : policySchema looseDocument = false := by decide
    have met := (sound _ _ _ _ loaded).1
    rw [refused] at met
    cases met

/-! ## Scopes that allow everything -/

end AgenticKVM
