import AgenticKVM.ProviderRegistry

/-! # The target registry

The named targets a request can be about (`targets.py`). A target names the provider that serves it
and the control modes it admits; resolution refuses a target that is unknown, disabled, served by a
provider that does not resolve, or closed to the mode. -/

namespace AgenticKVM

open Lib (except_bind_eq_ok)

/-- `TargetRegistryError`. -/
def targetRegistryError (message : String) : PyExc := .valueError message

/-- `TargetDefinition`: a configured target. Without allowed modes it admits every mode. -/
structure TargetDefinition where
  targetId : String
  providerId : String
  enabled : Bool
  labels : List String
  allowedModes : List ControlMode
  metadata : Params
  idForm : isRegistryId targetId = true
  served : providerId ≠ ""

/-- `TargetDefinition.__post_init__`. -/
def TargetDefinition.init (std : Stdlib) (targetId providerId : String) (enabled : Bool)
    (labels : List String) (allowedModes : List ControlMode) (metadata : Params) :
    Except PyExc TargetDefinition :=
  if idForm : isRegistryId (strip targetId) = true then
    if served : strip providerId ≠ "" then
      if containsSecretKey std (.dict metadata) then
        .error (targetRegistryError "Target metadata must not contain secrets")
      else
        .ok ⟨strip targetId, strip providerId, enabled, labels, allowedModes, metadata, idForm,
          served⟩
    else .error (targetRegistryError "Target provider id is required")
  else .error (targetRegistryError ("Invalid target id: " ++ std.repr targetId))

/-- `TargetDefinition.allows_mode`. -/
def TargetDefinition.allowsMode (target : TargetDefinition) (mode : ControlMode) : Bool :=
  target.allowedModes.isEmpty || decide (mode ∈ target.allowedModes)

/-- `TargetRegistry`: targets in the order they were registered, under distinct ids, each served by
a provider of the registry they were registered against. -/
structure TargetRegistry where
  providerRegistry : ProviderRegistry
  targets : List TargetDefinition
  distinct : (targets.map TargetDefinition.targetId).Nodup
  served : ∀ target ∈ targets, (providerRegistry.get target.providerId).isSome = true

namespace TargetRegistry

/-- A registry without targets. -/
def empty (providerRegistry : ProviderRegistry) : TargetRegistry :=
  ⟨providerRegistry, [], List.nodup_nil, fun _ member => (nomatch member)⟩

/-- `TargetRegistry.get`. -/
def get (registry : TargetRegistry) (targetId : String) : Option TargetDefinition :=
  registry.targets.find? fun target => target.targetId = targetId

/-- `TargetRegistry.register`. -/
def register (registry : TargetRegistry) (target : TargetDefinition) :
    Except PyExc TargetRegistry :=
  if known : target.targetId ∈ registry.targets.map TargetDefinition.targetId then
    .error (targetRegistryError ("Duplicate target id: " ++ target.targetId))
  else if found : (registry.providerRegistry.get target.providerId).isSome = true then
    .ok
      { providerRegistry := registry.providerRegistry
        targets := registry.targets ++ [target]
        distinct := by
          rw [List.map_append, List.map_singleton]
          exact registry.distinct.append (List.nodup_singleton _)
            (List.disjoint_singleton.mpr known)
        served := by
          intro other member
          rcases List.mem_append.mp member with earlier | here
          · exact registry.served other earlier
          · rw [List.mem_singleton.mp here]
            exact found }
  else
    .error (targetRegistryError ("Target " ++ target.targetId ++ " references unknown provider "
      ++ target.providerId))

/-- `TargetRegistry.__init__`: the targets are registered in turn. -/
def registerAll (registry : TargetRegistry) :
    List TargetDefinition → Except PyExc TargetRegistry
  | [] => .ok registry
  | target :: rest => do
      let registry ← registry.register target
      registerAll registry rest

/-- `TargetRegistry.require`. -/
def require (registry : TargetRegistry) (targetId : String) : Except PyExc TargetDefinition :=
  match registry.get targetId with
  | none => .error (targetRegistryError ("Unknown target id: " ++ targetId))
  | some target => .ok target

/-- `TargetRegistry.validate_mode_allowed`. -/
def validateModeAllowed (registry : TargetRegistry) (targetId : String) (mode : ControlMode) :
    Except PyExc TargetDefinition := do
  let target ← registry.require targetId
  raiseIf (target.allowsMode mode = false) (targetRegistryError
    ("Target " ++ targetId ++ " does not allow mode " ++ mode.value))
  return target

/-- The provider of a target, where it resolves. -/
def resolveProvider (registry : TargetRegistry) (targetId : String) (target : TargetDefinition) :
    Except PyExc ProviderAdapter :=
  match registry.providerRegistry.resolveEnabled target.providerId with
  | .error _ => .error (targetRegistryError
      ("Target " ++ targetId ++ " references non-executable provider " ++ target.providerId))
  | .ok adapter => .ok adapter

/-- `TargetRegistry.resolve_enabled`. -/
def resolveEnabled (registry : TargetRegistry) (targetId : String) (mode : Option ControlMode) :
    Except PyExc TargetDefinition := do
  let target ← registry.require targetId
  raiseIf (target.enabled = false) (targetRegistryError ("Target is disabled: " ++ targetId))
  let _ ← registry.resolveProvider targetId target
  match mode with
  | none => return target
  | some mode => do
      let _ ← registry.validateModeAllowed targetId mode
      return target

/-- `TargetRegistry.validate_provider_match`. -/
def validateProviderMatch (registry : TargetRegistry) (targetId providerId : String) :
    Except PyExc TargetDefinition := do
  let target ← registry.require targetId
  raiseIf (target.providerId ≠ providerId) (targetRegistryError
    ("Target " ++ targetId ++ " is configured for provider " ++ target.providerId))
  return target

variable {registry : TargetRegistry} {targetId : String} {target : TargetDefinition}

/-- A target is found under its own id. -/
theorem get_some (found : registry.get targetId = some target) :
    target ∈ registry.targets ∧ target.targetId = targetId :=
  ⟨List.mem_of_find?_eq_some found, by simpa using List.find?_some found⟩

theorem require_eq_ok :
    registry.require targetId = .ok target ↔ registry.get targetId = some target := by
  unfold require
  cases registry.get targetId <;> simp

/-- **What resolution lets through**: an enabled target that admits the mode, and whose provider
resolves in the registry the target was registered against. -/
structure Resolves (registry : TargetRegistry) (targetId : String) (mode : Option ControlMode)
    (target : TargetDefinition) : Prop where
  registered : registry.get targetId = some target
  enabled : target.enabled = true
  provider : ∃ adapter, registry.providerRegistry.resolveEnabled target.providerId = .ok adapter
  admits : ∀ m ∈ mode, target.allowsMode m = true

theorem validateModeAllowed_eq_ok {mode : ControlMode} {found : TargetDefinition} :
    registry.validateModeAllowed targetId mode = .ok found ↔
      registry.get targetId = some found ∧ found.allowsMode mode = true := by
  simp only [validateModeAllowed, except_bind_eq_ok, raiseIf_eq_ok, require_eq_ok]
  constructor
  · rintro ⟨found, known, _, allowed, same⟩
    cases same
    exact ⟨known, by simpa using allowed⟩
  · rintro ⟨known, allowed⟩
    exact ⟨found, known, (), by simp [allowed], rfl⟩

theorem resolveProvider_eq_ok {adapter : ProviderAdapter} :
    registry.resolveProvider targetId target = .ok adapter ↔
      registry.providerRegistry.resolveEnabled target.providerId = .ok adapter := by
  unfold resolveProvider
  cases registry.providerRegistry.resolveEnabled target.providerId <;> simp

theorem resolveEnabled_eq_ok {mode : Option ControlMode} :
    registry.resolveEnabled targetId mode = .ok target ↔
      registry.Resolves targetId mode target := by
  simp only [resolveEnabled, except_bind_eq_ok, raiseIf_eq_ok, require_eq_ok,
    resolveProvider_eq_ok]
  constructor
  · rintro ⟨found, known, _, enabled, adapter, provider, returned⟩
    have resolved : ∃ adapter,
        registry.providerRegistry.resolveEnabled found.providerId = .ok adapter :=
      ⟨adapter, provider⟩
    cases mode with
    | none =>
        cases returned
        exact ⟨known, by simpa using enabled, resolved, fun m member => by cases member⟩
    | some mode =>
        obtain ⟨admitted, allowed, same⟩ := except_bind_eq_ok.mp returned
        cases same
        obtain ⟨again, allows⟩ := validateModeAllowed_eq_ok.mp allowed
        rw [known] at again
        cases again
        refine ⟨known, by simpa using enabled, resolved, fun m member => ?_⟩
        cases member
        exact allows
  · rintro ⟨known, enabled, ⟨adapter, resolved⟩, admits⟩
    refine ⟨target, known, (), by simp [enabled], adapter, resolved, ?_⟩
    cases mode with
    | none => rfl
    | some mode =>
        exact except_bind_eq_ok.mpr
          ⟨target, validateModeAllowed_eq_ok.mpr ⟨known, admits mode rfl⟩, rfl⟩

theorem validateProviderMatch_eq_ok {providerId : String} {found : TargetDefinition} :
    registry.validateProviderMatch targetId providerId = .ok found ↔
      registry.get targetId = some found ∧ found.providerId = providerId := by
  simp only [validateProviderMatch, except_bind_eq_ok, raiseIf_eq_ok, require_eq_ok]
  constructor
  · rintro ⟨found, known, _, same, returned⟩
    cases returned
    exact ⟨known, not_not.mp same⟩
  · rintro ⟨known, same⟩
    exact ⟨found, known, (), not_not.mpr same, rfl⟩

/-- Registration adds the target at the end and leaves the providers alone. -/
theorem register_eq_ok {later : TargetRegistry} (registered : registry.register target = .ok later) :
    later.targets = registry.targets ++ [target]
      ∧ later.providerRegistry = registry.providerRegistry := by
  unfold register at registered
  split at registered
  · cases registered
  · split at registered
    · cases registered
      exact ⟨rfl, rfl⟩
    · cases registered

/-- A registry built from a list of targets has these. -/
theorem registerAll_eq_ok {targets : List TargetDefinition} {later : TargetRegistry}
    (registered : registry.registerAll targets = .ok later) :
    later.targets = registry.targets ++ targets
      ∧ later.providerRegistry = registry.providerRegistry := by
  induction targets generalizing registry with
  | nil =>
      cases registered
      simp
  | cons first rest ih =>
      obtain ⟨between, added, registered⟩ := except_bind_eq_ok.mp registered
      obtain ⟨targets, providers⟩ := ih registered
      obtain ⟨here, same⟩ := register_eq_ok added
      rw [targets, here, List.append_assoc, List.singleton_append]
      exact ⟨rfl, providers.trans same⟩

end TargetRegistry

end AgenticKVM
