import AgenticKVM.Lib.Except
import AgenticKVM.MutationTransports

/-! # The provider registry

The registry every external surface resolves a provider through (`providers/registry.py`). An entry
carries what its constructor checks, so that an enabled entry always has an adapter under its own id
and kind, and one that is not of an executable type is a test fixture. `resolveEnabled` hands out
adapters of enabled and executable entries only. -/

namespace AgenticKVM

open Lib (except_bind_eq_ok)

/-! ## Adapters -/

/-- A `Provider` object: its identity and what the registry reads of it. What it answers is a matter
of the environment that calls it. -/
structure ProviderAdapter where
  object : Nat
  providerId : String
  providerKind : String
  enabled : Bool
  isRealHardware : Bool
  riskClass : String
deriving DecidableEq

/-- `EXECUTABLE_PROVIDER_TYPES`. -/
def executableProviderTypes : List String := ["mock"]

/-- `TEST_FIXTURE_PROVIDER_RISK_CLASSES`. -/
def testFixtureProviderRiskClasses : List String :=
  ["test_fake_observe_only", "test_fake_clearance_gated"]

/-- `PLACEHOLDER_PROVIDER_TYPES`. -/
def placeholderProviderTypes : List String :=
  ["pikvm", "redfish", "ilo", "idrac", "ipmi", "supermicro", "proxmox"]

/-- `KNOWN_PROVIDER_TYPES`. -/
def knownProviderTypes : List String := executableProviderTypes ++ placeholderProviderTypes

/-- `_is_test_fixture_adapter`. -/
def isTestFixtureAdapter (provider : Option ProviderAdapter) (providerType : String) : Bool :=
  match provider with
  | none => false
  | some adapter =>
      adapter.providerKind = providerType && adapter.enabled && !adapter.isRealHardware
        && decide (adapter.riskClass ∈ testFixtureProviderRiskClasses)

/-! ## Ids and metadata -/

/-- A character of a registry id. -/
def isIdChar (c : Char) : Bool := c.isLower || c.isDigit || c ∈ ['_', '.', ':', '-']

/-- A full match of `_PROVIDER_ID_PATTERN` and of `_TARGET_ID_PATTERN`. -/
def isRegistryId (id : String) : Bool :=
  match id.toList with
  | [] => false
  | first :: rest => (first.isLower || first.isDigit) && rest.all isIdChar && rest.length ≤ 127

/-- `_SECRET_KEY_FRAGMENTS`, which is also `SUSPICIOUS_CONFIG_KEY_FRAGMENTS`. -/
def secretKeyFragments : List String :=
  ["password", "token", "api_key", "secret", "private_key", "credential", "bearer",
    "session_cookie"]

/-- Whether a key contains one of the secret fragments. -/
def isSuspiciousKey (std : Stdlib) (key : PyValue) : Bool :=
  secretKeyFragments.any (containsText (std.lower (pyStr std key)))

mutual

/-- `_contains_secret_key`. -/
def containsSecretKey (std : Stdlib) : PyValue → Bool
  | .dict entries => secretKeyInEntries std entries
  | .list items | .tuple items | .set items => secretKeyInItems std items
  | _ => false

def secretKeyInItems (std : Stdlib) : List PyValue → Bool
  | [] => false
  | item :: rest => containsSecretKey std item || secretKeyInItems std rest

def secretKeyInEntries (std : Stdlib) : List (PyValue × PyValue) → Bool
  | [] => false
  | (key, value) :: rest =>
      isSuspiciousKey std key || containsSecretKey std value || secretKeyInEntries std rest

end

/-! ## Entries -/

/-- `ProviderRegistryError`. -/
def providerRegistryError (message : String) : PyExc := .valueError message

/-- What the constructor of an entry checks, beside its metadata. -/
structure ProviderEntry.Valid (providerId providerType : String) (enabled : Bool)
    (provider : Option ProviderAdapter) : Prop where
  id : isRegistryId providerId = true
  known : providerType ∈ knownProviderTypes
  present : enabled = true → provider.isSome = true
  executable : (enabled = true ∨ provider.isSome = true) →
    providerType ∈ executableProviderTypes ∨ isTestFixtureAdapter provider providerType = true
  adapterId : ∀ adapter ∈ provider, adapter.providerId = providerId
  adapterKind : ∀ adapter ∈ provider, adapter.providerKind = providerType

/-- `ProviderEntry`: a configured provider, with an adapter unless it is disabled. -/
structure ProviderEntry where
  providerId : String
  providerType : String
  enabled : Bool
  provider : Option ProviderAdapter
  metadata : Params
  valid : ProviderEntry.Valid providerId providerType enabled provider

/-- The error of a type that is not executable. -/
def notExecutableInThisLane (providerType : String) : PyExc :=
  providerRegistryError ("Provider type " ++ providerType ++ " is not executable in this lane")

/-- What `ProviderEntry.__post_init__` checks of an adapter. -/
def checkAdapter (providerId providerType : String) : Option ProviderAdapter → Except PyExc Unit
  | none => .ok ()
  | some adapter => do
      raiseIf (adapter.providerId ≠ providerId)
        (providerRegistryError "Provider adapter id does not match configured provider id")
      raiseIf (adapter.providerKind ≠ providerType)
        (providerRegistryError "Provider adapter type does not match configured provider type")
      raiseIf (providerType ∉ executableProviderTypes
          ∧ isTestFixtureAdapter (some adapter) providerType = false)
        (notExecutableInThisLane providerType)

/-- The checks of `ProviderEntry.__post_init__`, on the stripped id and the normalised type, which
its errors give as they were configured. -/
def checkProviderEntry (std : Stdlib) (configuredId configuredType providerId providerType : String)
    (enabled : Bool) (provider : Option ProviderAdapter) (metadata : Params) :
    Except PyExc Unit := do
  raiseIf (isRegistryId providerId = false)
    (providerRegistryError ("Invalid provider id: " ++ std.repr configuredId))
  raiseIf (providerType ∉ knownProviderTypes)
    (providerRegistryError ("Unknown provider type: " ++ configuredType))
  raiseIf (containsSecretKey std (.dict metadata) = true)
    (providerRegistryError "Provider metadata must not contain secrets")
  raiseIf (enabled = true ∧ providerType ∉ executableProviderTypes
      ∧ isTestFixtureAdapter provider providerType = false)
    (notExecutableInThisLane providerType)
  raiseIf (enabled = true ∧ provider.isNone = true)
    (providerRegistryError "Enabled providers require an adapter instance")
  checkAdapter providerId providerType provider

/-- An adapter that passes has the entry's id and kind, and is a fixture unless the type is
executable. -/
theorem checkAdapter_ok {providerId providerType : String} {provider : Option ProviderAdapter}
    (checked : checkAdapter providerId providerType provider = .ok ()) :
    ∀ adapter ∈ provider, adapter.providerId = providerId ∧ adapter.providerKind = providerType
      ∧ (providerType ∈ executableProviderTypes
        ∨ isTestFixtureAdapter provider providerType = true) := by
  cases provider with
  | none => simp
  | some adapter =>
      simp only [checkAdapter, except_bind_eq_ok, raiseIf_eq_ok] at checked
      obtain ⟨_, sameId, _, sameKind, lane⟩ := checked
      intro found member
      rw [Option.mem_def, Option.some.injEq] at member
      subst member
      refine ⟨not_not.mp sameId, not_not.mp sameKind, ?_⟩
      by_cases executable : providerType ∈ executableProviderTypes
      · exact Or.inl executable
      · exact Or.inr (by simpa [executable] using lane)

/-- What passes the checks is valid. -/
theorem ProviderEntry.valid_of_check {std : Stdlib}
    {configuredId configuredType providerId providerType : String} {enabled : Bool}
    {provider : Option ProviderAdapter} {metadata : Params}
    (checked : checkProviderEntry std configuredId configuredType providerId providerType enabled
      provider metadata = .ok ()) :
    ProviderEntry.Valid providerId providerType enabled provider := by
  simp only [checkProviderEntry, except_bind_eq_ok, raiseIf_eq_ok] at checked
  obtain ⟨_, id, _, known, _, -, _, lane, _, present, adapter⟩ := checked
  have adapter := checkAdapter_ok adapter
  have present : enabled = true → provider.isSome = true := by
    intro on
    exact Option.ne_none_iff_isSome.mp (by simpa [on] using present)
  refine ⟨by simpa using id, not_not.mp known, present, ?_, fun a member => (adapter a member).1,
    fun a member => (adapter a member).2.1⟩
  intro enabledOrPresent
  have isSome : provider.isSome = true := enabledOrPresent.elim present (fun some => some)
  obtain ⟨a, same⟩ := Option.isSome_iff_exists.mp isSome
  exact (adapter a same).2.2

/-- `ProviderEntry.__post_init__`. -/
def ProviderEntry.init (std : Stdlib) (providerId providerType : String) (enabled : Bool)
    (provider : Option ProviderAdapter) (metadata : Params) : Except PyExc ProviderEntry :=
  match checked : checkProviderEntry std providerId providerType (strip providerId)
      (std.lower (strip providerType)) enabled provider metadata with
  | .error e => .error e
  | .ok () => .ok ⟨strip providerId, std.lower (strip providerType), enabled, provider, metadata,
      valid_of_check checked⟩

/-- `_is_executable_entry`. -/
def ProviderEntry.isExecutable (entry : ProviderEntry) : Bool :=
  entry.enabled && entry.provider.isSome
    && (decide (entry.providerType ∈ executableProviderTypes)
      || isTestFixtureAdapter entry.provider entry.providerType)

/-! ## The registry -/

/-- `ProviderRegistry`: entries in the order they were registered, under distinct ids. -/
structure ProviderRegistry where
  providers : List ProviderEntry
  distinct : (providers.map ProviderEntry.providerId).Nodup

namespace ProviderRegistry

/-- A registry without providers. -/
def empty : ProviderRegistry := ⟨[], List.nodup_nil⟩

/-- `ProviderRegistry.get`. -/
def get (registry : ProviderRegistry) (providerId : String) : Option ProviderEntry :=
  registry.providers.find? fun entry => entry.providerId = providerId

/-- `ProviderRegistry.register`. -/
def register (registry : ProviderRegistry) (entry : ProviderEntry) :
    Except PyExc ProviderRegistry :=
  if known : entry.providerId ∈ registry.providers.map ProviderEntry.providerId then
    .error (providerRegistryError ("Duplicate provider id: " ++ entry.providerId))
  else
    .ok
      { providers := registry.providers ++ [entry]
        distinct := by
          rw [List.map_append, List.map_singleton]
          exact registry.distinct.append (List.nodup_singleton _)
            (List.disjoint_singleton.mpr known) }

/-- `ProviderRegistry.__init__`: the entries are registered in turn. -/
def registerAll (registry : ProviderRegistry) :
    List ProviderEntry → Except PyExc ProviderRegistry
  | [] => .ok registry
  | entry :: rest => do
      let registry ← registry.register entry
      registerAll registry rest

/-- `ProviderRegistry.require`. -/
def require (registry : ProviderRegistry) (providerId : String) : Except PyExc ProviderEntry :=
  match registry.get providerId with
  | none => .error (providerRegistryError ("Unknown provider id: " ++ providerId))
  | some entry => .ok entry

/-- `ProviderRegistry.resolve_enabled`. -/
def resolveEnabled (registry : ProviderRegistry) (providerId : String) :
    Except PyExc ProviderAdapter := do
  let entry ← registry.require providerId
  raiseIf (entry.enabled = false) (providerRegistryError ("Provider is disabled: " ++ providerId))
  raiseIf (entry.isExecutable = false)
    (providerRegistryError ("Provider type " ++ entry.providerType ++ " is not executable"))
  match entry.provider with
  | none => .error (providerRegistryError
      ("Provider has no executable adapter: " ++ providerId))
  | some adapter => .ok adapter

variable {registry : ProviderRegistry} {providerId : String} {entry : ProviderEntry}
  {adapter : ProviderAdapter}

/-- An entry is found under its own id. -/
theorem get_some (found : registry.get providerId = some entry) :
    entry ∈ registry.providers ∧ entry.providerId = providerId :=
  ⟨List.mem_of_find?_eq_some found, by simpa using List.find?_some found⟩

theorem require_eq_ok :
    registry.require providerId = .ok entry ↔ registry.get providerId = some entry := by
  unfold require
  cases registry.get providerId <;> simp

/-- **What resolution hands out**: the adapter of the entry registered under the id, which is
enabled and executable. -/
theorem resolveEnabled_eq_ok :
    registry.resolveEnabled providerId = .ok adapter ↔
      ∃ entry, registry.get providerId = some entry ∧ entry.enabled = true
        ∧ entry.isExecutable = true ∧ entry.provider = some adapter := by
  simp only [resolveEnabled, except_bind_eq_ok, raiseIf_eq_ok, require_eq_ok]
  constructor
  · rintro ⟨entry, found, _, enabled, _, executable, resolved⟩
    refine ⟨entry, found, by simpa using enabled, by simpa using executable, ?_⟩
    cases provider : entry.provider with
    | none => simp [provider] at resolved
    | some other =>
        rw [provider] at resolved
        exact congrArg some (Except.ok.inj resolved)
  · rintro ⟨entry, found, enabled, executable, provider⟩
    exact ⟨entry, found, (), by simp [enabled], (), by simp [executable], by rw [provider]⟩

/-- Registration adds the entry at the end. -/
theorem register_eq_ok {later : ProviderRegistry} (registered : registry.register entry = .ok later) :
    later.providers = registry.providers ++ [entry] := by
  unfold register at registered
  split at registered
  · cases registered
  · cases registered
    rfl

/-- A registry built from a list of entries has these. -/
theorem registerAll_eq_ok {entries : List ProviderEntry} {later : ProviderRegistry}
    (registered : registry.registerAll entries = .ok later) :
    later.providers = registry.providers ++ entries := by
  induction entries generalizing registry with
  | nil =>
      cases registered
      simp
  | cons first rest ih =>
      obtain ⟨between, added, registered⟩ := except_bind_eq_ok.mp registered
      rw [ih registered, register_eq_ok added, List.append_assoc, List.singleton_append]

end ProviderRegistry

end AgenticKVM
