import AgenticKVM.ActHttpClient
import AgenticKVM.McpRouter

/-! # The configuration loader

How a parsed mapping becomes a configuration and a configuration a runtime (`config/validation.py`,
`config/models.py`, `config/loader.py`). Every adapter of a runtime is made by
`_provider_adapter_from_config`, which knows the mock provider and two fixtures only, so that nothing
a runtime resolves is real hardware: `config_no_real_hardware`. -/

namespace AgenticKVM

open Lib (except_bind_eq_ok except_ok_bind)

/-- The library functions the loader rests on, besides those of `Stdlib`: `bool` and `iter` of
values that are none of the built-in ones, by type and text. -/
structure ConfigLibrary extends Stdlib where
  objectTruth : String → String → Bool
  objectItems : String → String → Option (List PyValue)

/-- `ConfigValidationError`. -/
def configError (message : String) : PyExc := .valueError message

section Values

variable (lib : ConfigLibrary)

/-- `bool(value)`. -/
def pyBool : PyValue → Bool
  | .none => false
  | .bool b => b
  | .int i => i ≠ 0
  | .float x => truthy (.float x)
  | .str s => s ≠ ""
  | .bytes data => !data.isEmpty
  | .list items | .tuple items | .set items => !items.isEmpty
  | .dict entries => !entries.isEmpty
  | .object typeName text => lib.objectTruth typeName text

/-- `tuple(value)`. -/
def pyTuple (value : PyValue) : Except PyExc (List PyValue) :=
  let refused : PyExc := .typeError ("'" ++ value.typeName ++ "' object is not iterable")
  match value with
  | .list items | .tuple items | .set items => .ok items
  | .dict entries => .ok (entries.map Prod.fst)
  | .str s => .ok (s.toList.map fun c => .str (String.ofList [c]))
  | .bytes data => .ok (data.map fun b => .int b.toNat)
  | .object typeName text =>
      match lib.objectItems typeName text with
      | some items => .ok items
      | none => .error refused
  | .none | .bool _ | .int _ | .float _ => .error refused

/-- `values.get(key, default)`. -/
def getOr (values : Params) (key : String) (default : PyValue) : PyValue :=
  (paramGet values key).getD default

/-- The entries of a mapping, where the value is one. -/
def mappingOr (refused : PyExc) : PyValue → Except PyExc Params
  | .dict entries => .ok entries
  | _ => .error refused

/-- The items of a list, where the value is one. -/
def listOr (refused : PyExc) : PyValue → Except PyExc (List PyValue)
  | .list items => .ok items
  | _ => .error refused

end Values

/-! ## Unsafe keys -/

section Unsafe

variable (std : Stdlib)

/-- `ALLOWED_CREDENTIAL_REF_SCHEMES`. -/
def allowedCredentialRefSchemes : List String :=
  ["keychain://", "file://", "env://", "vault://", "prompt://"]

/-- `DYNAMIC_IMPORT_CONFIG_KEYS`. -/
def dynamicImportConfigKeys : List String := ["class", "factory", "import", "module", "object"]

/-- `validate_credential_reference`. -/
def validateCredentialReference (path : String) : PyValue → Except PyExc String
  | .str value =>
      if strip value = "" then
        .error (configError ("Credential reference must be a string: " ++ path))
      else if allowedCredentialRefSchemes.any (startsWith value) then .ok value
      else .error (configError ("Unsupported credential reference scheme: " ++ path))
  | _ => .error (configError ("Credential reference must be a string: " ++ path))

mutual

/-- `reject_unsafe_config_keys`. -/
def rejectUnsafeConfigKeys (path : String) : PyValue → Except PyExc Unit
  | .dict entries => rejectUnsafeEntries path entries
  | .list items | .tuple items | .set items => rejectUnsafeItems path 0 items
  | _ => .ok ()

def rejectUnsafeItems (path : String) (index : Nat) : List PyValue → Except PyExc Unit
  | [] => .ok ()
  | item :: rest => do
      rejectUnsafeConfigKeys (path ++ "[" ++ toString index ++ "]") item
      rejectUnsafeItems path (index + 1) rest

def rejectUnsafeEntries (path : String) : List (PyValue × PyValue) → Except PyExc Unit
  | [] => .ok ()
  | (key, child) :: rest => do
      let here := path ++ "." ++ pyStr std key
      let lowered := std.lower (pyStr std key)
      if lowered = "credential_ref" then
        let _ ← validateCredentialReference here child
      else
        raiseIf (secretKeyFragments.any (containsText lowered) = true)
          (configError ("Secret-like config key rejected: " ++ here))
        raiseIf (lowered ∈ dynamicImportConfigKeys)
          (configError ("Dynamic import config key rejected: " ++ here))
        rejectUnsafeConfigKeys here child
      rejectUnsafeEntries path rest

end

end Unsafe

/-! ## Models -/

/-- `ProviderConfig`: a provider entry of a configuration, of a known type. -/
structure ProviderConfig where
  id : String
  type : String
  enabled : Bool
  credentialRef : Option String
  metadata : Params
  known : type ∈ knownProviderTypes

/-- `TargetConfig`: a target entry of a configuration. -/
structure TargetEntryConfig where
  id : String
  provider : String
  enabled : Bool
  labels : List String
  allowedModes : List ControlMode
  metadata : Params

/-- `ACTClearanceConfig`: the tower's public data. -/
structure ACTClearanceConfig where
  gatewayUrl : Option String
  towerId : Option String
  towerKeys : List (String × String)

/-- `ACTClearanceConfig.is_configured`. -/
def ACTClearanceConfig.isConfigured (act : ACTClearanceConfig) : Bool :=
  act.gatewayUrl.getD "" ≠ "" && act.towerId.getD "" ≠ "" && !act.towerKeys.isEmpty

/-- `AgenticKVMConfig`. -/
structure AgenticKVMConfig where
  version : String
  providers : List ProviderConfig
  targets : List TargetEntryConfig
  defaultPolicyMode : ControlMode
  authChannel : AuthChannel
  act : ACTClearanceConfig

section Models

variable (lib : ConfigLibrary)

/-- `_required_str`. -/
def configText (item : Params) (key : String) : Except PyExc String :=
  match paramGet item key with
  | some (.str value) =>
      if strip value = "" then .error (configError ("Missing required string: " ++ key))
      else .ok value
  | _ => .error (configError ("Missing required string: " ++ key))

/-- The credential reference of a provider, validated where there is one. -/
def credentialRefOf : PyValue → Except PyExc (Option String)
  | .none => .ok none
  | value => do return some (← validateCredentialReference "credential_ref" value)

/-- `ProviderConfig.__post_init__`. -/
def ProviderConfig.init (id type : String) (enabled : Bool) (credentialRef : PyValue)
    (metadata : Params) : Except PyExc ProviderConfig :=
  if known : lib.lower (strip type) ∈ knownProviderTypes then do
    let credentialRef ← credentialRefOf credentialRef
    return ⟨strip id, lib.lower (strip type), enabled, credentialRef, metadata, known⟩
  else .error (.valueError ("Unknown provider type: " ++ type))

/-- Whether a provider is a fixture. -/
def ProviderConfig.fixtureMode (provider : ProviderConfig) : Bool :=
  pyBool lib (getOr provider.metadata "fixture_mode" (.bool false))

/-- `metadata.get("tls_verify", True) is False`. -/
def disablesTls (metadata : Params) : Bool :=
  match paramGet metadata "tls_verify" with
  | some (.bool false) => true
  | _ => false

/-- `_validate_provider_metadata`. -/
def validateProviderMetadata (provider : ProviderConfig) : Except PyExc Unit :=
  if provider.type ∉ ["pikvm", "redfish"] then .ok ()
  else do
    let fixtureMode := provider.fixtureMode lib
    let liveMode := pyBool lib (getOr provider.metadata "live_mode" (.bool false))
    raiseIf (fixtureMode ∧ liveMode) (configError
      ("Provider " ++ provider.id ++ " cannot be both fixture_mode and live_mode"))
    raiseIf (disablesTls provider.metadata
        ∧ ¬ pyBool lib (getOr provider.metadata "allow_insecure_tls" (.bool false)))
      (configError
        ("Provider " ++ provider.id ++ " disables TLS verification without explicit override"))
    let transport :=
      lib.lower (pyStr lib.toStdlib (getOr provider.metadata "transport" (.str "fake")))
    raiseIf (fixtureMode ∧ transport ∉ ["fake", "fixture"]) (configError
      ("Provider " ++ provider.id ++ " fixture_mode requires fake transport"))
    raiseIf (provider.enabled ∧ provider.type = "pikvm" ∧ ¬ fixtureMode) (configError
      "Enabled PiKVM live provider config is not allowed before live smoke gates")

/-- `_provider_config`. -/
def providerConfig (item : PyValue) : Except PyExc ProviderConfig := do
  let item ← mappingOr (configError "Provider entries must be objects") item
  let id ← configText item "id"
  let type ← configText item "type"
  let enabled := pyBool lib (getOr item "enabled" (.bool true))
  let metadata ← mappingOr (configError "provider metadata must be an object")
    (getOr item "metadata" (.dict []))
  let provider ← ProviderConfig.init lib id type enabled (getOr item "credential_ref" .none) metadata
  validateProviderMetadata lib provider
  return provider

/-- `normalize_control_mode` of a value. -/
def modeOf : PyValue → Except PyExc ControlMode
  | .str value => normalizeControlMode lib.toStdlib value
  | value => .error (.other "AttributeError"
      ("'" ++ value.typeName ++ "' object has no attribute 'strip'"))

/-- `_target_config`. -/
def targetConfig (item : PyValue) : Except PyExc TargetEntryConfig := do
  let item ← mappingOr (configError "Target entries must be objects") item
  let id ← configText item "id"
  let provider ← configText item "provider"
  let enabled := pyBool lib (getOr item "enabled" (.bool true))
  let labels ← pyTuple lib (getOr item "labels" (.tuple []))
  let modes ← pyTuple lib (getOr item "allowed_modes" (.tuple []))
  let metadata ← mappingOr (configError "target metadata must be an object")
    (getOr item "metadata" (.dict []))
  let allowedModes ← modes.mapM (modeOf lib)
  return ⟨strip id, strip provider, enabled, labels.map (pyStr lib.toStdlib), allowedModes,
    metadata⟩

/-- `_optional_str`. -/
def optionalConfigText (value : PyValue) : Option String :=
  if pyBool lib value then some (pyStr lib.toStdlib value) else none

/-- What `resolve_auth_channel` is given. -/
def authChannelInput : PyValue → AuthChannelInput
  | .none => .none
  | .str value => .text value (lib.repr value)
  | value => .text (pyStr lib.toStdlib value) (pyStr lib.toStdlib value)

/-- A section that may be missing or `None`. -/
def sectionOf (raw : Params) (key : String) (refused : PyExc) : Except PyExc Params :=
  match getOr raw key (.dict []) with
  | .none => .ok []
  | value => mappingOr refused value

/-- The `act` section. -/
def actConfig (raw : Params) : Except PyExc ACTClearanceConfig := do
  let act ← sectionOf raw "act" (configError "act must be an object")
  let towerKeys ← mappingOr (configError "act.tower_keys must be an object")
    (getOr act "tower_keys" (.dict []))
  return {
    gatewayUrl := optionalConfigText lib (getOr act "gateway_url" .none)
    towerId := optionalConfigText lib (getOr act "tower_id" .none)
    towerKeys := towerKeys.foldl
      (fun keys entry => dictSet keys (pyStr lib.toStdlib entry.1) (pyStr lib.toStdlib entry.2)) [] }

end Models

/-! ## Registries -/

section Registries

variable (lib : ConfigLibrary)

/-- `MockProvider()`. -/
def mockProvider (object : Nat) : ProviderAdapter := ⟨object, "mock", "mock", true, false, "unknown"⟩

/-- An observe provider of a kind: without a client it stands for hardware. -/
def observeProvider (kind : String) (object : Nat) (providerId : String) (enabled client : Bool) :
    ProviderAdapter :=
  ⟨object, providerId, kind, enabled, !client,
    if client then "test_fake_clearance_gated" else "real_hardware_disabled"⟩

/-- `PiKVMObserveProvider(...)`. -/
def pikvmObserveProvider (object : Nat) (providerId : String) (enabled client : Bool) :
    ProviderAdapter :=
  observeProvider "pikvm" object providerId enabled client

/-- `RedfishObserveProvider(...)`. -/
def redfishObserveProvider (object : Nat) (providerId : String) (enabled client : Bool) :
    ProviderAdapter :=
  observeProvider "redfish" object providerId enabled client

/-- `_provider_adapter_from_config`. The fixtures are given clients over fake transports. -/
def providerAdapterFromConfig (object : Nat) (provider : ProviderConfig) :
    Option ProviderAdapter :=
  if provider.enabled = false then none
  else if provider.type = "mock" then some (mockProvider object)
  else if provider.type = "pikvm" ∧ provider.fixtureMode lib then
    some (pikvmObserveProvider object provider.id true true)
  else if provider.type = "redfish" ∧ provider.fixtureMode lib then
    some (redfishObserveProvider object provider.id true true)
  else none

/-- The entries of a configuration's providers. -/
def providerEntries (object : Nat) : List ProviderConfig → Except PyExc (List ProviderEntry)
  | [] => .ok []
  | provider :: rest => do
      let entry ← ProviderEntry.init lib.toStdlib provider.id provider.type provider.enabled
        (providerAdapterFromConfig lib object provider) provider.metadata
      return entry :: (← providerEntries (object + 1) rest)

/-- `build_provider_registry`. -/
def buildProviderRegistry (config : AgenticKVMConfig) : Except PyExc ProviderRegistry := do
  let entries ← providerEntries lib 0 config.providers
  ProviderRegistry.empty.registerAll entries

/-- The definition of a configured target. -/
def targetDefinition (target : TargetEntryConfig) : Except PyExc TargetDefinition :=
  TargetDefinition.init lib.toStdlib target.id target.provider target.enabled target.labels
    target.allowedModes target.metadata

/-- `build_target_registry`. -/
def buildTargetRegistry (config : AgenticKVMConfig) (providerRegistry : ProviderRegistry) :
    Except PyExc TargetRegistry := do
  let targets ← config.targets.mapM (targetDefinition lib)
  (TargetRegistry.empty providerRegistry).registerAll targets

/-- `config_from_mapping`. -/
def configFromMapping (raw : Params) : Except PyExc AgenticKVMConfig := do
  rejectUnsafeConfigKeys lib.toStdlib "config" (.dict raw)
  let providerItems ← listOr (configError "Config providers must be a list")
    (getOr raw "providers" .none)
  let targetItems ← listOr (configError "Config targets must be a list")
    (getOr raw "targets" .none)
  let providers ← providerItems.mapM (providerConfig lib)
  let targets ← targetItems.mapM (targetConfig lib)
  let defaultPolicy ← sectionOf raw "default_policy" (configError "default_policy must be an object")
  let selection ← resolveAuthChannel lib.toStdlib (authChannelInput lib
    (getOr raw "auth_channel" (getOr defaultPolicy "auth_channel" .none))) defaultAuthChannel
  let act ← actConfig lib raw
  let mode ← normalizeControlMode lib.toStdlib
    (pyStr lib.toStdlib (getOr defaultPolicy "mode" (.str "Supervised")))
  let config : AgenticKVMConfig :=
    { version := pyStr lib.toStdlib (getOr raw "version" (.str "0.1"))
      providers, targets, defaultPolicyMode := mode, authChannel := selection.channel, act }
  let _ ← buildProviderRegistry lib config
  let providerRegistry ← buildProviderRegistry lib config
  let _ ← buildTargetRegistry lib config providerRegistry
  return config

end Registries

/-! ## Runtimes -/

/-- `ConfigRuntime`: what the surfaces of a deployment share, and the environment it runs in. -/
structure ConfigRuntime where
  config : AgenticKVMConfig
  providerRegistry : ProviderRegistry
  targetRegistry : TargetRegistry
  policy : CapabilityPolicy
  environment : RuntimeEnvironment
  clearanceClient :
    Option (List RuntimeEffect → ClearanceRequest → Int → Except PyExc ClearanceResponse)
  clearanceVerifier : Option ACTClearanceVerifier
  actParityFingerprint : Bool

section Runtime

variable (lib : ConfigLibrary)

/-- `TowerKeyRegistry.from_b64url`. -/
def towerKeysFromB64url : List (String × String) → Except PyExc (List (String × List UInt8))
  | [] => .ok []
  | (keyId, encoded) :: rest => do
      match decodeB64url lib.toStdlib encoded with
      | none => .error (.valueError "Incorrect padding")
      | some raw =>
          raiseIf (raw.length ≠ 32) (.valueError ("tower key " ++ lib.repr keyId ++ " is not 32 bytes"))
          return (keyId, raw) :: (← towerKeysFromB64url rest)

/-- The clearance wiring of a complete `act` section: the client over the transport to its gateway,
and the verifier of its tower. -/
def actWiring (transportFor : String → ACTHTTPTransport RuntimeEffect) (act : ACTClearanceConfig) :
    Except PyExc (ACTHTTPClearanceClient RuntimeEffect × ACTClearanceVerifier) := do
  let keys ← towerKeysFromB64url lib act.towerKeys
  let registry : TowerKeyRegistry := ⟨fun keyId => keys.lookup keyId⟩
  return (⟨transportFor (act.gatewayUrl.getD ""), actAircraftAgentId, 30⟩,
    ⟨act.towerId.getD "", actClearanceProofVerifier lib.toStdlib registry, false⟩)

/-- `build_runtime`. `transportFor` is the transport to a gateway. -/
def buildRuntime (environment : RuntimeEnvironment)
    (transportFor : String → ACTHTTPTransport RuntimeEffect) (config : AgenticKVMConfig) :
    Except PyExc ConfigRuntime := do
  let providerRegistry ← buildProviderRegistry lib config
  let targetRegistry ← buildTargetRegistry lib config providerRegistry
  let unwired : ConfigRuntime :=
    { config, providerRegistry, targetRegistry
      policy := modePreset config.defaultPolicyMode none
      environment, clearanceClient := none, clearanceVerifier := none
      actParityFingerprint := false }
  if config.act.isConfigured then do
    let wiring ← actWiring lib transportFor config.act
    return { unwired with
      clearanceClient := some fun history request timeoutSeconds =>
        wiring.1.requestClearance lib.toStdlib history request timeoutSeconds
      clearanceVerifier := some wiring.2
      actParityFingerprint := true }
  else return unwired

/-- The runtime of a mapping. -/
def runtimeOf (environment : RuntimeEnvironment)
    (transportFor : String → ACTHTTPTransport RuntimeEffect) (raw : Params) :
    Except PyExc ConfigRuntime := do
  let config ← configFromMapping lib raw
  buildRuntime lib environment transportFor config

end Runtime

/-! ## No real hardware -/

section Hardware

variable {lib : ConfigLibrary}

/-- No adapter made from a configuration is real hardware. -/
theorem isRealHardware_of_config {object : Nat} {provider : ProviderConfig}
    {adapter : ProviderAdapter}
    (made : providerAdapterFromConfig lib object provider = some adapter) :
    adapter.isRealHardware = false := by
  unfold providerAdapterFromConfig at made
  split_ifs at made
  all_goals
    rw [← Option.some.inj made]
    rfl

/-- The entry keeps the adapter it is given. -/
theorem ProviderEntry.init_provider {std : Stdlib} {providerId providerType : String}
    {enabled : Bool} {provider : Option ProviderAdapter} {metadata : Params} {entry : ProviderEntry}
    (made : ProviderEntry.init std providerId providerType enabled provider metadata = .ok entry) :
    entry.provider = provider := by
  unfold ProviderEntry.init at made
  split at made
  · cases made
  · cases made
    rfl

/-- No entry of a configuration's providers has an adapter that is real hardware. -/
theorem providerEntries_not_real {object : Nat} {providers : List ProviderConfig}
    {entries : List ProviderEntry} (made : providerEntries lib object providers = .ok entries) :
    ∀ entry ∈ entries, ∀ adapter, entry.provider = some adapter →
      adapter.isRealHardware = false := by
  induction providers generalizing object entries with
  | nil =>
      cases made
      exact fun entry member => by cases member
  | cons provider rest ih =>
      obtain ⟨entry, here, made⟩ := except_bind_eq_ok.mp made
      obtain ⟨later, there, same⟩ := except_bind_eq_ok.mp made
      cases same
      intro other member adapter given
      rcases List.mem_cons.mp member with rfl | member
      · rw [ProviderEntry.init_provider here] at given
        exact isRealHardware_of_config given
      · exact ih there other member adapter given

/-- Nothing a configuration's provider registry resolves is real hardware. -/
theorem buildProviderRegistry_not_real {config : AgenticKVMConfig} {registry : ProviderRegistry}
    (built : buildProviderRegistry lib config = .ok registry) {providerId : String}
    {adapter : ProviderAdapter} (resolved : registry.resolveEnabled providerId = .ok adapter) :
    adapter.isRealHardware = false := by
  obtain ⟨entries, made, registered⟩ := except_bind_eq_ok.mp built
  obtain ⟨entry, found, -, -, given⟩ := ProviderRegistry.resolveEnabled_eq_ok.mp resolved
  have member : entry ∈ entries := by
    have here := (ProviderRegistry.get_some found).1
    rw [ProviderRegistry.registerAll_eq_ok registered] at here
    simpa [ProviderRegistry.empty] using here
  exact providerEntries_not_real made entry member adapter given

/-- A target registry resolves providers in the registry it was built over. -/
theorem buildTargetRegistry_providers {config : AgenticKVMConfig} {providers : ProviderRegistry}
    {registry : TargetRegistry} (built : buildTargetRegistry lib config providers = .ok registry) :
    registry.providerRegistry = providers := by
  obtain ⟨targets, -, registered⟩ := except_bind_eq_ok.mp built
  exact (TargetRegistry.registerAll_eq_ok registered).2

/-- A runtime's registries are those of its configuration. -/
theorem buildRuntime_registries {environment : RuntimeEnvironment}
    {transportFor : String → ACTHTTPTransport RuntimeEffect} {config : AgenticKVMConfig}
    {runtime : ConfigRuntime}
    (built : buildRuntime lib environment transportFor config = .ok runtime) :
    buildProviderRegistry lib config = .ok runtime.providerRegistry
      ∧ buildTargetRegistry lib config runtime.providerRegistry = .ok runtime.targetRegistry := by
  obtain ⟨providers, builtProviders, built⟩ := except_bind_eq_ok.mp built
  obtain ⟨targets, builtTargets, built⟩ := except_bind_eq_ok.mp built
  split at built
  · obtain ⟨wiring, -, built⟩ := except_bind_eq_ok.mp built
    cases built
    exact ⟨builtProviders, builtTargets⟩
  · cases built
    exact ⟨builtProviders, builtTargets⟩

end Hardware

/-- **No configuration yields executable real hardware**: in the runtime of an accepted mapping, no
provider that either registry's resolution leads to is real hardware. -/
theorem config_no_real_hardware (lib : ConfigLibrary) (environment : RuntimeEnvironment)
    (transportFor : String → ACTHTTPTransport RuntimeEffect) (raw : Params) (runtime : ConfigRuntime)
    (built : runtimeOf lib environment transportFor raw = .ok runtime) :
    (∀ providerId adapter, runtime.providerRegistry.resolveEnabled providerId = .ok adapter →
      adapter.isRealHardware = false) ∧
    (∀ targetId mode target, runtime.targetRegistry.resolveEnabled targetId mode = .ok target →
      (∃ adapter, runtime.providerRegistry.resolveEnabled target.providerId = .ok adapter) ∧
      ∀ adapter, runtime.providerRegistry.resolveEnabled target.providerId = .ok adapter ∨
        runtime.targetRegistry.providerRegistry.resolveEnabled target.providerId = .ok adapter →
        adapter.isRealHardware = false) := by
  obtain ⟨config, -, built⟩ := except_bind_eq_ok.mp built
  obtain ⟨providers, targets⟩ := buildRuntime_registries built
  have shared := buildTargetRegistry_providers targets
  refine ⟨fun providerId adapter => buildProviderRegistry_not_real providers, ?_⟩
  intro targetId mode target resolved
  have resolves := (TargetRegistry.resolveEnabled_eq_ok.mp resolved).provider
  rw [shared] at resolves ⊢
  refine ⟨resolves, ?_⟩
  rintro adapter (here | here)
  · exact buildProviderRegistry_not_real providers here
  · exact buildProviderRegistry_not_real providers here

namespace Deployment

/-! ## A configuration file -/

/-- The library, on configurations of built-in values. -/
def configLibrary : ConfigLibrary :=
  { isoLibrary.toStdlib with
    objectTruth := fun _ _ => true
    objectItems := fun _ _ => none }

/-- No gateway is reachable. -/
def noTransport (_gatewayUrl : String) : ACTHTTPTransport RuntimeEffect :=
  ⟨fun _ _ _ => .error (.other "URLError" "unreachable")⟩

/-- A configuration with a fixture, a disabled placeholder and a target of the fixture. -/
def fixtureConfig : Params :=
  strEntries
    [("providers", .list
      [strDict [("id", .str "pikvm-1"), ("type", .str "PiKVM"),
          ("metadata", strDict [("fixture_mode", .bool true)])],
        strDict [("id", .str "bmc-1"), ("type", .str "redfish"), ("enabled", .bool false)]]),
      ("targets", .list
        [strDict [("id", .str "host-1"), ("provider", .str "pikvm-1"),
          ("allowed_modes", .list [.str "Supervised"])]])]

end Deployment

/-- The target of the configuration resolves to its fixture, which is no real hardware. -/
theorem config_no_real_hardware_fixtureConfig :
    ∃ runtime target adapter,
      runtimeOf Deployment.configLibrary Deployment.calmEnvironment Deployment.noTransport
        Deployment.fixtureConfig = .ok runtime ∧
      runtime.targetRegistry.resolveEnabled "host-1" (some .supervised) = .ok target ∧
      runtime.providerRegistry.resolveEnabled target.providerId = .ok adapter ∧
      adapter.isRealHardware = false := by
  have resolves : ((runtimeOf Deployment.configLibrary Deployment.calmEnvironment
      Deployment.noTransport Deployment.fixtureConfig >>= fun runtime =>
        runtime.targetRegistry.resolveEnabled "host-1" (some .supervised)).isOk) = true := by
    decide +kernel
  cases built : runtimeOf Deployment.configLibrary Deployment.calmEnvironment
      Deployment.noTransport Deployment.fixtureConfig with
  | error e =>
      rw [built] at resolves
      cases resolves
  | ok runtime =>
      cases resolved : runtime.targetRegistry.resolveEnabled "host-1" (some .supervised) with
      | error e =>
          rw [built, except_ok_bind, resolved] at resolves
          cases resolves
      | ok target =>
          obtain ⟨⟨adapter, provider⟩, notReal⟩ := (config_no_real_hardware
            Deployment.configLibrary Deployment.calmEnvironment Deployment.noTransport
            Deployment.fixtureConfig runtime built).2 "host-1" (some .supervised) target resolved
          exact ⟨runtime, target, adapter, rfl, resolved, provider,
            notReal adapter (Or.inl provider)⟩

end AgenticKVM
