import AgenticKVM.MutationTransports
import AgenticKVM.PiKVMProvider

/-! # The PiKVM observe transports

The live and the fixture transport of `providers/pikvm_transport.py`. Both read a JSON object from a
path, check that it has the fields the operation requires, and return it redacted. -/

namespace AgenticKVM

open Lib (Json)

/-! ## Failures -/

/-- `ProviderProtocolError`. -/
def providerProtocolError (message : String) : ProviderError where
  info := ⟨"provider_protocol", "protocol", false, true, "medium", "stop_action", false⟩
  defaultMessage := "provider protocol error"
  message

/-- `ProviderResponseValidationError`. -/
def providerResponseValidationError (message : String) : ProviderError where
  info := ⟨"provider_response_validation", "protocol", false, true, "medium", "stop_action", false⟩
  defaultMessage := "provider response validation failed"
  message

/-- `ProviderAuthenticationRequiredError`. -/
def providerAuthenticationRequiredError (message : String) : ProviderError where
  info := ⟨"provider_authentication_required", "credential", false, false, "high", "stop_action",
    true⟩
  defaultMessage := "provider authentication required"
  message

/-- `ProviderTimeoutError`. -/
def providerTimeoutError (message : String) : ProviderError where
  info := ⟨"provider_timeout", "network", true, true, "medium", "retry_allowed", false⟩
  defaultMessage := "provider timeout"
  message

/-- `ProviderMutationBlockedError`. -/
def providerMutationBlockedError (message : String) : ProviderError where
  info := ⟨"provider_mutation_blocked", "safety", false, true, "critical", "stop_action", false⟩
  defaultMessage := "provider mutation blocked"
  message

/-- What the HTTP client of a read transport raises: a provider error or a `TransportError`. -/
inductive ReadFailure
  | providerError (error : ProviderError)
  | transportError

/-- **The resources a device serves**: `get_json` for each path, a JSON object or a failure. -/
abbrev ServedResources : Type := String → Except ReadFailure (List (String × Json))

/-- Raise a provider error. -/
def refuse {α : Type} (error : ProviderError) : Except ClientRaise α := .error (.providerError error)

/-- An exception that is no provider error. -/
def raised {α : Type} (result : Except PyExc α) : Except ClientRaise α :=
  result.mapError .exception

/-! ## Payloads -/

/-- `redact_pikvm_observe_payload` of a mapping. -/
def redactPikvmObserveMapping (lib : AuditLibrary) (payload : Params) : Params :=
  match redactPikvmObservePayload lib (.dict payload) with
  | .dict redacted => redacted
  | _ => []

/-- `_validate_required`. -/
def validateRequired (payload : List (String × Json)) (required : List String) :
    Except ClientRaise Unit :=
  match required.filter fun key => (payload.lookup key).isNone with
  | [] => .ok ()
  | missing => refuse (providerResponseValidationError
      ("PiKVM fixture response missing required fields: " ++ ", ".intercalate missing))

/-- What both transports return of a payload. -/
def observedMapping (lib : AuditLibrary) (payload : List (String × Json)) (required : List String) :
    Except ClientRaise Params := do
  validateRequired payload required
  return redactPikvmObserveMapping lib (PyValue.ofEntries payload)

/-- The check that screenshot metadata is no screenshot. -/
def withoutRawBytes (message : String) (payload : Params) : Except ClientRaise Params :=
  match paramGet payload "raw_bytes_included" with
  | some (.bool true) => refuse (providerResponseValidationError message)
  | _ => .ok payload

/-! ## The live transport -/

/-- The read operations of `LivePiKVMObserveTransport`; `get_hardware_inventory` is `get_device_info`. -/
inductive PiKVMLiveRead
  | health
  | screenState
  | screenshotMetadata
  | powerState
  | bootStatus
  | deviceInfo
deriving DecidableEq

namespace PiKVMLiveRead

/-- The path of an operation and the fields it requires. -/
def request : PiKVMLiveRead → String × List String
  | health => ("/api/health", ["health"])
  | screenState => ("/api/screen-state", ["kind"])
  | screenshotMetadata => ("/api/screenshot-metadata", ["artifact", "raw_bytes_included"])
  | powerState => ("/api/power-state", ["power_state"])
  | bootStatus => ("/api/boot", ["boot_status"])
  | deviceInfo => ("/api/device-info", ["provider"])

variable (lib : AuditLibrary) (served : ServedResources)

/-- `LivePiKVMObserveTransport._get_mapping`. -/
def getMapping (path : String) (required : List String) : Except ClientRaise Params :=
  match served path with
  | .ok payload => observedMapping lib payload required
  | .error (.providerError error) => refuse error
  | .error .transportError =>
      refuse (providerProtocolError "PiKVM live observe transport error")

/-- The method of the live transport that runs an operation. -/
def run (operation : PiKVMLiveRead) : Except ClientRaise Params := do
  let payload ← getMapping lib served operation.request.1 operation.request.2
  if operation = screenshotMetadata then
    withoutRawBytes "PiKVM live screenshot metadata included raw bytes" payload
  else return payload

end PiKVMLiveRead

/-! ## The fixture transport -/

/-- The read operations of `FakePiKVMObserveTransport`; `get_device_info` is
`get_hardware_inventory`. -/
inductive PiKVMFakeRead
  | health
  | screenState
  | screenshotMetadata
  | powerState
  | bootStatus
  | hardwareInventory
  | eventLogs
deriving DecidableEq

/-- What a `FakeTransport` is loaded with: whether it allows `GET`, and the bodies of its routes. -/
structure FakeRoutes where
  allowsGet : Bool
  body : String → Option (List (String × Json))

namespace PiKVMFakeRead

/-- The path of an operation and the fields it requires. -/
def request : PiKVMFakeRead → String × List String
  | health => ("/api/health", ["health", "fixture"])
  | screenState => ("/api/screen-state", ["kind", "sensitive", "source"])
  | screenshotMetadata =>
      ("/api/screenshot-metadata", ["artifact", "sensitive", "raw_bytes_included"])
  | powerState => ("/api/power-state", ["power_state"])
  | bootStatus => ("/api/boot", ["boot_status"])
  | hardwareInventory => ("/api/inventory", ["provider"])
  | eventLogs => ("/api/events", ["events"])

variable (lib : AuditLibrary) (routes : FakeRoutes)

/-- `_raise_fixture_error`. -/
def raiseFixtureError (payload : List (String × Json)) : Except ClientRaise Unit :=
  match jsonGet payload "error" with
  | .obj error =>
      match jsonStr lib.toStdlib (jsonGetD error "code" (.str "unknown")) with
      | "auth_required" =>
          refuse (providerAuthenticationRequiredError "PiKVM authentication required")
      | "timeout" => refuse (providerTimeoutError "PiKVM observe request timed out")
      | _ => refuse (providerProtocolError "PiKVM fixture returned provider error")
  | _ => .ok ()

/-- `FakePiKVMObserveTransport._get_mapping`. -/
def getMapping (path : String) (required : List String) : Except ClientRaise Params :=
  if ¬ routes.allowsGet then
    refuse (providerMutationBlockedError
      "PiKVM fake observe transport rejected mutating method")
  else
    match routes.body path with
    | none =>
        refuse (providerResponseValidationError ("PiKVM fake fixture route missing: " ++ path))
    | some payload => do
        raiseFixtureError lib payload
        observedMapping lib payload required

/-- The method of the fixture transport that runs an operation. -/
def run (operation : PiKVMFakeRead) : Except ClientRaise Params := do
  let payload ← getMapping lib routes operation.request.1 operation.request.2
  if operation = screenshotMetadata then
    withoutRawBytes "PiKVM screenshot fixture must not include raw bytes" payload
  else return payload

end PiKVMFakeRead

end AgenticKVM
