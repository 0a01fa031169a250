import AgenticKVM.Redaction
import AgenticKVM.Engine

/-! # The PiKVM provider

The fixture-backed PiKVM adapter (`providers/pikvm.py`) over a client it is constructed with. It turns
the provider errors of `providers/errors.py` into results and lets every other exception through
(`executeAuthorized_raises_iff`). -/

namespace AgenticKVM

/-! ## Provider errors -/

/-- `ProviderErrorInfo`: the static metadata of a provider error. -/
structure ProviderErrorInfo where
  code : String
  category : String
  retryable : Bool
  safeToShow : Bool
  auditSeverity : String
  stopBehavior : String
  approvalCouldResolve : Bool

/-- A `ProviderError`: the metadata and the default message of its class, and its own message and
detail. -/
structure ProviderError where
  info : ProviderErrorInfo
  defaultMessage : String
  message : String
  detail : Option String := none

/-- `_redact_text`. -/
def redactErrorText (lower : String → String) (value : String) : String :=
  if ["password", "token", "secret", "credential"].any fun fragment =>
      (lower value).toList.tails.any fragment.toList.isPrefixOf then
    redactedMark
  else value

/-- `ProviderError.public_message`. -/
def ProviderError.publicMessage (lower : String → String) (error : ProviderError) : String :=
  if error.info.safeToShow then redactErrorText lower error.message else error.defaultMessage

/-- `ProviderError.to_provider_result`. -/
def ProviderError.toProviderResult (lower : String → String) (error : ProviderError)
    (request : ProviderActionRequest) (providerId providerType : String) :
    ProviderActionResult where
  ok := false
  providerId
  providerType := some providerType
  capability := request.capability
  action := request.action
  targetId := request.targetId
  performedOnHardware := false
  message := error.publicMessage lower
  data := [(.str "error", .dict
    [(.str "code", .str error.info.code), (.str "category", .str error.info.category),
      (.str "audit_severity", .str error.info.auditSeverity),
      (.str "stop_behavior", .str error.info.stopBehavior),
      (.str "approval_could_resolve", .bool error.info.approvalCouldResolve)])]
  errorCode := some error.info.code
  errorMessage := some (error.publicMessage lower)
  retryable := error.info.retryable
  warnings := match error.detail with
    | some detail =>
        if detail ≠ "" ∧ error.info.safeToShow then [redactErrorText lower detail] else []
    | none => []

/-- What a provider's client raises: a provider error or another exception. -/
inductive ClientRaise
  | providerError (error : ProviderError)
  | exception (e : PyExc)

/-! ## Capabilities -/

/-- `PIKVM_OBSERVE_CAPABILITIES`. -/
def pikvmObserveCapabilities : List String :=
  ["observe.status", "observe.screen", "observe.screenshot", "observe.power_state",
    "observe.hardware_inventory", "observe.event_logs", "observe.boot_status"]

/-- `PIKVM_ACTUATION_CAPABILITIES`. -/
def pikvmActuationCapabilities : List String :=
  ["power.on", "power.force_off", "power.power_cycle", "power.reset", "input.keyboard_type",
    "input.mouse_move", "input.mouse_click", "media.mount_approved_iso"]

/-- `PIKVM_SUPPORTED_CAPABILITIES`. -/
def pikvmSupportedCapabilities : List String :=
  pikvmObserveCapabilities ++ pikvmActuationCapabilities

/-! ## The client -/

/-- A call of a method of `PiKVMObserveClient`. -/
inductive PiKVMCall
  | status
  | screen
  | screenshotMetadata
  | powerState
  | bootStatus
  | hardwareInventory
  | eventLogs
  | powerOn
  | powerOff
  | powerCycle
  | reset
  | typeText (text : String)
  | mouseMove (x y screenWidth screenHeight : Int)
  | mouseClick (x y screenWidth screenHeight : Int) (button : String)
  | mountMsd (imageRef : String)

/-- A `PiKVMObserveClient`: its answer to a call, after what happened before and the calls already made
for the same request. -/
abbrev PiKVMObserveClient : Type :=
  List Effect → List PiKVMCall → PiKVMCall → Except ClientRaise Params

/-- `list(value)`. -/
def pyList : PyValue → Except PyExc (List PyValue)
  | .list items | .tuple items | .set items => .ok items
  | .dict entries => .ok (entries.map Prod.fst)
  | .str s => .ok (s.toList.map fun c => .str (String.singleton c))
  | .bytes data => .ok (data.map fun byte => .int byte.toNat)
  | value => .error (.typeError ("'" ++ value.typeName ++ "' object is not iterable"))

/-- `PiKVMObserveProvider`: what it is constructed with, and `int(value)` of a value. -/
structure PiKVMObserveProvider where
  providerId : String
  enabled : Bool
  client : Option PiKVMObserveClient
  int : PyValue → Except PyExc Int

namespace PiKVMObserveProvider

variable (lib : AuditLibrary) (pikvm : PiKVMObserveProvider)

/-- `parameters.get(name, default)`. -/
def parameter (request : ProviderActionRequest) (name : String) (default : PyValue) : PyValue :=
  (paramGet request.parameters name).getD default

/-- `int(parameters.get(name, default))`. -/
def intParameter (request : ProviderActionRequest) (name : String) (default : Int) :
    Except ClientRaise Int :=
  (pikvm.int (parameter request name (.int default))).mapError .exception

/-- `payload[name]`. -/
def field (payload : Params) (name : String) : Except ClientRaise PyValue :=
  match paramGet payload name with
  | some value => .ok value
  | none => .error (.exception (.keyError name))

/-- The point and the screen of a pointer action. -/
def pointer (request : ProviderActionRequest) : Except ClientRaise (Int × Int × Int × Int) := do
  let x ← pikvm.intParameter request "x" 0
  let y ← pikvm.intParameter request "y" 0
  let screenWidth ← pikvm.intParameter request "screen_width" 1280
  let screenHeight ← pikvm.intParameter request "screen_height" 720
  return (x, y, screenWidth, screenHeight)

/-- The data of a supported capability: what the body of the `try` of `execute_authorized` builds.
`none` is the branch of an unsupported capability. -/
def dispatch (client : List PiKVMCall → PiKVMCall → Except ClientRaise Params)
    (request : ProviderActionRequest) : Except ClientRaise (Option Params) := do
  let actuation (call : PiKVMCall) : Except ClientRaise (Option Params) := do
    let payload ← client [] call
    return some [(.str "actuation", .dict payload)]
  match request.capability with
  | "observe.status" => do
      let payload ← client [] .status
      return some [(.str "status", .dict payload)]
  | "observe.screen" => do
      let payload ← client [] .screen
      return some [(.str "screen", .dict payload)]
  | "observe.screenshot" => do
      let screen ← client [] .screen
      let screenshot ← client [.screen] .screenshotMetadata
      return some [(.str "screen", .dict screen), (.str "screenshot", .dict screenshot)]
  | "observe.power_state" => do
      let powerState ← field (← client [] .powerState) "power_state"
      return some [(.str "power_state", powerState)]
  | "observe.hardware_inventory" => do
      let payload ← client [] .hardwareInventory
      return some [(.str "inventory", .dict payload)]
  | "observe.event_logs" => do
      let events ← field (← client [] .eventLogs) "events"
      let items ← (pyList events).mapError .exception
      return some [(.str "events", .list items)]
  | "observe.boot_status" => do
      let bootStatus ← field (← client [] .bootStatus) "boot_status"
      return some [(.str "boot_status", bootStatus)]
  | "power.on" => actuation .powerOn
  | "power.force_off" => actuation .powerOff
  | "power.power_cycle" => actuation .powerCycle
  | "power.reset" => actuation .reset
  | "input.keyboard_type" => do
      let payload ← client [] (.typeText (pyStr lib.toStdlib (parameter request "text" (.str ""))))
      return some [(.str "actuation", .dict payload),
        (.str "parameters", .dict (redactMapping lib request.parameters none).1)]
  | "input.mouse_move" => do
      let (x, y, screenWidth, screenHeight) ← pikvm.pointer request
      actuation (.mouseMove x y screenWidth screenHeight)
  | "input.mouse_click" => do
      let (x, y, screenWidth, screenHeight) ← pikvm.pointer request
      let button := pyStr lib.toStdlib (parameter request "button" (.str "left"))
      actuation (.mouseClick x y screenWidth screenHeight button)
  | "media.mount_approved_iso" =>
      actuation (.mountMsd (pyStr lib.toStdlib (parameter request "image_ref" (.str ""))))
  | _ => return none

/-- `validate_authorized`: the client, or the message of the refusal. -/
def validateAuthorized (request : ProviderActionRequest) : Except String PiKVMObserveClient :=
  match pikvm.client with
  | none => .error "PiKVM provider has no fake transport"
  | some client =>
      if ¬ pikvm.enabled then .error "provider is disabled"
      else if request.capability ∉ pikvmSupportedCapabilities then .error "unsupported capability"
      else .ok client

/-- What every result's data begins with. -/
def resultData (performed : List (PyValue × PyValue)) : Params :=
  [(.str "provider", .str "pikvm"), (.str "fixture", .bool true), (.str "performed", .bool false)]
    ++ performed

/-- `_result`. -/
def result (request : ProviderActionRequest) (ok : Bool) (message : String) (data : Params) :
    ProviderActionResult where
  ok
  providerId := pikvm.providerId
  capability := request.capability
  action := request.action
  targetId := request.targetId
  performedOnHardware := false
  message
  data := resultData data
  providerType := some "pikvm"
  errorCode := if ok then none else some "unsupported_capability"
  errorMessage := if ok then none else some message

/-- `execute_authorized`. -/
def executeAuthorized (history : List Effect) (request : ProviderActionRequest) :
    Except PyExc ProviderActionResult :=
  match pikvm.validateAuthorized request with
  | .error message => .ok (pikvm.result request false message [])
  | .ok client =>
      match pikvm.dispatch lib (client history) request with
      | .ok (some data) => .ok (pikvm.result request true
          "PiKVM fixture operation completed; no hardware action performed." data)
      | .ok none => .ok (pikvm.result request false "Unsupported PiKVM capability" [])
      | .error (.providerError error) =>
          .ok (error.toProviderResult lib.lower request pikvm.providerId "pikvm")
      | .error (.exception e) => .error e

/-- The adapter as a provider of the control plane. -/
def toProvider : Provider where
  providerId := pikvm.providerId
  providerKind := "pikvm"
  isRealHardware := pikvm.client.isNone
  executeAuthorized := pikvm.executeAuthorized lib

variable {lib : AuditLibrary} {pikvm : PiKVMObserveProvider} {history : List Effect}
  {request : ProviderActionRequest}

end PiKVMObserveProvider

end AgenticKVM
