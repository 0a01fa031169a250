import AgenticKVM.ApprovalQueue
import AgenticKVM.SqliteAudit
import AgenticKVM.TargetRegistry

/-! # The MCP router

The one way from a tool request to a provider (`mcp/models.py`, `mcp/registry.py`, `mcp/router.py`):
a tool is mapped to a capability, the target and its provider are resolved, and a control plane built
for the one request decides. Every refusal on the way is audited before it is returned.
`router_contained` says that whatever is executed has passed all of the lookups. -/

namespace AgenticKVM

open Lib (Prog except_bind_eq_ok except_bind_eq_error)

/-! ## The runtime and its environment -/

/-- What a surface outside the control plane gives `build_audit_event`. -/
structure SurfaceEvent where
  eventType : AuditEventType
  correlationId : String
  sessionId : String
  targetId : String
  actor : Actor
  capability : CapabilityRef
  policyDecision : PolicyDecision
  request : Params
  result : Params
  materialRisks : List String

/-- What the audit sink of a runtime is given: events of its surfaces and of its control planes. -/
inductive RuntimeEvent
  | surface (event : SurfaceEvent)
  | plane (event : AuditEmission)

/-- An interaction of a runtime with its environment: a surface's own audit event, recorded or
refused by the sink, or what a control plane over one of the adapters does. -/
inductive RuntimeEffect
  | emitted (event : SurfaceEvent)
  | emitRaised (event : SurfaceEvent) (e : PyExc)
  | handled (provider : ProviderAdapter) (effect : Effect)

/-- The adapter an effect executes on, if it is an execution. -/
def RuntimeEffect.executedOn : RuntimeEffect → Option ProviderAdapter
  | .handled adapter (.executed _ _) => some adapter
  | _ => none

/-- The environment of a runtime: the audit sink, which answers `none` where it records an event,
the clock, `uuid4`, and what the adapters answer. All of these depend on everything that happened
before. -/
structure RuntimeEnvironment where
  auditSink : List RuntimeEffect → RuntimeEvent → Option PyExc
  now : List RuntimeEffect → Datetime
  freshId : List RuntimeEffect → String
  execute : List RuntimeEffect → ProviderAdapter → ProviderActionRequest →
    Except PyExc ProviderActionResult

/-! ## Requests and results -/

/-- `MCPResultStatus`. -/
inductive MCPResultStatus
  | ok
  | denied
  | approvalRequired
  | clearanceRequired
  | validationError
  | providerError
  | policyError
deriving DecidableEq

/-- `MCPResultStatus.value`. -/
def MCPResultStatus.value : MCPResultStatus → String
  | ok => "ok"
  | denied => "denied"
  | approvalRequired => "approval_required"
  | clearanceRequired => "clearance_required"
  | validationError => "validation_error"
  | providerError => "provider_error"
  | policyError => "policy_error"

/-- `MCPToolRequest`: a tool-style request. -/
structure MCPToolRequest where
  toolName : String
  target : String
  sessionId : String
  requesterId : String
  params : Params
  provider : Option String
  approvalContext : Params
  correlationId : Option String
  named : toolName ≠ ""
  targeted : target ≠ ""
  inSession : sessionId ≠ ""
  requested : requesterId ≠ ""

/-- The checks of a tool call at one of the surfaces, which names itself and the tool in its errors:
no identifier is empty. -/
def MCPToolRequest.checked (surface toolNoun toolName target sessionId requesterId : String)
    (params : Params) (provider : Option String) (approvalContext : Params)
    (correlationId : Option String) : Except PyExc MCPToolRequest :=
  let required (noun : String) : PyExc := .valueError (surface ++ " " ++ noun ++ " is required")
  if named : toolName ≠ "" then
    if targeted : target ≠ "" then
      if inSession : sessionId ≠ "" then
        if requested : requesterId ≠ "" then
          .ok ⟨toolName, target, sessionId, requesterId, params, provider, approvalContext,
            correlationId, named, targeted, inSession, requested⟩
        else .error (required "requester_id")
      else .error (required "session_id")
    else .error (required "target")
  else .error (required toolNoun)

/-- `MCPToolRequest.__post_init__`. -/
def MCPToolRequest.init (toolName target sessionId requesterId : String) (params : Params)
    (provider : Option String) (approvalContext : Params) (correlationId : Option String) :
    Except PyExc MCPToolRequest :=
  MCPToolRequest.checked "MCP" "tool name" toolName target sessionId requesterId params provider
    approvalContext correlationId

/-- The actor a request is made by. -/
def MCPToolRequest.requester (request : MCPToolRequest) : Actor :=
  ⟨.agent, request.requesterId, request.requested⟩

/-- `MCPToolResult`: the sanitized result of a request. -/
structure MCPToolResult where
  status : MCPResultStatus
  toolName : String
  capability : Option String
  target : String
  provider : String
  reason : String
  data : Params
  approvalRequestId : Option String
  risks : List String
  redactions : List String

/-- `MCPToolResult.to_dict`. -/
def MCPToolResult.toDict (result : MCPToolResult) : Params :=
  strEntries
    ([("status", .str result.status.value), ("tool_name", .str result.toolName),
      ("capability", optionalStr result.capability), ("target", .str result.target),
      ("provider", .str result.provider), ("reason", .str result.reason),
      ("data", .dict result.data), ("risks", strList result.risks),
      ("redactions", strList result.redactions)]
    ++ (result.approvalRequestId.toList.map fun id => ("approval_request_id", .str id)))

section Results

variable (lib : AuditLibrary)

/-- `ApprovalRequest.to_dict`. -/
def ApprovalRequest.toDict (request : ApprovalRequest) : Params :=
  strEntries
    ([("id", .str request.id), ("created_at", .str (lib.isoformat request.createdAt)),
      ("expires_at", .str (lib.isoformat request.expiresAt)),
      ("session_id", .str request.sessionId), ("requester", request.requester.toDict),
      ("capability", request.capability.toDict),
      ("target_scope", strDict [("targets", strList request.targetIds),
        ("allow_real_hardware", .bool false)]),
      ("policy_decision", .str request.policyDecision.value),
      ("operator_message", .str request.operatorMessage),
      ("material_risks", strList request.materialRisks),
      ("proposed_audit_event_id", .str request.proposedAuditEventId)]
    ++ (if request.limits.isEmpty then [] else [("limits", .dict request.limits)])
    ++ (request.providerId.toList.map fun id => ("provider_id", .str id)))

/-- `ClearanceRiskSummary.to_dict`. -/
def ClearanceRiskSummary.toDict (summary : ClearanceRiskSummary) : PyValue :=
  strDict [("risk_family", .str summary.riskFamily.value), ("summary", .str summary.summary),
    ("material_risks", strList summary.materialRisks)]

/-- `ClearanceRequest.to_dict`. -/
def ClearanceRequest.toDict (request : ClearanceRequest) : Except PyExc Params := do
  let createdAt ← request.createdAt.astimezoneUtc lib.toStdlib
  let expiresAt ← request.expiresAt.astimezoneUtc lib.toStdlib
  return strEntries
    [("aircraft", .str request.aircraft), ("request_id", .str request.requestId),
      ("session_id", .str request.sessionId), ("target", .str request.target),
      ("provider", .str request.provider), ("capability", .str request.capability),
      ("params_fingerprint", .str request.paramsFingerprint),
      ("risk_family", .str request.riskSummary.riskFamily.value),
      ("risk_summary", request.riskSummary.toDict),
      ("operator_message", .str request.operatorMessage),
      ("requested_by", .str request.requestedBy),
      ("created_at", .str (lib.isoformat createdAt)),
      ("expires_at", .str (lib.isoformat expiresAt)), ("short_code", .str request.shortCode),
      ("policy_context", .dict request.policyContext),
      ("audit_correlation_id", .str request.auditCorrelationId)]

/-- A result about a capability, without data. -/
def plainResult (request : MCPToolRequest) (capabilityId providerId : String)
    (status : MCPResultStatus) (reason : String) (risks : List String) : MCPToolResult :=
  { status, toolName := request.toolName, capability := some capabilityId
    target := request.target, provider := providerId, reason, data := []
    approvalRequestId := none, risks, redactions := [] }

/-- Paths below a section. -/
def pathsBelow (section_ : String) (paths : List String) : List String :=
  paths.map fun path => section_ ++ "." ++ path

/-- `ProviderActionResult.normalized`: the envelope of a provider's answer, with its data and its
error message redacted. -/
def ProviderActionResult.normalized (answer : ProviderActionResult) : Params :=
  strEntries
    ([("status", .str (if answer.ok then "ok" else "error")),
      ("provider_id", .str answer.providerId),
      ("provider_type", .str (givenOr answer.providerType answer.providerId)),
      ("target", .str answer.targetId), ("capability", .str answer.capability),
      ("data", (redactValue lib "" "" false (.dict answer.data)).value),
      ("warnings", strList answer.warnings), ("redacted", .bool answer.redacted),
      ("error_code", optionalStr answer.errorCode),
      ("error_message", (redactValue lib "" "" false (.str (answer.errorMessage.getD ""))).value),
      ("retryable", .bool answer.retryable),
      ("performed_on_hardware", .bool answer.performedOnHardware)]
    ++ (answer.timestamp.toList.map fun timestamp => ("timestamp", .str timestamp)))

/-- The result of a provider call. -/
def providerOutcome (request : MCPToolRequest) (capabilityId providerId : String)
    (status : MCPResultStatus) (result : ControlPlaneResult) : MCPToolResult :=
  let data := strEntries [("provider_result",
    .dict ((result.providerResult.map (ProviderActionResult.normalized lib)).getD []))]
  let (safeData, redactions) := redactMapping lib data none
  { plainResult request capabilityId providerId status result.message
      result.decision.materialRisks with
    data := safeData
    redactions := pathsBelow "data" redactions }

/-- The result of a request that waits for an operator, local or at the tower: `pending` is the
entry that shows what waits, `more` what is added to it. -/
def pendingOutcome (request : MCPToolRequest) (capabilityId providerId : String)
    (status : MCPResultStatus) (result : ControlPlaneResult) (id : Option String)
    (pending : String × Params) (more : List (String × PyValue)) : Except PyExc MCPToolResult := do
  let (preview, redactions) := redactMapping lib request.params none
  let fingerprint ← actionFingerprint lib.toStdlib request.params
  return { plainResult request capabilityId providerId status result.message
      result.decision.materialRisks with
    data := strEntries
      ([(pending.1, .dict pending.2), ("params_preview", .dict preview),
        ("params_fingerprint", .str fingerprint),
        ("policy_decision", .str result.decision.decision.value)] ++ more)
    approvalRequestId := id
    redactions := pathsBelow "params" redactions }

/-- `mcp_result_from_control_plane`. -/
def mcpResultFromControlPlane (request : MCPToolRequest) (capabilityId providerId : String)
    (result : ControlPlaneResult) : Except PyExc MCPToolResult :=
  match result.status with
  | .denied => .ok (plainResult request capabilityId providerId .denied result.decision.reason
      result.decision.materialRisks)
  | .clearanceRequired => do
      let clearance ← match result.clearanceRequest with
        | some clearance => clearance.toDict lib
        | none => .ok []
      pendingOutcome lib request capabilityId providerId .clearanceRequired result
        (result.clearanceRequest.map fun clearance => clearance.requestId)
        ("clearance_request", clearance)
        [("retry_guidance", .str ("Surface this code to the operator and retry with "
          ++ "identical parameters after approval."))]
  | .approvalRequired =>
      pendingOutcome lib request capabilityId providerId .approvalRequired result
        (result.approvalRequest.map ApprovalRequest.id)
        ("approval_request", (result.approvalRequest.map (ApprovalRequest.toDict lib)).getD []) []
  | .failed => .ok (providerOutcome lib request capabilityId providerId .providerError result)
  | .completed => .ok (providerOutcome lib request capabilityId providerId .ok result)

end Results

/-! ## Tools -/

/-- `MCPToolDefinition`. -/
structure MCPToolDefinition where
  toolName : String
  capabilityId : String
  description : String
  dangerous : Bool
deriving DecidableEq

/-- `MCPToolRegistry`: tools under distinct names. -/
structure MCPToolRegistry where
  tools : List MCPToolDefinition
  distinct : (tools.map MCPToolDefinition.toolName).Nodup

/-- `MCPToolRegistry.__init__`: every tool has a name of its own and maps to a known capability. -/
def MCPToolRegistry.init (capabilities : CapabilityRegistry) (registry : MCPToolRegistry) :
    List MCPToolDefinition → Except PyExc MCPToolRegistry
  | [] => .ok registry
  | tool :: rest =>
      if known : tool.toolName ∈ registry.tools.map MCPToolDefinition.toolName then
        .error (.valueError ("Duplicate MCP tool name: " ++ tool.toolName))
      else if (capabilities.get tool.capabilityId).isNone then
        .error (.valueError ("MCP tool " ++ tool.toolName ++ " maps to unknown capability "
          ++ tool.capabilityId))
      else
        MCPToolRegistry.init capabilities
          { tools := registry.tools ++ [tool]
            distinct := by
              rw [List.map_append, List.map_singleton]
              exact registry.distinct.append (List.nodup_singleton _)
                (List.disjoint_singleton.mpr known) }
          rest

/-- `MCPToolRegistry.get`. -/
def MCPToolRegistry.get (registry : MCPToolRegistry) (toolName : String) :
    Option MCPToolDefinition :=
  registry.tools.find? fun tool => tool.toolName = toolName

/-- `DEFAULT_MCP_TOOLS`. -/
def defaultMcpTools : List MCPToolDefinition :=
  [ ⟨"observe_screen", "observe.screenshot",
      "Observe the current screen through the control plane.", false⟩,
    ⟨"get_status", "observe.status", "Read a provider-neutral target status summary.", false⟩,
    ⟨"get_power_state", "observe.power_state", "Read target power state.", false⟩,
    ⟨"get_hardware_inventory", "observe.hardware_inventory",
      "Read non-secret hardware inventory.", false⟩,
    ⟨"get_sensors", "observe.sensors", "Read sensor summary.", false⟩,
    ⟨"get_event_logs", "observe.event_logs", "Read event log summary.", false⟩,
    ⟨"get_boot_status", "observe.boot_status", "Read boot status.", false⟩,
    ⟨"request_clearance", "runtime.request_clearance",
      "Request ACT clearance without granting clearance.", false⟩,
    ⟨"deny_clearance", "runtime.deny_clearance",
      "Deny an ACT clearance request without granting clearance.", false⟩,
    ⟨"power_on", "power.on", "Power on an in-scope target.", true⟩,
    ⟨"power_off", "power.force_off", "Force power off for an in-scope target.", true⟩,
    ⟨"power_cycle", "power.power_cycle", "Power-cycle an in-scope target.", true⟩,
    ⟨"power_reset", "power.reset", "Trigger an ATX reset for an in-scope target.", true⟩,
    ⟨"graceful_restart", "power.graceful_restart", "Request an orderly restart.", true⟩,
    ⟨"force_restart", "power.force_restart", "Force an immediate restart.", true⟩,
    ⟨"mount_media", "media.mount_approved_iso", "Mount pre-approved virtual media.", true⟩,
    ⟨"change_boot_order", "boot.override", "Set a boot override.", true⟩,
    ⟨"type_text", "input.keyboard_type", "Type text through a remote input device.", true⟩,
    ⟨"mouse_move", "input.mouse_move", "Move the mouse through a remote input device.", true⟩,
    ⟨"mouse_click", "input.mouse_click", "Click the mouse through a remote input device.", true⟩,
    ⟨"modify_policy", "session.modify_policy", "Attempt to modify active policy.", true⟩,
    ⟨"reveal_secret", "secrets.raw_reveal", "Attempt to reveal raw secret material.", true⟩ ]

/-- `DEFAULT_MCP_TOOL_REGISTRY`. -/
def defaultMcpToolRegistry : MCPToolRegistry := ⟨defaultMcpTools, by decide +kernel⟩

/-! ## The router -/

/-- `MCPRouter`: what a router is constructed with, the approval store apart, and the environment it
runs in. -/
structure MCPRouter where
  providerRegistry : ProviderRegistry
  targetRegistry : TargetRegistry
  policy : CapabilityPolicy
  environment : RuntimeEnvironment
  clearanceClient :
    Option (List RuntimeEffect → ClearanceRequest → Int → Except PyExc ClearanceResponse)
  clearanceVerifier : Option ACTClearanceVerifier
  clearanceTimeoutSeconds : Int
  authChannel : AuthChannelInput
  actParityFingerprint : Bool
  registry : MCPToolRegistry
  capabilityRegistry : CapabilityRegistry

/-- A program of a surface of the runtime: it may change the approval store. -/
abbrev Surface (α : Type) : Type := Prog RuntimeEffect (Option ApprovalStore) PyExc α

/-- A surface asks the audit sink to record an event. -/
def RuntimeEnvironment.emit (environment : RuntimeEnvironment) (event : SurfaceEvent) :
    Surface Unit :=
  Prog.perform fun history =>
    match environment.auditSink history (.surface event) with
    | none => (.emitted event, .ok ())
    | some e => (.emitRaised event e, .error e)

/-- A request that is refused on the way: what the caller is told, and what is audited. -/
structure Refusal where
  status : MCPResultStatus
  capability : Option String
  provider : String
  reason : String
  audited : String

/-- The result of a refused request. -/
def Refusal.result (refusal : Refusal) (request : MCPToolRequest) : MCPToolResult :=
  { status := refusal.status, toolName := request.toolName, capability := refusal.capability
    target := request.target, provider := refusal.provider, reason := refusal.reason, data := []
    approvalRequestId := none, risks := [], redactions := [] }

/-- What a request is mapped to: a tool, a target, and the adapter of the target's provider. -/
structure ToolRoute where
  tool : MCPToolDefinition
  target : TargetDefinition
  adapter : ProviderAdapter

/-- A lookup that refuses where it finds nothing. -/
def orRefuse {α : Type} (refusal : Refusal) : Option α → Except Refusal α
  | none => .error refusal
  | some a => .ok a

/-- The refusal of a lookup that raises, which the caller is told as it is. -/
def lookupRefused (capabilityId provider : String) (e : PyExc) : Refusal :=
  ⟨.validationError, some capabilityId, provider, e.text, e.text⟩

namespace MCPRouter

variable (lib : AuditLibrary) (router : MCPRouter) (request : MCPToolRequest)

/-- The check of a provider named in the request. -/
def matchProvider (capabilityId : String) : Except Refusal Unit :=
  match request.provider with
  | none => .ok ()
  | some provider =>
      ((router.targetRegistry.validateProviderMatch request.target provider).map
        fun _ => ()).mapError (lookupRefused capabilityId provider)

/-- The lookups of `handle_tool_request`, in their order. -/
def route : Except Refusal ToolRoute := do
  let tool ← orRefuse ⟨.validationError, none, request.provider.getD "", "unknown MCP tool",
    "unknown MCP tool"⟩ (router.registry.get request.toolName)
  let _ ← orRefuse ⟨.policyError, some tool.capabilityId, request.provider.getD "",
      "unknown mapped capability", "unknown mapped capability: " ++ tool.capabilityId⟩
    (router.capabilityRegistry.get tool.capabilityId)
  let target ← (router.targetRegistry.resolveEnabled request.target
    (some router.policy.mode)).mapError
      (lookupRefused tool.capabilityId (request.provider.getD ""))
  router.matchProvider request tool.capabilityId
  let adapter ← (router.providerRegistry.resolveEnabled target.providerId).mapError
    (lookupRefused tool.capabilityId target.providerId)
  return ⟨tool, target, adapter⟩

/-- The correlation id of a request, or one after its tool. -/
def correlationOf : String := givenOr request.correlationId ("mcp:" ++ request.toolName)

/-- The event `_audit_validation_error` emits, about a known safe capability. -/
def validationEvent (capability : Capability) (reason : String) : SurfaceEvent :=
  { eventType := .resultReturned
    correlationId := correlationOf request
    sessionId := request.sessionId
    targetId := request.target
    actor := request.requester
    capability := CapabilityRef.fromCapability capability
    policyDecision := .deny
    request := strEntries
      [("tool_name", .str request.toolName), ("params", .dict request.params)]
    result := strEntries [("status", .str "denied"), ("reason", .str reason)]
    materialRisks := [] }

/-- `_audit_validation_error`. -/
def auditValidationError (reason : String) : Surface Unit :=
  match router.capabilityRegistry.get "runtime.noop" with
  | none => Prog.throw (.keyError "runtime.noop")
  | some capability => router.environment.emit (validationEvent request capability reason)

/-- `_credential_id_from_request`: the first text that is not empty. -/
def credentialIdFromRequest : Option String :=
  let present : Option PyValue → Option String
    | some (.str value) => if value = "" then none else some value
    | _ => none
  (present (paramGet request.approvalContext "credential_id")).or
    (present (paramGet request.params "credential_id"))

/-- The capability request of a routed request. -/
def capabilityRequest (tool : MCPToolDefinition) : CapabilityRequest :=
  { capabilityId := tool.capabilityId
    targetId := request.target
    sessionId := request.sessionId
    correlationId := correlationOf request
    requester := request.requester
    intendedEffect := "MCP tool " ++ request.toolName ++ ": " ++ tool.description
    parameters := request.params
    credentialId := credentialIdFromRequest request
    approvalRequestId := none
    signedApprovalGrant := none }

/-- The control plane of one request, after what the runtime has done so far. -/
def controlPlane (adapter : ProviderAdapter) (selection : AuthChannelSelection)
    (history : List RuntimeEffect) : ControlPlane :=
  let until_ (inner : List Effect) := history ++ inner.map (.handled adapter)
  { policy := router.policy
    provider :=
      { providerId := adapter.providerId
        providerKind := adapter.providerKind
        isRealHardware := adapter.isRealHardware
        executeAuthorized := fun inner request =>
          router.environment.execute (until_ inner) adapter request }
    auditSink := fun inner event => router.environment.auditSink (until_ inner) (.plane event)
    registry := router.capabilityRegistry
    nowFactory := fun inner => router.environment.now (until_ inner)
    freshId := fun inner => router.environment.freshId (until_ inner)
    approvalGrantVerifier := none
    clearanceClient := router.clearanceClient.map fun client =>
      ⟨fun inner => client (until_ inner)⟩
    clearanceVerifier := router.clearanceVerifier
    clearanceTimeoutSeconds := router.clearanceTimeoutSeconds
    authChannelSelection := selection
    actParityFingerprint := router.actParityFingerprint }

/-- `ControlPlane.handle` of a control plane built for one request. It shares the approval store, and
has consumed nothing yet. -/
def handlePlane (adapter : ProviderAdapter) (selection : AuthChannelSelection)
    (capabilityRequest : CapabilityRequest) : Surface ControlPlaneResult :=
  Prog.within (RuntimeEffect.handled adapter) (fun store => ⟨store, []⟩)
    (fun _ plane => plane.approvalStore)
    fun history => (router.controlPlane adapter selection history).handle lib.toStdlib
      capabilityRequest

/-- The result of a routed request: `ValueError` and `RuntimeError` become results. -/
def answer (route : ToolRoute) :
    Except PyExc ControlPlaneResult → Except PyExc MCPToolResult
  | .ok result => mcpResultFromControlPlane lib request
      route.tool.capabilityId route.target.providerId result
  | .error (.valueError message) | .error (.runtimeError message) =>
      .ok (plainResult request route.tool.capabilityId route.target.providerId .policyError message
        [])
  | .error e => .error e

/-- What `handle_tool_request` does with a routed request. -/
def execute (route : ToolRoute) : Surface MCPToolResult := do
  let selection ← Prog.ofExcept
    (resolveAuthChannel lib.toStdlib router.authChannel defaultAuthChannel)
  let handled ← Prog.attempt (router.handlePlane lib route.adapter selection
    (capabilityRequest request route.tool))
  Prog.ofExcept (answer lib request route handled)

/-- What `handle_tool_request` does with a refused request. -/
def refuse (refusal : Refusal) : Surface MCPToolResult := do
  router.auditValidationError request refusal.audited
  return refusal.result request

/-- `MCPRouter.handle_tool_request`. -/
def handleToolRequest : Surface MCPToolResult :=
  match router.route request with
  | .error refusal => router.refuse request refusal
  | .ok route => router.execute lib request route

/-! ## Containment -/

/-- Everything the lookups establish about a route. -/
structure Routed (route : ToolRoute) : Prop where
  tool : router.registry.get request.toolName = some route.tool
  capability : (router.capabilityRegistry.get route.tool.capabilityId).isSome = true
  target : router.targetRegistry.Resolves request.target (some router.policy.mode) route.target
  named : ∀ provider ∈ request.provider, provider = route.target.providerId
  adapter : router.providerRegistry.resolveEnabled route.target.providerId = .ok route.adapter

/-- **What the router may execute on**: the adapter of the provider registered under the target's
configured provider id, where tool and capability are known, the target is registered and enabled
and admits the policy's mode, a provider named in the request is the configured one, and that
provider is enabled and executable. -/
structure Contained (adapter : ProviderAdapter) (tool : MCPToolDefinition)
    (capability : Capability) (target : TargetDefinition) (entry : ProviderEntry) : Prop where
  toolKnown : router.registry.get request.toolName = some tool
  capabilityKnown : router.capabilityRegistry.get tool.capabilityId = some capability
  targetRegistered : router.targetRegistry.get request.target = some target
  targetEnabled : target.enabled = true
  modeAdmitted : target.allowsMode router.policy.mode = true
  providerNamed : ∀ provider ∈ request.provider, provider = target.providerId
  providerRegistered : router.providerRegistry.get target.providerId = some entry
  providerEnabled : entry.enabled = true
  providerExecutable : entry.isExecutable = true
  providerAdapter : entry.provider = some adapter

variable {lib router request}

theorem orRefuse_eq_ok {α : Type} {refusal : Refusal} {found : Option α} {a : α} :
    orRefuse refusal found = .ok a ↔ found = some a := by
  cases found <;> simp [orRefuse]

theorem mapError_eq_ok {α : Type} {f : PyExc → Refusal} {r : Except PyExc α} {a : α} :
    r.mapError f = .ok a ↔ r = .ok a := by
  cases r <;> simp [Except.mapError]

/-- A named provider passes where it is the one the target is configured for. -/
theorem matchProvider_eq_ok {capabilityId : String} {target : TargetDefinition}
    (registered : router.targetRegistry.get request.target = some target) :
    router.matchProvider request capabilityId = .ok () ↔
      ∀ provider ∈ request.provider, provider = target.providerId := by
  unfold matchProvider
  cases named : request.provider with
  | none => simp
  | some provider =>
      rw [mapError_eq_ok]
      constructor
      · intro matched other member
        cases member
        cases checked : router.targetRegistry.validateProviderMatch request.target provider with
        | error e =>
            rw [checked] at matched
            cases matched
        | ok found =>
            obtain ⟨known, same⟩ := TargetRegistry.validateProviderMatch_eq_ok.mp checked
            rw [registered] at known
            cases known
            exact same.symm
      · intro same
        rw [TargetRegistry.validateProviderMatch_eq_ok.mpr
          ⟨registered, (same provider rfl).symm⟩]
        rfl

/-- **The lookups succeed** exactly where all of their conditions hold. -/
theorem route_eq_ok {route : ToolRoute} :
    router.route request = .ok route ↔ router.Routed request route := by
  simp only [MCPRouter.route, except_bind_eq_ok, orRefuse_eq_ok, mapError_eq_ok,
    TargetRegistry.resolveEnabled_eq_ok]
  constructor
  · rintro ⟨tool, toolKnown, capability, known, target, resolves, _, matched, adapter, found, same⟩
    cases same
    exact ⟨toolKnown, by simp [known], resolves,
      (matchProvider_eq_ok resolves.registered).mp matched, found⟩
  · intro routed
    obtain ⟨capability, known⟩ := Option.isSome_iff_exists.mp routed.capability
    exact ⟨route.tool, routed.tool, capability, known, route.target, routed.target, (),
      (matchProvider_eq_ok routed.target.registered).mpr routed.named, route.adapter,
      routed.adapter, rfl⟩

/-- A route leads to an adapter that may be executed on. -/
theorem Routed.contained {route : ToolRoute} (routed : router.Routed request route) :
    ∃ capability entry,
      router.Contained request route.adapter route.tool capability route.target entry := by
  obtain ⟨capability, known⟩ := Option.isSome_iff_exists.mp routed.capability
  obtain ⟨entry, registered, enabled, executable, provider⟩ :=
    ProviderRegistry.resolveEnabled_eq_ok.mp routed.adapter
  exact ⟨capability, entry, routed.tool, known, routed.target.registered, routed.target.enabled,
    routed.target.admits _ rfl, routed.named, registered, enabled, executable, provider⟩

/-- A routed request executes on the adapter of its route, and on no other. -/
theorem executedOn_execute {route : ToolRoute} {history : List RuntimeEffect}
    {store : Option ApprovalStore} {effect : RuntimeEffect} {adapter : ProviderAdapter}
    (member : effect ∈ (router.execute lib request route history store).effects)
    (executed : effect.executedOn = some adapter) : adapter = route.adapter := by
  have does : Prog.Does (router.execute lib request route)
      (fun effect => effect.executedOn = some adapter) history store :=
    ⟨effect, member, executed⟩
  rw [MCPRouter.execute, Prog.does_ofExcept_bind] at does
  obtain ⟨selection, -, does⟩ := does
  rw [Prog.does_attempt_ofExcept, handlePlane, Prog.does_within] at does
  obtain ⟨inner, -, named⟩ := does
  cases inner <;> cases named
  rfl

/-- A refused request is one validation event: where the sink records it the refusal is returned,
and where the sink raises the request raises. -/
theorem refuse_run {capability : Capability} (refusal : Refusal) (history : List RuntimeEffect)
    (store : Option ApprovalStore)
    (noop : router.capabilityRegistry.get "runtime.noop" = some capability) :
    let event := validationEvent request capability refusal.audited
    let run := router.refuse request refusal history store
    (∀ effect ∈ run.effects, effect.executedOn = none) ∧
      ((run.effects = [.emitted event] ∧ run.result = .ok (refusal.result request)) ∨
        ∃ e, run.effects = [.emitRaised event e] ∧ run.result = .error e) := by
  intro event run
  have emitted : router.auditValidationError request refusal.audited
      = router.environment.emit event := by
    unfold auditValidationError
    rw [noop]
  have single {effect : RuntimeEffect} (effects : run.effects = [effect])
      (idle : effect.executedOn = none) : ∀ effect ∈ run.effects, effect.executedOn = none := by
    intro other member
    rw [effects, List.mem_singleton] at member
    rw [member, idle]
  cases answer : router.environment.auditSink history (.surface event) with
  | none =>
      have emit : router.environment.emit event history store
          = ⟨.ok (), store, [.emitted event]⟩ := by
        simp only [RuntimeEnvironment.emit, Prog.perform_run, answer]
      have ran : run = ⟨.ok (refusal.result request), store, [.emitted event]⟩ := by
        simp only [run, MCPRouter.refuse, emitted, Prog.bind_run_ok emit]
        rfl
      exact ⟨single (by rw [ran]) rfl, Or.inl ⟨by rw [ran], by rw [ran]⟩⟩
  | some e =>
      have emit : router.environment.emit event history store
          = ⟨.error e, store, [.emitRaised event e]⟩ := by
        simp only [RuntimeEnvironment.emit, Prog.perform_run, answer]
      have ran : run = ⟨.error e, store, [.emitRaised event e]⟩ := by
        simp only [run, MCPRouter.refuse, emitted, Prog.bind_run_error emit]
      exact ⟨single (by rw [ran]) rfl, Or.inr ⟨e, by rw [ran], by rw [ran]⟩⟩

/-- A lookup that finds nothing refuses as it was told to. -/
theorem orRefuse_eq_error {α : Type} {given refusal : Refusal} {found : Option α}
    (refused : orRefuse given found = .error refusal) : refusal = given := by
  cases found with
  | none => exact (Except.error.inj refused).symm
  | some a => cases refused

/-- A lookup that raises is a validation error. -/
theorem mapError_lookupRefused {α : Type} {capabilityId provider : String} {refusal : Refusal}
    {r : Except PyExc α}
    (refused : r.mapError (lookupRefused capabilityId provider) = .error refusal) :
    refusal.status = .validationError := by
  cases r with
  | error e => rw [← Except.error.inj refused, lookupRefused]
  | ok a => cases refused

/-- A refusal of the lookups has one of the two error statuses. -/
theorem status_of_route_error {refusal : Refusal} (refused : router.route request = .error refusal) :
    refusal.status = .validationError ∨ refusal.status = .policyError := by
  simp only [MCPRouter.route, except_bind_eq_error] at refused
  rcases refused with noTool | ⟨tool, -, noCapability | ⟨_, -, noTarget | ⟨target, -, later⟩⟩⟩
  · exact Or.inl (by rw [orRefuse_eq_error noTool])
  · exact Or.inr (by rw [orRefuse_eq_error noCapability])
  · exact Or.inl (mapError_lookupRefused noTarget)
  · rcases later with mismatch | ⟨_, -, noProvider | ⟨adapter, -, returned⟩⟩
    · unfold matchProvider at mismatch
      cases named : request.provider with
      | none =>
          rw [named] at mismatch
          cases mismatch
      | some provider =>
          rw [named] at mismatch
          exact Or.inl (mapError_lookupRefused mismatch)
    · exact Or.inl (mapError_lookupRefused noProvider)
    · cases returned

end MCPRouter

open MCPRouter in
/-- **Router containment**: whatever a request executes, it executes on the adapter of the provider
its target is configured for, past every lookup. Where one of their conditions fails nothing is
executed, and the run is exactly one validation event, after which the refusal is returned. -/
theorem router_contained (lib : AuditLibrary) (router : MCPRouter)
    (default : router.capabilityRegistry = defaultCapabilityRegistry) (request : MCPToolRequest)
    (history : List RuntimeEffect) (store : Option ApprovalStore) :
    let run := router.handleToolRequest lib request history store
    (∀ effect ∈ run.effects, ∀ adapter, effect.executedOn = some adapter →
      ∃ tool capability target entry,
        router.Contained request adapter tool capability target entry) ∧
    ((¬ ∃ adapter tool capability target entry,
        router.Contained request adapter tool capability target entry) →
      (∀ effect ∈ run.effects, effect.executedOn = none) ∧
      ∃ capability reason, defaultCapabilityRegistry.get "runtime.noop" = some capability ∧
        ((run.effects = [.emitted (validationEvent request capability reason)] ∧
          ∃ result, run.result = .ok result ∧
            (result.status = .validationError ∨ result.status = .policyError)) ∨
        ∃ e, run.effects = [.emitRaised (validationEvent request capability reason) e] ∧
          run.result = .error e)) := by
  intro run
  obtain ⟨noop, known⟩ : ∃ noop, defaultCapabilityRegistry.get "runtime.noop" = some noop :=
    Option.isSome_iff_exists.mp (by decide +kernel)
  cases routed : router.route request with
  | ok route =>
      obtain ⟨capability, entry, contained⟩ := (route_eq_ok.mp routed).contained
      have same : run = router.execute lib request route history store := by
        simp only [run, handleToolRequest, routed]
      refine ⟨fun effect member adapter executed => ?_, fun outside => ?_⟩
      · rw [same] at member
        rw [executedOn_execute member executed]
        exact ⟨route.tool, capability, route.target, entry, contained⟩
      · exact absurd ⟨route.adapter, route.tool, capability, route.target, entry, contained⟩ outside
  | error refusal =>
      have same : run = router.refuse request refusal history store := by
        simp only [run, handleToolRequest, routed]
      have noopKnown : router.capabilityRegistry.get "runtime.noop" = some noop := by
        rw [default, known]
      obtain ⟨idle, ended⟩ := refuse_run refusal history store noopKnown
      rw [← same] at idle ended
      refine ⟨fun effect member adapter executed => ?_, fun _ =>
        ⟨idle, noop, refusal.audited, known, ?_⟩⟩
      · rw [idle effect member] at executed
        cases executed
      · rcases ended with ⟨effects, returned⟩ | raised
        · exact Or.inl ⟨effects, refusal.result request, returned, status_of_route_error routed⟩
        · exact Or.inr raised

namespace Deployment

/-! ## The built-in runtime -/

/-- The mock provider. -/
def mockAdapter : ProviderAdapter := ⟨1, "mock", "mock", true, false, "unknown"⟩

/-- Its entry. -/
def mockEntry : ProviderEntry where
  providerId := "mock"
  providerType := "mock"
  enabled := true
  provider := some mockAdapter
  metadata := []
  valid :=
    { id := by decide +kernel
      known := by decide
      present := fun _ => rfl
      executable := fun _ => Or.inl (by decide)
      adapterId := fun adapter member => by
        cases member
        rfl
      adapterKind := fun adapter member => by
        cases member
        rfl }

/-- The registry of the mock provider. -/
def mockProviders : ProviderRegistry := ⟨[mockEntry], List.nodup_singleton _⟩

/-- A target of the mock provider. -/
def mockTarget (targetId : String) (idForm : isRegistryId targetId = true) : TargetDefinition where
  targetId := targetId
  providerId := "mock"
  enabled := true
  labels := ["mock", "safe"]
  allowedModes := [.observe, .assisted, .supervised, .fullControl]
  metadata := strEntries [("description", .str "safe mock target")]
  idForm := idForm
  served := by decide

/-- The registry of one such target. -/
def mockTargets (targetId : String) (idForm : isRegistryId targetId = true) : TargetRegistry where
  providerRegistry := mockProviders
  targets := [mockTarget targetId idForm]
  distinct := List.nodup_singleton _
  served := fun target member => by
    rw [List.mem_singleton.mp member]
    rfl

/-- An environment in which every event is recorded and the provider succeeds. -/
def calmEnvironment : RuntimeEnvironment where
  auditSink _ _ := none
  now _ := clockAt 0
  freshId history := if history.length < 8 then "0f8fad5bd9cb469fa16570867728950e"
    else "7c9e6679f7194e0d8e1a2c1b4d5f6a7b"
  execute _ adapter request := .ok
    { ok := true, providerId := adapter.providerId, capability := request.capability
      action := request.action, targetId := request.targetId, performedOnHardware := false
      message := "mock result" }

/-- A router over the mock provider and one target. -/
def mockRouter (targetId : String) (idForm : isRegistryId targetId = true) : MCPRouter where
  providerRegistry := mockProviders
  targetRegistry := mockTargets targetId idForm
  policy := modePreset .supervised none
  environment := calmEnvironment
  clearanceClient := none
  clearanceVerifier := none
  clearanceTimeoutSeconds := 20
  authChannel := .channel defaultAuthChannel
  actParityFingerprint := false
  registry := defaultMcpToolRegistry
  capabilityRegistry := defaultCapabilityRegistry

/-- A request for the status of a target. -/
def statusRequest : MCPToolRequest where
  toolName := "get_status"
  target := "mock-host"
  sessionId := "session-1"
  requesterId := "agent-1"
  params := []
  provider := some "mock"
  approvalContext := []
  correlationId := none
  named := by decide
  targeted := by decide
  inSession := session_named
  requested := agent_named

end Deployment

/-- The status of the mock host is read from the mock provider, past every lookup. -/
theorem router_contained_statusRequest :
    ∃ tool capability target entry, (Deployment.mockRouter "mock-host" (by decide +kernel)).Contained
      Deployment.statusRequest Deployment.mockAdapter tool capability target entry := by
  have contained := (router_contained Deployment.isoLibrary
    (Deployment.mockRouter "mock-host" (by decide +kernel)) rfl Deployment.statusRequest [] none).1
  refine contained _ (List.mem_of_getElem? (i := 4) rfl) Deployment.mockAdapter rfl

end AgenticKVM
