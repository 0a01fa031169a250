import AgenticKVM.AuditExport
import AgenticKVM.ConfigLoader

/-! # The MCP host

The host compatibility layer over a runtime (`mcp_sdk/models.py`, `mcp_sdk/adapter.py`,
`mcp_sdk/host_models.py`, `mcp_sdk/approval_models.py`, `mcp_sdk/host.py`): tool calls go through the
adapter's router, a call that waits for an operator is kept as pending, an operator's response puts a
grant into the approval store, and a resumption calls the tool again. What a host decides is kept in
two places: the state of a request, which resumption reads, and the approval store, which the control
plane reads. -/

namespace AgenticKVM

open Lib (Json Prog)

section Texts

/-- `_redact_text` of the host models. -/
def redactHostText (std : Stdlib) (value : String) : String :=
  if ["password", "secret", "token", "api_key", "private_key", "credential", "bearer",
      "session_cookie", "cookie"].any (containsText (std.lower value)) then redactedMark
  else value

/-- `value if isinstance(value, str) else default`. -/
def textOr (default : String) : Json → String
  | .str s => s
  | _ => default

/-- `value if isinstance(value, str) else None`. -/
def textOrNone : Json → Option String
  | .str s => some s
  | _ => none

end Texts

/-! ## Calls -/

section Calls

variable (std : Stdlib)

/-- `_required_str` of a surface. -/
def surfaceText (surface : String) (values : Params) (key : String) : Except PyExc String :=
  match paramGet values key with
  | some (.str s) =>
      if s = "" then .error (.valueError (surface ++ " " ++ key ++ " is required")) else .ok s
  | _ => .error (.valueError (surface ++ " " ++ key ++ " is required"))

/-- `_optional_str` of a surface. -/
def surfaceOptional (surface : String) : PyValue → Except PyExc (Option String)
  | .none => .ok none
  | .str s => .ok (some s)
  | _ => .error (.valueError (surface ++ " optional string fields must be strings"))

/-- `_mapping` of a surface. -/
def surfaceMapping (surface : String) (values : Params) (key : String) : Except PyExc Params :=
  mappingOr (.valueError (surface ++ " " ++ key ++ " must be an object"))
    (getOr values key (.dict []))

/-- `from_mapping` of a surface, with its defaults for the session and the requester. -/
def MCPToolRequest.fromMapping (surface toolNoun session requester : String) (values : Params) :
    Except PyExc MCPToolRequest := do
  let toolName ← surfaceText surface values "tool_name"
  let target ← surfaceText surface values "target"
  let params ← surfaceMapping surface values "params"
  let provider ← surfaceOptional surface (getOr values "provider" .none)
  let _ ← surfaceOptional surface (getOr values "requested_mode" .none)
  let _ ← surfaceOptional surface (getOr values "policy_ref" .none)
  let approvalContext ← surfaceMapping surface values "approval_context"
  let correlationId ← surfaceOptional surface (getOr values "correlation_id" .none)
  MCPToolRequest.checked surface toolNoun toolName target
    (pyStr std (getOr values "session_id" (.str session)))
    (pyStr std (getOr values "requester_id" (.str requester))) params provider approvalContext
    correlationId

/-- `MCPSDKToolCall`: a call at the adapter, with the fields and checks of a request. -/
abbrev MCPSDKToolCall := MCPToolRequest

/-- `MCPSDKToolCall.from_mapping`. -/
def MCPSDKToolCall.fromMapping (values : Params) : Except PyExc MCPSDKToolCall :=
  MCPToolRequest.fromMapping std "MCP SDK" "tool_name" "sdk-session" "mcp-sdk" values

/-- `HostToolCall`: a call at the host, with the fields and checks of a request. -/
abbrev HostToolCall := MCPToolRequest

/-- `HostToolCall.from_mapping`. -/
def HostToolCall.fromMapping (values : Params) : Except PyExc HostToolCall :=
  MCPToolRequest.fromMapping std "host" "tool_name" "host-session" "mcp-host" values

/-- What a surface is called with: a call, or a mapping to be read as one. -/
inductive CallInput
  | call (call : MCPToolRequest)
  | mapping (values : Params)

end Calls

/-! ## Results -/

/-- `HostResultStatus`. -/
inductive HostResultStatus
  | ok
  | denied
  | approvalRequired
  | validationError
  | providerError
  | policyError
deriving DecidableEq

/-- `HostResultStatus.value`. -/
def HostResultStatus.value : HostResultStatus → String
  | ok => "ok"
  | denied => "denied"
  | approvalRequired => "approval_required"
  | validationError => "validation_error"
  | providerError => "provider_error"
  | policyError => "policy_error"

/-- `_status_from_value`: what names no status is an error. -/
def HostResultStatus.ofJson : Json → HostResultStatus
  | .str "ok" => ok
  | .str "denied" => denied
  | .str "approval_required" => approvalRequired
  | .str "provider_error" => providerError
  | .str "policy_error" => policyError
  | _ => validationError

/-- `HostToolResult`: a result as the host returns it. -/
structure HostToolResult where
  status : HostResultStatus
  toolName : String
  capability : Option String
  target : String
  provider : String
  reason : String
  data : Params
  approvalRequestId : Option String
  risks : List String
  redactions : List String

section HostResults

variable (lib : AuditLibrary)

/-- `HostToolResult.__post_init__`: the data are redacted once more. -/
def HostToolResult.init (result : HostToolResult) : HostToolResult :=
  let (safeData, redactions) := redactMapping lib result.data none
  { result with
    reason := redactHostText lib.toStdlib result.reason
    data := safeData
    redactions := result.redactions ++ pathsBelow "data" redactions }

/-- `HostToolResult.from_adapter_result`. -/
def HostToolResult.fromAdapterResult (payload : Record) : Except PyExc HostToolResult := do
  let data ← queueMapping payload "data" "host data"
  let risks ← queueTexts lib.toStdlib payload "risks"
  let redactions ← queueTexts lib.toStdlib payload "redactions"
  return HostToolResult.init lib
    { status := HostResultStatus.ofJson (payload.get "status")
      toolName := textOr "" (payload.get "tool_name")
      capability := textOrNone (payload.get "capability")
      target := textOr "" (payload.get "target")
      provider := textOr "" (payload.get "provider")
      reason := textOr "" (payload.get "reason")
      data := PyValue.ofEntries data
      approvalRequestId := textOrNone (payload.get "approval_request_id")
      risks, redactions }

/-- `HostToolResult.to_dict`. -/
def HostToolResult.toDict (result : HostToolResult) : Except PyExc Record :=
  jsonSafeEntriesOf lib
    ([("status", .str result.status.value), ("tool_name", .str result.toolName),
      ("capability", optionalStr result.capability), ("target", .str result.target),
      ("provider", .str result.provider), ("reason", .str result.reason),
      ("data", .dict result.data), ("risks", strList result.risks),
      ("redactions", strList (sortedSet result.redactions))]
    ++ (result.approvalRequestId.toList.map fun id => ("approval_request_id", .str id)))

/-- `HostError(...).to_dict()` of a validation error without details. -/
def hostError (reason : String) (toolName : Option String) : Except PyExc Record :=
  jsonSafeEntriesOf lib
    ([("status", .str HostResultStatus.validationError.value),
      ("reason", .str (redactHostText lib.toStdlib reason)), ("details", .dict []),
      ("redactions", strList [])]
    ++ (toolName.toList.map fun name => ("tool_name", .str name)))

end HostResults

/-! ## Approvals -/

/-- `HostApprovalDecision`. -/
inductive HostApprovalDecision
  | granted
  | denied
  | expired
deriving DecidableEq

/-- `HostApprovalDecision.value`. -/
def HostApprovalDecision.value : HostApprovalDecision → String
  | granted => "granted"
  | denied => "denied"
  | expired => "expired"

/-- `HostApprovalDecision(text)`. -/
def HostApprovalDecision.ofValue : String → Except PyExc HostApprovalDecision
  | "granted" => .ok granted
  | "denied" => .ok denied
  | "expired" => .ok expired
  | text => .error (.valueError ("'" ++ text ++ "' is not a valid HostApprovalDecision"))

/-- `HostApprovalResultStatus`. -/
inductive HostApprovalResultStatus
  | granted
  | denied
  | expired
  | validationError
deriving DecidableEq

/-- `HostApprovalResultStatus.value`. -/
def HostApprovalResultStatus.value : HostApprovalResultStatus → String
  | granted => "approval_granted"
  | denied => "approval_denied"
  | expired => "approval_expired"
  | validationError => "validation_error"

/-- `HostApprovalRequest`: what the host shows of an approval request. -/
structure HostApprovalRequest where
  id : String
  sessionId : String
  target : String
  provider : String
  capability : String
  paramsFingerprint : String
  expiresAt : Datetime
  policyDecision : String
  operatorMessage : String
  materialRisks : List String
  paramsPreview : Params
  correlationId : Option String
  redactions : List String

/-- `HostApprovalResponse`: an operator's response. Where it names the action it is about, the host
compares it. -/
structure HostApprovalResponse where
  requestId : String
  decision : HostApprovalDecision
  operatorId : String
  scope : ApprovalGrantScope
  reason : String
  decidedAt : Datetime
  sessionId : Option String
  target : Option String
  provider : Option String
  capability : Option String
  paramsFingerprint : Option String
  identified : requestId ≠ ""
  decided : operatorId ≠ ""

section Approvals

variable (lib : AuditLibrary)

/-- `HostApprovalRequest.__post_init__`: the bound texts are there, and the preview is redacted once
more. -/
def HostApprovalRequest.init (request : HostApprovalRequest) : Except PyExc HostApprovalRequest := do
  let required (noun value : String) : Except PyExc Unit :=
    raiseIf (value = "") (.valueError ("approval request " ++ noun ++ " is required"))
  required "id" request.id
  required "session_id" request.sessionId
  required "target" request.target
  required "provider" request.provider
  required "capability" request.capability
  required "params_fingerprint" request.paramsFingerprint
  let (safePreview, redactions) := redactMapping lib request.paramsPreview none
  return { request with
    paramsPreview := safePreview
    redactions := request.redactions ++ pathsBelow "params_preview" redactions }

/-- The first of the targets of a target scope, as a text. -/
def firstScopeTarget (targetScope : Record) : Except PyExc String :=
  match targetScope.get "targets" with
  | .list (target :: _) => .ok (jsonStr lib.toStdlib target)
  | _ => .error (.valueError "approval request target scope is missing")

/-- The fingerprint of a result, or one of the parameters where it has none. -/
def fingerprintOr (params : Params) (given : Json) : Except PyExc String := do
  let given ← optionalQueueText given
  if given.getD "" = "" then actionFingerprint lib.toStdlib params
  else return given.getD ""

/-- `HostApprovalRequest.from_host_result`. `now` stands for an expiry that is missing. -/
def HostApprovalRequest.fromHostResult (result : Record) (params : Params)
    (correlationId : Option String) (now : Datetime) : Except PyExc HostApprovalRequest := do
  raiseIf (isLink (result.get "status") (some "approval_required") = false)
    (.valueError "host result does not require approval")
  let data ← queueMapping result "data" "approval result data"
  let approval ← queueMapping data "approval_request" "approval_request"
  let targetScope ← queueMapping approval "target_scope" "target_scope"
  let target ← firstScopeTarget lib targetScope
  let capability ← queueMapping approval "capability" "capability"
  let id ← queueText approval "id"
  let sessionId ← queueText approval "session_id"
  let provider ← queueText approval "provider_id"
  let capabilityId ← queueText capability "id"
  let paramsFingerprint ← fingerprintOr lib params (data.get "params_fingerprint")
  let expiresAt ← queueDatetime lib.toStdlib (approval.get "expires_at")
  let policyDecision ← queueText approval "policy_decision"
  let operatorMessage ← queueText approval "operator_message"
  let materialRisks ← queueTexts lib.toStdlib approval "material_risks"
  let preview ← queueMapping data "params_preview" "params_preview"
  let redactions ← queueTexts lib.toStdlib result "redactions"
  HostApprovalRequest.init lib
    { id, sessionId, target, provider, capability := capabilityId, paramsFingerprint
      expiresAt := expiresAt.getD now, policyDecision, operatorMessage, materialRisks
      paramsPreview := PyValue.ofEntries preview, correlationId, redactions }

/-- `HostApprovalRequest.to_dict`. -/
def HostApprovalRequest.toDict (request : HostApprovalRequest) : Except PyExc Record :=
  jsonSafeEntriesOf lib
    [("id", .str request.id), ("session_id", .str request.sessionId),
      ("target", .str request.target), ("provider", .str request.provider),
      ("capability", .str request.capability),
      ("params_fingerprint", .str request.paramsFingerprint),
      ("expires_at", .str (lib.isoformat request.expiresAt)),
      ("policy_decision", .str request.policyDecision),
      ("operator_message", .str (redactHostText lib.toStdlib request.operatorMessage)),
      ("material_risks", strList request.materialRisks),
      ("params_preview", .dict request.paramsPreview),
      ("scope_options", strList ["one_time", "session"]),
      ("correlation_id", optionalStr request.correlationId),
      ("redactions", strList (sortedSet request.redactions))]

/-- `HostApprovalResponse.__post_init__`. -/
def HostApprovalResponse.init (requestId : String) (decision : HostApprovalDecision)
    (operatorId : String) (scope : ApprovalGrantScope) (reason : Option String)
    (decidedAt : Datetime) (sessionId target provider capability paramsFingerprint : Option String) :
    Except PyExc HostApprovalResponse :=
  if identified : requestId ≠ "" then
    if decided : operatorId ≠ "" then
      .ok ⟨requestId, decision, operatorId, scope,
        redactHostText lib.toStdlib (reason.getD ""), decidedAt, sessionId, target, provider,
        capability, paramsFingerprint, identified, decided⟩
    else .error (.valueError "approval response operator_id is required")
  else .error (.valueError "approval response request_id is required")

/-- `_datetime_from_value` of a value given to the host. -/
def decidedAtOf (now : Datetime) : PyValue → Except PyExc Datetime
  | .none => .ok now
  | .str s => do return (← queueDatetime lib.toStdlib (.str s)).getD now
  | _ => .error (.valueError "approval datetime fields must be ISO datetime strings")

/-- `HostApprovalResponse.from_mapping`. `now` stands for a decision time that is missing. -/
def HostApprovalResponse.fromMapping (values : Params) (now : Datetime) :
    Except PyExc HostApprovalResponse := do
  let optional (key : String) : Except PyExc (Option String) :=
    surfaceOptional "approval" (getOr values key .none)
  let requestId ← surfaceText "approval" values "request_id"
  let decision ← HostApprovalDecision.ofValue (← surfaceText "approval" values "decision")
  let operatorId ← surfaceText "approval" values "operator_id"
  let scope ← ApprovalGrantScope.ofValue
    (pyStr lib.toStdlib (getOr values "scope" (.str ApprovalGrantScope.oneTime.value)))
  let reason ← optional "reason"
  let decidedAt ← decidedAtOf lib now (getOr values "decided_at" .none)
  let sessionId ← optional "session_id"
  let target ← optional "target"
  let provider ← optional "provider"
  let capability ← optional "capability"
  let paramsFingerprint ← optional "params_fingerprint"
  HostApprovalResponse.init lib requestId decision operatorId scope reason decidedAt sessionId
    target provider capability paramsFingerprint

/-- `HostApprovalResponse.to_dict`. -/
def HostApprovalResponse.toDict (response : HostApprovalResponse) : Except PyExc Record :=
  jsonSafeEntriesOf lib
    [("request_id", .str response.requestId), ("decision", .str response.decision.value),
      ("operator_id", .str response.operatorId), ("scope", .str response.scope.value),
      ("reason", .str response.reason), ("decided_at", .str (lib.isoformat response.decidedAt)),
      ("session_id", optionalStr response.sessionId), ("target", optionalStr response.target),
      ("provider", optionalStr response.provider),
      ("capability", optionalStr response.capability),
      ("params_fingerprint", optionalStr response.paramsFingerprint)]

/-- `ApprovalGrant.to_dict`. -/
def ApprovalGrant.toDict (grant : ApprovalGrant) : List (String × PyValue) :=
  [("request_id", .str grant.requestId), ("response_id", .str grant.responseId),
    ("capability_id", .str grant.capabilityId), ("session_id", .str grant.sessionId),
    ("target_id", .str grant.targetId), ("provider_id", .str grant.providerId),
    ("params_fingerprint", .str grant.paramsFingerprint),
    ("expires_at", .str (lib.isoformat grant.expiresAt)), ("scope", .str grant.scope.value),
    ("operator", grant.operator.toDict)]

/-- `HostApprovalResult(...).to_dict()`. -/
def hostApprovalResult (status : HostApprovalResultStatus) (requestId reason : String)
    (approval : Option HostApprovalRequest) (response : Option HostApprovalResponse)
    (grant : Option ApprovalGrant) : Except PyExc Record := do
  let (safeGrant, redactions) :=
    redactMapping lib (strEntries ((grant.map (ApprovalGrant.toDict lib)).getD [])) none
  let approval ← approval.mapM (HostApprovalRequest.toDict lib)
  let response ← response.mapM (HostApprovalResponse.toDict lib)
  jsonSafeEntriesOf lib
    ([("status", .str status.value), ("request_id", .str requestId),
      ("reason", .str (redactHostText lib.toStdlib reason)), ("grant", .dict safeGrant),
      ("redactions", strList (sortedSet (pathsBelow "grant" redactions)))]
    ++ (approval.toList.map fun approval =>
      ("approval_request", PyValue.dict (PyValue.ofEntries approval)))
    ++ (response.toList.map fun response =>
      ("response", PyValue.dict (PyValue.ofEntries response))))

/-- `_approval_mismatch`: the first field in which a response names another action. -/
def approvalMismatch (approval : HostApprovalRequest) (response : HostApprovalResponse) :
    Option String :=
  ([("session_id", response.sessionId, approval.sessionId),
      ("target", response.target, approval.target),
      ("provider", response.provider, approval.provider),
      ("capability", response.capability, approval.capability),
      ("params_fingerprint", response.paramsFingerprint, approval.paramsFingerprint)].find?
    fun check => check.2.1.any (· ≠ check.2.2)).map
      fun check => "approval " ++ check.1 ++ " mismatch"

end Approvals

/-! ## The host -/

/-- `_PendingApproval`: a call that waits for an operator. -/
structure PendingApproval where
  call : HostToolCall
  approval : HostApprovalRequest

/-- What a host changes: the runtime's approval store, the pending approvals and the states of
approval requests, both by request id. -/
structure HostState where
  store : ApprovalStore
  pending : List (String × PendingApproval)
  states : List (String × HostApprovalResultStatus)

/-- A host before any call. -/
def HostState.fresh (store : ApprovalStore) : HostState := ⟨store, [], []⟩

/-- A program of the host. -/
abbrev Host (α : Type) : Type := Prog RuntimeEffect HostState PyExc α

/-- A surface's program on the store of the host's runtime. -/
def onStore {α : Type} (program : Surface α) : Host α :=
  Prog.zoom (fun s => some s.store) (fun s store => { s with store := store.getD s.store }) program

namespace ConfigRuntime

variable (lib : AuditLibrary) (runtime : ConfigRuntime)

/-- The router of `MCPSDKAdapter`. Its channel, client and verifier are the router's defaults. -/
def adapterRouter : MCPRouter where
  providerRegistry := runtime.providerRegistry
  targetRegistry := runtime.targetRegistry
  policy := runtime.policy
  environment := runtime.environment
  clearanceClient := none
  clearanceVerifier := none
  clearanceTimeoutSeconds := 20
  authChannel := .channel defaultAuthChannel
  actParityFingerprint := false
  registry := defaultMcpToolRegistry
  capabilityRegistry := defaultCapabilityRegistry

/-- What `MCPSDKAdapter.call_tool` does with a call. -/
def adapterCall (call : MCPSDKToolCall) : Surface Record := do
  let request ← Prog.ofExcept (MCPToolRequest.init call.toolName call.target call.sessionId
    call.requesterId call.params call.provider call.approvalContext call.correlationId)
  let result ← runtime.adapterRouter.handleToolRequest lib request
  Prog.ofExcept (do
    match ← jsonSafeValue lib (.dict result.toDict) with
    | .obj entries => return entries
    | _ => .error (.typeError "a mapping is written as an object"))

/-- `MCPSDKAdapter.call_tool`. -/
def adapterCallTool : CallInput → Surface Record
  | .call call => runtime.adapterCall lib call
  | .mapping values => do
      let call ← Prog.ofExcept (MCPSDKToolCall.fromMapping lib.toStdlib values)
      runtime.adapterCall lib call

/-- Keeps a result that waits for an operator as pending, and shows its approval request. -/
def keepPending (call : HostToolCall) (payload : Record) : Host Record := do
  let now ← Prog.ask runtime.environment.now
  let approval ← Prog.ofExcept (HostApprovalRequest.fromHostResult lib payload call.params
    call.correlationId now)
  Prog.modify fun s => { s with pending := dictSet s.pending approval.id ⟨call, approval⟩ }
  let shown ← Prog.ofExcept (approval.toDict lib)
  return dictSet payload "approval_request" (.obj shown)

/-- `HostToolResult.from_adapter_result(result).to_dict()`. -/
def hostPayload (adapterResult : Record) : Except PyExc Record := do
  let result ← HostToolResult.fromAdapterResult lib adapterResult
  result.toDict lib

/-- What `call_tool` does with the adapter's result. -/
def showResult (call : HostToolCall) (adapterResult : Record) : Host Record := do
  let payload ← Prog.ofExcept (hostPayload lib adapterResult)
  if isLink (payload.get "status") (some HostResultStatus.approvalRequired.value) then
    runtime.keepPending lib call payload
  else return payload

/-- What `call_tool` does with a call, until it raises. -/
def callBody (call : HostToolCall) : Host Record := do
  let adapterResult ← onStore (runtime.adapterCall lib call)
  runtime.showResult lib call adapterResult

/-- The tool name an error of `call_tool` gives. -/
def namedTool : CallInput → Option String
  | .call call => some call.toolName
  | .mapping values =>
      match paramGet values "tool_name" with
      | some (.str name) => some name
      | _ => none

/-- The call of an input. -/
def callOf : CallInput → Except PyExc HostToolCall
  | .call call => .ok call
  | .mapping values => HostToolCall.fromMapping lib.toStdlib values

/-- What an attempt returned, or what is returned for what it raised. -/
def orElse (refused : PyExc → Except PyExc Record) : Except PyExc Record → Except PyExc Record
  | .ok payload => .ok payload
  | .error e => refused e

/-- `MCPHostCompatibilityLayer.call_tool`: whatever is raised is returned as an error. -/
def callTool (input : CallInput) : Host Record := do
  let outcome ← Prog.attempt (do
    let call ← Prog.ofExcept (callOf lib input)
    runtime.callBody lib call)
  Prog.ofExcept (orElse (fun e => hostError lib e.text (namedTool input)) outcome)

/-- `DEFAULT_CAPABILITY_REGISTRY.require`. -/
def requireDefaultCapability (capabilityId : String) : Except PyExc Capability :=
  match defaultCapabilityRegistry.get capabilityId with
  | some capability => .ok capability
  | none => .error (.keyError capabilityId)

/-- The event about a response to a pending request. -/
def hostApprovalEvent (eventType : AuditEventType) (pending : PendingApproval)
    (response : HostApprovalResponse) (status : HostApprovalResultStatus) :
    Except PyExc SurfaceEvent := do
  let approval := pending.approval
  let capability ← requireDefaultCapability approval.capability
  let policyDecision ← PolicyDecision.ofValue approval.policyDecision
  let shown ← approval.toDict lib
  let responded ← response.toDict lib
  return {
    eventType
    correlationId := givenOr pending.call.correlationId ("host-approval:" ++ approval.id)
    sessionId := approval.sessionId
    targetId := approval.target
    actor := ⟨.operator, response.operatorId, response.decided⟩
    capability := CapabilityRef.fromCapability capability
    policyDecision
    request := strEntries [("approval_request", .dict (PyValue.ofEntries shown))]
    result := strEntries [("status", .str status.value),
      ("approval_response", .dict (PyValue.ofEntries responded))]
    materialRisks := approval.materialRisks }

/-- `_emit_approval_event`. -/
def emitApprovalEvent (eventType : AuditEventType) (pending : PendingApproval)
    (response : HostApprovalResponse) (status : HostApprovalResultStatus) : Host Unit := do
  let event ← Prog.ofExcept (hostApprovalEvent lib eventType pending response status)
  onStore (runtime.environment.emit event)

/-- The state of a request is set. -/
def setState (requestId : String) (status : HostApprovalResultStatus) : Host Unit :=
  Prog.modify fun s => { s with states := dictSet s.states requestId status }

/-- The event of a validation error, which is only emitted about a known request. -/
def emitValidationError (pending : Option PendingApproval) (response : HostApprovalResponse) :
    Host Unit :=
  match pending with
  | none => return ()
  | some pending =>
      runtime.emitApprovalEvent lib .approvalDenied pending response .validationError

/-- `_approval_validation_error`. -/
def approvalValidationError (requestId reason : String) (pending : Option PendingApproval)
    (response : HostApprovalResponse) : Host Record := do
  runtime.emitValidationError lib pending response
  setState requestId .validationError
  Prog.ofExcept (hostApprovalResult lib .validationError requestId reason
    (pending.map PendingApproval.approval) (some response) none)

/-- A decision that gives no grant: it is emitted, the state is set, and the result returned. -/
def refuseApproval (eventType : AuditEventType) (status : HostApprovalResultStatus)
    (reason : String) (pending : PendingApproval) (response : HostApprovalResponse) :
    Host Record := do
  runtime.emitApprovalEvent lib eventType pending response status
  setState response.requestId status
  Prog.ofExcept (hostApprovalResult lib status response.requestId reason (some pending.approval)
    (some response) none)

/-- The response id of a host's grant. -/
def hostResponseId (requestId operatorId : String) : String :=
  "host-response-" ++ requestId ++ "-" ++ operatorId

/-- The grant a response gives. -/
def grantOf (approval : HostApprovalRequest) (response : HostApprovalResponse) :
    Except PyExc ApprovalGrant :=
  if resumable : approval.capability ∉ approvalResumptionBlockedCapabilities then
    .ok
      { requestId := approval.id
        responseId := hostResponseId approval.id response.operatorId
        capabilityId := approval.capability
        sessionId := approval.sessionId
        targetId := approval.target
        providerId := approval.provider
        paramsFingerprint := approval.paramsFingerprint
        expiresAt := approval.expiresAt
        scope := response.scope
        operator := ⟨.operator, response.operatorId, response.decided⟩
        resumable
        byOperator := rfl }
  else .error (.valueError ("Capability cannot be approval-resumed: " ++ approval.capability))

/-- A grant: it is emitted, stored, the state is set, and the result returned. -/
def giveApproval (pending : PendingApproval) (response : HostApprovalResponse) : Host Record := do
  let grant ← Prog.ofExcept (grantOf pending.approval response)
  runtime.emitApprovalEvent lib .approvalGranted pending response .granted
  Prog.modify fun s => { s with store := s.store.addActionGrant grant }
  setState response.requestId .granted
  Prog.ofExcept (hostApprovalResult lib .granted response.requestId "approval granted"
    (some pending.approval) (some response) (some grant))

/-- Whether a response comes too late, or says so. -/
def isExpired (approval : HostApprovalRequest) (response : HostApprovalResponse) :
    Except PyExc Bool :=
  if response.decision = .expired then .ok true
  else Datetime.ge response.decidedAt approval.expiresAt

/-- What `submit_approval_response` does with a response to a pending request. -/
def decidePending (pending : PendingApproval) (response : HostApprovalResponse) : Host Record :=
  match approvalMismatch pending.approval response with
  | some mismatch =>
      runtime.approvalValidationError lib response.requestId mismatch (some pending) response
  | none => do
      let expired ← Prog.ofExcept (isExpired pending.approval response)
      if expired then
        runtime.refuseApproval lib .approvalExpired .expired "approval expired" pending response
      else if response.decision = .denied then
        runtime.refuseApproval lib .approvalDenied .denied "approval denied" pending response
      else runtime.giveApproval lib pending response

/-- What `submit_approval_response` is given: a response, or a mapping to be read as one. -/
inductive ResponseInput
  | response (response : HostApprovalResponse)
  | mapping (values : Params)

/-- The response of an input. -/
def responseOf (now : Datetime) : ResponseInput → Except PyExc HostApprovalResponse
  | .response response => .ok response
  | .mapping values => HostApprovalResponse.fromMapping lib values now

/-- The request id an error of `submit_approval_response` gives. -/
def namedRequest : ResponseInput → String
  | .response response => response.requestId
  | .mapping values =>
      match paramGet values "request_id" with
      | some (.str id) => id
      | _ => ""

/-- What `submit_approval_response` does, until it raises. -/
def submitBody (input : ResponseInput) : Host Record := do
  let now ← Prog.ask runtime.environment.now
  let response ← Prog.ofExcept (responseOf lib now input)
  let s ← Prog.get
  match s.pending.lookup response.requestId with
  | none =>
      runtime.approvalValidationError lib response.requestId "unknown approval request" none
        response
  | some pending => runtime.decidePending lib pending response

/-- `MCPHostCompatibilityLayer.submit_approval_response`. -/
def submitApprovalResponse (input : ResponseInput) : Host Record := do
  let outcome ← Prog.attempt (runtime.submitBody lib input)
  Prog.ofExcept (orElse (fun e => hostApprovalResult lib .validationError (namedRequest input)
    e.text none none none) outcome)

/-- `MCPHostCompatibilityLayer.resume_approved_tool`. -/
def resumeApprovedTool (requestId : String) : Host Record := do
  let s ← Prog.get
  match s.pending.lookup requestId with
  | none => Prog.ofExcept (hostError lib "unknown approval request" none)
  | some pending =>
      match s.states.lookup requestId with
      | some .denied => Prog.ofExcept (hostError lib HostApprovalResultStatus.denied.value none)
      | some .expired => Prog.ofExcept (hostError lib HostApprovalResultStatus.expired.value none)
      | some .validationError =>
          Prog.ofExcept (hostError lib HostApprovalResultStatus.validationError.value none)
      | some .granted | none => runtime.callTool lib (.call pending.call)

end ConfigRuntime

end AgenticKVM
