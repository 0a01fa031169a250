import AgenticKVM.ActVerifier
import AgenticKVM.Decisions
import AgenticKVM.Lib.Prog

/-! # The control plane

The orchestrator of `engine.py`: policy decision, audit emission, clearance by the selected channel,
execution by the provider. `handle` is a program over effects: every audit emission, clock reading,
clearance round trip and provider call is recorded, also the ones that raise, and what the
environment answers is a function of everything that happened before. -/

namespace AgenticKVM

open Lib (Json Prog)

/-! ## Audit events -/

/-- `AuditEventType`: the event types of the audit contract. -/
inductive AuditEventType
  | requestReceived
  | capabilityResolved
  | capabilityUnknownDenied
  | policyDecision
  | approvalRequested
  | approvalGranted
  | approvalDenied
  | approvalExpired
  | approvalReused
  | approvalVerified
  | approvalRejected
  | approvalConsumed
  | providerExecutionStarted
  | providerExecutionCompleted
  | providerExecutionFailed
  | resultReturned
deriving DecidableEq

/-- `ControlPlaneStatus`: the outcome of a request. -/
inductive ControlPlaneStatus
  | denied
  | approvalRequired
  | clearanceRequired
  | completed
  | failed
deriving DecidableEq

/-- `ProviderRef`: provider metadata of an audit event. -/
structure ProviderRef where
  id : String
  kind : String
  isRealHardware : Bool
deriving DecidableEq

/-- The approval payloads of audit events: what the source turns into a dictionary. -/
inductive ApprovalPayload
  | grant (grant : ApprovalGrant)
  | approvalRequest (request : ApprovalRequest) (authChannel : AuthChannelSelection)
  | clearanceRequest (request : ClearanceRequest) (authority contractSource : String)
      (authChannel : AuthChannelSelection)
  | refusal (grantId : Option String) (reason : String)
  | grantVerification (result : GrantVerificationResult)
  | clearanceResponse (response : ClearanceResponse) (reason : Option String)
  | clearanceVerification (response : ClearanceResponse)
      (verification : ClearanceVerificationResult)

/-- The request payload of the first audit event. -/
structure RequestPayload where
  capabilityId : String
  parameters : Params
  intendedEffect : String

/-- The result payloads of audit events. -/
inductive ResultPayload
  | decision (decision : PolicyDecision) (reason : String)
  | status (status : ControlPlaneStatus) (reason : String)
  | provider (ok performedOnHardware : Bool) (message : String)
      (error : Option (String × Bool)) (artifacts : List Params)

/-- What `_emit` is given for one event. -/
structure AuditEmission where
  eventType : AuditEventType
  correlationId : String
  sessionId : String
  targetId : String
  actor : Actor
  capability : CapabilityRef
  policyDecision : PolicyDecision
  approval : Option ApprovalPayload
  provider : Option ProviderRef
  request : Option RequestPayload
  result : Option ResultPayload
  materialRisks : List String

/-! ## Providers and requests -/

/-- `ProviderActionRequest`: a request after authorization. -/
structure ProviderActionRequest where
  capability : String
  action : String
  targetId : String
  sessionId : String
  correlationId : String
  parameters : Params

/-- `ProviderActionResult`: what a provider answers. -/
structure ProviderActionResult where
  ok : Bool
  providerId : String
  capability : String
  action : String
  targetId : String
  performedOnHardware : Bool
  message : String
  data : Params := []
  providerType : Option String := none
  warnings : List String := []
  redacted : Bool := true
  errorCode : Option String := none
  errorMessage : Option String := none
  retryable : Bool := false
  timestamp : Option String := none

/-- `CapabilityRequest`: a provider-neutral request. -/
structure CapabilityRequest where
  capabilityId : String
  targetId : String
  sessionId : String
  correlationId : String
  requester : Actor
  intendedEffect : String
  parameters : Params
  credentialId : Option String
  approvalRequestId : Option String
  signedApprovalGrant : Option SignedApprovalGrant

/-- `ControlPlaneResult`. -/
structure ControlPlaneResult where
  status : ControlPlaneStatus
  decision : PolicyDecisionResult
  approvalRequest : Option ApprovalRequest
  clearanceRequest : Option ClearanceRequest
  clearanceResponse : Option ClearanceResponse
  providerResult : Option ProviderActionResult
  message : String

/-- An interaction of the control plane with its environment, with the environment's answer. -/
inductive Effect
  | emitted (event : AuditEmission)
  | emitRaised (event : AuditEmission) (e : PyExc)
  | clockRead (t : Datetime)
  | idDrawn (id : String)
  | clearanceAsked (request : ClearanceRequest) (timeoutSeconds : Int)
      (answer : Except PyExc ClearanceResponse)
  | executed (request : ProviderActionRequest) (answer : Except PyExc ProviderActionResult)

/-- `Provider`: its identity and its answer to an authorized request. -/
structure Provider where
  providerId : String
  providerKind : String
  isRealHardware : Bool
  executeAuthorized :
    List Effect → ProviderActionRequest → Except PyExc ProviderActionResult

/-- `ClearanceClient`: its answer to a clearance request. -/
structure ClearanceClient where
  requestClearance : List Effect → ClearanceRequest → Int → Except PyExc ClearanceResponse

/-- `ControlPlane`: what a control plane is constructed with, the approval store apart. The audit
sink answers `none` where it records an event, the clock and the id factory answer from what
happened before. -/
structure ControlPlane where
  policy : CapabilityPolicy
  provider : Provider
  auditSink : List Effect → AuditEmission → Option PyExc
  registry : CapabilityRegistry
  nowFactory : List Effect → Datetime
  freshId : List Effect → String
  approvalGrantVerifier : Option ApprovalGrantVerifier
  clearanceClient : Option ClearanceClient
  clearanceVerifier : Option ACTClearanceVerifier
  clearanceTimeoutSeconds : Int
  authChannelSelection : AuthChannelSelection
  actParityFingerprint : Bool

/-- What a control plane changes: the approval store it was given, if any, and the ids of the
one-time signed grants it has consumed. -/
structure PlaneState where
  approvalStore : Option ApprovalStore
  consumedSignedGrantIds : List String

namespace ControlPlane

/-- A step of the control plane. -/
abbrev Step (α : Type) : Type := Prog Effect PlaneState PyExc α

variable (std : Stdlib) (plane : ControlPlane)

/-- The audit sink is asked to record an event. -/
def emit (event : AuditEmission) : Step Unit :=
  Prog.perform fun history =>
    match plane.auditSink history event with
    | none => (.emitted event, .ok ())
    | some e => (.emitRaised event e, .error e)

/-- The clock is read. -/
def now : Step Datetime :=
  Prog.perform fun history =>
    (.clockRead (plane.nowFactory history), .ok (plane.nowFactory history))

/-- A fresh id is drawn (`uuid4().hex`). -/
def drawId : Step String :=
  Prog.perform fun history => (.idDrawn (plane.freshId history), .ok (plane.freshId history))

/-- `_capability_ref`. -/
def capabilityRefOf (capabilityId : String) : Option Capability → CapabilityRef
  | some capability => CapabilityRef.fromCapability capability
  | none =>
      let family := String.ofList (capabilityId.toList.takeWhile (· ≠ '.'))
      let action := String.ofList ((capabilityId.toList.dropWhile (· ≠ '.')).drop 1)
      { id := capabilityId
        family := if family ∈ capabilityFamilies then family else "runtime"
        action := if action = "" then "unknown" else action }

/-- An event about a request, without payloads. -/
def event (request : CapabilityRequest) (capability : CapabilityRef)
    (decision : PolicyDecisionResult) (eventType : AuditEventType) : AuditEmission :=
  { eventType
    correlationId := request.correlationId
    sessionId := request.sessionId
    targetId := request.targetId
    actor := request.requester
    capability
    policyDecision := decision.decision
    approval := none
    provider := none
    request := none
    result := none
    materialRisks := decision.materialRisks }

/-- An event about an approval. -/
def approvalEvent (request : CapabilityRequest) (capability : CapabilityRef)
    (decision : PolicyDecisionResult) (eventType : AuditEventType) (payload : ApprovalPayload) :
    AuditEmission :=
  { event request capability decision eventType with approval := some payload }

/-- `_emit_result_returned`. -/
def emitResultReturned (request : CapabilityRequest) (capability : CapabilityRef)
    (decision : PolicyDecisionResult) (status : ControlPlaneStatus) : Step Unit :=
  plane.emit { event request capability decision .resultReturned with
    result := some (.status status decision.reason) }

/-! ## Execution -/

mutual

/-- `_artifact_metadata`: the artifact entries of nested provider data. -/
def artifactMetadata : PyValue → List Params
  | .dict entries =>
      (match paramGet entries "artifact" with
        | some (.dict artifact) =>
            [match paramGet entries "raw_bytes_included", paramGet artifact "raw_bytes_included" with
              | some flag, none => artifact ++ [(.str "raw_bytes_included", flag)]
              | _, _ => artifact]
        | _ => []) ++ artifactEntries entries
  | .list items | .tuple items => artifactItems items
  | _ => []

def artifactEntries : List (PyValue × PyValue) → List Params
  | [] => []
  | (_, value) :: rest => artifactMetadata value ++ artifactEntries rest

def artifactItems : List PyValue → List Params
  | [] => []
  | item :: rest => artifactMetadata item ++ artifactItems rest

end

/-- `_provider_audit_result_payload`. -/
def providerAuditResultPayload (result : ProviderActionResult) : ResultPayload :=
  .provider result.ok result.performedOnHardware result.message
    (result.errorCode.map fun code => (code, result.retryable))
    (artifactMetadata (.dict result.data))

/-- The provider request of an authorized capability request. -/
def providerRequest (request : CapabilityRequest) (capability : Capability) :
    ProviderActionRequest :=
  { capability := capability.id
    action := capability.action
    targetId := request.targetId
    sessionId := request.sessionId
    correlationId := request.correlationId
    parameters := request.parameters }

/-- The provider is called. -/
def callProvider (request : ProviderActionRequest) : Step ProviderActionResult :=
  Prog.perform fun history =>
    (.executed request (plane.provider.executeAuthorized history request),
      plane.provider.executeAuthorized history request)

/-- The provider metadata of execution events. -/
def providerRef : ProviderRef :=
  ⟨plane.provider.providerId, plane.provider.providerKind, plane.provider.isRealHardware⟩

/-- The event that announces an execution. -/
def startedEvent (request : CapabilityRequest) (capabilityRef : CapabilityRef)
    (decision : PolicyDecisionResult) : AuditEmission :=
  { event request capabilityRef decision .providerExecutionStarted with
    provider := some plane.providerRef }

/-- The event that reports an execution. -/
def finishedEvent (request : CapabilityRequest) (capabilityRef : CapabilityRef)
    (decision : PolicyDecisionResult) (result : ProviderActionResult) : AuditEmission :=
  { event request capabilityRef decision
      (if result.ok then .providerExecutionCompleted else .providerExecutionFailed) with
    provider := some plane.providerRef
    result := some (providerAuditResultPayload result) }

/-- The end of `_execute_provider`: the provider's answer is reported and returned. -/
def reportExecution (request : CapabilityRequest) (capabilityRef : CapabilityRef)
    (decision : PolicyDecisionResult) (result : ProviderActionResult) :
    Step ControlPlaneResult := do
  plane.emit (plane.finishedEvent request capabilityRef decision result)
  let status : ControlPlaneStatus := if result.ok then .completed else .failed
  plane.emitResultReturned request capabilityRef decision status
  return { status, decision, approvalRequest := none, clearanceRequest := none
           clearanceResponse := none, providerResult := some result, message := result.message }

/-- `_execute_provider`. -/
def executeProvider (request : CapabilityRequest) (capability : Capability)
    (capabilityRef : CapabilityRef) (decision : PolicyDecisionResult) :
    Step ControlPlaneResult := do
  plane.emit (plane.startedEvent request capabilityRef decision)
  let result ← plane.callProvider (providerRequest request capability)
  plane.reportExecution request capabilityRef decision result

/-! ## Local clearance -/

/-- `_matching_approval_grant`: the store's grant for exactly this action. -/
def matchingApprovalGrant (request : CapabilityRequest) : Step (Option ApprovalGrant) := do
  match (← Prog.get).approvalStore with
  | none => return none
  | some store =>
      let paramsFingerprint ← Prog.ofExcept (actionFingerprint std request.parameters)
      let now ← plane.now
      Prog.ofExcept (store.findActionGrant
        ⟨request.capabilityId, request.sessionId, request.targetId, plane.provider.providerId,
          paramsFingerprint⟩ now)

/-- A rejection of the presented signed grant, after which local clearance goes on. -/
def rejectSigned (request : CapabilityRequest) (capabilityRef : CapabilityRef)
    (decision : PolicyDecisionResult) (payload : ApprovalPayload) : Step Bool := do
  plane.emit (approvalEvent request capabilityRef decision .approvalRejected payload)
  return false

/-- Marks a one-time signed grant as consumed, before its consumption is emitted. -/
def consumeSigned (request : CapabilityRequest) (capabilityRef : CapabilityRef)
    (decision : PolicyDecisionResult) (signedGrant : SignedApprovalGrant)
    (verification : GrantVerificationResult) : Step Unit :=
  if signedGrant.payload.oneTime then do
    Prog.modify fun s =>
      { s with consumedSignedGrantIds :=
          signedGrant.payload.grantId :: s.consumedSignedGrantIds }
    plane.emit (approvalEvent request capabilityRef decision .approvalConsumed
      (.grantVerification verification))
  else return ()

/-- `_verify_signed_approval_grant`: whether the presented signed grant authorizes the request. -/
def verifySignedApprovalGrant (request : CapabilityRequest) (capabilityRef : CapabilityRef)
    (decision : PolicyDecisionResult) : Step Bool :=
  match request.signedApprovalGrant with
  | none => return false
  | some signedGrant =>
    match plane.approvalGrantVerifier with
    | none => plane.rejectSigned request capabilityRef decision
        (.refusal none "signed approval verifier is not configured")
    | some verifier =>
      match request.approvalRequestId with
      | none => plane.rejectSigned request capabilityRef decision
          (.refusal none "approval request id is required")
      | some requestId => do
        let grantId := signedGrant.payload.grantId
        if grantId ∈ (← Prog.get).consumedSignedGrantIds then
          plane.rejectSigned request capabilityRef decision
            (.refusal (some grantId) "signed grant already consumed")
        else
          let now ← plane.now
          let context ← Prog.ofExcept (GrantVerificationContext.fromParameters std requestId
            request.sessionId request.targetId plane.provider.providerId request.capabilityId
            request.parameters capabilityRef.family now)
          let verification ← Prog.ofExcept (verifier.verify signedGrant context)
          if verification.valid then do
            plane.emit (approvalEvent request capabilityRef decision .approvalVerified
              (.grantVerification verification))
            plane.consumeSigned request capabilityRef decision signedGrant verification
            return true
          else
            plane.rejectSigned request capabilityRef decision (.grantVerification verification)

/-- Marks a stored grant as consumed and emits its consumption. -/
def consumeGrant (request : CapabilityRequest) (capabilityRef : CapabilityRef)
    (decision : PolicyDecisionResult) (grant : ApprovalGrant) : Step Unit := do
  match (← Prog.get).approvalStore with
  | none => Prog.throw (.runtimeError "Approval grant found without approval store")
  | some store =>
      Prog.modify fun s => { s with approvalStore := some (store.consume grant) }
      plane.emit (approvalEvent request capabilityRef decision .approvalConsumed (.grant grant))

/-- The end of local clearance without an approval: an approval request for the operator. -/
def requestApproval (request : CapabilityRequest) (capability : Capability)
    (capabilityRef : CapabilityRef) (decision : PolicyDecisionResult) :
    Step ControlPlaneResult := do
  let now ← plane.now
  let id ← plane.drawId
  let auditEventId ← plane.drawId
  let approvalRequest ← Prog.ofExcept (buildApprovalRequest decision capability
    request.sessionId request.requester [request.targetId] request.intendedEffect now id
    auditEventId (some plane.provider.providerId))
  plane.emit (approvalEvent request capabilityRef decision .approvalRequested
    (.approvalRequest approvalRequest plane.authChannelSelection))
  plane.emitResultReturned request capabilityRef decision .approvalRequired
  return { status := .approvalRequired, decision, approvalRequest := some approvalRequest
           clearanceRequest := none, clearanceResponse := none, providerResult := none
           message := "operator approval required" }

/-- The branch of `handle` that clears through local approvals: a presented signed grant first, then
a stored grant. -/
def handleLocalClearance (request : CapabilityRequest) (capability : Capability)
    (capabilityRef : CapabilityRef) (decision : PolicyDecisionResult) :
    Step ControlPlaneResult := do
  if ← plane.verifySignedApprovalGrant std request capabilityRef decision then
    plane.executeProvider request capability capabilityRef decision
  else
    match ← plane.matchingApprovalGrant std request with
    | some grant =>
        plane.consumeGrant request capabilityRef decision grant
        plane.executeProvider request capability capabilityRef decision
    | none => plane.requestApproval request capability capabilityRef decision

/-! ## Clearance by the tower -/

/-- The id of a clearance request: the approval request id, or a fresh one where that is missing or
empty. -/
def clearanceRequestId (request : CapabilityRequest) : Step String :=
  match request.approvalRequestId with
  | none => plane.drawId
  | some id => if id = "" then plane.drawId else return id

/-- What the clearance request of a capability request is built from. -/
def clearanceInputs (request : CapabilityRequest) (capability : Capability)
    (decision : PolicyDecisionResult) (now : Datetime) : ClearanceInputs :=
  { sessionId := request.sessionId
    target := request.targetId
    provider := plane.provider.providerId
    capability := request.capabilityId
    parameters := request.parameters
    riskFamily := clearanceRiskFamilyForCapability (some capability)
    riskSummary := decision.reason
    materialRisks := decision.materialRisks
    intendedEffect := request.intendedEffect
    requestedBy := request.requester.id
    auditCorrelationId := request.correlationId
    policyContext := [(.str "decision", .str decision.decision.value)]
    now
    ttlSeconds := plane.clearanceTimeoutSeconds
    actParity := plane.actParityFingerprint }

/-- The event that precedes the question to the tower. -/
def clearanceRequestedEvent (request : CapabilityRequest) (capabilityRef : CapabilityRef)
    (decision : PolicyDecisionResult) (clearanceRequest : ClearanceRequest) : AuditEmission :=
  approvalEvent request capabilityRef decision .approvalRequested
    (.clearanceRequest clearanceRequest "Agentic Control Tower" "ACT" plane.authChannelSelection)

/-- The clearance client is asked. -/
def askClearance (client : ClearanceClient) (clearanceRequest : ClearanceRequest) :
    Step ClearanceResponse :=
  Prog.perform fun history =>
    let answer :=
      client.requestClearance history clearanceRequest plane.clearanceTimeoutSeconds
    (.clearanceAsked clearanceRequest plane.clearanceTimeoutSeconds answer, answer)

/-- A result without an execution, with the clearance that led to it. -/
def clearanceResult (status : ControlPlaneStatus) (decision : PolicyDecisionResult)
    (clearanceRequest : ClearanceRequest) (response : ClearanceResponse) (message : String) :
    ControlPlaneResult :=
  { status, decision, approvalRequest := none, clearanceRequest := some clearanceRequest
    clearanceResponse := some response, providerResult := none, message }

/-- What `_handle_act_clearance` does with a cleared response. `now` is the clock as it was read
before the client was asked. The response is written into the event, which raises where its expiry
has no place in UTC. -/
def verifyClearance (request : CapabilityRequest) (capability : Capability)
    (capabilityRef : CapabilityRef) (decision : PolicyDecisionResult) (now : Datetime)
    (clearanceRequest : ClearanceRequest) (response : ClearanceResponse) :
    Step ControlPlaneResult :=
  match plane.clearanceVerifier with
  | none => do
      let _ ← Prog.ofExcept (response.expiryInUtc std)
      plane.emit (approvalEvent request capabilityRef decision .approvalRejected
        (.clearanceResponse response (some "ACT clearance verifier is not configured")))
      plane.emitResultReturned request capabilityRef decision .denied
      return clearanceResult .denied decision clearanceRequest response
        "ACT clearance verifier is not configured"
  | some verifier => do
      let verification ← Prog.ofExcept (verifier.verify std clearanceRequest response now)
      let _ ← Prog.ofExcept (response.expiryInUtc std)
      plane.emit (approvalEvent request capabilityRef decision
        (if verification.valid then .approvalVerified else .approvalRejected)
        (.clearanceVerification response verification))
      if verification.valid then
        plane.executeProvider request capability capabilityRef decision
      else
        plane.emitResultReturned request capabilityRef decision .denied
        return clearanceResult .denied decision clearanceRequest response verification.reason

/-- What `_handle_act_clearance` does with the answer of the client. -/
def answerClearance (request : CapabilityRequest) (capability : Capability)
    (capabilityRef : CapabilityRef) (decision : PolicyDecisionResult) (now : Datetime)
    (clearanceRequest : ClearanceRequest) (response : ClearanceResponse) :
    Step ControlPlaneResult :=
  match response.status with
  | .cleared =>
      plane.verifyClearance std request capability capabilityRef decision now clearanceRequest
        response
  | .denied => do
      let _ ← Prog.ofExcept (response.expiryInUtc std)
      plane.emit (approvalEvent request capabilityRef decision .approvalRejected
        (.clearanceResponse response none))
      plane.emitResultReturned request capabilityRef decision .denied
      return clearanceResult .denied decision clearanceRequest response
        (if response.reason = "" then "ACT denied clearance" else response.reason)
  | _ => do
      plane.emitResultReturned request capabilityRef decision .clearanceRequired
      return clearanceResult .clearanceRequired decision clearanceRequest response
        "ACT clearance required"

/-- `_handle_act_clearance`. -/
def handleActClearance (client : ClearanceClient) (request : CapabilityRequest)
    (capability : Capability) (capabilityRef : CapabilityRef) (decision : PolicyDecisionResult) :
    Step ControlPlaneResult := do
  let now ← plane.now
  let id ← plane.clearanceRequestId request
  let clearanceRequest ← Prog.ofExcept (buildClearanceRequest std
    (plane.clearanceInputs request capability decision now) id)
  plane.emit (plane.clearanceRequestedEvent request capabilityRef decision clearanceRequest)
  let response ← plane.askClearance client clearanceRequest
  plane.answerClearance std request capability capabilityRef decision now clearanceRequest response

/-! ## Requests -/

/-- The policy decision of a request. -/
def decisionOf (request : CapabilityRequest) : PolicyDecisionResult :=
  plane.policy.decisionFor request.capabilityId (some request.targetId) (some request.sessionId)
    request.credentialId plane.registry

/-- A denial: the result is emitted and returned. -/
def deny (request : CapabilityRequest) (capabilityRef : CapabilityRef)
    (decision : PolicyDecisionResult) : Step ControlPlaneResult := do
  plane.emitResultReturned request capabilityRef decision .denied
  return { status := .denied, decision, approvalRequest := none, clearanceRequest := none
           clearanceResponse := none, providerResult := none, message := decision.reason }

/-- The ask-class branch of `handle`: the selected channel clears, the tower where a client is wired
to `mobile_signed` and local approvals otherwise. -/
def clear (request : CapabilityRequest) (capability : Capability) (capabilityRef : CapabilityRef)
    (decision : PolicyDecisionResult) : Step ControlPlaneResult :=
  match plane.authChannelSelection.channel, plane.clearanceClient with
  | .mobileSigned, some client =>
      plane.handleActClearance std client request capability capabilityRef decision
  | _, _ => plane.handleLocalClearance std request capability capabilityRef decision

/-- `handle` after the policy decision has been emitted. -/
def decide (request : CapabilityRequest) (capability : Option Capability)
    (capabilityRef : CapabilityRef) (decision : PolicyDecisionResult) : Step ControlPlaneResult :=
  if decision.decision = .deny then plane.deny request capabilityRef decision
  else if plane.provider.isRealHardware ∧ ¬ plane.policy.targetScope.allowRealHardware then
    plane.deny request capabilityRef
      { capabilityId := request.capabilityId
        decision := .deny
        reason := "real hardware provider outside policy scope"
        matchedRule := none
        limits := []
        materialRisks := decision.materialRisks }
  else if decision.requiresApproval then
    match capability with
    | none => Prog.throw (.runtimeError "Unknown capabilities cannot require approval")
    | some capability => plane.clear std request capability capabilityRef decision
  else
    match capability with
    | none => Prog.throw (.runtimeError "Unknown capability reached provider execution")
    | some capability => plane.executeProvider request capability capabilityRef decision

/-- The three events every request starts with. -/
def openingEvents (request : CapabilityRequest) : List AuditEmission :=
  let capability := plane.registry.get request.capabilityId
  let decision := plane.decisionOf request
  let base := event request (capabilityRefOf request.capabilityId capability) decision
  [{ base .requestReceived with
      request := some ⟨request.capabilityId, request.parameters, request.intendedEffect⟩ },
    base (if capability.isSome then .capabilityResolved else .capabilityUnknownDenied),
    { base .policyDecision with
      result := some (.decision decision.decision decision.reason) }]

/-- Events are emitted in turn. -/
def emitAll : List AuditEmission → Step Unit
  | [] => return ()
  | event :: rest => do
      plane.emit event
      emitAll rest

/-- `ControlPlane.handle`. -/
def handle (request : CapabilityRequest) : Step ControlPlaneResult := do
  let capability := plane.registry.get request.capabilityId
  plane.emitAll (plane.openingEvents request)
  plane.decide std request capability (capabilityRefOf request.capabilityId capability)
    (plane.decisionOf request)

end ControlPlane

end AgenticKVM
