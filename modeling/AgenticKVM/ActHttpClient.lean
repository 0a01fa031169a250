import AgenticKVM.Clearance

/-! # The clearance client over HTTP

The client that speaks the tower's gateway endpoints (`act_http_client.py`). Its transport is a
parameter that may answer with any JSON value or raise, as it likes, from whatever happened before.
The client returns a response in every case, and one that is a clearance was parsed from the status
payload (`requestClearance_cases`). -/

namespace AgenticKVM

open Lib (Json except_bind_eq_ok)

/-- `ACT_AIRCRAFT_AGENT_ID`. -/
def actAircraftAgentId : String := "agentickvm"

/-- `APPROVAL_REQUESTED_PATH`. -/
def approvalRequestedPath : String := "/hermes/tools/approval_requested"

/-- `APPROVAL_STATUS_PATH`. -/
def approvalStatusPath : String := "/hermes/tools/approval_status"

/-- `act_wire_risk_family`: the gateway's word for a risk family. -/
def actWireRiskFamily (riskFamily : String) : String :=
  match riskFamily with
  | "high_risk" => "external_effect"
  | "low_risk" => "routine"
  | _ => riskFamily

/-- A call of the transport: `post_json(path, body, timeout_seconds)`. -/
structure PostJson where
  path : String
  body : Params
  timeoutSeconds : Int

/-- `ACTHTTPTransport`: the answer to a call, from the effects `η` performed before the client was
asked and the calls the client has made since. -/
structure ACTHTTPTransport (η : Type) where
  postJson : List η → List PostJson → PostJson → Except PyExc Json

/-- `act_payload_redacted`: no raw parameters leave the aircraft. -/
def actPayloadRedacted (request : ClearanceRequest) : Params :=
  strEntries [("capability", .str request.capability)]

/-- `act_request_extensions`. -/
def actRequestExtensions (request : ClearanceRequest) : Params :=
  actAgentickvmExtensions request.target request.provider request.capability
    request.riskSummary.summary request.policyContext request.sessionId

/-- `clearance_request_to_act_payload`. -/
def clearanceRequestToActPayload (request : ClearanceRequest) (agentId : String)
    (expiresInSeconds : Int) : Params :=
  let riskFamily := request.riskSummary.riskFamily.value
  strEntries
    [("requested_tool", .str request.capability),
      ("capability", .str request.capability),
      ("risk_level", .str (if riskFamily = "high_risk" then "high" else "low")),
      ("risk_family", .str (actWireRiskFamily riskFamily)),
      ("summary", .str request.riskSummary.summary),
      ("payload_redacted", .dict (actPayloadRedacted request)),
      ("agent_id", .str agentId),
      ("session_id", .str request.sessionId),
      ("expires_in_seconds", .int expiresInSeconds),
      ("operator_message", .str request.operatorMessage),
      ("short_code", .str request.shortCode),
      ("audit_correlation_id", .str request.auditCorrelationId),
      ("action_id", .str request.requestId),
      ("extensions", .dict (actRequestExtensions request))]

/-- `ACTHTTPClearanceClient`. -/
structure ACTHTTPClearanceClient (η : Type) where
  transport : ACTHTTPTransport η
  agentId : String
  extraStatusSeconds : Int

namespace ACTHTTPClearanceClient

variable {η : Type} (std : Stdlib) (client : ACTHTTPClearanceClient η) (history : List η)
  (request : ClearanceRequest) (timeoutSeconds : Int)

/-- The first call: the request itself. -/
def requestedCall : PostJson :=
  ⟨approvalRequestedPath,
    clearanceRequestToActPayload request client.agentId
      (timeoutSeconds + client.extraStatusSeconds),
    timeoutSeconds⟩

/-- The approval id in the answer to the first call, for which the request's own id stands in. -/
def approvalIdOf (requested : Json) : Except PyExc String :=
  match asMapping requested with
  | some requested =>
      .ok (jsonStr std (pyOr (jsonGet requested "approval_id")
        (pyOr (jsonGet requested "request_id") (.str request.requestId))))
  | none => .error (.other "AttributeError" "object has no attribute 'get'")

/-- The status payload: the answer to the second call, where both calls are answered. -/
def statusPayload : Except PyExc Json := do
  let first := requestedCall client request timeoutSeconds
  let requested ← client.transport.postJson history [] first
  let approvalId ← approvalIdOf std request requested
  client.transport.postJson history [first]
    ⟨approvalStatusPath, strEntries [("approval_id", .str approvalId)], timeoutSeconds⟩

/-- The fields of the response that stands for an unreachable tower. -/
def unavailableFields : ClearanceResponseFields where
  status := .towerUnavailable
  requestId := request.requestId
  sessionId := request.sessionId
  target := request.target
  provider := request.provider
  capability := request.capability
  paramsFingerprint := request.paramsFingerprint
  shortCode := request.shortCode
  expiresAt := none
  towerId := .null
  proof := none
  auditCorrelationId := ""
  operatorMessage := ""
  reason := "ACT gateway unavailable or returned an unparseable response"
  contractVersion := contractVersionV2
  boundMaterial := none

/-- `_unavailable`. -/
def unavailable : Except PyExc ClearanceResponse :=
  (unavailableFields request).postInit request.riskSummary.riskFamily.value

/-- `ACTHTTPClearanceClient.request_clearance`: whatever is raised on the way, by the transport or
by the parser, becomes an unavailable tower. -/
def requestClearance : Except PyExc ClearanceResponse :=
  match (do
    let payload ← statusPayload std client history request timeoutSeconds
    clearanceResponseFromActPayload std payload) with
  | .ok response => .ok response
  | .error _ => unavailable request

/-- The unavailable response can always be built: the request's own fields are well formed. -/
theorem unavailable_ok : ∃ response, unavailable request = .ok response ∧
    response.toClearanceResponseFields = unavailableFields request :=
  ⟨_, ClearanceResponseFields.postInit_eq request.paramsFingerprint_ne (riskFamilyOf_value _)
    request.shortCode_ne rfl (fun _ member => by cases member), rfl⟩

/-- **What the client returns**: the parsed status payload, or the unavailable response. -/
theorem requestClearance_cases :
    ∃ response, requestClearance std client history request timeoutSeconds = .ok response ∧
      ((∃ payload, statusPayload std client history request timeoutSeconds = .ok payload ∧
          clearanceResponseFromActPayload std payload = .ok response) ∨
        response.toClearanceResponseFields = unavailableFields request) := by
  unfold requestClearance
  cases attempt : (do
      let payload ← statusPayload std client history request timeoutSeconds
      clearanceResponseFromActPayload std payload) with
  | ok response =>
      obtain ⟨payload, status, parsed⟩ := except_bind_eq_ok.mp attempt
      exact ⟨response, rfl, Or.inl ⟨payload, status, parsed⟩⟩
  | error e =>
      obtain ⟨response, built, fields⟩ := unavailable_ok request
      exact ⟨response, built, Or.inr fields⟩

end ACTHTTPClearanceClient

end AgenticKVM
