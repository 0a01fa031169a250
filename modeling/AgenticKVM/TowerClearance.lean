import AgenticKVM.ActHttpClient
import AgenticKVM.EngineExecution

/-! # Clearance by the tower

What it takes for a request to be executed on the strength of the tower's answer, from the JSON
payload to the provider: the chain fails closed (`tower_fails_closed`). Two properties that the code
misses are stated with the exact condition under which they hold: a clearance is judged by the clock
as it was before the tower was asked (`clearedInTime_iff`), and the tower may unlock what no approval
may (`blocked_executes_iff`). -/

namespace AgenticKVM

open Lib (Json)

/-- The HTTP client as the clearance client of a control plane. -/
def ACTHTTPClearanceClient.toClearanceClient (std : Stdlib)
    (client : ACTHTTPClearanceClient Effect) : ClearanceClient :=
  ⟨fun history request timeoutSeconds => client.requestClearance std history request timeoutSeconds⟩

/-! ## What a payload has to say -/

/-- **A payload that approves a clearance request**, as the configured tower would sign it: its
state, its tower, every field that is bound to the request (as text, with the fallbacks to the
extensions), an expiry after the time of the verification, and a signature over its own strings
under the key registered for its key id. -/
structure Approves (std : Stdlib) (registry : TowerKeyRegistry) (towerId : String)
    (request : ClearanceRequest) (payload : List (String × Json)) (now : Datetime) : Prop where
  state : std.lower (actText std payload "state") = "approved"
  tower : jsonGet payload "tower_id" = .str towerId
  requestId : actRequestId std payload = request.requestId
  sessionId : actField std payload "session_id" = request.sessionId
  target : actField std payload "target" = request.target
  provider : actField std payload "provider" = request.provider
  capability : actField std payload "capability" = request.capability
  paramsFingerprint : actText std payload "params_fingerprint" = request.paramsFingerprint
  shortCode : actText std payload "short_code" = request.shortCode
  auditCorrelationId : actOptionalText std payload "audit_correlation_id"
    = request.auditCorrelationId
  unexpired : ∃ expiresAt nowUtc expiryUtc, actExpiry std payload = .ok (some expiresAt) ∧
    now.astimezoneUtc std = .ok nowUtc ∧ expiresAt.astimezoneUtc std = .ok expiryUtc ∧
    Datetime.lt nowUtc expiryUtc = .ok true
  signed : ∃ proof keyId signature publicKey message decoded,
    jsonGet payload "proof" = .obj proof ∧ jsonGet proof "key_id" = .str keyId ∧
    jsonGet proof "signature" = .str signature ∧ registry.publicKeyFor keyId = some publicKey ∧
    buildClearanceProofMessage (actBoundMaterial std payload proof) = .ok message ∧
    decodeB64url std signature = some decoded ∧
    std.ed25519Verify publicKey message decoded = true

/-- The proof verifier accepts a response only for a signature over its bound strings. -/
theorem signed_of_verifyProof {std : Stdlib} {registry : TowerKeyRegistry}
    {request : ClearanceRequest} {response : ClearanceResponse}
    (verified : (actClearanceProofVerifier std registry).verifyProof request response
      = .ok true) :
    ∃ proof material, response.proof = some proof ∧ response.boundMaterial = some material ∧
      verifyClearanceProof std material proof registry = true := by
  simp only [actClearanceProofVerifier, Except.ok.injEq] at verified
  split at verified
  · next proof material proofEq materialEq =>
      rw [Bool.and_eq_true] at verified
      exact ⟨proof, material, proofEq, materialEq, verified.2⟩
  · cases verified

/-- A payload whose response the verifier accepts approves the request. -/
theorem approves_of_accepts {std : Stdlib} {registry : TowerKeyRegistry} {towerId : String}
    {testMode : Bool} {request : ClearanceRequest} {payload : Json}
    {response : ClearanceResponse} {now : Datetime}
    (parsed : clearanceResponseFromActPayload std payload = .ok response)
    (accepts : ACTClearanceVerifier.Accepts std
      ⟨towerId, actClearanceProofVerifier std registry, testMode⟩ request response now) :
    ∃ entries, payload = .obj entries ∧ Approves std registry towerId request entries now := by
  obtain ⟨entries, expiresAt, rfl, expiry, fields, -⟩ := clearanceResponseFromActPayload_ok parsed
  obtain ⟨responseFields, family, _, _, _, _⟩ := response
  have fields : responseFields = actResponseFields std entries expiresAt := fields
  subst fields
  obtain ⟨proof, material, proofEq, materialEq, verified⟩ :=
    signed_of_verifyProof accepts.proofVerified
  have proofEq : asMapping (jsonGet entries "proof") = some proof := proofEq
  have materialEq : (asMapping (jsonGet entries "proof")).map (actBoundMaterial std entries)
      = some material := materialEq
  rw [proofEq] at materialEq
  cases materialEq
  have same := accepts.matches
  exact ⟨entries, rfl,
    { state := actStateToStatus_eq_cleared.mp accepts.cleared
      tower := accepts.tower
      requestId := same.requestId
      sessionId := same.sessionId
      target := same.target
      provider := same.provider
      capability := same.capability
      paramsFingerprint := same.paramsFingerprint
      shortCode := same.shortCode
      auditCorrelationId := same.auditCorrelationId
      unexpired := by
        obtain ⟨t, nowUtc, expiryUtc, eq, order⟩ := accepts.unexpired
        have eq : expiresAt = some t := eq
        exact ⟨t, nowUtc, expiryUtc, by rw [expiry, eq], order⟩
      signed := by
        obtain ⟨keyId, signature, publicKey, message, decoded, signed⟩ :=
          verifyClearanceProof_signed verified
        refine ⟨proof, keyId, signature, publicKey, message, decoded, ?_, signed⟩
        cases read : jsonGet entries "proof" with
        | obj _ =>
            rw [read] at proofEq
            cases proofEq
            rfl
        | _ =>
            rw [read] at proofEq
            cases proofEq }⟩

namespace Deployment

/-! ## A deployment

A tower, its key and a control plane wired to it, for the runs below: hashes, signature and decoded
texts are those of the real functions on the inputs that occur. -/

/-- The text whose hash is the tower's fingerprint of `revealRequest`. -/
def envelope : String :=
  Json.text (envelopeWritten "vm-1" "mock" "secrets.raw_reveal" "default Full Control mode decision"
    (.obj [("decision", .str "ask_each_time")]) "session-1")

/-- The hash of `envelope`. -/
def fingerprint : String := "dc4a33fc5fa5b5980b1d7fa3597a4854513ccd2cf059222ee393ef7e3b52c32d"

/-- The hash of the text of an empty object. -/
def emptyFingerprint : String :=
  "44136fa355b3678a1146ad16f7e8649e94fb4fc21fe77e8310c060f61caaff8a"

/-- The public key of the tower. -/
def towerKey : List UInt8 :=
  [140, 86, 250, 209, 167, 208, 110, 124, 16, 129, 228, 200, 107, 209, 183, 53, 202, 251, 211, 180,
    77, 119, 153, 112, 76, 61, 216, 94, 5, 106, 62, 247]

/-- The message the tower signed. -/
def signedMessage : String :=
  "ACT-CLEARANCE-PROOF-V1\nreq-1\n" ++ fingerprint ++ "\n02CF403672\nexternal_effect\n"
  ++ "2026-01-01T00:00:15+00:00\nact-local\nact.clearance.v2\n"
  ++ "1d05001f7466fb2152a478f3371e5332c90ea0c0c1751eec6679a83304c6b7c8"

/-- The tower's signature of `signedMessage`. -/
def signature : List UInt8 :=
  [112, 53, 116, 244, 44, 80, 79, 183, 165, 28, 88, 105, 169, 224, 184, 117, 47, 104, 12, 24, 216,
    141, 24, 150, 115, 100, 105, 94, 181, 109, 100, 21, 72, 10, 174, 113, 49, 52, 29, 243, 209, 2,
    60, 155, 213, 105, 116, 231, 106, 123, 247, 217, 169, 81, 115, 179, 117, 129, 98, 236, 215, 185,
    183, 4]

/-- The signature as the proof carries it. -/
def signatureText : String :=
  "cDV09CxQT7elHFhpqeC4dS9oDBjYjRiWc2RpXrVtZBVICq5xMTQd89ECPJvVaXTnanv32alRc7N1gWLs17m3BA"

/-- Midnight of 1 January 2026, so many seconds later. -/
def clockAt (seconds : Int) : Datetime := ⟨63902822400000000 + seconds * 1000000, some 0⟩

/-- The library functions, on the inputs that occur. -/
def library : Stdlib where
  sha256 text :=
    if text = "\x7b\x7d" then emptyFingerprint
    else if text = "req-1:" ++ fingerprint then
      "02cf403672021d3a8846bb5c416b5bb0f63f00b9acf7f87f0ce6e5b00a7a1d13"
    else if text = "req-1:" ++ emptyFingerprint then
      "ddcb26723274a809473d4fce3504f363ba5f0ffb4fde47c9e69ab0e9771a35f8"
    else if text = envelope then fingerprint
    else "sha256 of " ++ text
  str value := match value with
    | .none => "None"
    | .bool true => "True"
    | .bool false => "False"
    | .int i => toString i
    | _ => ""
  repr text := "'" ++ text ++ "'"
  lower := String.toLower
  sorted items := .ok items
  localOffset _ := .ok 0
  fromisoformat text := if text = "2026-01-01T00:00:15+00:00" then some (clockAt 15) else none
  urlsafeB64decode text := if text = signatureText ++ "==" then some signature else none
  ed25519Verify key message sig :=
    decide (key = towerKey ∧ message = signedMessage ∧ sig = signature)

/-- The status payload of an approval by the operator, as the tower signs it. -/
def approved : List (String × Json) :=
  [("approval_id", .str "req-1"), ("request_id", .str "req-1"), ("state", .str "approved"),
    ("session_id", .str "session-1"), ("capability", .str "secrets.raw_reveal"),
    ("params_fingerprint", .str fingerprint), ("short_code", .str "02CF403672"),
    ("risk_family", .str "external_effect"), ("expires_at", .str "2026-01-01T00:00:15+00:00"),
    ("tower_id", .str "act-local"), ("contract_version", .str "act.clearance.v2"),
    ("audit_correlation_id", .str "corr-1"),
    ("extensions", .obj [("agentickvm", .obj
      [("target", .str "vm-1"), ("provider", .str "mock")])]),
    ("proof", .obj [("algorithm", .str "Ed25519"),
      ("canonicalization", .str "ACT-CLEARANCE-PROOF-V1"), ("key_id", .str "tower-key-1"),
      ("signature", .str signatureText),
      ("extensions_digest",
        .str "1d05001f7466fb2152a478f3371e5332c90ea0c0c1751eec6679a83304c6b7c8")])]

/-- The client of a gateway at which the operator approves. -/
def client : ACTHTTPClearanceClient Effect where
  transport := ⟨fun _ calls _ => .ok (.obj
    (if calls.isEmpty then [("approval_id", .str "req-1"), ("state", .str "pending")]
    else approved))⟩
  agentId := actAircraftAgentId
  extraStatusSeconds := 0

/-- The keys the aircraft trusts. -/
def keys : TowerKeyRegistry :=
  ⟨fun keyId => if keyId = "tower-key-1" then some towerKey else none⟩

/-- The verifier of the tower's responses. -/
def verifier : ACTClearanceVerifier :=
  ⟨"act-local", actClearanceProofVerifier library keys, false⟩

/-- A provider that answers every request. -/
def provider : Provider where
  providerId := "mock"
  providerKind := "mock"
  isRealHardware := false
  executeAuthorized _ request := .ok
    { ok := true, providerId := "mock", capability := request.capability, action := request.action
      targetId := request.targetId, performedOnHardware := false, message := "done" }

/-- A control plane in Full Control mode with the clock, the tower and the fingerprint mode given. -/
def towerPlane (clock : List Effect → Datetime) (client : ClearanceClient)
    (verifier : ACTClearanceVerifier) (actParity : Bool) : ControlPlane where
  policy := modePreset .fullControl none
  provider := provider
  auditSink _ _ := none
  registry := defaultCapabilityRegistry
  nowFactory := clock
  freshId _ := "0f8fad5bd9cb469fa16570867728950e"
  approvalGrantVerifier := none
  clearanceClient := some client
  clearanceVerifier := some verifier
  clearanceTimeoutSeconds := 20
  authChannelSelection := ⟨.mobileSigned, false, true, "Agentic Control Tower", none⟩
  actParityFingerprint := actParity

/-- The control plane of the deployment, with the clock given. -/
def plane (clock : List Effect → Datetime) : ControlPlane :=
  towerPlane clock (client.toClearanceClient library) verifier true

theorem agent_named : "agent-1" ≠ "" := by decide

theorem operator_named : "operator-1" ≠ "" := by decide

theorem operator_type : (Actor.mk .operator "operator-1" operator_named).type = .operator := rfl

theorem session_named : "session-1" ≠ "" := by decide

/-- A request to reveal a secret. -/
def revealRequest (parameters : Params) : CapabilityRequest where
  capabilityId := "secrets.raw_reveal"
  targetId := "vm-1"
  sessionId := "session-1"
  correlationId := "corr-1"
  requester := ⟨.agent, "agent-1", agent_named⟩
  intendedEffect := "reveal a credential"
  parameters
  credentialId := some "credential-1"
  approvalRequestId := some "req-1"
  signedApprovalGrant := none

/-- A control plane before its first request, with an empty approval store. -/
def start : PlaneState := ⟨some ApprovalStore.empty, []⟩

/-- What the clearance request of `revealRequest` is built from, at midnight. -/
def inputs (parameters : Params) : ClearanceInputs where
  sessionId := "session-1"
  target := "vm-1"
  provider := "mock"
  capability := "secrets.raw_reveal"
  parameters
  riskFamily := .highRisk
  riskSummary := "default Full Control mode decision"
  materialRisks := ["dangerous action", "raw secret reveal"]
  intendedEffect := "reveal a credential"
  requestedBy := "agent-1"
  auditCorrelationId := "corr-1"
  policyContext := [(.str "decision", .str "ask_each_time")]
  now := clockAt 0
  ttlSeconds := 20
  actParity := true

/-- The clearance request the tower is asked about. -/
def clearanceRequest : ClearanceRequest where
  requestId := "req-1"
  sessionId := "session-1"
  target := "vm-1"
  provider := "mock"
  capability := "secrets.raw_reveal"
  paramsFingerprint := fingerprint
  riskSummary := ⟨.highRisk, "default Full Control mode decision",
    ["dangerous action", "raw secret reveal"], by decide⟩
  operatorMessage := buildOperatorMessage "02CF403672" "secrets.raw_reveal" "vm-1" "mock"
    "reveal a credential" "default Full Control mode decision"
  requestedBy := "agent-1"
  createdAt := clockAt 0
  expiresAt := clockAt 20
  shortCode := "02CF403672"
  policyContext := [(.str "decision", .str "ask_each_time")]
  auditCorrelationId := "corr-1"
  aircraft := actAircraftId
  wellFormed :=
    { complete := by
        simp [ClearanceRequestFields.missing, ClearanceRequestFields.required,
          buildOperatorMessage_ne, fingerprint, actAircraftId]
      message := buildOperatorMessage_noDoubleDot ..
      aware := ⟨rfl, rfl⟩
      ordered := by decide +kernel }

theorem sha256_eq (text : String) :
    library.sha256 text
      = if text = "\x7b\x7d" then emptyFingerprint
        else if text = "req-1:" ++ fingerprint then
          "02cf403672021d3a8846bb5c416b5bb0f63f00b9acf7f87f0ce6e5b00a7a1d13"
        else if text = "req-1:" ++ emptyFingerprint then
          "ddcb26723274a809473d4fce3504f363ba5f0ffb4fde47c9e69ab0e9771a35f8"
        else if text = envelope then fingerprint
        else "sha256 of " ++ text := rfl

/-- The start of the envelope. -/
theorem envelope_start : envelope.toList.take 2 = ['\x7b', '"'] := by
  simp [envelope, Json.text, envelopeWritten, Json.render, Json.renderString]

theorem sha256_envelope : library.sha256 envelope = fingerprint := by
  have empty : envelope ≠ "\x7b\x7d" := by
    intro same
    have start := envelope_start
    rw [same] at start
    revert start
    decide
  have code (hash : String) : envelope ≠ "req-1:" ++ hash := by
    intro same
    have start := envelope_start
    rw [same, String.toList_append] at start
    have first : 'r' = '\x7b' := (List.cons.inj start).1
    revert first
    decide
  rw [sha256_eq, if_neg empty, if_neg (code _), if_neg (code _), if_pos rfl]

theorem shortCode_eq : actShortCode library "req-1" fingerprint = "02CF403672" := by
  decide +kernel

/-- The request is built, whatever the parameters are. -/
theorem built (parameters : Params) :
    buildClearanceRequest library (inputs parameters) "req-1" = .ok clearanceRequest := by
  have hash : (inputs parameters).fingerprint library = .ok fingerprint :=
    actRequestFingerprint_eq_ok.mpr ⟨.obj [("decision", .str "ask_each_time")], rfl, sha256_envelope⟩
  have code : (inputs parameters).shortCode library "req-1" fingerprint = "02CF403672" :=
    (if_pos rfl).trans shortCode_eq
  have bounded : ¬ (inputs parameters).ttlSeconds < 0 ∧
      ¬ (inputs parameters).ttlSeconds > defaultClearanceTimeoutSeconds := by
    constructor
    all_goals exact of_decide_eq_true rfl
  have created : (clockAt 0).astimezoneUtc library = .ok (clockAt 0) := by decide
  have expires : (clockAt 0).addSeconds 20 = .ok (clockAt 20) := by decide
  exact buildClearanceRequest_eq bounded hash code (dif_pos _) created expires rfl

/-- The response the approval is parsed into. -/
def response : ClearanceResponse where
  toClearanceResponseFields := actResponseFields library approved (some (clockAt 15))
  riskFamily := .externalEffect
  fingerprintPresent := by decide +kernel
  codePresent := by decide +kernel
  messageForm := by decide +kernel
  expiryAware := by rintro t ⟨⟩; rfl

theorem parsed : clearanceResponseFromActPayload library (.obj approved) = .ok response := by
  have expiry : actExpiry library approved = .ok (some (clockAt 15)) := by decide +kernel
  have family : riskFamilyOf (actText library approved "risk_family") = .ok .externalEffect := by
    decide +kernel
  simp only [clearanceResponseFromActPayload, asMapping, expiry, Lib.except_ok_bind]
  exact ClearanceResponseFields.postInit_eq response.fingerprintPresent family
    response.codePresent response.messageForm response.expiryAware

/-- The client returns the response, whenever and in whichever history it is asked. -/
theorem answered (history : List Effect) :
    (client.toClearanceClient library).requestClearance history clearanceRequest 20
      = .ok response := by
  have status : client.statusPayload library history clearanceRequest 20 = .ok (.obj approved) :=
    rfl
  have attempt := parsed
  simp only [ACTHTTPClearanceClient.toClearanceClient, ACTHTTPClearanceClient.requestClearance,
    status, Lib.except_ok_bind, attempt]

/-- The response carries a proof of the tower over the material it preserved. -/
def proofHolds : Bool :=
  match response.proof, response.boundMaterial with
  | some proof, some material =>
      !proof.isEmpty && !material.isEmpty && verifyClearanceProof library material proof keys
  | _, _ => false

/-- The verifier accepts the response at midnight. -/
theorem accepts : verifier.Accepts library clearanceRequest response (clockAt 0) where
  cleared := by decide +kernel
  tower := by
    have text : isText response.towerId verifier.towerId = true := by decide +kernel
    exact isText_iff.mp text
  bound := firstMismatch_eq_none.mp (by decide +kernel)
  unexpired := ⟨clockAt 15, clockAt 0, clockAt 15, rfl, by decide, by decide, by decide⟩
  proofPresent := by
    have present : response.proof.isSome = true := by decide +kernel
    exact Option.isSome_iff_ne_none.mp present
  notMock := fun mock => Bool.false_ne_true mock.2
  proofVerified := congrArg Except.ok (show proofHolds = true by decide +kernel)

/-- The clock reads midnight until the tower is asked. -/
def EarlyClock (clock : List Effect → Datetime) : Prop :=
  ∀ history, history.any Effect.isQuestion = false → clock history = clockAt 0

/-- The policy's decision about the request. -/
def decision : PolicyDecisionResult :=
  (modePreset .fullControl none).decisionFor "secrets.raw_reveal" (some "vm-1") (some "session-1")
    (some "credential-1") defaultCapabilityRegistry

theorem secrets_known : "secrets" ∈ capabilityFamilies := by decide

/-- The capability of the request. -/
def reveal : Capability :=
  capability "secrets" "raw_reveal" .critical true false ["target", "session", "credential"]
    secrets_known

theorem known : defaultCapabilityRegistry.get "secrets.raw_reveal" = some reveal := by
  decide +kernel

theorem decision_asks : decision.decision = .askEachTime := by decide +kernel

theorem decision_reason : decision.reason = "default Full Control mode decision" := by
  decide +kernel

theorem decision_risks : decision.materialRisks = ["dangerous action", "raw secret reveal"] := by
  decide +kernel

section Cleared

variable {std : Stdlib} {clock : List Effect → Datetime} {client : ClearanceClient}
  {verifier : ACTClearanceVerifier} {actParity : Bool} {parameters : Params}

/-- What the plane builds its clearance request from. -/
theorem clearanceInputs_eq :
    (towerPlane clock client verifier actParity).clearanceInputs (revealRequest parameters) reveal
        decision (clockAt 0)
      = { inputs parameters with actParity } := by
  have family : clearanceRiskFamilyForCapability (some reveal) = .highRisk := by decide +kernel
  unfold ControlPlane.clearanceInputs
  rw [decision_reason, decision_risks, decision_asks, family]
  rfl

/-- **The tower clears the request** where its client answers with a response that the verifier
accepts at midnight. -/
theorem towerRun_of (early : EarlyClock clock) {request : ClearanceRequest}
    {response : ClearanceResponse}
    (built : buildClearanceRequest std { inputs parameters with actParity } "req-1" = .ok request)
    (answered : ∀ history, client.requestClearance history request 20 = .ok response)
    (accepts : verifier.Accepts std request response (clockAt 0)) :
    ControlPlane.TowerRun std (towerPlane clock client verifier actParity)
      (revealRequest parameters) [] client reveal request response := by
  set plane := towerPlane clock client verifier actParity
  have opening : clock ([] ++ (plane.openingEvents (revealRequest parameters)).map .emitted)
      = clockAt 0 := by
    refine early _ (List.any_eq_false.mpr fun effect member => ?_)
    rw [(ControlPlane.openingEvents_neutral (revealRequest parameters) effect member).2.1]
    exact Bool.false_ne_true
  have same : plane.decisionOf (revealRequest parameters) = decision := rfl
  have reading : plane.nowFactory
      ([] ++ (plane.openingEvents (revealRequest parameters)).map .emitted) = clockAt 0 := opening
  refine ⟨known, ⟨?_, fun real => Bool.noConfusion real⟩, ?_, rfl, rfl, ⟨rfl, rfl, rfl, trivial⟩,
    ?_, rfl, answered _, ⟨verifier, rfl, ?_⟩, rfl, rfl⟩
  · rw [same, decision_asks]
    decide
  · rw [same, PolicyDecisionResult.requiresApproval, decision_asks]
    rfl
  · rw [ControlPlane.clearanceRequestAt, same, reading, clearanceInputs_eq]
    exact built
  · rw [reading]
    exact accepts

end Cleared

/-- The tower of the deployment clears the request, whatever its parameters are. -/
theorem towerRun {clock : List Effect → Datetime} (early : EarlyClock clock) (parameters : Params) :
    ControlPlane.TowerRun library (plane clock) (revealRequest parameters) []
      (client.toClearanceClient library) reveal clearanceRequest response :=
  towerRun_of early (built parameters) answered accepts

/-- A clock that jumps half a minute while the tower is asked. -/
def slowClock (history : List Effect) : Datetime :=
  if history.any Effect.isQuestion then clockAt 30 else clockAt 0

theorem slowClock_early : EarlyClock slowClock := fun history unasked => by
  unfold slowClock
  rw [unasked]
  rfl

end Deployment

namespace ControlPlane

variable {std : Stdlib} {plane : ControlPlane} {request : CapabilityRequest}
  {history : List Effect} {s : PlaneState}

/-! ## The chain fails closed -/

/-- **The chain fails closed.** The client always returns a response; and where the plane is wired to
it and to the tower's verifier, a request is executed after a question to the tower only if the
status payload of that very exchange approves the request asked about, at a time read before. -/
theorem tower_fails_closed (std : Stdlib) (client : ACTHTTPClearanceClient Effect)
    (registry : TowerKeyRegistry) (towerId : String) (testMode : Bool) :
    (∀ history request timeoutSeconds, ∃ response,
      client.requestClearance std history request timeoutSeconds = .ok response) ∧
    ∀ (plane : ControlPlane) (request : CapabilityRequest) (history : List Effect)
      (s : PlaneState) (before after : List Effect) (clearanceRequest : ClearanceRequest)
      (timeoutSeconds : Int) (answer : Except PyExc ClearanceResponse),
      plane.clearanceClient = some (client.toClearanceClient std) →
      plane.clearanceVerifier
        = some ⟨towerId, actClearanceProofVerifier std registry, testMode⟩ →
      (plane.handle std request history s).effects
        = before ++ .clearanceAsked clearanceRequest timeoutSeconds answer :: after →
      executions after ≠ [] →
      ∃ payload now,
        client.statusPayload std (history ++ before) clearanceRequest timeoutSeconds
          = .ok (.obj payload) ∧
        .clockRead now ∈ before ∧ Approves std registry towerId clearanceRequest payload now := by
  constructor
  · intro history request timeoutSeconds
    obtain ⟨response, returned, -⟩ :=
      client.requestClearance_cases std history request timeoutSeconds
    exact ⟨response, returned⟩
  · intro plane request history s before after clearanceRequest timeoutSeconds answer wired
      configured effects executed
    obtain ⟨client', capability, response, rfl, rfl, rfl, cleared⟩ :=
      towerRun_of_question effects executed
    rw [cleared.wired] at wired
    cases wired
    obtain ⟨verifier, configured', accepts⟩ := cleared.chain.accepted
    rw [configured] at configured'
    cases configured'
    have answered := cleared.chain.answered
    rw [List.append_assoc] at answered
    obtain ⟨_, returned, ⟨payload, status, parsed⟩ | unavailable⟩ :=
      client.requestClearance_cases std
        (history ++ plane.beforeQuestion request capability history clearanceRequest)
        clearanceRequest plane.clearanceTimeoutSeconds
    · cases returned.symm.trans answered
      obtain ⟨entries, rfl, approves⟩ := approves_of_accepts parsed accepts
      refine ⟨entries, _, status, ?_, approves⟩
      exact List.mem_append_right _ (List.mem_append_left _ List.mem_cons_self)
    · cases returned.symm.trans answered
      have cleared := accepts.cleared
      rw [unavailable] at cleared
      cases cleared

/-- The approved request of the deployment is executed, on the payload that approves it. -/
theorem tower_fails_closed_deployment :
    ∃ payload now, Deployment.client.statusPayload Deployment.library
        ((Deployment.plane Deployment.slowClock).beforeQuestion (Deployment.revealRequest [])
          Deployment.reveal [] Deployment.clearanceRequest) Deployment.clearanceRequest 20
        = .ok (.obj payload) ∧
      Approves Deployment.library Deployment.keys "act-local" Deployment.clearanceRequest payload
        now := by
  obtain ⟨after, executed, -, effects⟩ :=
    (Deployment.towerRun Deployment.slowClock_early []).effects (s := Deployment.start)
  obtain ⟨payload, now, status, -, approves⟩ :=
    (tower_fails_closed Deployment.library Deployment.client Deployment.keys "act-local" false).2
      _ _ _ _ _ _ _ _ _ rfl rfl effects executed
  exact ⟨payload, now, status, approves⟩

/-! ## The clock while the tower is asked -/

variable (std plane request history s) in
/-- The provider is called after a clearance only if that expires later than the clock shows when
the tower's answer has come. -/
def ClearedInTime : Prop :=
  ∀ before after clearanceRequest timeoutSeconds response,
    (plane.handle std request history s).effects
      = before ++ .clearanceAsked clearanceRequest timeoutSeconds (.ok response) :: after →
    executions after ≠ [] →
    ACTClearanceVerifier.UnexpiredAt std response (plane.nowFactory (history ++ (before
      ++ [.clearanceAsked clearanceRequest timeoutSeconds (.ok response)])))

/-- **When a clearance is in time**: the verifier is given the clock as it was before the tower was
asked, so a clearance is in time exactly where what it accepts by that clock has not run out when the
answer comes. -/
theorem clearedInTime_iff :
    ClearedInTime std plane request history s ↔
      ∀ client capability clearanceRequest response,
        TowerRun std plane request history client capability clearanceRequest response →
        ACTClearanceVerifier.UnexpiredAt std response (plane.nowFactory (history
          ++ (plane.beforeQuestion request capability history clearanceRequest
            ++ [.clearanceAsked clearanceRequest plane.clearanceTimeoutSeconds
              (.ok response)]))) := by
  constructor
  · intro inTime client capability clearanceRequest response cleared
    obtain ⟨after, executed, -, effects⟩ := cleared.effects (s := s)
    exact inTime _ after _ _ response effects executed
  · intro inTime before after clearanceRequest timeoutSeconds response effects executed
    obtain ⟨client, capability, response', answer, rfl, rfl, cleared⟩ :=
      towerRun_of_question effects executed
    cases answer
    exact inTime client capability clearanceRequest response cleared

/-- A clearance that runs out after fifteen seconds is executed although its answer took thirty. -/
theorem not_clearedInTime_slowClock :
    ¬ ClearedInTime Deployment.library (Deployment.plane Deployment.slowClock)
      (Deployment.revealRequest []) [] Deployment.start := by
  intro inTime
  obtain ⟨after, executed, -, effects⟩ :=
    (Deployment.towerRun Deployment.slowClock_early []).effects (s := Deployment.start)
  obtain ⟨expiresAt, nowUtc, expiryUtc, expiry, nowEq, expiryEq, order⟩ :=
    inTime _ after _ _ _ effects executed
  cases expiry
  have late (history : List Effect) (clearanceRequest : ClearanceRequest) (timeout : Int)
      (answer : Except PyExc ClearanceResponse) :
      Deployment.slowClock (history ++ [.clearanceAsked clearanceRequest timeout answer])
        = Deployment.clockAt 30 := by
    unfold Deployment.slowClock
    rw [List.any_append, List.any_cons, List.any_nil]
    exact if_pos (Bool.or_true _)
  have clock : (Deployment.plane Deployment.slowClock).nowFactory = Deployment.slowClock := rfl
  rw [List.nil_append, clock, late] at nowEq
  cases nowEq
  cases expiryEq
  revert order
  decide

/-! ## What no approval may unlock -/

/-- **The tower alone unlocks a blocked capability**: stored and signed grants never name one, but
nothing on the tower's route asks, so an ask-class request for it is executed exactly when the
tower's channel is selected and the whole chain goes through. -/
theorem blocked_executes_iff (blocked : request.capabilityId ∈ approvalResumptionBlockedCapabilities)
    (asks : (plane.decisionOf request).requiresApproval = true) :
    ¬ Executes (plane.handle std request) history s ↔
      ¬ ∃ client capability clearanceRequest response,
        TowerRun std plane request history client capability clearanceRequest response := by
  refine not_congr ⟨fun executes => ?_, ?_⟩
  · obtain ⟨capability, before, s', authorisation, execution⟩ := execution_of_executes executes
    cases execution.route with
    | policy allows => exact absurd (asks.symm.trans allows) (by decide)
    | clearance _ _ _ _ =>
        obtain ⟨client, clearanceRequest, cleared⟩ := execution.towerRun
        exact ⟨client, capability, clearanceRequest, _, cleared⟩
    | signed _ _ accepted => exact absurd blocked accepted.resumable
    | stored _ _ _ matched => exact absurd blocked matched.resumable
  · rintro ⟨client, capability, clearanceRequest, response, cleared⟩
    exact cleared.executes

/-- The rule and its exception at the deployment's request. -/
theorem blocked_executes_iff_reveal :
    ¬ Executes ((Deployment.plane Deployment.slowClock).handle Deployment.library
        (Deployment.revealRequest [])) [] Deployment.start ↔
      ¬ ∃ client capability clearanceRequest response,
        TowerRun Deployment.library (Deployment.plane Deployment.slowClock)
          (Deployment.revealRequest []) [] client capability clearanceRequest response :=
  blocked_executes_iff (by decide) (Deployment.towerRun Deployment.slowClock_early []).asks

/-- The tower unlocks the reveal of a secret. -/
theorem reveal_executes :
    (Deployment.revealRequest []).capabilityId ∈ approvalResumptionBlockedCapabilities ∧
      ((Deployment.plane fun _ => Deployment.clockAt 0).decisionOf
        (Deployment.revealRequest [])).requiresApproval = true ∧
      Executes ((Deployment.plane fun _ => Deployment.clockAt 0).handle Deployment.library
        (Deployment.revealRequest [])) [] Deployment.start := by
  have cleared := Deployment.towerRun (fun _ _ => rfl : Deployment.EarlyClock _) []
  exact ⟨by decide, cleared.asks, cleared.executes⟩

end ControlPlane

end AgenticKVM
