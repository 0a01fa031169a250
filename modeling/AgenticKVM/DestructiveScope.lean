import AgenticKVM.Soundness

/-! # Destructive work on real hardware

Destructive work on real hardware is meant to need target and session scopes that name its target
and session. The scopes of a policy read an empty allow set as one that allows everything, and no
other check stands behind them, so the rule holds exactly where something else stops the request or
both allow sets are filled in (`explicitlyScoped_iff`). -/

namespace AgenticKVM

open Lib (Json Prog)

/-- An id in a scope whose allow set is filled in is listed there. -/
theorem mem_of_scopeAllows {allow deny : List String} {id : String}
    (allows : scopeAllows allow deny (some id) = true) (filled : allow ≠ []) : id ∈ allow := by
  simp only [scopeAllows, Bool.and_eq_true, Bool.or_eq_true, List.isEmpty_iff, filled,
    decide_eq_true_eq, false_or] at allows
  exact allows.2

/-- Every decision of a policy has a reason. -/
theorem CapabilityPolicy.decisionFor_reason_ne (policy : CapabilityPolicy) (capabilityId : String)
    (targetId sessionId credentialId : Option String) (registry : CapabilityRegistry) :
    (policy.decisionFor capabilityId targetId sessionId credentialId registry).reason ≠ "" := by
  have default : "default " ++ policy.mode.value ++ " mode decision" ≠ "" := by
    cases policy.mode <;> decide
  unfold CapabilityPolicy.decisionFor
  split
  · exact of_decide_eq_true rfl
  split_ifs
  all_goals try exact of_decide_eq_true rfl
  split
  · next rule _ =>
      -- a rule without a reason of its own is given one
      cases rule.reason with
      | none => simp
      | some reason => by_cases empty : reason = "" <;> simp [empty]
  · exact default

namespace ControlPlane

variable {std : Stdlib} {policy : CapabilityPolicy} {registry : CapabilityRegistry}
  {capabilityId targetId sessionId : String} {credentialId : Option String}

/-- A capability of the registry that is destructive. -/
def Destructive (registry : CapabilityRegistry) (capabilityId : String) : Prop :=
  ∃ capability, registry.get capabilityId = some capability ∧ capability.destructive = true

/-- **Destructive work stays within explicit scopes**: whatever the control plane with this policy
is wired to, whatever happened before, whatever the approval state and the rest of the request are,
a destructive capability is executed on real hardware only where the scopes list its target and its
session. -/
def ExplicitlyScoped (std : Stdlib) (policy : CapabilityPolicy) (registry : CapabilityRegistry)
    (capabilityId targetId sessionId : String) (credentialId : Option String) : Prop :=
  ∀ (plane : ControlPlane) (request : CapabilityRequest) (history : List Effect) (s : PlaneState),
    plane.policy = policy → plane.registry = registry → request.capabilityId = capabilityId →
    request.targetId = targetId → request.sessionId = sessionId →
    request.credentialId = credentialId → Destructive registry capabilityId →
    plane.provider.isRealHardware = true → Executes (plane.handle std request) history s →
    targetId ∈ policy.targetScope.allow ∧ sessionId ∈ policy.sessionScope.allow

/-! ## Requests nothing stands in the way of

A control plane whose sink records everything, whose provider is real hardware and whose tower, if
one is wired, clears every request. -/

/-- A sink that records everything records any events. -/
theorem records_of_recording {plane : ControlPlane}
    (recording : ∀ history event, plane.auditSink history event = none) (history : List Effect)
    (events : List AuditEmission) : plane.Records history events := by
  induction events generalizing history with
  | nil => trivial
  | cons event rest ih => exact ⟨recording _ _, ih _⟩

/-- Where the opening events are recorded and the decision passes, the provider is called where the
clearance or the execution calls it. -/
theorem executes_handle_of_passes {plane : ControlPlane} {request : CapabilityRequest}
    {capability : Capability} {history : List Effect} {s : PlaneState}
    (known : plane.registry.get request.capabilityId = some capability)
    (passes : plane.Passes (plane.decisionOf request))
    (opened : plane.Records history (plane.openingEvents request)) :
    Executes (plane.handle std request) history s ↔
      Executes (if (plane.decisionOf request).requiresApproval then
          plane.clear std request capability
            (capabilityRefOf request.capabilityId (some capability)) (plane.decisionOf request)
        else plane.executeProvider request capability
          (capabilityRefOf request.capabilityId (some capability)) (plane.decisionOf request))
        (history ++ (plane.openingEvents request).map .emitted) s := by
  rw [← @Passes.decide_eq std _ _ _ _ _ passes]
  unfold handle
  rw [known]
  exact Prog.does_bind_ok (emitAll_idle _) (emitAll_run opened)

/-- The response of a tower that clears whatever it is asked. -/
def clearing (request : ClearanceRequest) : ClearanceResponse where
  status := .cleared
  requestId := request.requestId
  sessionId := request.sessionId
  target := request.target
  provider := request.provider
  capability := request.capability
  paramsFingerprint := request.paramsFingerprint
  shortCode := request.shortCode
  expiresAt := some request.expiresAt
  towerId := .str "act-local"
  proof := some []
  auditCorrelationId := request.auditCorrelationId
  operatorMessage := ""
  reason := ""
  contractVersion := contractVersionV2
  boundMaterial := none
  riskFamily := request.riskSummary.riskFamily
  fingerprintPresent := request.paramsFingerprint_ne
  codePresent := request.shortCode_ne
  messageForm := rfl
  expiryAware t member := by
    cases member
    exact request.wellFormed.aware.2

/-- A verifier that trusts the tower and accepts its proofs. -/
def trustingVerifier : ACTClearanceVerifier := ⟨"act-local", ⟨false, fun _ _ => .ok true⟩, false⟩

/-- The clearing response is accepted for its request where the request has not expired. -/
theorem accepts_clearing {clearanceRequest : ClearanceRequest} {now : Datetime}
    (unexpired : ACTClearanceVerifier.UnexpiredAt std (clearing clearanceRequest) now) :
    trustingVerifier.Accepts std clearanceRequest (clearing clearanceRequest) now where
  cleared := rfl
  tower := rfl
  bound := by
    intro entry member
    rw [ACTClearanceVerifier.checks, List.mem_append] at member
    rcases member with compared | echoed
    · simp only [List.mem_cons, List.not_mem_nil, or_false] at compared
      rcases compared with rfl | rfl | rfl | rfl | rfl | rfl | rfl | rfl <;> rfl
    · split_ifs at echoed
      · rw [List.mem_singleton.mp echoed]
        rfl
      · cases echoed
  unexpired
  proofPresent := by simp [clearing]
  notMock := by simp [trustingVerifier]
  proofVerified := rfl

/-- A provider of real hardware that answers every request. -/
def hardwareProvider : Provider where
  providerId := "bmc"
  providerKind := "redfish"
  isRealHardware := true
  executeAuthorized _ request := .ok
    { ok := true, providerId := "bmc", capability := request.capability, action := request.action
      targetId := request.targetId, performedOnHardware := true, message := "done" }

/-- A control plane in which nothing but the policy stands in the way, with the tower of the
client, if one is given. -/
def openPlane (policy : CapabilityPolicy) (registry : CapabilityRegistry)
    (client : Option ClearanceClient) : ControlPlane where
  policy
  provider := hardwareProvider
  auditSink _ _ := none
  registry
  nowFactory _ := Deployment.clockAt 0
  freshId _ := "0f8fad5bd9cb469fa16570867728950e"
  approvalGrantVerifier := none
  clearanceClient := client
  clearanceVerifier := some trustingVerifier
  clearanceTimeoutSeconds := 20
  authChannelSelection := ⟨.mobileSigned, true, true, "Agentic Control Tower", none⟩
  actParityFingerprint := false

/-- The request of an agent, without parameters. -/
def plainRequest (capabilityId targetId sessionId : String) (credentialId : Option String) :
    CapabilityRequest where
  capabilityId
  targetId
  sessionId
  correlationId := "corr-1"
  requester := ⟨.agent, "agent-1", Deployment.agent_named⟩
  intendedEffect := "maintenance"
  parameters := []
  credentialId
  approvalRequestId := none
  signedApprovalGrant := none

variable {client : Option ClearanceClient} {history : List Effect} {s : PlaneState}

/-- The stored grant that approves the plain request. -/
def plainGrant (std : Stdlib) (capabilityId targetId sessionId : String)
    (resumable : capabilityId ∉ approvalResumptionBlockedCapabilities) : ApprovalGrant where
  requestId := "request-1"
  responseId := "response-1"
  capabilityId
  sessionId
  targetId
  providerId := "bmc"
  paramsFingerprint := std.sha256 (Json.dumps (jsonDefaultStr std (.dict [])))
  expiresAt := Deployment.clockAt 900
  scope := .session
  operator := ⟨.operator, "operator-1", Deployment.operator_named⟩
  resumable
  byOperator := Deployment.operator_type

/-- **A stored grant executes the plain request** on the open control plane, where approvals may
resume its capability. -/
theorem executes_plain_stored {capability : Capability} {capabilityRef : CapabilityRef}
    {decision : PolicyDecisionResult}
    (resumable : capabilityId ∉ approvalResumptionBlockedCapabilities) :
    Executes ((openPlane policy registry none).clear std
        (plainRequest capabilityId targetId sessionId credentialId) capability capabilityRef
        decision) history
      ⟨some ⟨[plainGrant std capabilityId targetId sessionId resumable], []⟩, []⟩ := by
  set plane := openPlane policy registry none
  set request := plainRequest capabilityId targetId sessionId credentialId
  set grant := plainGrant std capabilityId targetId sessionId resumable
  have locally : plane.ClearsLocally := fun wired => Bool.noConfusion wired.2
  have unsigned (history : List Effect) (s : PlaneState) :
      plane.verifySignedApprovalGrant std request capabilityRef decision history s
        = ⟨.ok false, s, []⟩ := rfl
  have hash : actionFingerprint std request.parameters = .ok grant.paramsFingerprint := rfl
  have found : (ApprovalStore.mk [grant] []).findActionGrant grant.binding (Deployment.clockAt 0)
      = .ok (some grant) := by
    have usable : (ApprovalStore.mk [grant] []).usable grant = true := rfl
    have early : Datetime.lt (Deployment.clockAt 0) (Deployment.clockAt 900) = .ok true := by
      decide
    have matched : grant.matches grant.binding (Deployment.clockAt 0) = .ok true :=
      (if_pos rfl).trans early
    rw [ApprovalStore.findActionGrant, ApprovalStore.findIn, if_pos usable, matched]
    rfl
  rw [clear_of_locally locally, handleLocalClearance]
  refine (Prog.does_bind_ok verifySignedApprovalGrant_idle (unsigned _ _)).mpr ?_
  rw [if_neg Bool.false_ne_true]
  have matching (history : List Effect) :
      plane.matchingApprovalGrant std request history ⟨some ⟨[grant], []⟩, []⟩
        = ⟨.ok (some grant), ⟨some ⟨[grant], []⟩, []⟩, [.clockRead (Deployment.clockAt 0)]⟩ := by
    rw [matchingApprovalGrant, Prog.get_bind_run]
    dsimp only
    rw [hash, Prog.bind_run_ok (Prog.ofExcept_run _), Prog.bind_run_ok now_run]
    have same : (⟨request.capabilityId, request.sessionId, request.targetId,
        plane.provider.providerId, grant.paramsFingerprint⟩ : ActionBinding) = grant.binding := rfl
    have time : plane.nowFactory (history ++ []) = Deployment.clockAt 0 := rfl
    rw [same, time, found]
    rfl
  refine (Prog.does_bind_ok matchingApprovalGrant_idle (matching _)).mpr ?_
  have consumed (history : List Effect) :
      plane.consumeGrant request capabilityRef decision grant history ⟨some ⟨[grant], []⟩, []⟩
        = ⟨.ok (), ⟨some ⟨[grant], []⟩, []⟩,
          [.emitted (consumedEvent request capabilityRef decision grant)]⟩ := by
    rw [consumeGrant, Prog.get_bind_run]
    rfl
  refine (Prog.does_bind_ok (consumeGrant_idle grant) (consumed _)).mpr ?_
  exact executes_executeProvider.mpr rfl

/-! ## The tower's route -/

/-- A client whose tower clears whatever it is asked. -/
def clearingClient : ClearanceClient := ⟨fun _ request _ => .ok (clearing request)⟩

theorem midnight_before : Datetime.le (Deployment.clockAt 20) (Deployment.clockAt 0) = .ok false := by
  decide

/-- The clearance request of the plain request, at midnight. -/
def plainClearance (std : Stdlib) (digest : ∀ text, std.sha256 text ≠ "")
    (decision : PolicyDecisionResult) (reasoned : decision.reason ≠ "")
    (capabilityId targetId sessionId : String)
    (present : capabilityId ≠ "" ∧ targetId ≠ "" ∧ sessionId ≠ "") (capability : Capability) :
    ClearanceRequest :=
  let hash := std.sha256 (Json.dumps (.obj []))
  let code := localShortCode std "0f8fad5bd9cb469fa16570867728950e" hash
  { requestId := "0f8fad5bd9cb469fa16570867728950e"
    sessionId
    target := targetId
    provider := "bmc"
    capability := capabilityId
    paramsFingerprint := hash
    riskSummary := ⟨clearanceRiskFamilyForCapability (some capability), decision.reason,
      decision.materialRisks, reasoned⟩
    operatorMessage := buildOperatorMessage code capabilityId targetId "bmc" "maintenance"
      decision.reason
    requestedBy := "agent-1"
    createdAt := Deployment.clockAt 0
    expiresAt := Deployment.clockAt 20
    shortCode := code
    policyContext := [(.str "decision", .str decision.decision.value)]
    auditCorrelationId := "corr-1"
    aircraft := actAircraftId
    wellFormed :=
      { complete := by
          have code : code ≠ "" := by
            simp [code, localShortCode]
          simp [ClearanceRequestFields.missing, ClearanceRequestFields.required,
            buildOperatorMessage_ne, present, digest, hash, code, actAircraftId]
        message := buildOperatorMessage_noDoubleDot ..
        aware := ⟨rfl, rfl⟩
        ordered := midnight_before } }

/-- **The tower executes the plain request** on the open control plane, whatever its capability,
where the ids are not empty. -/
theorem executes_plain_cleared (digest : ∀ text, std.sha256 text ≠ "") {capability : Capability}
    {capabilityRef : CapabilityRef} {decision : PolicyDecisionResult}
    (reasoned : decision.reason ≠ "")
    (present : capabilityId ≠ "" ∧ targetId ≠ "" ∧ sessionId ≠ "") :
    Executes ((openPlane policy registry (some clearingClient)).clear std
        (plainRequest capabilityId targetId sessionId credentialId) capability capabilityRef
        decision) history s := by
  set plane := openPlane policy registry (some clearingClient)
  set request := plainRequest capabilityId targetId sessionId credentialId
  set clearanceRequest := plainClearance std digest decision reasoned capabilityId targetId
    sessionId present capability with clearanceEq
  have built : plane.clearanceRequestAt std request capability decision history
      = .ok clearanceRequest := by
    have bounded : ¬ (20 : Int) < 0 ∧ ¬ (20 : Int) > defaultClearanceTimeoutSeconds := by decide
    refine buildClearanceRequest_eq bounded ?_ ?_ (dif_pos reasoned) ?_ ?_ rfl
    · rfl
    · rfl
    · show (Deployment.clockAt 0).astimezoneUtc std = .ok (Deployment.clockAt 0)
      rfl
    · rfl
  have unexpired : ACTClearanceVerifier.UnexpiredAt std (clearing clearanceRequest)
      (Deployment.clockAt 0) :=
    ⟨Deployment.clockAt 20, Deployment.clockAt 0, Deployment.clockAt 20, rfl, rfl, rfl, by decide⟩
  rw [clear_of_wired rfl rfl]
  exact executes_handleActClearance.mpr ⟨clearanceRequest, clearing clearanceRequest,
    { built
      requested := rfl
      answered := rfl
      accepted := ⟨trustingVerifier, rfl, accepts_clearing unexpired⟩
      verified := rfl
      announced := rfl }⟩

/-! ## When the rule holds -/

/-- The decision asks for an approval of what no approval may unlock, and the tower cannot be asked
about it either: its requests name their target and session. -/
def Unanswerable (policy : CapabilityPolicy) (registry : CapabilityRegistry)
    (capabilityId targetId sessionId : String) (credentialId : Option String) : Prop :=
  (policy.decisionFor capabilityId (some targetId) (some sessionId) credentialId registry
      ).decision.asks = true ∧
    capabilityId ∈ approvalResumptionBlockedCapabilities ∧ (targetId = "" ∨ sessionId = "")

/-- What the tower clears names its target and its session. -/
theorem TowerRun.named {plane : ControlPlane} {request : CapabilityRequest}
    {client : ClearanceClient} {capability : Capability} {clearanceRequest : ClearanceRequest}
    {response : ClearanceResponse}
    (cleared : TowerRun std plane request history client capability clearanceRequest response) :
    request.targetId ≠ "" ∧ request.sessionId ≠ "" := by
  have binds := buildClearanceRequest_binds cleared.chain.built
  have target : clearanceRequest.target = request.targetId := binds.target
  have session : clearanceRequest.sessionId = request.sessionId := binds.sessionId
  rw [← target, ← session]
  constructor
  · exact @ClearanceRequest.present clearanceRequest ("target", _)
      (by simp [ClearanceRequestFields.required])
  · exact @ClearanceRequest.present clearanceRequest ("session_id", _)
      (by simp [ClearanceRequestFields.required])

/-- A capability that no approval may unlock and that is not denied is not the empty id. -/
theorem capabilityId_ne_of_blocked
    (blocked : capabilityId ∈ approvalResumptionBlockedCapabilities) : capabilityId ≠ "" := by
  rintro rfl
  exact absurd blocked (by decide)

/-- **What is neither denied nor unanswerable can be executed**: some control plane with the policy,
on real hardware, executes a request with these ids. -/
theorem exists_executes_of_not_deny (digest : ∀ text, std.sha256 text ≠ "")
    (hardware : policy.targetScope.allowRealHardware = true)
    (ne : (policy.decisionFor capabilityId (some targetId) (some sessionId) credentialId registry
      ).decision ≠ .deny)
    (answerable : ¬ Unanswerable policy registry capabilityId targetId sessionId credentialId) :
    ∃ client s, Executes ((openPlane policy registry client).handle std
      (plainRequest capabilityId targetId sessionId credentialId)) [] s := by
  obtain ⟨capability, admits⟩ := CapabilityPolicy.decisionFor_of_ne_deny ne
  set decision := policy.decisionFor capabilityId (some targetId) (some sessionId) credentialId
    registry with decisionEq
  have reduce (client : Option ClearanceClient) (s : PlaneState) :=
    @executes_handle_of_passes std (openPlane policy registry client)
      (plainRequest capabilityId targetId sessionId credentialId) capability [] s
      admits.registered ⟨ne, fun _ => hardware⟩ (records_of_recording (fun _ _ => rfl) [] _)
  have asked (client : Option ClearanceClient) :
      ((openPlane policy registry client).decisionOf
        (plainRequest capabilityId targetId sessionId credentialId)).requiresApproval
        = decision.decision.asks := rfl
  by_cases asks : decision.decision.asks = true
  · by_cases blocked : capabilityId ∈ approvalResumptionBlockedCapabilities
    · -- only the tower is left
      have present : targetId ≠ "" ∧ sessionId ≠ "" :=
        not_or.mp fun missing => answerable ⟨asks, blocked, missing⟩
      refine ⟨some clearingClient, ⟨none, []⟩, (reduce _ _).mpr ?_⟩
      have reasoned : decision.reason ≠ "" := policy.decisionFor_reason_ne _ _ _ _ _
      rw [if_pos ((asked _).trans asks)]
      exact executes_plain_cleared digest reasoned
        ⟨capabilityId_ne_of_blocked blocked, present⟩
    · refine ⟨none, ⟨some ⟨[plainGrant std capabilityId targetId sessionId blocked], []⟩, []⟩,
        (reduce _ _).mpr ?_⟩
      rw [if_pos ((asked _).trans asks)]
      exact executes_plain_stored blocked
  · refine ⟨none, ⟨none, []⟩, (reduce _ _).mpr ?_⟩
    rw [if_neg (mt (asked _).symm.trans asks)]
    exact executes_executeProvider.mpr rfl

/-- **Exactly when destructive work on real hardware stays within explicit scopes**: the capability
is not destructive, the policy keeps real hardware out, it denies the request, the request asks for
an approval that cannot be given, or both allow sets are filled in. -/
theorem explicitlyScoped_iff (digest : ∀ text, std.sha256 text ≠ "") :
    ExplicitlyScoped std policy registry capabilityId targetId sessionId credentialId ↔
      ¬ Destructive registry capabilityId ∨ policy.targetScope.allowRealHardware = false ∨
      (policy.decisionFor capabilityId (some targetId) (some sessionId) credentialId registry
        ).decision = .deny ∨
      Unanswerable policy registry capabilityId targetId sessionId credentialId ∨
      (policy.targetScope.allow ≠ [] ∧ policy.sessionScope.allow ≠ []) := by
  constructor
  · intro listed
    by_contra open'
    push Not at open'
    obtain ⟨destructive, hardware, ne, answerable, empty⟩ := open'
    obtain ⟨client, s, executes⟩ :=
      exists_executes_of_not_deny digest (Bool.eq_true_of_not_eq_false hardware) ne answerable
    obtain ⟨target, session⟩ := listed _ _ [] s rfl rfl rfl rfl rfl rfl destructive rfl executes
    exact List.ne_nil_of_mem session (empty (List.ne_nil_of_mem target))
  · rintro condition plane request history s rfl rfl rfl rfl rfl rfl destructive real executes
    obtain ⟨capability, admits, hardware, authorised⟩ := handle_sound executes
    rcases condition with harmless | excluded | denied | ⟨asks, blocked, unnamed⟩ | ⟨targets, sessions⟩
    · exact absurd destructive harmless
    · exact absurd ((hardware real).symm.trans excluded) (by decide)
    · have denied : (plane.decisionOf request).decision = .deny := denied
      rw [denied] at authorised
      rcases authorised with ⟨allows, -⟩ | ⟨asks, -⟩
      · cases allows
      · cases asks
    · obtain ⟨client, capability, clearanceRequest, response, cleared⟩ :=
        not_not.mp (mt (blocked_executes_iff blocked asks).mpr (not_not.mpr executes))
      obtain ⟨target, session⟩ := cleared.named
      exact absurd unnamed (not_or.mpr ⟨target, session⟩)
    · exact ⟨mem_of_scopeAllows admits.targetInScope targets,
        mem_of_scopeAllows admits.sessionInScope sessions⟩

end ControlPlane

namespace Deployment

/-- A policy in Full Control mode with real hardware in scope, and its allow sets of targets and
sessions. -/
def hardwarePolicy (targets sessions : List String) : CapabilityPolicy :=
  { modePreset .fullControl none with
    targetScope := ⟨targets, [], true⟩
    sessionScope := ⟨sessions, [], true, true, rfl, rfl⟩ }

/-- The library's hashes are not empty. -/
theorem sha256_ne (text : String) : library.sha256 text ≠ "" := by
  rw [sha256_eq]
  split_ifs
  · decide
  · decide
  · decide
  · decide
  · simp

end Deployment

namespace ControlPlane

/-- A policy that lists its target and its session keeps the rule. -/
theorem explicitlyScoped_listed :
    ExplicitlyScoped Deployment.library (Deployment.hardwarePolicy ["vm-1"] ["session-1"])
      defaultCapabilityRegistry "power.force_off" "vm-1" "session-1" none :=
  (explicitlyScoped_iff Deployment.sha256_ne).mpr
    (Or.inr (Or.inr (Or.inr (Or.inr ⟨by decide, by decide⟩))))

/-- With empty allow sets a machine is switched off by force though no scope names it. -/
theorem not_explicitlyScoped :
    ¬ ∀ (policy : CapabilityPolicy) (capabilityId targetId sessionId : String)
      (credentialId : Option String),
      ExplicitlyScoped Deployment.library policy defaultCapabilityRegistry capabilityId targetId
        sessionId credentialId := by
  intro listed
  have destructive : Destructive defaultCapabilityRegistry "power.force_off" := by
    refine ⟨capability "power" "force_off" .critical true true targetSession, ?_, rfl⟩
    decide +kernel
  obtain ⟨client, s, executes⟩ :=
    @exists_executes_of_not_deny Deployment.library (Deployment.hardwarePolicy [] [])
      defaultCapabilityRegistry "power.force_off" "vm-1" "session-1" none Deployment.sha256_ne rfl
      (by decide +kernel) (by rintro ⟨-, blocked, -⟩; exact absurd blocked (by decide))
  obtain ⟨target, -⟩ := listed (Deployment.hardwarePolicy [] []) _ _ _ none _ _ [] s rfl rfl rfl rfl
    rfl rfl destructive rfl executes
  cases target

end ControlPlane

end AgenticKVM
