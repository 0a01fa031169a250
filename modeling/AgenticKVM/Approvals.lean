import AgenticKVM.Fingerprints
import AgenticKVM.Policy

/-! # Approvals

Operator approvals of gated decisions (`approvals.py`): the approval request shown to an operator,
the grants made from a response, and the store that hands a matching grant to the control plane and
marks one-time grants as consumed. The rule that some capabilities are never resumed by an approval
is a field of every grant. -/

namespace AgenticKVM

/-- `ActorType`. -/
inductive ActorType
  | agent
  | operator
  | service
  | provider
  | test
deriving DecidableEq

/-- `Actor`: requester or operator identity. -/
structure Actor where
  type : ActorType
  id : String
  idPresent : id ≠ ""
deriving DecidableEq

/-- `ApprovalGrantScope`: how often a grant can be used. -/
inductive ApprovalGrantScope
  | oneTime
  | session
deriving DecidableEq

/-- `APPROVAL_RESUMPTION_BLOCKED_CAPABILITIES`: what no approval may unlock. -/
def approvalResumptionBlockedCapabilities : List String :=
  ["session.modify_policy", "session.disable_audit", "session.disable_emergency_stop",
    "secrets.raw_reveal"]

/-- `CapabilityRef`: a small capability reference. -/
structure CapabilityRef where
  id : String
  family : String
  action : String
deriving DecidableEq

/-- `CapabilityRef.from_capability`. -/
def CapabilityRef.fromCapability (capability : Capability) : CapabilityRef :=
  ⟨capability.id, capability.family, capability.action⟩

/-- `ApprovalRequest`: an explainable request to an operator. -/
structure ApprovalRequest where
  id : String
  createdAt : Datetime
  expiresAt : Datetime
  sessionId : String
  requester : Actor
  capability : CapabilityRef
  targetIds : List String
  policyDecision : PolicyDecision
  operatorMessage : String
  materialRisks : List String
  proposedAuditEventId : String
  providerId : Option String
  limits : Params
  asks : policyDecision.asks = true
  targeted : targetIds ≠ []
  explained : materialRisks ≠ []
  ordered : Datetime.le expiresAt createdAt = .ok false

/-- `ApprovalRequest.__post_init__` on the fields of a request. -/
def ApprovalRequest.init (id : String) (createdAt expiresAt : Datetime) (sessionId : String)
    (requester : Actor) (capability : CapabilityRef) (targetIds : List String)
    (policyDecision : PolicyDecision) (operatorMessage : String) (materialRisks : List String)
    (proposedAuditEventId : String) (providerId : Option String) (limits : Params) :
    Except PyExc ApprovalRequest :=
  if asks : policyDecision.asks = true then
    if targeted : targetIds ≠ [] then
      if explained : materialRisks ≠ [] then
        match ordered : Datetime.le expiresAt createdAt with
        | .error e => .error e
        | .ok true => .error (.valueError "Approval request expiry must be after creation")
        | .ok false =>
            .ok ⟨id, createdAt, expiresAt, sessionId, requester, capability, targetIds,
              policyDecision, operatorMessage, materialRisks, proposedAuditEventId, providerId,
              limits, asks, targeted, explained, ordered⟩
      else .error (.valueError "Approval request requires material risks")
    else .error (.valueError "Approval request requires target scope")
  else .error (.valueError "Approval requests require an ask policy decision")

/-! ## Grants -/

/-- `ApprovalGrant`: a grant bound to an exact provider, target, capability and parameters. It never
names a capability that approvals cannot resume, and an operator gave it. -/
structure ApprovalGrant where
  requestId : String
  responseId : String
  capabilityId : String
  sessionId : String
  targetId : String
  providerId : String
  paramsFingerprint : String
  expiresAt : Datetime
  scope : ApprovalGrantScope
  operator : Actor
  resumable : capabilityId ∉ approvalResumptionBlockedCapabilities
  byOperator : operator.type = .operator
deriving DecidableEq

/-- The exact action a stored grant has to match. -/
structure ActionBinding where
  capabilityId : String
  sessionId : String
  targetId : String
  providerId : String
  paramsFingerprint : String
deriving DecidableEq

namespace ApprovalGrant

/-- `ApprovalGrant.reusable`. -/
def reusable (grant : ApprovalGrant) : Bool := grant.scope = .session

/-- The action a grant is bound to. -/
def binding (grant : ApprovalGrant) : ActionBinding :=
  ⟨grant.capabilityId, grant.sessionId, grant.targetId, grant.providerId,
    grant.paramsFingerprint⟩

/-- `ApprovalGrant.matches`: the expiry is compared only where every bound field agrees. -/
def «matches» (grant : ApprovalGrant) (action : ActionBinding) (now : Datetime) :
    Except PyExc Bool :=
  if action = grant.binding then Datetime.lt now grant.expiresAt else .ok false

/-- A matching grant is bound to the action and unexpired. -/
theorem matches_ok {grant : ApprovalGrant} {action : ActionBinding} {now : Datetime}
    (matched : grant.matches action now = .ok true) :
    grant.binding = action ∧ Datetime.lt now grant.expiresAt = .ok true := by
  unfold ApprovalGrant.matches at matched
  split at matched
  · next same => exact ⟨same.symm, matched⟩
  · cases matched

end ApprovalGrant

/-! ## The store -/

/-- `ApprovalStore`: action grants in the order they were added, and the consumed response ids. -/
structure ApprovalStore where
  actionGrants : List ApprovalGrant
  consumedResponseIds : List String

namespace ApprovalStore

/-- `ApprovalStore.__init__`. -/
def empty : ApprovalStore := ⟨[], []⟩

/-- `ApprovalStore.add_action_grant`. -/
def addActionGrant (store : ApprovalStore) (grant : ApprovalGrant) : ApprovalStore :=
  { store with actionGrants := store.actionGrants ++ [grant] }

/-- `ApprovalStore.consume`: marks a one-time grant's response id. -/
def consume (store : ApprovalStore) (grant : ApprovalGrant) : ApprovalStore :=
  if grant.reusable then store
  else { store with consumedResponseIds := grant.responseId :: store.consumedResponseIds }

/-- Whether the store still hands a grant out: it is reusable or its response id is not
consumed. -/
def usable (store : ApprovalStore) (grant : ApprovalGrant) : Bool :=
  grant.reusable || !(grant.responseId ∈ store.consumedResponseIds)

/-- The loop of `find_action_grant`. -/
def findIn (store : ApprovalStore) (action : ActionBinding) (now : Datetime) :
    List ApprovalGrant → Except PyExc (Option ApprovalGrant)
  | [] => .ok none
  | grant :: rest =>
      if store.usable grant then do
        if ← grant.matches action now then return some grant
        findIn store action now rest
      else findIn store action now rest

/-- `ApprovalStore.find_action_grant`: the first usable grant that matches. -/
def findActionGrant (store : ApprovalStore) (action : ActionBinding) (now : Datetime) :
    Except PyExc (Option ApprovalGrant) :=
  store.findIn action now store.actionGrants

variable {store : ApprovalStore} {action : ActionBinding} {now : Datetime}

/-- The loop returns a usable and matching grant of the list it goes through. -/
theorem findIn_some {grants : List ApprovalGrant} {grant : ApprovalGrant}
    (found : store.findIn action now grants = .ok (some grant)) :
    grant ∈ grants ∧ store.usable grant = true ∧ grant.matches action now = .ok true := by
  induction grants with
  | nil => simp [findIn] at found
  | cons first rest ih =>
      unfold findIn at found
      split at found
      · next usable =>
          cases matched : first.matches action now with
          | error e => simp [matched, bind, Except.bind] at found
          | ok b =>
              cases b with
              | true =>
                  simp [matched, bind, Except.bind, pure, Except.pure] at found
                  subst found
                  exact ⟨List.mem_cons_self, usable, matched⟩
              | false =>
                  simp [matched, bind, Except.bind] at found
                  obtain ⟨member, rest⟩ := ih found
                  exact ⟨List.mem_cons_of_mem _ member, rest⟩
      · obtain ⟨member, rest⟩ := ih found
        exact ⟨List.mem_cons_of_mem _ member, rest⟩

/-- **What the store hands out**: a stored grant bound to the exact action, unexpired, and reusable
or not yet consumed. -/
theorem findActionGrant_some {grant : ApprovalGrant}
    (found : store.findActionGrant action now = .ok (some grant)) :
    grant ∈ store.actionGrants ∧ grant.binding = action ∧
      Datetime.lt now grant.expiresAt = .ok true ∧
      (grant.scope = .session ∨ grant.responseId ∉ store.consumedResponseIds) := by
  obtain ⟨member, usable, matched⟩ := findIn_some found
  obtain ⟨bound, unexpired⟩ := ApprovalGrant.matches_ok matched
  refine ⟨member, bound, unexpired, ?_⟩
  simpa [ApprovalStore.usable, ApprovalGrant.reusable] using usable

@[simp] theorem consume_actionGrants (grant : ApprovalGrant) :
    (store.consume grant).actionGrants = store.actionGrants := by
  unfold consume
  split <;> rfl

/-- Consuming marks a one-time grant and keeps every mark. -/
theorem mem_consume (grant : ApprovalGrant) (id : String) :
    id ∈ (store.consume grant).consumedResponseIds ↔
      (grant.scope = .oneTime ∧ id = grant.responseId) ∨ id ∈ store.consumedResponseIds := by
  unfold consume ApprovalGrant.reusable
  cases scope : grant.scope <;> simp

end ApprovalStore

/-! ## Approval requests -/

/-- The minutes an approval request stays open by default. -/
def approvalTtlSeconds : Int := 15 * 60

/-- The message of `build_approval_request`. -/
def approvalMessage (requester : Actor) (capability : Capability) (targetIds : List String)
    (intendedEffect : String) (decision : PolicyDecision) : String :=
  requester.id ++ " requests " ++ capability.id ++ " for targets "
    ++ ", ".intercalate targetIds ++ ". Intended effect: " ++ intendedEffect
    ++ ". Policy decision: " ++ decision.value ++ "."

/-- `build_approval_request`, from the two ids its id factory gives. -/
def buildApprovalRequest (decisionResult : PolicyDecisionResult) (capability : Capability)
    (sessionId : String) (requester : Actor) (targetIds : List String) (intendedEffect : String)
    (now : Datetime) (id proposedAuditEventId : String) (providerId : Option String) :
    Except PyExc ApprovalRequest := do
  raiseIf (¬ decisionResult.requiresApproval)
    (.valueError "Policy decision does not require approval")
  let expiresAt ← now.addSeconds approvalTtlSeconds
  ApprovalRequest.init id now expiresAt sessionId requester
    (CapabilityRef.fromCapability capability) targetIds decisionResult.decision
    (approvalMessage requester capability targetIds intendedEffect decisionResult.decision)
    (if decisionResult.materialRisks = [] then ["operator approval required"]
      else decisionResult.materialRisks)
    proposedAuditEventId providerId decisionResult.limits

end AgenticKVM
