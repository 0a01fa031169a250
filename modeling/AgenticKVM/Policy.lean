import AgenticKVM.Capabilities

/-! # The policy decision

A policy turns a capability request into a decision (`policy.py`). `CapabilityPolicy.decisionFor`
follows the source check by check, and `decisionFor_of_ne_deny` says once what every decision other
than a denial has passed; the control plane's guarantees about what may execute rest on it. -/

namespace AgenticKVM

/-- `HARD_DENY_CAPABILITIES`. -/
def hardDenyCapabilities : List String :=
  ["session.modify_policy", "session.disable_audit", "session.disable_emergency_stop"]

/-- Whether an optional id lies in an allow/deny scope. No id is in scope only where the scope is
empty; an empty allow set allows everything that is not denied. -/
def scopeAllows (allow deny : List String) : Option String → Bool
  | none => allow.isEmpty && deny.isEmpty
  | some id => !(id ∈ deny) && (allow.isEmpty || id ∈ allow)

/-- `TargetScope`: the targets a policy allows and denies. -/
structure TargetScope where
  allow : List String
  deny : List String
  allowRealHardware : Bool

/-- `TargetScope.allows`. -/
def TargetScope.allows (scope : TargetScope) (targetId : Option String) : Bool :=
  scopeAllows scope.allow scope.deny targetId

/-- `SessionScope`: the sessions a policy allows and denies. Audit logging and the emergency stop
cannot be switched off. -/
structure SessionScope where
  allow : List String
  deny : List String
  requireAuditLog : Bool
  emergencyStop : Bool
  auditRequired : requireAuditLog = true
  stopRequired : emergencyStop = true

/-- `SessionScope.allows`. -/
def SessionScope.allows (scope : SessionScope) (sessionId : Option String) : Bool :=
  scopeAllows scope.allow scope.deny sessionId

/-- `PolicyRule`: an explicit rule for a capability. -/
structure PolicyRule where
  decision : PolicyDecision
  limits : Params
  reason : Option String

/-- `PolicyDecisionResult`: the result of evaluating one request. -/
structure PolicyDecisionResult where
  capabilityId : String
  decision : PolicyDecision
  reason : String
  matchedRule : Option String
  limits : Params
  materialRisks : List String

/-- `PolicyDecisionResult.requires_approval`. -/
def PolicyDecisionResult.requiresApproval (result : PolicyDecisionResult) : Bool :=
  result.decision.asks

/-- `CapabilityPolicy`: mode, scopes and explicit rules. -/
structure CapabilityPolicy where
  name : String
  mode : ControlMode
  targetScope : TargetScope
  sessionScope : SessionScope
  rules : List (String × PolicyRule)

/-- `_risks_for`. -/
def risksFor (capability : Capability) : List String :=
  (if capability.dangerous then ["dangerous action"] else [])
    ++ (if capability.destructive then ["destructive action"] else [])
    ++ (if capability.id = "secrets.raw_reveal" then ["raw secret reveal"] else [])

/-- `default_decision_for_mode`. -/
def defaultDecisionForMode (mode : ControlMode) (capability : Capability) : PolicyDecision :=
  if capability.id ∈ hardDenyCapabilities then .deny
  else
    let passive := capability.family ∈ ["observe", "session"] ∧ ¬ capability.dangerous
    match mode with
    | .custom => .deny
    | .observe => if passive then .allow else .deny
    | .assisted =>
        if passive then .allow
        else if capability.destructive ∨ capability.risk = .critical then .deny
        else .askEachTime
    | .supervised =>
        if passive then .allow
        else if capability.id ∈ ["media.mount_approved_iso", "secrets.inject_reference"] then
          .askOncePerSession
        else if capability.dangerous then .askEachTime
        else .allowWithLimits
    | .fullControl => if capability.id = "secrets.raw_reveal" then .askEachTime else .allow

/-- `mode_preset`: the built-in policy of a mode. -/
def modePreset (mode : ControlMode) (name : Option String) : CapabilityPolicy :=
  { name := match name with
      | some name => if name = "" then "default " ++ mode.value else name
      | none => "default " ++ mode.value
    mode
    targetScope := ⟨[], [], false⟩
    sessionScope := ⟨[], [], true, true, rfl, rfl⟩
    rules := [] }

namespace CapabilityPolicy

/-- A denial, for the given reason. -/
def denied (capabilityId reason : String) (materialRisks : List String) :
    PolicyDecisionResult :=
  ⟨capabilityId, .deny, reason, none, [], materialRisks⟩

/-- `CapabilityPolicy.decision_for`. -/
def decisionFor (policy : CapabilityPolicy) (capabilityId : String)
    (targetId sessionId credentialId : Option String) (registry : CapabilityRegistry) :
    PolicyDecisionResult :=
  match registry.get capabilityId with
  | none => denied capabilityId "unknown capability" []
  | some capability =>
    if capabilityId ∈ hardDenyCapabilities then
      denied capabilityId "hard invariant" (risksFor capability)
    else if "target" ∈ capability.requiredScope ∧ targetId = none then
      denied capabilityId "missing required target scope" (risksFor capability)
    else if "session" ∈ capability.requiredScope ∧ sessionId = none then
      denied capabilityId "missing required session scope" (risksFor capability)
    else if "credential" ∈ capability.requiredScope ∧ credentialId = none then
      denied capabilityId "missing required credential scope" (risksFor capability)
    else if ¬ policy.targetScope.allows targetId then
      denied capabilityId "target outside policy scope" (risksFor capability)
    else if ¬ policy.sessionScope.allows sessionId then
      denied capabilityId "session outside policy scope" (risksFor capability)
    else
      match policy.rules.lookup capabilityId with
      | some rule =>
          { capabilityId
            decision := rule.decision
            reason := match rule.reason with
              | some reason => if reason = "" then "explicit policy rule" else reason
              | none => "explicit policy rule"
            matchedRule := some capabilityId
            limits := rule.limits
            materialRisks := risksFor capability }
      | none =>
          { capabilityId
            decision := defaultDecisionForMode policy.mode capability
            reason := "default " ++ policy.mode.value ++ " mode decision"
            matchedRule := none
            limits := []
            materialRisks := risksFor capability }

/-- What a policy requires of a request before it decides anything but a denial: the capability is
known and not one of the hard denials, every scope it needs is present, and target and session lie
in the policy's scopes. -/
structure Admits (policy : CapabilityPolicy) (registry : CapabilityRegistry)
    (capabilityId : String) (targetId sessionId credentialId : Option String)
    (capability : Capability) : Prop where
  registered : registry.get capabilityId = some capability
  notHardDenied : capabilityId ∉ hardDenyCapabilities
  targetPresent : "target" ∈ capability.requiredScope → targetId ≠ none
  sessionPresent : "session" ∈ capability.requiredScope → sessionId ≠ none
  credentialPresent : "credential" ∈ capability.requiredScope → credentialId ≠ none
  targetInScope : policy.targetScope.allows targetId = true
  sessionInScope : policy.sessionScope.allows sessionId = true

variable {policy : CapabilityPolicy} {registry : CapabilityRegistry} {capabilityId : String}
  {targetId sessionId credentialId : Option String}

/-- A decision other than a denial has passed every check of the policy. -/
theorem decisionFor_of_ne_deny
    (ne : (policy.decisionFor capabilityId targetId sessionId credentialId registry).decision
      ≠ .deny) :
    ∃ capability, Admits policy registry capabilityId targetId sessionId credentialId
      capability := by
  unfold decisionFor at ne
  cases found : registry.get capabilityId with
  | none => simp [found, denied] at ne
  | some capability =>
      refine ⟨capability, ?_⟩
      simp only [found] at ne
      split_ifs at ne with hard target session credential inTarget inSession
      all_goals try exact absurd rfl ne
      exact
        { registered := found
          notHardDenied := hard
          targetPresent := fun needed missing => target ⟨needed, missing⟩
          sessionPresent := fun needed missing => session ⟨needed, missing⟩
          credentialPresent := fun needed missing => credential ⟨needed, missing⟩
          targetInScope := by simpa using inTarget
          sessionInScope := by simpa using inSession }

/-- A request the policy admits is decided by the policy's rule for it or its mode's default. -/
theorem Admits.decisionFor_decision {capability : Capability}
    (admits : Admits policy registry capabilityId targetId sessionId credentialId capability) :
    (policy.decisionFor capabilityId targetId sessionId credentialId registry).decision
      = match policy.rules.lookup capabilityId with
        | some rule => rule.decision
        | none => defaultDecisionForMode policy.mode capability := by
  unfold decisionFor
  simp only [admits.registered]
  rw [if_neg admits.notHardDenied, if_neg (fun h => admits.targetPresent h.1 h.2),
    if_neg (fun h => admits.sessionPresent h.1 h.2),
    if_neg (fun h => admits.credentialPresent h.1 h.2),
    if_neg (not_not_intro admits.targetInScope), if_neg (not_not_intro admits.sessionInScope)]
  cases policy.rules.lookup capabilityId <;> rfl

@[simp] theorem decisionFor_capabilityId :
    (policy.decisionFor capabilityId targetId sessionId credentialId registry).capabilityId
      = capabilityId := by
  unfold decisionFor
  split
  · rfl
  · split_ifs
    all_goals first | rfl | (split <;> rfl)

end CapabilityPolicy

end AgenticKVM
