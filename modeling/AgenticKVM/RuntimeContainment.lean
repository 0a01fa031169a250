import AgenticKVM.RuntimeTrails

/-! # What a runtime may do, and what it may do unattended

A runtime is built with the preset of its configuration's default mode, and a mode is a promise
about every run: in observe mode nothing but passive capabilities reaches a provider, assisted mode
never destroys, and what is dangerous waits for an operator in every mode below full control.
`runtime_contained` states it of all runs over all entry points, together with where the calls go:
past every lookup of the router, to an enabled provider that is no real hardware. -/

namespace AgenticKVM

open Lib (except_bind_eq_ok)

/-! ## Modes -/

/-- **A passive capability** observes or manages a session, and is not dangerous. -/
def Capability.Passive (capability : Capability) : Prop :=
  capability.family ∈ ["observe", "session"] ∧ ¬ capability.dangerous

instance (capability : Capability) : Decidable capability.Passive :=
  inferInstanceAs (Decidable (_ ∧ _))

/-- **What a mode permits** at all, with or without an operator. -/
def ControlMode.Permits : ControlMode → Capability → Prop
  | .custom, _ => False
  | .observe, capability => capability.Passive
  | .assisted, capability =>
      capability.Passive ∨ capability.destructive = false ∧ capability.risk ≠ .critical
  | .supervised, _ => True
  | .fullControl, _ => True

/-- **What a mode permits unattended**, without an operator's approval. -/
def ControlMode.PermitsUnattended : ControlMode → Capability → Prop
  | .custom, _ => False
  | .observe, capability => capability.Passive
  | .assisted, capability => capability.Passive
  | .supervised, capability => capability.Passive ∨ capability.dangerous = false
      ∧ capability.id ∉ ["media.mount_approved_iso", "secrets.inject_reference"]
  | .fullControl, capability => capability.id ≠ "secrets.raw_reveal"

section Modes

variable {mode : ControlMode} {capability : Capability}

/-- The default decision of a mode is a denial exactly for the hard denials and for what the mode
does not permit. -/
theorem defaultDecisionForMode_ne_deny_iff :
    defaultDecisionForMode mode capability ≠ .deny
      ↔ capability.id ∉ hardDenyCapabilities ∧ mode.Permits capability := by
  unfold defaultDecisionForMode
  by_cases hard : capability.id ∈ hardDenyCapabilities
  · simp [hard]
  · rw [if_neg hard]
    cases mode with
    | custom => simp [ControlMode.Permits]
    | observe =>
        change (if capability.Passive then _ else _) ≠ _ ↔ _
        by_cases passive : capability.Passive <;> simp [ControlMode.Permits, hard, passive]
    | assisted =>
        change (if capability.Passive then _ else _) ≠ _ ↔ _
        by_cases passive : capability.Passive
        · simp [ControlMode.Permits, hard, passive]
        · rw [if_neg passive]
          by_cases destroys : capability.destructive = true ∨ capability.risk = .critical
          · have forbidden : ¬ (capability.destructive = false ∧ capability.risk ≠ .critical) := by
              rintro ⟨harmless, mild⟩
              rcases destroys with destroys | critical
              · exact absurd (harmless.symm.trans destroys) (by decide)
              · exact mild critical
            simp only [ControlMode.Permits, passive, forbidden, or_self, and_false, iff_false,
              not_not]
            rw [if_pos destroys]
          · obtain ⟨harmless, mild⟩ := not_or.mp destroys
            simp [ControlMode.Permits, hard, harmless, mild]
    | supervised =>
        change (if capability.Passive then _ else _) ≠ _ ↔ _
        simp only [ControlMode.Permits, hard, not_false_eq_true, and_self, iff_true]
        split_ifs <;> simp
    | fullControl =>
        simp only [ControlMode.Permits, hard, not_false_eq_true, and_self, iff_true]
        split_ifs <;> simp

/-- Where it is no denial, it asks exactly where the mode does not permit the capability
unattended. -/
theorem asks_defaultDecisionForMode_iff
    (permitted : defaultDecisionForMode mode capability ≠ .deny) :
    (defaultDecisionForMode mode capability).asks = false ↔ mode.PermitsUnattended capability := by
  have hard := (defaultDecisionForMode_ne_deny_iff.mp permitted).1
  unfold defaultDecisionForMode at permitted ⊢
  rw [if_neg hard] at permitted ⊢
  cases mode with
  | custom => exact absurd rfl permitted
  | observe =>
      change (if capability.Passive then _ else _) ≠ _ at permitted
      change PolicyDecision.asks (if capability.Passive then _ else _) = _ ↔ capability.Passive
      split_ifs at permitted ⊢ with passive
      · simp [passive, PolicyDecision.asks]
      · exact absurd rfl permitted
  | assisted =>
      change (if capability.Passive then _ else _) ≠ _ at permitted
      change PolicyDecision.asks (if capability.Passive then _ else _) = _ ↔ capability.Passive
      split_ifs at permitted ⊢ with passive
      · simp [passive, PolicyDecision.asks]
      · exact absurd rfl permitted
      · simp [passive, PolicyDecision.asks]
  | supervised =>
      change PolicyDecision.asks (if capability.Passive then _ else _) = _ ↔
        capability.Passive ∨ _ ∧ _
      split_ifs with passive listed dangerous
      · simp [passive, PolicyDecision.asks]
      · simp [passive, listed, PolicyDecision.asks]
      · simp [passive, dangerous, PolicyDecision.asks]
      · simp [passive, listed, dangerous, PolicyDecision.asks]
  | fullControl =>
      change PolicyDecision.asks (if capability.id = "secrets.raw_reveal" then _ else _) = _ ↔
        capability.id ≠ "secrets.raw_reveal"
      split_ifs with reveals
      · simp [reveals, PolicyDecision.asks]
      · simp [reveals, PolicyDecision.asks]

end Modes

/-! ## The calls of a runtime -/

namespace ConfigRuntime

/-- **A call a runtime makes for a tool request**: past every lookup of its router, for the action
of the request, under the policy's decision, which is no denial and asks exactly where the call
stands on a grant. -/
structure CallFor (runtime : ConfigRuntime) (request : MCPToolRequest) (tool : MCPToolDefinition)
    (capability : Capability) (target : TargetDefinition) (entry : ProviderEntry)
    (call : AuditedCall) : Prop where
  contained : runtime.adapterRouter.Contained request call.adapter tool capability target entry
  action : call.request
    = ControlPlane.providerRequest (MCPRouter.capabilityRequest request tool) capability
  admitted : runtime.policy.Admits defaultCapabilityRegistry tool.capabilityId (some request.target)
    (some request.sessionId) (MCPRouter.credentialIdFromRequest request) capability
  notDenied : (runtime.callDecision request ⟨tool, target, call.adapter⟩) ≠ .deny
  asks : (runtime.callDecision request ⟨tool, target, call.adapter⟩).asks = call.grant.isSome

variable {lib : AuditLibrary} {runtime : ConfigRuntime} {history : List RuntimeEffect}
  {store : ApprovalStore}

/-- The calls of one tool request. -/
theorem handleToolRequest_callFor (request : MCPToolRequest) :
    ∀ call ∈ auditedCalls (runtime.adapterRouter.handleToolRequest lib request history
        (some store)).effects,
      ∃ tool capability target entry,
        runtime.CallFor request tool capability target entry call := by
  intro call member
  cases routed : runtime.adapterRouter.route request with
  | error refusal =>
      rw [MCPRouter.handleToolRequest, routed, auditedCalls,
        auditedFrom_own (MCPRouter.refuse_own refusal).1] at member
      cases member
  | ok route =>
      rw [handleToolRequest_routed routed] at member
      have unwired : runtime.adapterRouter.clearanceClient = none := rfl
      rcases @audited_of_handle lib runtime.adapterRouter history store unwired
          route.adapter localSelection (MCPRouter.capabilityRequest request route.tool) rfl
        with silent | ⟨made, after, isCall, -, callOf, accounted⟩
      · have none : call ∈ [] := (silent .fresh).subst member
        cases none
      · have same : call ∈ [made] := (isCall .fresh).subst member
        obtain rfl := List.mem_singleton.mp same
        obtain ⟨capability, entry, contained⟩ := (MCPRouter.route_eq_ok.mp routed).contained
        obtain ⟨admitted, admits, action⟩ := callOf.admitted
        have known := admits.registered.symm.trans contained.capabilityKnown
        cases known
        obtain ⟨decision, announced, notDenied, asks⟩ := accounted.announced
        cases callOf.decided.symm.trans announced
        refine ⟨route.tool, capability, route.target, entry, ?_, action, admits, notDenied, asks⟩
        rw [callOf.on]
        exact contained

/-- The calls of a sequence of requests. -/
theorem Requests.callFor {effects : List RuntimeEffect} {after : ApprovalStore}
    (requests : runtime.Requests lib history store effects after) :
    ∀ call ∈ auditedCalls effects, ∃ request tool capability target entry,
      runtime.CallFor request tool capability target entry call := by
  induction requests with
  | none => exact fun _ member => absurd member List.not_mem_nil
  | request call made left rest ih =>
      intro audited member
      rw [rest.auditedCalls_append, List.mem_append] at member
      rcases member with here | later
      · rw [← made] at here
        exact ⟨call, handleToolRequest_callFor call audited here⟩
      · exact ih audited later

/-- The calls of an operation, from any state of the runtime. -/
theorem runtimeStep_callFor {registry : PlaybookRegistry} {life : RuntimeLife}
    (operation : RuntimeOperation) :
    ∀ call ∈ auditedCalls (runtime.runtimeStep lib registry life operation).2,
      ∃ request tool capability target entry,
        runtime.CallFor request tool capability target entry call := by
  intro call member
  obtain ⟨-, requests | ⟨own, -⟩⟩ := @runtimeStep_leaves lib runtime registry life operation
  · exact requests.callFor call member
  · rw [auditedCalls, auditedFrom_own own] at member
    cases member

/-- Under the preset of a mode the decision is the mode's default. -/
theorem CallFor.decision {mode : ControlMode} (builtIn : runtime.policy = modePreset mode none)
    {request : MCPToolRequest} {tool : MCPToolDefinition} {capability : Capability}
    {target : TargetDefinition} {entry : ProviderEntry} {call : AuditedCall}
    (callFor : runtime.CallFor request tool capability target entry call) :
    runtime.callDecision request ⟨tool, target, call.adapter⟩
      = defaultDecisionForMode mode capability := by
  rw [callDecision, callFor.admitted.decisionFor_decision, builtIn]
  rfl

/-- **What the preset of a mode lets through**: the mode permits a call's capability, and permits it
unattended where the call stands on no grant. -/
theorem CallFor.permitted {mode : ControlMode} (builtIn : runtime.policy = modePreset mode none)
    {request : MCPToolRequest} {tool : MCPToolDefinition} {capability : Capability}
    {target : TargetDefinition} {entry : ProviderEntry} {call : AuditedCall}
    (callFor : runtime.CallFor request tool capability target entry call) :
    capability.id ∉ hardDenyCapabilities ∧ runtime.policy.mode.Permits capability
      ∧ (call.grant = none → runtime.policy.mode.PermitsUnattended capability) := by
  have permitted := callFor.notDenied
  have asks := callFor.asks
  rw [callFor.decision builtIn] at permitted asks
  obtain ⟨notHard, permits⟩ := defaultDecisionForMode_ne_deny_iff.mp permitted
  have modeIs : runtime.policy.mode = mode := by rw [builtIn]; rfl
  refine ⟨notHard, modeIs ▸ permits, fun unattended => ?_⟩
  rw [unattended] at asks
  rw [modeIs]
  exact (asks_defaultDecisionForMode_iff permitted).mp asks

end ConfigRuntime

open ConfigRuntime in
/-- **What a runtime does**, in every run from any state: each provider call was made for a tool
request past every lookup of the router, on an enabled provider of the requested target that is no
real hardware; the runtime's mode permits its capability, and permits it unattended where the call
stands on no operator's grant. -/
theorem runtime_contained (configLib : ConfigLibrary) (environment : RuntimeEnvironment)
    (transportFor : String → ACTHTTPTransport RuntimeEffect) (raw : Params)
    (runtime : ConfigRuntime)
    (built : runtimeOf configLib environment transportFor raw = .ok runtime) (lib : AuditLibrary)
    (registry : PlaybookRegistry) (life : RuntimeLife) (operations : List RuntimeOperation) :
    ∀ effects ∈ Lib.outputs (runtime.runtimeStep lib registry) life operations,
      (auditedCalls effects).map (fun call => (call.adapter, call.request))
          = effects.filterMap RuntimeEffect.providerCall
        ∧ ∀ call ∈ auditedCalls effects, ∃ request tool capability target entry,
          runtime.CallFor request tool capability target entry call
            ∧ call.adapter.isRealHardware = false
            ∧ capability.id ∉ hardDenyCapabilities
            ∧ runtime.policy.mode.Permits capability
            ∧ (call.grant = none → runtime.policy.mode.PermitsUnattended capability) := by
  obtain ⟨⟨mode, builtIn⟩, -⟩ := buildRuntime_policy built
  refine Lib.outputs_forall_of_each (fun life operation => ⟨auditedFrom_calls, ?_⟩) life operations
  intro call member
  obtain ⟨request, tool, capability, target, entry, callFor⟩ := runtimeStep_callFor operation call
    member
  obtain ⟨notHard, permits, unattended⟩ := callFor.permitted builtIn
  refine ⟨request, tool, capability, target, entry, callFor, ?_, notHard, permits, unattended⟩
  obtain ⟨config, -, built⟩ := except_bind_eq_ok.mp built
  obtain ⟨providers, -⟩ := buildRuntime_registries built
  have contained := callFor.contained
  exact buildProviderRegistry_not_real providers (ProviderRegistry.resolveEnabled_eq_ok.mpr
    ⟨entry, contained.providerRegistered, contained.providerEnabled,
      contained.providerExecutable, contained.providerAdapter⟩)

namespace Deployment

theorem getStatus_named : "get_status" ≠ "" := by decide

/-- A call that reads the status of the configured target. -/
def statusCall : HostToolCall :=
  { restartCall "lab-1" lab_named with
    toolName := "get_status"
    named := getStatus_named }

/-- The configuration is accepted, and its runtime calls a provider for the status at once. -/
def readsStatus : Bool :=
  match runtimeOf configLibrary calmEnvironment noTransport (targetConfig "lab-1") with
  | .error _ => false
  | .ok runtime => !(auditedCalls (runtime.runtimeStep stampLibrary defaultPlaybookRegistry .start
      (.adapterCall (.call statusCall))).2).isEmpty

end Deployment

open ConfigRuntime in
/-- A status is read unattended: its capability is one that the configured mode permits so. -/
theorem runtime_contained_status :
    ∃ runtime capability,
      runtimeOf Deployment.configLibrary Deployment.calmEnvironment Deployment.noTransport
        (Deployment.targetConfig "lab-1") = .ok runtime ∧
      (∃ call ∈ auditedCalls (runtime.runtimeStep Deployment.stampLibrary defaultPlaybookRegistry
          .start (.adapterCall (.call Deployment.statusCall))).2,
        call.request.capability = capability.id ∧ call.adapter.isRealHardware = false) ∧
      runtime.policy.mode.Permits capability := by
  have configured : Deployment.readsStatus = true := by decide +kernel
  unfold Deployment.readsStatus at configured
  split at configured
  · cases configured
  · next runtime built =>
      have some := List.isEmpty_eq_false_iff_exists_mem.mp ((Bool.not_eq_true' _).mp configured)
      obtain ⟨call, member⟩ := some
      obtain ⟨-, contained⟩ := runtime_contained Deployment.configLibrary Deployment.calmEnvironment
        Deployment.noTransport (Deployment.targetConfig "lab-1") runtime built
        Deployment.stampLibrary defaultPlaybookRegistry .start
        [.adapterCall (.call Deployment.statusCall)] _ List.mem_cons_self
      obtain ⟨request, tool, capability, target, entry, callFor, harmless, -, permits, -⟩ :=
        contained call member
      exact ⟨runtime, capability, built, ⟨call, member, by rw [callFor.action]; rfl, harmless⟩,
        permits⟩

end AgenticKVM
