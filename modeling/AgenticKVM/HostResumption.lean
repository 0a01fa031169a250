import AgenticKVM.HostDecisions

/-! # Whether an approved call is resumed

A call that waits is approved once and resumed twice. The grant is bound to what the host was shown of
the call, and its target is shown as redaction leaves it, so the grant is for the call exactly where
the target looks like no secret: then the first resumption calls the provider and the second waits
again, and otherwise no provider is called (`resumption_completes`). -/

namespace AgenticKVM

open Lib (Json Prog except_bind_eq_ok except_ok_bind)

namespace ConfigRuntime

section Resumption

variable (lib : AuditLibrary) (runtime : ConfigRuntime) (life : HostLife) (input : CallInput)
  (answer : ResponseInput) (requestId : String)

/-- The host once a call has been made. -/
def afterCall : HostLife := (runtime.hostStep lib life (.callTool input)).1

/-- The host once the call has been answered. -/
def afterAnswer : HostLife :=
  (runtime.hostStep lib (runtime.afterCall lib life input) (.submitApprovalResponse answer)).1

/-- The first resumption of the call. -/
def firstResumption : HostLife × HostAnswer :=
  runtime.hostStep lib (runtime.afterAnswer lib life input answer) (.resumeApprovedTool requestId)

/-- The next resumption of the call. -/
def secondResumption : HostLife × HostAnswer :=
  runtime.hostStep lib (runtime.firstResumption lib life input answer requestId).1
    (.resumeApprovedTool requestId)

/-- **An approval is given**: a call with JSON parameters, for a capability that may be resumed, waits
for an operator, and is answered in time by a one-time grant that names no other action than the
call's, as it is or as it is shown. The id of the grant is new, and the first resumption reads the
clock before the approval request expires. -/
structure ApprovalGiven (call : HostToolCall) (payload : Record) (pending : PendingApproval)
    (response : HostApprovalResponse) : Prop where
  read : callOf lib input = .ok call
  json : ∃ params, call.params = PyValue.ofEntries params
    ∧ Json.Readable lib.readFloat (.obj params)
  resumable : ∀ tool, defaultMcpToolRegistry.get call.toolName = some tool →
    tool.capabilityId ∉ approvalResumptionBlockedCapabilities
  returned : (runtime.hostStep lib life (.callTool input)).2.result = .ok payload
  waits : payload.get "status" = .str "approval_required"
  identified : payload.get "approval_request_id" = .str requestId
  kept : (runtime.afterCall lib life input).host.pending.lookup requestId = some pending
  responds : responseOf lib
    (runtime.environment.now (runtime.afterCall lib life input).history) answer = .ok response
  about : response.requestId = requestId
  session : ∀ id ∈ response.sessionId, id = call.sessionId
  target : ∀ id ∈ response.target, id = call.target ∨ id = pending.approval.target
  provider : ∀ id ∈ response.provider, id = pending.approval.provider
  capability : ∀ id ∈ response.capability, id = pending.approval.capability
  fingerprint : ∀ text ∈ response.paramsFingerprint, text = pending.approval.paramsFingerprint
  granted : response.decision = .granted
  once : response.scope = .oneTime
  early : Datetime.lt response.decidedAt pending.approval.expiresAt = .ok true
  unused : hostResponseId requestId response.operatorId ∉ life.host.store.consumedResponseIds
  inTime : ∀ adapter t, .handled adapter (.clockRead t)
      ∈ (runtime.firstResumption lib life input answer requestId).2.effects →
    Datetime.lt t pending.approval.expiresAt = .ok true

/-- **The resumption completes**: the first calls the provider exactly once, with the call's own
capability, target, session and parameters, and the next calls none and waits again. -/
def Completes (call : HostToolCall) : Prop :=
  (∃ route request, runtime.adapterRouter.route call = .ok route ∧
    (runtime.firstResumption lib life input answer requestId).2.effects.filterMap
      RuntimeEffect.providerCall = [(route.adapter, request)] ∧
    request.capability = route.tool.capabilityId ∧ request.targetId = call.target ∧
    request.sessionId = call.sessionId ∧ request.parameters = call.params) ∧
  (runtime.secondResumption lib life input answer requestId).2.effects.filterMap
    RuntimeEffect.providerCall = [] ∧
  ∃ payload, (runtime.secondResumption lib life input answer requestId).2.result = .ok payload ∧
    payload.get "status" = .str "approval_required"

variable {lib runtime life input answer requestId} {call : HostToolCall} {payload : Record}
  {pending : PendingApproval} {response : HostApprovalResponse}

/-- The target of a routed call has the form of ids. -/
theorem isRegistryId_of_route {route : ToolRoute}
    (routed : runtime.adapterRouter.route call = .ok route) : isRegistryId call.target = true := by
  have registered := (MCPRouter.route_eq_ok.mp routed).target.registered
  rw [← (TargetRegistry.get_some registered).2]
  exact route.target.idForm

/-- **An approved call waits as what the host is shown of it**, and the store has no grant for it. -/
theorem ApprovalGiven.waiting (laws : HostLaws lib) (steady : Steady lib runtime.environment)
    {mode : ControlMode} (builtIn : runtime.policy = modePreset mode none)
    (given : runtime.ApprovalGiven lib life input answer requestId call payload pending response) :
    ∃ route capability fingerprint effects, Asked runtime call route capability ∧
      actionFingerprint lib.toStdlib call.params = .ok fingerprint ∧
      life.host.store.findActionGrant (callBinding call route fingerprint)
        (runtime.callTime call route life.history) = .ok none ∧
      pending.call = call ∧ pending.approval.id = requestId ∧
      runtime.Mirrors lib call route pending.approval fingerprint ∧
      runtime.AsksStore call route life.history effects ∧
      (runtime.afterCall lib life input).history = life.history ++ effects ∧
      (runtime.afterCall lib life input).host.store = life.host.store ∧
      (runtime.afterCall lib life input).host.states = life.host.states := by
  obtain ⟨route, capability, fingerprint, asked, printed, open_⟩ :=
    asks_of_waiting steady given.read given.returned given.waits
  obtain ⟨params, json, readable⟩ := given.json
  obtain ⟨shown, payload', effects, mirrors, -, asks, -, identified, run⟩ :=
    callTool_waits laws steady given.read asked printed open_ json readable
      (decisionOf_limits builtIn route life.history _)
  have same : payload' = payload := by
    have returned := given.returned
    rw [hostStep, operate, run] at returned
    exact Except.ok.inj returned
  have id : shown.id = requestId := by
    rw [same, given.identified] at identified
    exact (Json.str.inj identified).symm
  have host : (runtime.afterCall lib life input).host
      = { life.host with pending := dictSet life.host.pending shown.id ⟨call, shown⟩ } := by
    rw [afterCall, hostStep, operate, run]
  have kept : pending = ⟨call, shown⟩ := by
    have kept := given.kept
    rw [host, id, lookup_dictSet_self] at kept
    exact (Option.some.inj kept).symm
  subst kept
  refine ⟨route, capability, fingerprint, effects, asked, printed, open_, rfl, id, mirrors, asks,
    ?_, by rw [host], by rw [host]⟩
  rw [afterCall, hostStep, operate, run]

/-- **Where the target is shown as it is** the grant is stored, and is for the call. -/
theorem ApprovalGiven.stored (steady : Steady lib runtime.environment)
    (given : runtime.ApprovalGiven lib life input answer requestId call payload pending response)
    {route : ToolRoute} {capability : Capability} {fingerprint : String}
    (asked : Asked runtime call route capability)
    (mirrors : runtime.Mirrors lib call route pending.approval fingerprint)
    (target : pending.approval.target = call.target) :
    ∃ grant event, grant.binding = callBinding call route fingerprint
      ∧ grant.responseId = hostResponseId pending.approval.id response.operatorId
      ∧ grant.expiresAt = pending.approval.expiresAt ∧ grant.scope = .oneTime
      ∧ (runtime.afterAnswer lib life input answer).history
        = (runtime.afterCall lib life input).history ++ [.emitted event]
      ∧ (runtime.afterAnswer lib life input answer).host
        = ⟨(runtime.afterCall lib life input).host.store.addActionGrant grant,
          (runtime.afterCall lib life input).host.pending,
          dictSet (runtime.afterCall lib life input).host.states requestId .granted⟩ := by
  have known : (defaultCapabilityRegistry.get pending.approval.capability).isSome := by
    rw [mirrors.capability]
    exact Option.isSome_iff_exists.mpr ⟨capability, (asked.asks []).known⟩
  have resumable : pending.approval.capability ∉ approvalResumptionBlockedCapabilities := by
    rw [mirrors.capability]
    exact given.resumable _ (MCPRouter.route_eq_ok.mp asked.routed).tool
  obtain ⟨grant, made, -, binding, responseId, expiresAt, scope⟩ :=
    @exists_grant response pending.approval resumable
  have agrees : approvalMismatch pending.approval response = none := by
    refine approvalMismatch_eq_none (fun id named => ?_) (fun id named => ?_) given.provider
      given.capability given.fingerprint
    · rw [mirrors.sessionId, given.session id named]
    · rcases given.target id named with same | same
      exacts [same.trans target.symm, same]
  have answers : Answers (runtime.afterCall lib life input).host response pending :=
    ⟨by rw [given.about, given.kept], agrees⟩
  have early : isExpired pending.approval response = .ok false := by
    rw [isExpired, given.granted, if_neg (by decide)]
    exact Datetime.ge_eq_false.mpr given.early
  have decided : response.decision ≠ .denied := by
    rw [given.granted]
    decide
  obtain ⟨event, state, emitted⟩ := submitApprovalResponse_grants steady given.responds answers early
    decided made (hostApprovalEvent_isOk known mirrors.decision mirrors.preview _ _)
  refine ⟨grant, event, ?_, responseId, expiresAt, scope.trans given.once, ?_, ?_⟩
  · rw [binding, mirrors.capability, mirrors.sessionId, target, mirrors.provider,
      mirrors.paramsFingerprint]
    rfl
  · rw [← emitted]
    rfl
  · rw [← given.about]
    exact state

/-- A call that may wait under an id of its own is still pending under every other, and is pending
under its own. -/
theorem lookup_of_keeps {before after : List (String × PendingApproval)} (keeps : Keeps call before after)
    {id : String} (known : before.lookup id = some pending) (own : pending.call = call) :
    ∃ pending', after.lookup id = some pending' ∧ pending'.call = call := by
  rcases keeps with rfl | ⟨approval, rfl⟩
  · exact ⟨pending, known, own⟩
  · by_cases same : id = approval.id
    · rw [same]
      exact ⟨_, lookup_dictSet_self, rfl⟩
    · exact ⟨pending, (lookup_dictSet_ne same).trans known, own⟩

/-- A granted call is resumed as it was made. -/
theorem resumes_as_call {known : HostLife}
    (kept : known.host.pending.lookup requestId = some pending)
    (granted : known.host.states.lookup requestId = some .granted) :
    runtime.hostStep lib known (.resumeApprovedTool requestId)
      = runtime.hostStep lib known (.callTool (.call pending.call)) := by
  rw [hostStep, operate, resumeApprovedTool_granted kept granted]
  rfl

variable (lib runtime life requestId call) in
/-- **An approved call**: it is pending and granted, and the store has one grant for it, a one-time
grant that nobody has used, next to a store that has none. -/
structure Approved (route : ToolRoute) (capability : Capability) (fingerprint : String)
    (store : ApprovalStore) (grant : ApprovalGrant) : Prop where
  asked : Asked runtime call route capability
  printed : actionFingerprint lib.toStdlib call.params = .ok fingerprint
  json : ∃ params, call.params = PyValue.ofEntries params
    ∧ Json.Readable lib.readFloat (.obj params)
  pending : ∃ pending, life.host.pending.lookup requestId = some pending ∧ pending.call = call
  granted : life.host.states.lookup requestId = some .granted
  stored : life.host.store = store.addActionGrant grant
  before : store.findActionGrant (callBinding call route fingerprint)
    (runtime.callTime call route life.history) = .ok none
  binding : grant.binding = callBinding call route fingerprint
  scope : grant.scope = .oneTime
  usable : store.usable grant = true
  utc : grant.expiresAt.utcoffset = some 0

namespace Approved

variable {route : ToolRoute} {capability : Capability} {fingerprint : String}
  {store : ApprovalStore} {grant : ApprovalGrant}

/-- The grant is for the call until it expires. -/
theorem matches_at
    (approved : Approved lib runtime life requestId call route capability fingerprint store grant)
    (t : Datetime) :
    grant.matches (callBinding call route fingerprint) t = Datetime.lt t grant.expiresAt := by
  rw [ApprovalGrant.matches, if_pos approved.binding.symm]

/-- A resumption that only reads the clock before the expiry asks the store before it: were it too
late, the call would wait, having read the clock. -/
theorem unexpired
    (approved : Approved lib runtime life requestId call route capability fingerprint store grant)
    (laws : HostLaws lib) (steady : Steady lib runtime.environment) {mode : ControlMode}
    (builtIn : runtime.policy = modePreset mode none)
    (inTime : ∀ adapter t, .handled adapter (.clockRead t)
        ∈ (runtime.hostStep lib life (.resumeApprovedTool requestId)).2.effects →
      Datetime.lt t grant.expiresAt = .ok true) :
    Datetime.lt (runtime.callTime call route life.history) grant.expiresAt = .ok true := by
  obtain ⟨pending, known, rfl⟩ := approved.pending
  obtain ⟨params, json, readable⟩ := approved.json
  have offset : (runtime.callTime pending.call route life.history).utcoffset = some 0 :=
    steady.utc _
  have matched := approved.matches_at (runtime.callTime pending.call route life.history)
  rw [Datetime.lt_of_aware offset approved.utc] at matched ⊢
  cases late : decide ((runtime.callTime pending.call route life.history).wall - 0
      < grant.expiresAt.wall - 0) with
  | true => rfl
  | false =>
      rw [late] at matched
      have none : life.host.store.findActionGrant (callBinding pending.call route fingerprint)
          (runtime.callTime pending.call route life.history) = .ok none := by
        rw [approved.stored]
        refine ApprovalStore.findActionGrant_later approved.before (steady.utc _) (steady.utc _)
          (Int.le_refl _) (fun _ member => member) fun other member => ?_
        rcases List.mem_append.mp member with member | member
        · exact .inl member
        · rw [List.mem_singleton.mp member]
          exact .inr fun _ => matched
      obtain ⟨_, _, effects, -, -, asks, -, -, run⟩ := @callTool_waits lib runtime pending.call
        route capability life.history life.host (.call pending.call) laws steady rfl approved.asked
        fingerprint approved.printed none params json readable (decisionOf_limits builtIn route _ _)
      have reads : .handled route.adapter (.clockRead (runtime.callTime pending.call route
          life.history))
          ∈ (runtime.hostStep lib life (.resumeApprovedTool requestId)).2.effects := by
        rw [resumes_as_call known approved.granted, hostStep, operate, run]
        exact asks.reads
      have early := inTime _ _ reads
      rw [Datetime.lt_of_aware offset approved.utc, late] at early
      exact early

/-- In time, the store hands out the grant. -/
theorem found
    (approved : Approved lib runtime life requestId call route capability fingerprint store grant)
    (unexpired : Datetime.lt (runtime.callTime call route life.history) grant.expiresAt
      = .ok true) :
    life.host.store.findActionGrant (callBinding call route fingerprint)
      (runtime.callTime call route life.history) = .ok (some grant) := by
  rw [approved.stored]
  exact ApprovalStore.findActionGrant_add approved.before approved.usable
    ((approved.matches_at _).trans unexpired)

/-- Once the grant is used the store has none again, at any later time. -/
theorem spent
    (approved : Approved lib runtime life requestId call route capability fingerprint store grant)
    (steady : Steady lib runtime.environment) {later : Datetime} (utc : later.utcoffset = some 0)
    (forward : (runtime.callTime call route life.history).wall ≤ later.wall) :
    (life.host.store.consume grant).findActionGrant (callBinding call route fingerprint) later
      = .ok none := by
  rw [approved.stored]
  refine ApprovalStore.findActionGrant_later approved.before (steady.utc _) utc forward
    (fun id member => (ApprovalStore.mem_consume grant id).mpr (.inr member)) fun other member => ?_
  rw [ApprovalStore.consume_actionGrants] at member
  rcases List.mem_append.mp member with member | member
  · exact .inl member
  · refine .inr fun usable => ?_
    rw [List.mem_singleton.mp member, ApprovalStore.usable, ApprovalGrant.reusable,
      approved.scope] at usable
    have consumed := (@ApprovalStore.mem_consume (store.addActionGrant grant) grant
      grant.responseId).mpr (.inl ⟨approved.scope, rfl⟩)
    rw [decide_eq_true consumed] at usable
    cases usable

/-- **An approved call is resumed once**: in time, its resumption calls the provider once, and leaves a
host whose next resumption is a call that waits. -/
theorem resumed
    (approved : Approved lib runtime life requestId call route capability fingerprint store grant)
    (laws : HostLaws lib) (steady : Steady lib runtime.environment) {mode : ControlMode}
    (builtIn : runtime.policy = modePreset mode none)
    (unexpired : Datetime.lt (runtime.callTime call route life.history) grant.expiresAt
      = .ok true) :
    (runtime.hostStep lib life (.resumeApprovedTool requestId)).2.effects.filterMap
        RuntimeEffect.providerCall
      = [(route.adapter, ControlPlane.providerRequest
          (MCPRouter.capabilityRequest call route.tool) capability)] ∧
    let next := (runtime.hostStep lib life (.resumeApprovedTool requestId)).1
    (runtime.hostStep lib next (.resumeApprovedTool requestId)).2.effects.filterMap
        RuntimeEffect.providerCall = [] ∧
    ∃ payload, (runtime.hostStep lib next (.resumeApprovedTool requestId)).2.result = .ok payload ∧
      payload.get "status" = .str "approval_required" := by
  obtain ⟨pending, known, rfl⟩ := approved.pending
  obtain ⟨params, json, readable⟩ := approved.json
  obtain ⟨result, pendings, effects, called, -, asks, keeps, run⟩ := @callTool_resumes lib runtime
    pending.call route capability life.history life.host (.call pending.call) steady rfl
    approved.asked fingerprint approved.printed grant (approved.found unexpired)
  obtain ⟨pending', known', own⟩ := lookup_of_keeps keeps known rfl
  have first : runtime.hostStep lib life (.resumeApprovedTool requestId)
      = runtime.hostStep lib life (.callTool (.call pending.call)) :=
    resumes_as_call known approved.granted
  set next := (runtime.hostStep lib life (.resumeApprovedTool requestId)).1 with isNext
  have host : next.host = ⟨life.host.store.consume grant, pendings, life.host.states⟩ := by
    rw [isNext, first, hostStep, operate, run]
  have history : next.history = life.history ++ effects := by
    rw [isNext, first, hostStep, operate, run]
  have second : runtime.hostStep lib next (.resumeApprovedTool requestId)
      = runtime.hostStep lib next (.callTool (.call pending.call)) := by
    rw [← own]
    refine resumes_as_call ?_ ?_
    · rw [host]
      exact known'
    · rw [host]
      exact approved.granted
  have none : next.host.store.findActionGrant (callBinding pending.call route fingerprint)
      (runtime.callTime pending.call route next.history) = .ok none := by
    have later := asks.forward steady []
    rw [List.append_nil, ← history] at later
    rw [host]
    exact approved.spent steady (steady.utc _) later
  obtain ⟨shown, payload, effects', -, quiet, -, status, -, run'⟩ := @callTool_waits lib runtime
    pending.call route capability next.history next.host (.call pending.call) laws steady rfl
    approved.asked fingerprint approved.printed none params json readable
    (decisionOf_limits builtIn route _ _)
  refine ⟨?_, ?_, payload, ?_, status⟩
  · rw [first, hostStep, operate, run]
    exact called
  · rw [second, hostStep, operate, run']
    exact quiet
  · rw [second, hostStep, operate, run']

end Approved

/-- **Where the target looks like no secret the call is approved** by the response. -/
theorem ApprovalGiven.approved (laws : HostLaws lib) (steady : Steady lib runtime.environment)
    {mode : ControlMode} (builtIn : runtime.policy = modePreset mode none)
    (given : runtime.ApprovalGiven lib life input answer requestId call payload pending response)
    (harmless : containsSecretPattern lib call.target = false) :
    ∃ route capability fingerprint grant,
      Approved lib runtime (runtime.afterAnswer lib life input answer) requestId call route
        capability fingerprint life.host.store grant
      ∧ grant.expiresAt = pending.approval.expiresAt := by
  obtain ⟨route, capability, fingerprint, effects, asked, printed, open_, own, identified, mirrors,
    asks, history, store, states⟩ := given.waiting laws steady builtIn
  have target : pending.approval.target = call.target :=
    mirrors.target.trans (shownText_harmless harmless)
  obtain ⟨grant, event, binding, responseId, expiresAt, scope, history', host⟩ :=
    given.stored steady asked mirrors target
  rw [history] at history'
  rw [store, states] at host
  -- before the new grant the store has none for the call, as when the call was made
  have forward : (runtime.callTime call route life.history).wall
      ≤ (runtime.callTime call route (runtime.afterAnswer lib life input answer).history).wall := by
    rw [history']
    exact asks.forward steady _
  refine ⟨route, capability, fingerprint, grant, ⟨asked, printed, given.json, ?_, ?_, ?_, ?_, binding,
    scope, ?_, ?_⟩, expiresAt⟩
  · refine ⟨pending, ?_, own⟩
    rw [host]
    exact given.kept
  · rw [host]
    exact lookup_dictSet_self
  · rw [host]
  · exact ApprovalStore.findActionGrant_later open_ (steady.utc _) (steady.utc _) forward
      (fun _ member => member) fun _ member => .inl member
  · rw [ApprovalStore.usable, responseId, identified, decide_eq_false given.unused]
    exact Bool.or_true _
  · rw [expiresAt]
    exact mirrors.utc steady

/-- **Where the target looks like no secret the resumption completes.** -/
theorem ApprovalGiven.completes (laws : HostLaws lib) (steady : Steady lib runtime.environment)
    {mode : ControlMode} (builtIn : runtime.policy = modePreset mode none)
    (given : runtime.ApprovalGiven lib life input answer requestId call payload pending response)
    (harmless : containsSecretPattern lib call.target = false) :
    runtime.Completes lib life input answer requestId call := by
  obtain ⟨route, capability, fingerprint, grant, approved, expiresAt⟩ :=
    given.approved laws steady builtIn harmless
  have unexpired := approved.unexpired laws steady builtIn fun adapter t reads => by
    rw [expiresAt]
    exact given.inTime adapter t reads
  obtain ⟨called, quiet, payload', result, status⟩ :=
    approved.resumed laws steady builtIn unexpired
  exact ⟨⟨route, _, approved.asked.routed, called,
    CapabilityRegistry.id_of_get (approved.asked.asks []).known, rfl, rfl, rfl⟩, quiet, payload',
    result, status⟩

/-- A target that looks like a secret is shown as the mark, which is no target. -/
theorem target_ne_of_secret (laws : HostLaws lib) {route : ToolRoute}
    (routed : runtime.adapterRouter.route call = .ok route)
    (secret : containsSecretPattern lib call.target = true) :
    shownText lib "targets" call.target ≠ call.target := by
  have plain : ¬ isStructuralTokenKey lib.toStdlib "targets" = true := by
    rw [isStructuralTokenKey, laws.texts.lower "targets" (by decide)]
    decide
  rw [shownText, if_pos ⟨plain, secret⟩]
  intro same
  have form := isRegistryId_of_route routed
  rw [← same] at form
  exact absurd form (by decide)

/-- What a response leaves of the store and the pending approvals: the marks of consumption, the
grants, and perhaps one more, which is bound to what is shown of the call. -/
theorem ApprovalGiven.grants
    (given : runtime.ApprovalGiven lib life input answer requestId call payload pending response) :
    (runtime.afterAnswer lib life input answer).host.pending
        = (runtime.afterCall lib life input).host.pending
      ∧ (runtime.afterAnswer lib life input answer).host.store.consumedResponseIds
        = (runtime.afterCall lib life input).host.store.consumedResponseIds
      ∧ ∀ grant ∈ (runtime.afterAnswer lib life input answer).host.store.actionGrants,
        grant ∈ (runtime.afterCall lib life input).host.store.actionGrants
          ∨ grant.targetId = pending.approval.target := by
  set life₁ := runtime.afterCall lib life input
  have submitted := (@submitApprovalResponse_submitted lib runtime life₁.history life₁.host answer).2
  have host : (runtime.afterAnswer lib life input answer).host
      = (runtime.submitApprovalResponse lib answer life₁.history life₁.host).state := rfl
  rw [host]
  generalize (runtime.submitApprovalResponse lib answer life₁.history life₁.host).state = s
    at submitted
  cases submitted with
  | kept | refused => exact ⟨rfl, rfl, fun grant member => .inl member⟩
  | @granted response' pending' grant read answers _ made =>
      have same : pending' = pending := by
        have known := answers.known
        rw [Except.ok.inj (read.symm.trans given.responds), given.about, given.kept] at known
        exact (Option.some.inj known).symm
      refine ⟨rfl, rfl, fun other member => ?_⟩
      rcases List.mem_append.mp member with member | member
      · exact .inl member
      · rw [List.mem_singleton.mp member]
        unfold grantOf at made
        split at made
        · cases made
          exact .inr (congrArg (fun pending => pending.approval.target) same)
        · cases made

/-- **Where the target looks like a secret no provider is called.** -/
theorem ApprovalGiven.idle (laws : HostLaws lib) (steady : Steady lib runtime.environment)
    {mode : ControlMode} (builtIn : runtime.policy = modePreset mode none)
    (given : runtime.ApprovalGiven lib life input answer requestId call payload pending response)
    (secret : containsSecretPattern lib call.target = true) :
    (runtime.firstResumption lib life input answer requestId).2.effects.filterMap
      RuntimeEffect.providerCall = [] := by
  obtain ⟨route, capability, fingerprint, effects, asked, printed, open_, rfl, identified, mirrors,
    asks, history, store, states⟩ := given.waiting laws steady builtIn
  obtain ⟨params, json, readable⟩ := given.json
  obtain ⟨pendings, consumed, grants⟩ := given.grants
  set life₂ := runtime.afterAnswer lib life input answer
  have known₂ : life₂.host.pending.lookup requestId = some pending := by
    rw [pendings]
    exact given.kept
  rcases @resumeApprovedTool_or lib runtime life₂.history life₂.host requestId pending known₂ with
    again | nothing
  · have forward : (runtime.callTime pending.call route life.history).wall
        ≤ (runtime.callTime pending.call route life₂.history).wall := by
      have later := asks.forward steady (runtime.submitApprovalResponse lib answer
        (runtime.afterCall lib life input).history (runtime.afterCall lib life input).host).effects
      rw [← history] at later
      exact later
    have none : life₂.host.store.findActionGrant (callBinding pending.call route fingerprint)
        (runtime.callTime pending.call route life₂.history) = .ok none := by
      refine ApprovalStore.findActionGrant_later open_ (steady.utc _) (steady.utc _) forward ?_
        fun grant member => ?_
      · rw [consumed, store]
        exact fun _ member => member
      · rcases grants grant member with before | masked
        · rw [store] at before
          exact .inl before
        · refine .inr fun _ => if_neg fun same => ?_
          have bound : pending.call.target = grant.targetId := congrArg ActionBinding.targetId same
          rw [masked, mirrors.target] at bound
          exact target_ne_of_secret laws asked.routed secret bound.symm
    obtain ⟨_, _, effects', -, quiet, -, -, -, run⟩ := @callTool_waits lib runtime pending.call route
      capability life₂.history life₂.host (.call pending.call) laws steady rfl asked fingerprint
      printed none params json readable (decisionOf_limits builtIn route _ _)
    rw [firstResumption, hostStep, operate, again, run]
    exact quiet
  · change ((runtime.resumeApprovedTool lib requestId life₂.history
      life₂.host).effects.filterMap RuntimeEffect.providerCall) = []
    rw [nothing]
    rfl

end Resumption

end ConfigRuntime

/-- An approved call of a configured runtime is resumed exactly where its target looks like no
secret. -/
theorem ConfigRuntime.ApprovalGiven.completes_iff {configLib : ConfigLibrary} {lib : AuditLibrary}
    {environment : RuntimeEnvironment} (laws : HostLaws lib) (steady : Steady lib environment)
    {transportFor : String → ACTHTTPTransport RuntimeEffect} {raw : Params} {runtime : ConfigRuntime}
    (built : runtimeOf configLib environment transportFor raw = .ok runtime) {life : HostLife}
    {input : CallInput} {answer : ConfigRuntime.ResponseInput} {requestId : String}
    {call : HostToolCall} {payload : Record} {pending : PendingApproval}
    {response : HostApprovalResponse}
    (given : runtime.ApprovalGiven lib life input answer requestId call payload pending response) :
    runtime.Completes lib life input answer requestId call
      ↔ containsSecretPattern lib call.target = false := by
  obtain ⟨⟨mode, builtIn⟩, same⟩ := buildRuntime_policy built
  subst same
  constructor
  · rintro ⟨⟨route, request, -, called, -⟩, -⟩
    rw [Bool.eq_false_iff]
    intro secret
    rw [given.idle laws steady builtIn secret] at called
    cases called
  · exact given.completes laws steady builtIn

/-- **Approved calls are resumed** exactly where their target looks like no secret: then the first
resumption in time calls the provider once, with the call's own capability, target, session and
parameters, and the next calls none and waits again. -/
theorem resumption_completes (configLib : ConfigLibrary) (lib : AuditLibrary)
    (environment : RuntimeEnvironment) (laws : HostLaws lib) (steady : Steady lib environment)
    (transportFor : String → ACTHTTPTransport RuntimeEffect) (raw : Params) (runtime : ConfigRuntime)
    (built : runtimeOf configLib environment transportFor raw = .ok runtime) (life : HostLife)
    (input : CallInput) (answer : ConfigRuntime.ResponseInput) (requestId : String)
    (call : HostToolCall) (payload : Record) (pending : PendingApproval)
    (response : HostApprovalResponse)
    (given : runtime.ApprovalGiven lib life input answer requestId call payload pending response) :
    runtime.Completes lib life input answer requestId call
      ↔ containsSecretPattern lib call.target = false :=
  given.completes_iff laws steady built

open ConfigRuntime in
/-- A restart a configured runtime routes is approved at a fresh host. -/
theorem Deployment.approvalGiven_of_routes {configLib : ConfigLibrary} {raw : Params}
    {runtime : ConfigRuntime} {targetId : String} {targeted : targetId ≠ ""}
    (built : runtimeOf configLib calmEnvironment noTransport raw = .ok runtime)
    (routes : routesRestart runtime targetId targeted = true) :
    ∃ requestId, ∃ identified : requestId ≠ "", ∃ payload pending,
      runtime.ApprovalGiven stampLibrary (.start [] .empty)
        (.call (restartCall targetId targeted))
        (.response (restartResponse .granted requestId identified)) requestId
        (restartCall targetId targeted) payload pending
        (restartResponse .granted requestId identified) := by
  obtain ⟨route, capability, fingerprint, shown, payload, effects, steady, calm, asked, restart,
    printed, mirrors, expires, status, id, run⟩ :=
    @waits_of_routes configLib raw runtime targetId targeted built routes
  have after : (runtime.afterCall stampLibrary (.start [] .empty)
      (.call (restartCall targetId targeted))).host
      = ⟨.empty, [(shown.id, ⟨restartCall targetId targeted, shown⟩)], []⟩ := by
    change (runtime.callTool stampLibrary (.call (restartCall targetId targeted)) []
      (.fresh .empty)).state = _
    rw [run]
  refine ⟨shown.id, mirrors.identified, payload, ⟨restartCall targetId targeted, shown⟩, rfl,
    ⟨[], rfl, List.nodup_nil, trivial⟩, ?_, ?_, status, id, ?_, rfl, rfl,
    fun _ named => (nomatch named), fun _ named => (nomatch named), fun _ named => (nomatch named),
    fun _ named => (nomatch named), fun _ named => (nomatch named), rfl, rfl, ?_,
    List.not_mem_nil, ?_⟩
  · intro tool named
    rw [Option.some.inj (named.symm.trans (MCPRouter.route_eq_ok.mp asked.routed).tool), restart]
    decide
  · change (runtime.callTool stampLibrary (.call (restartCall targetId targeted)) []
      (.fresh .empty)).result = _
    rw [run]
  · rw [after]
    exact List.lookup_cons_self
  · rw [expires]
    rfl
  · intro adapter t reads
    obtain ⟨⟨store, handles, -⟩, -, -⟩ := @resumeApprovedTool_called stampLibrary runtime _ _ shown.id
    obtain ⟨moment, same⟩ := handles.clockRead reads
    have now : t = clockAt 0 := by
      rw [same]
      change runtime.environment.now moment = _
      rw [calm]
      rfl
    rw [now, expires]
    rfl

open ConfigRuntime in
/-- A restart is approved at a fresh host of the configuration. -/
theorem Deployment.approvalGiven_restart {targetId : String} {targeted : targetId ≠ ""}
    (asks : asksAboutRestart targetId targeted = true) :
    ∃ runtime requestId, ∃ identified : requestId ≠ "", ∃ payload pending,
      runtimeOf configLibrary calmEnvironment noTransport (targetConfig targetId) = .ok runtime ∧
      runtime.ApprovalGiven stampLibrary (.start [] .empty)
        (.call (restartCall targetId targeted))
        (.response (restartResponse .granted requestId identified)) requestId
        (restartCall targetId targeted) payload pending
        (restartResponse .granted requestId identified) := by
  obtain ⟨runtime, built, routes⟩ := routes_of_asks asks
  obtain ⟨requestId, identified, payload, pending, given⟩ :=
    @approvalGiven_of_routes configLibrary (targetConfig targetId) runtime targetId targeted built routes
  exact ⟨runtime, requestId, identified, payload, pending, built, given⟩

open ConfigRuntime in
/-- The approval of a target that looks like a one-time password is not for it: its restart is not
resumed. -/
theorem resumption_fails_otp :
    ∃ runtime requestId, ∃ identified : requestId ≠ "", ∃ payload pending,
      runtimeOf Deployment.configLibrary Deployment.calmEnvironment Deployment.noTransport
        (Deployment.targetConfig "otp:lab1") = .ok runtime ∧
      runtime.ApprovalGiven Deployment.stampLibrary (.start [] .empty)
        (.call (Deployment.restartCall "otp:lab1" (by decide)))
        (.response (Deployment.restartResponse .granted requestId identified)) requestId
        (Deployment.restartCall "otp:lab1" (by decide)) payload pending
        (Deployment.restartResponse .granted requestId identified) ∧
      ¬ runtime.Completes Deployment.stampLibrary (.start [] .empty)
        (.call (Deployment.restartCall "otp:lab1" (by decide)))
        (.response (Deployment.restartResponse .granted requestId identified)) requestId
        (Deployment.restartCall "otp:lab1" (by decide)) := by
  obtain ⟨runtime, requestId, identified, payload, pending, built, given⟩ :=
    @Deployment.approvalGiven_restart "otp:lab1" (by decide) (by decide +kernel)
  refine ⟨runtime, requestId, identified, payload, pending, built, given, fun completes => ?_⟩
  have harmless := (given.completes_iff Deployment.stampLibrary_laws
    Deployment.calmEnvironment_steady built).mp completes
  exact absurd harmless (by decide +kernel)

open ConfigRuntime in
/-- The restart of a plain target is resumed. -/
theorem resumption_completes_restart :
    ∃ runtime requestId, ∃ identified : requestId ≠ "",
      runtimeOf Deployment.configLibrary Deployment.calmEnvironment Deployment.noTransport
        (Deployment.targetConfig "lab-1") = .ok runtime ∧
      runtime.Completes Deployment.stampLibrary (.start [] .empty)
        (.call (Deployment.restartCall "lab-1" (by decide)))
        (.response (Deployment.restartResponse .granted requestId identified)) requestId
        (Deployment.restartCall "lab-1" (by decide)) := by
  obtain ⟨runtime, requestId, identified, payload, pending, built, given⟩ :=
    @Deployment.approvalGiven_restart "lab-1" (by decide) (by decide +kernel)
  exact ⟨runtime, requestId, identified, built, (resumption_completes Deployment.configLibrary
    Deployment.stampLibrary Deployment.calmEnvironment Deployment.stampLibrary_laws
    Deployment.calmEnvironment_steady Deployment.noTransport (Deployment.targetConfig "lab-1") runtime
    built (.start [] .empty) _ _ requestId _ payload pending _ given).mpr (by decide +kernel)⟩

end AgenticKVM
