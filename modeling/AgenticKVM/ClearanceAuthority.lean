import AgenticKVM.HostResumption
import AgenticKVM.Playbooks

/-! # Which authority clears

Every entry point of a runtime (the SDK adapter, hosts over it, the playbook runner) sends its calls
to a router of its own, and none of these routers is given the runtime's clearance client and
verifier. An execution whose decision asks is therefore one on a stored grant: the tower never
clears (`announced_of_executed`), and a runtime honours its tower in the runs in which the store
holds no live grant for what is called (`authority_honoured`). -/

namespace AgenticKVM

open Lib (Prog Outcome)

/-! ## Where an execution stands -/

namespace ControlPlane

variable {std : Stdlib} {plane : ControlPlane} {request : CapabilityRequest} {history : List Effect}
  {s : PlaneState}

/-- **An execution without a tower**: right before the provider is called the execution is
announced, and where its decision asks, a stored grant that was accepted for the request has been
used. -/
theorem announced_of_executed (unwired : plane.clearanceClient = none)
    (unsigned : request.signedApprovalGrant = none) {before after : List Effect}
    {call : ProviderActionRequest} {answer : Except PyExc ProviderActionResult}
    (split : (plane.handle std request history s).effects
      = before ++ .executed call answer :: after) :
    ∃ capability earlier,
      before = earlier ++ [.emitted (plane.startedEvent request
        (capabilityRefOf request.capabilityId (some capability)) (plane.decisionOf request))] ∧
      ((plane.decisionOf request).decision.asks = true →
        ∃ grant, .storeGrant grant ∈ authorisations earlier ∧
          AcceptedFor std plane request capability s (plane.handle std request history s).effects
            (.storeGrant grant)) := by
  have executes : Executes (plane.handle std request) history s :=
    ⟨.executed call answer, by rw [split]; exact List.mem_append_right _ List.mem_cons_self, rfl⟩
  obtain ⟨capability, on, s', authorisation, execution⟩ := execution_of_executes executes
  obtain ⟨result, answered, later, neutral, run⟩ := execution.run
  set started := plane.startedEvent request
    (capabilityRefOf request.capabilityId (some capability)) (plane.decisionOf request)
  set opening := (plane.openingEvents request).map Effect.emitted
  have shape : (plane.handle std request history s).effects
      = (opening ++ on ++ [.emitted started]) ++ .executed (providerRequest request capability)
          answered :: later := by
    rw [run]
    simp only [List.append_assoc, List.singleton_append]
  have silent : executions (opening ++ on ++ [.emitted started]) = [] := by
    rw [executions_append, executions_append, execution.route.trace.1,
      Neutral.executions (openingEvents_neutral request)]
    rfl
  obtain ⟨rfl, -, -⟩ := append_cons_inj (p := Effect.isExecution) (shape.symm.trans split) rfl
    silent neutral.executions
  refine ⟨capability, opening ++ on, rfl, fun asks => ?_⟩
  have subset : on ⊆ (plane.handle std request history s).effects := by
    rw [shape]
    exact fun effect member => List.mem_append_left _ (List.mem_append_left _
      (List.mem_append_right _ member))
  have route := execution.route
  cases route with
  | policy allows => exact absurd (asks.symm.trans allows) (by decide)
  | clearance asks selected wired chain => exact absurd (unwired.symm.trans wired) (by simp)
  | signed asks locally accepted =>
      exact absurd (unsigned.symm.trans accepted.presented) (by simp)
  | @stored neutralBefore store grant now asks locally neutral matched =>
      refine ⟨grant, ?_, execution.route.accepted subset⟩
      rw [authorisations_append]
      refine List.mem_append_right _ ?_
      rw [execution.route.trace.2]
      exact List.mem_singleton_self _

end ControlPlane

/-! ## Calls -/

namespace ConfigRuntime

section Authority

variable (lib : AuditLibrary) (runtime : ConfigRuntime)

/-- **Cleared by the tower**: the provider call follows an answer of the tower to a clearance
request for this very action, the runtime's verifier accepts the answer at a time that was read, and
nothing but such clearances was used as an authorisation. -/
def ClearedByTower (adapter : ProviderAdapter) (request : ProviderActionRequest)
    (earlier : List RuntimeEffect) : Prop :=
  (∃ verifier clearanceRequest timeoutSeconds response now verification,
    runtime.clearanceVerifier = some verifier ∧
    .handled adapter (.clearanceAsked clearanceRequest timeoutSeconds (.ok response)) ∈ earlier ∧
    .handled adapter (.clockRead now) ∈ earlier ∧
    clearanceRequest.capability = request.capability ∧
    clearanceRequest.target = request.targetId ∧
    clearanceRequest.sessionId = request.sessionId ∧
    clearanceRequest.provider = adapter.providerId ∧
    clearanceRequest.auditCorrelationId = request.correlationId ∧
    response.status = .cleared ∧
    verifier.verify lib.toStdlib clearanceRequest response now = .ok verification ∧
    verification.valid = true) ∧
  ∀ inner authorisation, .handled adapter inner ∈ earlier →
    inner.authorisation = some authorisation → ∃ response, authorisation = .clearance response

/-- **The tower's authority is honoured** by the effects of an operation: every provider call is
announced right before it, and where the announced decision asks, it was cleared by the tower. -/
def Honours (effects : List RuntimeEffect) : Prop :=
  ∀ before adapter request answer after,
    effects = before ++ .handled adapter (.executed request answer) :: after →
    ∃ earlier started, before = earlier ++ [.handled adapter (.emitted started)] ∧
      started.eventType = .providerExecutionStarted ∧
      (started.policyDecision.asks = true →
        runtime.ClearedByTower lib adapter request earlier)

/-- What the policy decides about a routed call. -/
def callDecision (call : MCPToolRequest) (route : ToolRoute) : PolicyDecision :=
  (runtime.policy.decisionFor route.tool.capabilityId (some call.target) (some call.sessionId)
    (MCPRouter.credentialIdFromRequest call) defaultCapabilityRegistry).decision

/-- No grant in the store can be used for a call whose decision asks: each one of the call's action
is consumed, or has expired for good. -/
def Ungranted (history : List RuntimeEffect) (store : ApprovalStore) (call : MCPToolRequest) :
    Prop :=
  ∀ route fingerprint, runtime.adapterRouter.route call = .ok route →
    (runtime.callDecision call route).asks = true →
    actionFingerprint lib.toStdlib call.params = .ok fingerprint →
    ∀ grant ∈ store.actionGrants, grant.binding = callBinding call route fingerprint →
      runtime.Harmless history store grant

end Authority

/-- Every provider call is announced, with a decision that does not ask. -/
def Unasked (effects : List RuntimeEffect) : Prop :=
  ∀ before adapter request answer after,
    effects = before ++ .handled adapter (.executed request answer) :: after →
    ∃ earlier started, before = earlier ++ [.handled adapter (.emitted started)] ∧
      started.eventType = .providerExecutionStarted ∧ started.policyDecision.asks = false

variable {lib : AuditLibrary} {runtime : ConfigRuntime}

/-- Where no execution asks, every authority is honoured. -/
theorem Unasked.honours {effects : List RuntimeEffect} (unasked : Unasked effects) :
    runtime.Honours lib effects := by
  intro before adapter request answer after split
  obtain ⟨earlier, started, shape, announces, silent⟩ :=
    unasked before adapter request answer after split
  refine ⟨earlier, started, shape, announces, fun asks => ?_⟩
  exact absurd (asks.symm.trans silent) (by decide)

theorem Unasked.append {first second : List RuntimeEffect} (one : Unasked first)
    (other : Unasked second) : Unasked (first ++ second) := by
  intro before adapter request answer after split
  rcases List.append_eq_append_iff.mp split with ⟨mid, shape, tail⟩ | ⟨mid, shape, tail⟩
  · obtain ⟨earlier, started, rfl, announced⟩ := other mid adapter request answer after tail
    exact ⟨first ++ earlier, started, by rw [shape, List.append_assoc], announced⟩
  · cases mid with
    | nil =>
        obtain ⟨earlier, started, empty, -⟩ := other [] adapter request answer after tail.symm
        exact absurd (congrArg List.length empty) (by simp)
    | cons effect mid =>
        obtain ⟨rfl, -⟩ := List.cons.inj
          (tail : .handled adapter (.executed request answer) :: after = effect :: (mid ++ second))
        exact one before adapter request answer mid shape

theorem unasked_of_own {effects : List RuntimeEffect} (own : OwnEvents effects) :
    Unasked effects := by
  intro before adapter request answer after split
  have member : .handled adapter (.executed request answer) ∈ effects := by
    rw [split]
    exact List.mem_append_right _ List.mem_cons_self
  exact absurd rfl (own _ member adapter _)

section Calls

variable {history : List RuntimeEffect} {store : ApprovalStore} {call : MCPToolRequest}

/-- What cannot be used stays so. -/
theorem Ungranted.later (ungranted : runtime.Ungranted lib history store call)
    {store' : ApprovalStore} (same : store'.actionGrants = store.actionGrants)
    (kept : store.consumedResponseIds ⊆ store'.consumedResponseIds) (more : List RuntimeEffect) :
    runtime.Ungranted lib (history ++ more) store' call := by
  intro route fingerprint routed asks printed grant member bound
  rw [same] at member
  exact (ungranted route fingerprint routed asks printed grant member bound).later kept more

/-- **The announcement of a routed call's execution**: right before the provider is called the
execution is announced with the policy's decision, and where that asks, a stored grant that was
accepted for the call has been used. -/
theorem announced_of_handled {route : ToolRoute}
    (routed : runtime.adapterRouter.route call = .ok route) {before after : List RuntimeEffect}
    {adapter : ProviderAdapter} {request : ProviderActionRequest}
    {answer : Except PyExc ProviderActionResult}
    (split : (runtime.adapterRouter.handleToolRequest lib call history (some store)).effects
      = before ++ .handled adapter (.executed request answer) :: after) :
    ∃ capability earlier, adapter = route.adapter ∧
      before = earlier.map (.handled route.adapter) ++ [.handled route.adapter (.emitted
        ((runtime.routePlane route history).startedEvent
          (MCPRouter.capabilityRequest call route.tool)
          (ControlPlane.capabilityRefOf route.tool.capabilityId (some capability))
          ((runtime.routePlane route history).decisionOf
            (MCPRouter.capabilityRequest call route.tool))))] ∧
      ((runtime.callDecision call route).asks = true →
        ∃ grant, .storeGrant grant ∈ authorisations earlier ∧
          ControlPlane.AcceptedFor lib.toStdlib (runtime.routePlane route history)
            (MCPRouter.capabilityRequest call route.tool) capability ⟨some store, []⟩
            (runtime.routeRun lib call route history store).effects (.storeGrant grant)) := by
  rw [handleToolRequest_routed routed] at split
  obtain ⟨inner, later, effects, rfl, tail⟩ := List.map_eq_append_iff.mp split
  obtain ⟨effect, innerAfter, rfl, here, rfl⟩ := List.map_eq_cons_iff.mp tail
  obtain ⟨rfl, rfl⟩ : route.adapter = adapter ∧ effect = .executed request answer := by
    cases here
    exact ⟨rfl, rfl⟩
  have unwired : (runtime.routePlane route history).clearanceClient = none := rfl
  obtain ⟨capability, earlier, rfl, asked⟩ := ControlPlane.announced_of_executed unwired rfl effects
  exact ⟨capability, earlier, rfl, List.map_append, asked⟩

/-- **A request the store has no live grant for** is not executed where its decision asks. -/
theorem handleToolRequest_unasked (ungranted : runtime.Ungranted lib history store call) :
    Unasked (runtime.adapterRouter.handleToolRequest lib call history (some store)).effects := by
  cases routed : runtime.adapterRouter.route call with
  | error refusal =>
      rw [MCPRouter.handleToolRequest, routed]
      exact unasked_of_own (MCPRouter.refuse_own refusal).1
  | ok route =>
      intro before adapter request answer after split
      obtain ⟨capability, earlier, rfl, shape, asked⟩ := announced_of_handled routed split
      refine ⟨earlier.map (.handled route.adapter), _, shape, rfl, ?_⟩
      rw [← Bool.not_eq_true]
      intro asks
      obtain ⟨grant, -, -, stored, fingerprint, now, same, read, printed, member, bound, unexpired,
        usable⟩ := asked asks
      cases same
      obtain ⟨more, reading⟩ := (ControlPlane.readsClock_closed _).handle _ _ _ read
      rcases ungranted route fingerprint routed asks printed grant member bound with used | expired
      · rw [ApprovalStore.usable, ApprovalGrant.reusable] at used
        simp only [Bool.or_eq_false_iff, decide_eq_false_iff_not, Bool.not_eq_false',
          decide_eq_true_eq] at used
        rcases usable with session | fresh
        exacts [used.1 session, fresh used.2]
      · have late := expired (more.map (.handled route.adapter))
        rw [reading] at unexpired
        exact absurd ((Datetime.ge_eq_false.mpr unexpired).symm.trans late) (by simp)

/-- **An execution that asks is not the tower's**: a stored grant was used for it. -/
theorem not_honours_of_asks {route : ToolRoute}
    (routed : runtime.adapterRouter.route call = .ok route)
    (asks : (runtime.callDecision call route).asks = true) {adapter : ProviderAdapter}
    {request : ProviderActionRequest} {answer : Except PyExc ProviderActionResult}
    (executed : .handled adapter (.executed request answer)
      ∈ (runtime.adapterRouter.handleToolRequest lib call history (some store)).effects) :
    ¬ runtime.Honours lib
      (runtime.adapterRouter.handleToolRequest lib call history (some store)).effects := by
  intro honours
  obtain ⟨before, after, split⟩ := List.append_of_mem executed
  obtain ⟨capability, earlier, rfl, shape, asked⟩ := announced_of_handled routed split
  obtain ⟨earlier', started, shape', -, cleared⟩ :=
    honours before route.adapter request answer after split
  obtain ⟨same, last⟩ := List.append_inj' (shape.symm.trans shape') rfl
  cases last
  obtain ⟨grant, used, -⟩ := asked asks
  obtain ⟨inner, member, authorises⟩ := List.mem_filterMap.mp used
  have inside : .handled route.adapter inner ∈ earlier' := by
    rw [← same]
    exact List.mem_map_of_mem member
  obtain ⟨response, wrong⟩ := (cleared asks).2 inner (.storeGrant grant) inside authorises
  cases wrong

/-- A call at the adapter leaves what its request leaves. -/
theorem adapterCall_effects (call : MCPSDKToolCall) (history : List RuntimeEffect)
    (store : Option ApprovalStore) :
    (runtime.adapterCall lib call history store).effects
      = (runtime.adapterRouter.handleToolRequest lib call history store).effects := by
  rw [adapterCall, MCPToolRequest.init_self, Prog.ofExcept_bind_run rfl, Prog.bind_ofExcept_run]

/-- So does a call at a host: showing its result leaves nothing. -/
theorem callBody_effects (call : HostToolCall) (history : List RuntimeEffect) (s : HostState) :
    (runtime.callBody lib call history s).effects
      = (runtime.adapterRouter.handleToolRequest lib call history (some s.store)).effects := by
  rw [← adapterCall_effects, callBody]
  rcases ran : runtime.adapterCall lib call history (some s.store) with ⟨e | result, store, effects⟩
  · have run : onStore (runtime.adapterCall lib call) history s
        = ⟨.error e, { s with store := store.getD s.store }, effects⟩ := by
      rw [onStore, Prog.zoom, ran]
    rw [Prog.bind_run_error run]
  · have run : onStore (runtime.adapterCall lib call) history s
        = ⟨.ok result, { s with store := store.getD s.store }, effects⟩ := by
      rw [onStore, Prog.zoom, ran]
    rw [Prog.bind_run_ok run, Outcome.prepend_effects, (showResult_run call result).1,
      List.append_nil]

theorem callTool_unasked {s : HostState} {input : CallInput}
    (ungranted : ∀ call, callOf lib input = .ok call → runtime.Ungranted lib history s.store call) :
    Unasked (runtime.callTool lib input history s).effects := by
  cases read : callOf lib input with
  | error e =>
      rw [callTool, Prog.bind_ofExcept_run, Prog.attempt_run, Prog.ofExcept_bind_run_error read]
      exact unasked_of_own ownEvents_nil
  | ok call =>
      rw [callTool_run read]
      change Unasked (runtime.callBody lib call history s).effects
      rw [callBody_effects]
      exact handleToolRequest_unasked (ungranted call read)

theorem resumeApprovedTool_unasked {s : HostState} {requestId : String}
    (ungranted : ∀ pending, s.pending.lookup requestId = some pending →
      runtime.Ungranted lib history s.store pending.call) :
    Unasked (runtime.resumeApprovedTool lib requestId history s).effects := by
  have refused : Unasked [] := unasked_of_own ownEvents_nil
  rw [resumeApprovedTool, Prog.get_bind_run]
  cases known : s.pending.lookup requestId with
  | none => exact refused
  | some pending =>
      dsimp only
      have called : Unasked (runtime.callTool lib (.call pending.call) history s).effects := by
        refine callTool_unasked fun call read => ?_
        cases read
        exact ungranted pending known
      cases s.states.lookup requestId with
      | none => exact called
      | some status =>
          cases status with
          | granted => exact called
          | denied | expired | validationError => exact refused

/-- The playbook runner's router is the adapter's. -/
theorem playbookRouter_eq : runtime.playbookRouter = runtime.adapterRouter := rfl

/-- **A playbook whose steps the store has no live grants for** executes nothing whose decision
asks: the store keeps its grants from step to step. -/
theorem runSteps_unasked {playbook : PlaybookDefinition} {target sessionId requesterId : String}
    {results : List PyValue} {steps : List PlaybookStep}
    (ungranted : ∀ step ∈ steps, ∀ call,
      playbookRequest playbook target sessionId requesterId step = .ok call →
        runtime.Ungranted lib history store call) :
    Unasked (runtime.runSteps lib playbook target sessionId requesterId results steps history
      (some store)).effects := by
  have silent : Unasked [] := unasked_of_own ownEvents_nil
  induction steps generalizing history store results with
  | nil => exact silent
  | cons step rest ih =>
      rw [runSteps]
      cases made : playbookRequest playbook target sessionId requesterId step with
      | error e =>
          rw [Prog.ofExcept_bind_run_error rfl]
          exact silent
      | ok call =>
          rw [Prog.ofExcept_bind_run rfl, playbookRouter_eq]
          have here := handleToolRequest_unasked (ungranted step List.mem_cons_self call made)
          have handles := @MCPRouter.handleToolRequest_handles lib runtime.adapterRouter call
            history (some store)
          match ran : runtime.adapterRouter.handleToolRequest lib call history (some store) with
          | ⟨.error e, after, effects⟩ =>
              rw [ran] at here
              rw [Prog.bind_run_error ran]
              exact here
          | ⟨.ok result, after, effects⟩ =>
              rw [ran] at here handles
              rw [Prog.bind_run_ok ran, Outcome.prepend_effects]
              refine here.append ?_
              cases shown : step.toDict lib with
              | error e =>
                  rw [Prog.ofExcept_bind_run_error rfl]
                  exact silent
              | ok record =>
                  rw [Prog.ofExcept_bind_run rfl]
                  split_ifs
                  · exact silent
                  · obtain ⟨store', rfl, same, kept⟩ := handles.keepsGrants
                    refine ih fun later member call made => ?_
                    have before := ungranted later (List.mem_cons_of_mem _ member) call made
                    exact before.later same kept effects

end Calls

end ConfigRuntime

/-! ## A runtime over time -/

/-- An operation on a runtime: a call at the SDK adapter, an operation of one of the hosts over it,
or a run of a playbook. -/
inductive RuntimeOperation
  | adapterCall (input : CallInput)
  | host (n : Nat) (operation : HostOperation)
  | playbook (name target sessionId requesterId : String)

/-- A runtime over time: everything that has happened, its approval store, and the hosts over it. -/
structure RuntimeLife where
  history : List RuntimeEffect
  store : ApprovalStore
  hosts : Nat → HostState

namespace RuntimeLife

/-- A runtime before its first operation. -/
def start : RuntimeLife := ⟨[], .empty, fun _ => .fresh .empty⟩

/-- A host as it is now: its store is the runtime's. -/
def host (life : RuntimeLife) (n : Nat) : HostState := { life.hosts n with store := life.store }

/-- What an operation on the store leaves. -/
def after {α : Type} (life : RuntimeLife)
    (run : Outcome RuntimeEffect (Option ApprovalStore) PyExc α) : RuntimeLife :=
  { life with history := life.history ++ run.effects, store := run.state.getD life.store }

/-- What an operation of a host leaves. -/
def afterHost {α : Type} (life : RuntimeLife) (n : Nat)
    (run : Outcome RuntimeEffect HostState PyExc α) : RuntimeLife :=
  ⟨life.history ++ run.effects, run.state.store, Function.update life.hosts n run.state⟩

end RuntimeLife

namespace ConfigRuntime

section Life

variable (lib : AuditLibrary) (runtime : ConfigRuntime) (registry : PlaybookRegistry)

/-- The call of an input at the adapter. -/
def adapterCallOf : CallInput → Except PyExc MCPSDKToolCall
  | .call call => .ok call
  | .mapping values => MCPSDKToolCall.fromMapping lib.toStdlib values

/-- One operation on a runtime, and the effects it leaves. -/
def runtimeStep (life : RuntimeLife) : RuntimeOperation → RuntimeLife × List RuntimeEffect
  | .adapterCall input =>
      let run := runtime.adapterCallTool lib input life.history (some life.store)
      (life.after run, run.effects)
  | .host n operation =>
      let run := runtime.operate lib operation life.history (life.host n)
      (life.afterHost n run, run.effects)
  | .playbook name target sessionId requesterId =>
      let run := runtime.runPlaybook lib registry name target sessionId requesterId life.history
        (some life.store)
      (life.after run, run.effects)

/-- **No local grant for what is called**: for every call an operation makes whose decision asks,
the store holds no grant that can be used. Responses of operators make no call. -/
def CallsUngranted (life : RuntimeLife) : RuntimeOperation → Prop
  | .adapterCall input => ∀ call, adapterCallOf lib input = .ok call →
      runtime.Ungranted lib life.history life.store call
  | .host _ (.callTool input) => ∀ call, callOf lib input = .ok call →
      runtime.Ungranted lib life.history life.store call
  | .host n (.resumeApprovedTool requestId) => ∀ pending,
      (life.hosts n).pending.lookup requestId = some pending →
        runtime.Ungranted lib life.history life.store pending.call
  | .host _ (.submitApprovalResponse _) => True
  | .playbook name target sessionId requesterId => ∀ playbook step call,
      registry.get name = some playbook → step ∈ playbook.steps →
        playbookRequest playbook target sessionId requesterId step = .ok call →
          runtime.Ungranted lib life.history life.store call

variable {lib runtime registry}

/-- **One operation** that calls nothing a local grant is for executes nothing whose decision asks.
-/
theorem runtimeStep_unasked {life : RuntimeLife} {operation : RuntimeOperation}
    (ungranted : runtime.CallsUngranted lib registry life operation) :
    Unasked (runtime.runtimeStep lib registry life operation).2 := by
  have silent : Unasked [] := unasked_of_own ownEvents_nil
  cases operation with
  | adapterCall input =>
      change Unasked (runtime.adapterCallTool lib input life.history (some life.store)).effects
      cases input with
      | call call =>
          rw [adapterCallTool, adapterCall_effects]
          exact handleToolRequest_unasked (ungranted call rfl)
      | mapping values =>
          rw [adapterCallTool]
          cases read : MCPSDKToolCall.fromMapping lib.toStdlib values with
          | error e =>
              rw [Prog.ofExcept_bind_run_error rfl]
              exact silent
          | ok call =>
              rw [Prog.ofExcept_bind_run rfl, adapterCall_effects]
              exact handleToolRequest_unasked (ungranted call read)
  | host n operation =>
      cases operation with
      | callTool input => exact callTool_unasked ungranted
      | submitApprovalResponse input =>
          exact unasked_of_own (submitApprovalResponse_submitted input).1
      | resumeApprovedTool requestId => exact resumeApprovedTool_unasked ungranted
  | playbook name target sessionId requesterId =>
      change Unasked (runtime.runPlaybook lib registry name target sessionId requesterId
        life.history (some life.store)).effects
      rw [runPlaybook]
      cases known : registry.require name with
      | error e =>
          rw [Prog.ofExcept_bind_run_error rfl]
          exact silent
      | ok playbook =>
          rw [Prog.ofExcept_bind_run rfl]
          refine runSteps_unasked fun step member call made =>
            ungranted playbook step call ?_ member made
          unfold PlaybookRegistry.require at known
          split at known
          · cases known
          · next found => exact found.trans (congrArg some (Except.ok.inj known))

end Life

end ConfigRuntime

/-! ## Operations

An operation is a sequence of tool requests, or a response of an operator, which makes none. -/

namespace ConfigRuntime

section Operations

variable (lib : AuditLibrary) (runtime : ConfigRuntime)

/-- **A sequence of tool requests**, each of which is made after the ones before it. -/
inductive Requests : List RuntimeEffect → ApprovalStore → List RuntimeEffect → ApprovalStore → Prop
  | none {history : List RuntimeEffect} {store : ApprovalStore} : Requests history store [] store
  | request {history effects more : List RuntimeEffect} {store mid after : ApprovalStore}
      (call : MCPToolRequest)
      (made : (runtime.adapterRouter.handleToolRequest lib call history (some store)).effects
        = effects)
      (left : (runtime.adapterRouter.handleToolRequest lib call history (some store)).state
        = some mid)
      (rest : Requests (history ++ effects) mid more after) :
      Requests history store (effects ++ more) after

/-- **A grant an operator gives**: the response answers a pending request, in time and without
denying it, and this is the grant it makes. -/
def Gives (life : RuntimeLife) (n : Nat) (input : ResponseInput) (grant : ApprovalGrant) : Prop :=
  ∃ response pending,
    responseOf lib (runtime.environment.now life.history) input = .ok response
      ∧ Answers (life.host n) response pending ∧ GivesLeave pending.approval response
      ∧ grantOf pending.approval response = .ok grant

variable {lib runtime} {history : List RuntimeEffect} {store : ApprovalStore}

/-- A tool request leaves a store where it finds one. -/
theorem handleToolRequest_store (call : MCPToolRequest) :
    ∃ mid, (runtime.adapterRouter.handleToolRequest lib call history (some store)).state
      = some mid := by
  obtain ⟨mid, left, -⟩ := (@MCPRouter.handleToolRequest_handles lib runtime.adapterRouter call
    history (some store)).keepsGrants
  exact ⟨mid, left⟩

/-- One request is a sequence. -/
theorem Requests.single (call : MCPToolRequest) {mid : ApprovalStore}
    (left : (runtime.adapterRouter.handleToolRequest lib call history (some store)).state
      = some mid) :
    runtime.Requests lib history store
      (runtime.adapterRouter.handleToolRequest lib call history (some store)).effects mid := by
  have one := Requests.request call rfl left .none
  rwa [List.append_nil] at one

/-- A call at the adapter is a request. -/
theorem adapterCall_requests (call : MCPSDKToolCall) :
    ∃ mid, (runtime.adapterCall lib call history (some store)).state = some mid
      ∧ runtime.Requests lib history store
        (runtime.adapterCall lib call history (some store)).effects mid := by
  obtain ⟨mid, left⟩ := @handleToolRequest_store lib runtime history store call
  have state : (runtime.adapterCall lib call history (some store)).state
      = (runtime.adapterRouter.handleToolRequest lib call history (some store)).state := by
    rw [adapterCall, MCPToolRequest.init_self, Prog.ofExcept_bind_run rfl, Prog.bind_ofExcept_run]
  refine ⟨mid, state.trans left, ?_⟩
  rw [adapterCall_effects]
  exact .single call left

/-- A call at a host is a request on the store of its runtime. -/
theorem callBody_requests (call : HostToolCall) {s : HostState} :
    runtime.Requests lib history s.store (runtime.callBody lib call history s).effects
      (runtime.callBody lib call history s).state.store := by
  obtain ⟨mid, left, made⟩ := @adapterCall_requests lib runtime history s.store call
  rw [callBody]
  rcases ran : runtime.adapterCall lib call history (some s.store) with
    ⟨e | result, store, effects⟩
  · rw [ran] at left made
    have run : onStore (runtime.adapterCall lib call) history s
        = ⟨.error e, { s with store := store.getD s.store }, effects⟩ := by
      rw [onStore, Prog.zoom, ran]
    rw [Prog.bind_run_error run, show store = some mid from left]
    exact made
  · rw [ran] at left made
    have run : onStore (runtime.adapterCall lib call) history s
        = ⟨.ok result, { s with store := store.getD s.store }, effects⟩ := by
      rw [onStore, Prog.zoom, ran]
    rw [Prog.bind_run_ok run, Outcome.prepend_effects, Outcome.prepend_state,
      show store = some mid from left]
    obtain ⟨silent, kept | ⟨approval, kept⟩⟩ :=
      @showResult_run lib runtime (history ++ effects) { s with store := mid } call result
    · rw [Option.getD_some, silent, kept, List.append_nil]
      exact made
    · rw [Option.getD_some, silent, kept, List.append_nil]
      exact made

theorem callTool_requests (input : CallInput) {s : HostState} :
    runtime.Requests lib history s.store (runtime.callTool lib input history s).effects
      (runtime.callTool lib input history s).state.store := by
  cases read : callOf lib input with
  | error e =>
      rw [callTool, Prog.bind_ofExcept_run, Prog.attempt_run, Prog.ofExcept_bind_run_error read]
      exact .none
  | ok call =>
      rw [callTool_run read]
      exact callBody_requests call

/-- A resumption is the request it resumes, or none. -/
theorem resumeApprovedTool_requests (requestId : String) {s : HostState} :
    runtime.Requests lib history s.store
      (runtime.resumeApprovedTool lib requestId history s).effects
      (runtime.resumeApprovedTool lib requestId history s).state.store := by
  rw [resumeApprovedTool, Prog.get_bind_run]
  cases s.pending.lookup requestId with
  | none => exact .none
  | some pending =>
      dsimp only
      cases s.states.lookup requestId with
      | none => exact callTool_requests _
      | some status =>
          cases status with
          | granted => exact callTool_requests _
          | denied | expired | validationError => exact .none

/-- A playbook is the requests of its steps, up to the one that stops it. -/
theorem runSteps_requests {playbook : PlaybookDefinition} {target sessionId requesterId : String}
    {results : List PyValue} {steps : List PlaybookStep} :
    ∃ after, (runtime.runSteps lib playbook target sessionId requesterId results steps history
        (some store)).state = some after
      ∧ runtime.Requests lib history store
        (runtime.runSteps lib playbook target sessionId requesterId results steps history
          (some store)).effects after := by
  induction steps generalizing history store results with
  | nil => exact ⟨store, rfl, .none⟩
  | cons step rest ih =>
      rw [runSteps]
      cases made : playbookRequest playbook target sessionId requesterId step with
      | error e =>
          rw [Prog.ofExcept_bind_run_error rfl]
          exact ⟨store, rfl, .none⟩
      | ok call =>
          rw [Prog.ofExcept_bind_run rfl, playbookRouter_eq]
          obtain ⟨mid, left⟩ := @handleToolRequest_store lib runtime history store call
          rcases ran : runtime.adapterRouter.handleToolRequest lib call history (some store) with
            ⟨e | result, state, effects⟩
          · have one := Requests.single call left
            rw [ran] at left one
            rw [Prog.bind_run_error ran]
            exact ⟨mid, left, one⟩
          · have same : state = some mid := by
              rw [ran] at left
              exact left
            subst same
            have isMade := congrArg Outcome.effects ran
            rw [Prog.bind_run_ok ran, Outcome.prepend_effects, Outcome.prepend_state]
            have stops : runtime.Requests lib history store (effects ++ []) mid :=
              .request call isMade left .none
            cases shown : step.toDict lib with
            | error e =>
                rw [Prog.ofExcept_bind_run_error rfl]
                exact ⟨mid, rfl, stops⟩
            | ok record =>
                rw [Prog.ofExcept_bind_run rfl]
                split_ifs
                · exact ⟨mid, rfl, stops⟩
                · obtain ⟨after, ends, more⟩ := ih
                  exact ⟨after, ends, .request call isMade left more⟩

variable {registry : PlaybookRegistry} {life : RuntimeLife}

/-- **What an operation leaves**: it makes a sequence of requests, or it is a response of an
operator, which at most adds the grant it gives to the store. -/
theorem runtimeStep_leaves (operation : RuntimeOperation) :
    let step := runtime.runtimeStep lib registry life operation
    step.1.history = life.history ++ step.2
      ∧ (runtime.Requests lib life.history life.store step.2 step.1.store
        ∨ OwnEvents step.2 ∧ (step.1.store = life.store
          ∨ ∃ n input grant, operation = .host n (.submitApprovalResponse input)
            ∧ runtime.Gives lib life n input grant
            ∧ step.1.store = life.store.addActionGrant grant)) := by
  intro step
  cases operation with
  | adapterCall input =>
      refine ⟨rfl, .inl ?_⟩
      change runtime.Requests lib life.history life.store
        (runtime.adapterCallTool lib input life.history (some life.store)).effects
        ((runtime.adapterCallTool lib input life.history (some life.store)).state.getD life.store)
      cases input with
      | call call =>
          obtain ⟨mid, left, made⟩ := @adapterCall_requests lib runtime life.history life.store call
          rw [adapterCallTool, left]
          exact made
      | mapping values =>
          rw [adapterCallTool]
          cases read : MCPSDKToolCall.fromMapping lib.toStdlib values with
          | error e =>
              rw [Prog.ofExcept_bind_run_error rfl]
              exact .none
          | ok call =>
              obtain ⟨mid, left, made⟩ :=
                @adapterCall_requests lib runtime life.history life.store call
              rw [Prog.ofExcept_bind_run rfl, left]
              exact made
  | host n operation =>
      refine ⟨rfl, ?_⟩
      cases operation with
      | callTool input =>
          exact .inl (@callTool_requests lib runtime life.history input (life.host n))
      | resumeApprovedTool requestId =>
          exact .inl (@resumeApprovedTool_requests lib runtime life.history requestId (life.host n))
      | submitApprovalResponse input =>
          have submitted := @submitApprovalResponse_submitted lib runtime life.history (life.host n)
            input
          refine .inr ⟨submitted.1, ?_⟩
          change (runtime.submitApprovalResponse lib input life.history (life.host n)).state.store
              = life.store ∨ ∃ n' input' grant, _ ∧ _
                ∧ (runtime.submitApprovalResponse lib input life.history (life.host n)).state.store
                  = life.store.addActionGrant grant
          generalize (runtime.submitApprovalResponse lib input life.history (life.host n)).state = s
            at submitted
          cases submitted.2 with
          | kept states invalid => exact .inl rfl
          | refused read answers refuses refusal => exact .inl rfl
          | granted read answers leave made =>
              exact .inr ⟨n, input, _, rfl, ⟨_, _, read, answers, leave, made⟩, rfl⟩
  | playbook name target sessionId requesterId =>
      refine ⟨rfl, .inl ?_⟩
      change runtime.Requests lib life.history life.store
        (runtime.runPlaybook lib registry name target sessionId requesterId life.history
          (some life.store)).effects
        ((runtime.runPlaybook lib registry name target sessionId requesterId life.history
          (some life.store)).state.getD life.store)
      rw [runPlaybook]
      cases known : registry.require name with
      | error e =>
          rw [Prog.ofExcept_bind_run_error rfl]
          exact .none
      | ok playbook =>
          obtain ⟨after, ends, made⟩ := @runSteps_requests lib runtime life.history life.store
            playbook target sessionId requesterId [] playbook.steps
          rw [Prog.ofExcept_bind_run rfl, ends]
          exact made

/-- Requests keep the grants of the store and take back no mark. -/
theorem Requests.keepsGrants {effects : List RuntimeEffect} {after : ApprovalStore}
    (requests : runtime.Requests lib history store effects after) :
    after.actionGrants = store.actionGrants
      ∧ store.consumedResponseIds ⊆ after.consumedResponseIds := by
  induction requests with
  | none => exact ⟨rfl, List.Subset.refl _⟩
  | @request history effects more store mid after call made left rest ih =>
      obtain ⟨mid', left', same, kept⟩ := (@MCPRouter.handleToolRequest_handles lib
        runtime.adapterRouter call history (some store)).keepsGrants
      cases left.symm.trans left'
      exact ⟨ih.1.trans same, List.Subset.trans kept ih.2⟩

/-- Where the store holds no grants, whatever is called is ungranted. -/
theorem callsUngranted_of_grantless {life : RuntimeLife} (grantless : life.store.actionGrants = [])
    (operation : RuntimeOperation) : runtime.CallsUngranted lib registry life operation := by
  have none (call : MCPToolRequest) : runtime.Ungranted lib life.history life.store call := by
    intro route fingerprint _ _ _ grant member
    rw [grantless] at member
    cases member
  cases operation with
  | adapterCall input => exact fun call _ => none call
  | host n operation =>
      cases operation with
      | callTool input => exact fun call _ => none call
      | submitApprovalResponse input => trivial
      | resumeApprovedTool requestId => exact fun pending _ => none pending.call
  | playbook name target sessionId requesterId => exact fun _ _ call _ _ _ => none call

/-- An operator who is asked denies. -/
def OnlyDenies : RuntimeOperation → Prop
  | .host _ (.submitApprovalResponse (.response response)) => response.decision = .denied
  | .host _ (.submitApprovalResponse (.mapping _)) => False
  | _ => True

/-- **Where operators only deny**, the store stays without grants, and whatever is called in the run
is ungranted. -/
theorem stepsMeet_of_onlyDenies {life : RuntimeLife} (grantless : life.store.actionGrants = [])
    {operations : List RuntimeOperation} (denies : ∀ operation ∈ operations, OnlyDenies operation) :
    Lib.StepsMeet (runtime.runtimeStep lib registry) (runtime.CallsUngranted lib registry) life
      operations := by
  induction operations generalizing life with
  | nil => trivial
  | cons operation rest ih =>
      rw [List.forall_mem_cons] at denies
      refine ⟨callsUngranted_of_grantless grantless operation, ih ?_ denies.2⟩
      obtain ⟨-, requests | ⟨-, same | ⟨n, input, grant, rfl, gives, -⟩⟩⟩ :=
        @runtimeStep_leaves lib runtime registry life operation
      · rw [requests.keepsGrants.1, grantless]
      · rw [same, grantless]
      · -- a response that denies gives no grant
        obtain ⟨response, pending, read, -, leave, -⟩ := gives
        cases input with
        | response denial =>
            cases read
            exact absurd denies.1 leave.2
        | mapping values => exact denies.1.elim

end Operations

end ConfigRuntime

/-! ## The tower -/

/-- **The tower's authority is honoured** in every run of a runtime in which no call is made that a
local grant is for: every execution whose decision asks was cleared by the tower. -/
theorem authority_honoured (lib : AuditLibrary) (runtime : ConfigRuntime)
    (registry : PlaybookRegistry) (life : RuntimeLife) (operations : List RuntimeOperation)
    (ungranted : Lib.StepsMeet (runtime.runtimeStep lib registry)
      (runtime.CallsUngranted lib registry) life operations) :
    ∀ effects ∈ Lib.outputs (runtime.runtimeStep lib registry) life operations,
      runtime.Honours lib effects := by
  have each : ∀ life operation, True → runtime.CallsUngranted lib registry life operation →
      True ∧ runtime.Honours lib (runtime.runtimeStep lib registry life operation).2 :=
    fun _ _ _ ungranted => ⟨trivial, (ConfigRuntime.runtimeStep_unasked ungranted).honours⟩
  exact Lib.outputs_forall each trivial ungranted

/-! ## Where it is not honoured

An approval that a host is given at the runtime clears the next resumption, whatever tower is
configured. -/

section Downgrade

variable {lib : AuditLibrary} {runtime : ConfigRuntime} {registry : PlaybookRegistry}

/-- A host is as its last operation left it. -/
theorem RuntimeLife.host_afterHost {α : Type} (life : RuntimeLife) (n : Nat)
    (run : Outcome RuntimeEffect HostState PyExc α) :
    (life.afterHost n run).host n = run.state := by
  simp [RuntimeLife.host, RuntimeLife.afterHost]

/-- **A host over time is a part of its runtime**: an operation does the same in both, and leaves
the same. -/
theorem ConfigRuntime.runtimeStep_host {life : RuntimeLife} {alone : HostLife} {n : Nat}
    (history : life.history = alone.history) (host : life.host n = alone.host)
    (operation : HostOperation) :
    (runtime.runtimeStep lib registry life (.host n operation)).2
        = (runtime.hostStep lib alone operation).2.effects ∧
      (runtime.runtimeStep lib registry life (.host n operation)).1.history
        = (runtime.hostStep lib alone operation).1.history ∧
      (runtime.runtimeStep lib registry life (.host n operation)).1.host n
        = (runtime.hostStep lib alone operation).1.host := by
  have same : runtime.operate lib operation life.history (life.host n)
      = runtime.operate lib operation alone.history alone.host := by
    rw [history, host]
  refine ⟨congrArg Outcome.effects same, ?_, ?_⟩
  · show life.history ++ (runtime.operate lib operation life.history (life.host n)).effects = _
    rw [same, history]
    rfl
  · show (life.afterHost n (runtime.operate lib operation life.history (life.host n))).host n = _
    rw [RuntimeLife.host_afterHost, same]
    rfl

/-- **An approval given at a host downgrades**: the resumption it clears is not the tower's. -/
theorem ConfigRuntime.ApprovalGiven.not_honoured {life : HostLife} {input : CallInput}
    {answer : ConfigRuntime.ResponseInput} {requestId : String} {call : HostToolCall}
    {payload : Record} {pending : PendingApproval} {response : HostApprovalResponse}
    (laws : HostLaws lib) (steady : Steady lib runtime.environment) {mode : ControlMode}
    (builtIn : runtime.policy = modePreset mode none)
    (given : runtime.ApprovalGiven lib life input answer requestId call payload pending response)
    (harmless : containsSecretPattern lib call.target = false) :
    ¬ runtime.Honours lib (runtime.firstResumption lib life input answer requestId).2.effects := by
  obtain ⟨⟨route, request, routed, called, -⟩, -⟩ := given.completes laws steady builtIn harmless
  obtain ⟨route', capability, fingerprint, effects, asked, -, -, rfl, -⟩ :=
    given.waiting laws steady builtIn
  cases routed.symm.trans asked.routed
  have asks : (runtime.callDecision pending.call route).asks = true := (asked.asks []).asks
  set life₂ := runtime.afterAnswer lib life input answer
  have known : life₂.host.pending.lookup requestId = some pending := by
    rw [given.grants.1]
    exact given.kept
  have executes : ∃ effect ∈ (runtime.firstResumption lib life input answer requestId).2.effects,
      effect.providerCall = some (route.adapter, request) := by
    have member : (route.adapter, request) ∈ (runtime.firstResumption lib life input answer
        requestId).2.effects.filterMap RuntimeEffect.providerCall := by
      rw [called]
      exact List.mem_singleton_self _
    exact List.mem_filterMap.mp member
  have resumed : (runtime.firstResumption lib life input answer requestId).2.effects
      = (runtime.resumeApprovedTool lib requestId life₂.history life₂.host).effects := rfl
  rw [resumed] at executes ⊢
  rcases @resumeApprovedTool_or lib runtime life₂.history life₂.host requestId pending known with
    again | nothing
  · have body : (runtime.resumeApprovedTool lib requestId life₂.history life₂.host).effects
        = (runtime.adapterRouter.handleToolRequest lib pending.call life₂.history
            (some life₂.host.store)).effects := by
      rw [again, callTool_run rfl, ← callBody_effects]
    rw [body] at executes ⊢
    obtain ⟨effect, member, calls⟩ := executes
    cases effect with
    | handled adapter inner =>
        cases inner with
        | executed request' answer' => exact not_honours_of_asks routed asks member
        | _ => cases calls
    | _ => cases calls
  · rw [nothing] at executes
    obtain ⟨effect, member, -⟩ := executes
    cases member

end Downgrade

/-! ## A configured tower -/

namespace Deployment

/-- A public key of zeros, as a configuration writes it. -/
def zeroKey : String := String.ofList (List.replicate 43 'A')

/-- The library, with the decoding of that key. -/
def towerLibrary : ConfigLibrary :=
  { configLibrary with
    urlsafeB64decode := fun text =>
      if text = zeroKey ++ "=" then some (List.replicate 32 0)
      else configLibrary.urlsafeB64decode text }

/-- The configuration of a target with a complete `act` section. -/
def towerConfig : Params :=
  targetConfig "lab-1" ++ strEntries
    [("auth_channel", .str "mobile_signed"),
      ("act", strDict [("gateway_url", .str "https://act.example.invalid/v1"),
        ("tower_id", .str "tower-1"), ("tower_keys", strDict [("key-1", .str zeroKey)])])]

/-- A runtime has a tower, which its channel selects, and routes a restart. -/
def hasTower (runtime : ConfigRuntime) : Bool :=
  decide (runtime.config.authChannel = .mobileSigned) && runtime.config.act.isConfigured
    && runtime.clearanceClient.isSome && runtime.clearanceVerifier.isSome
    && routesRestart runtime "lab-1" lab_named

/-- The configuration is accepted and makes such a runtime. -/
def towerConfigured : Bool :=
  match runtimeOf towerLibrary calmEnvironment noTransport towerConfig with
  | .error _ => false
  | .ok runtime => hasTower runtime

theorem exists_tower : ∃ runtime,
    runtimeOf towerLibrary calmEnvironment noTransport towerConfig = .ok runtime ∧
      hasTower runtime = true := by
  have configured : towerConfigured = true := by decide +kernel
  unfold towerConfigured at configured
  split at configured
  · cases configured
  · next runtime built => exact ⟨runtime, built, configured⟩

end Deployment

/-- A restart waits at a host, the operator denies it, it is asked for once more at the SDK adapter,
and a playbook looks at the target: the tower of the configuration is honoured throughout. -/
theorem authority_honoured_waiting :
    ∃ runtime requestId pending, ∃ identified : requestId ≠ "",
      runtimeOf Deployment.towerLibrary Deployment.calmEnvironment Deployment.noTransport
        Deployment.towerConfig = .ok runtime ∧
      (runtime.afterCall Deployment.stampLibrary (.start [] .empty)
        (.call (Deployment.restartCall "lab-1" (by decide)))).host.pending.lookup requestId
          = some pending ∧
      ∀ effects ∈ Lib.outputs (runtime.runtimeStep Deployment.stampLibrary defaultPlaybookRegistry)
          .start
          [.host 0 (.callTool (.call (Deployment.restartCall "lab-1" (by decide)))),
            .host 0 (.submitApprovalResponse
              (.response (Deployment.restartResponse .denied requestId identified))),
            .adapterCall (.call (Deployment.restartCall "lab-1" (by decide))),
            .playbook "observe-target-health" "lab-1" "session-1" "agent-1"],
        runtime.Honours Deployment.stampLibrary effects := by
  obtain ⟨runtime, built, tower⟩ := Deployment.exists_tower
  simp only [Deployment.hasTower, Bool.and_eq_true] at tower
  obtain ⟨requestId, identified, payload, pending, given⟩ :=
    @Deployment.approvalGiven_of_routes Deployment.towerLibrary Deployment.towerConfig runtime
      "lab-1" (by decide) built tower.2
  refine ⟨runtime, requestId, pending, identified, built, given.kept,
    authority_honoured Deployment.stampLibrary runtime defaultPlaybookRegistry .start _
      (ConfigRuntime.stepsMeet_of_onlyDenies rfl ?_)⟩
  simp [ConfigRuntime.OnlyDenies, Deployment.restartResponse]

open ConfigRuntime in
/-- **The authority is downgraded**: with a complete `act` section and the channel of the tower, a
call at a host waits, an operator's local response grants it, and the resumption calls the provider
on that grant. -/
theorem authority_downgraded :
    ∃ runtime operations,
      runtimeOf Deployment.towerLibrary Deployment.calmEnvironment Deployment.noTransport
        Deployment.towerConfig = .ok runtime ∧
      runtime.config.authChannel = .mobileSigned ∧ runtime.config.act.isConfigured = true ∧
      runtime.clearanceClient.isSome = true ∧ runtime.clearanceVerifier.isSome = true ∧
      ∃ effects ∈ Lib.outputs (runtime.runtimeStep Deployment.stampLibrary defaultPlaybookRegistry)
          .start operations,
        ¬ runtime.Honours Deployment.stampLibrary effects := by
  obtain ⟨runtime, built, tower⟩ := Deployment.exists_tower
  simp only [Deployment.hasTower, Bool.and_eq_true, decide_eq_true_eq] at tower
  obtain ⟨⟨⟨⟨channel, configured⟩, client⟩, verifier⟩, routes⟩ := tower
  obtain ⟨requestId, identified, payload, pending, given⟩ :=
    @Deployment.approvalGiven_of_routes Deployment.towerLibrary Deployment.towerConfig runtime
      "lab-1" (by decide) built routes
  let call : CallInput := .call (Deployment.restartCall "lab-1" (by decide))
  let answer : ResponseInput := .response (Deployment.restartResponse .granted requestId identified)
  obtain ⟨⟨mode, builtIn⟩, environment⟩ := buildRuntime_policy built
  have steady : Steady Deployment.stampLibrary runtime.environment := by
    rw [environment]
    exact Deployment.calmEnvironment_steady
  have downgraded := given.not_honoured Deployment.stampLibrary_laws steady builtIn
    (by decide +kernel)
  refine ⟨runtime, [.host 0 (.callTool call), .host 0 (.submitApprovalResponse answer),
    .host 0 (.resumeApprovedTool requestId)], built, channel, configured, client, verifier, ?_⟩
  -- the host of the run is the host alone, step by step
  have first := @runtimeStep_host Deployment.stampLibrary runtime defaultPlaybookRegistry .start
    (.start [] .empty) 0 rfl rfl (.callTool call)
  have second := @runtimeStep_host Deployment.stampLibrary runtime defaultPlaybookRegistry _ _ 0
    first.2.1 first.2.2 (.submitApprovalResponse answer)
  have third := @runtimeStep_host Deployment.stampLibrary runtime defaultPlaybookRegistry _ _ 0
    second.2.1 second.2.2 (.resumeApprovedTool requestId)
  refine ⟨_, List.mem_cons_of_mem _ (List.mem_cons_of_mem _ List.mem_cons_self), ?_⟩
  rw [third.1]
  exact downgraded

end AgenticKVM
