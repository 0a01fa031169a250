import AgenticKVM.ApprovalRuns
import AgenticKVM.JsonPayloads
import AgenticKVM.McpHost

/-! # What an operation of the host does

A tool request either leaves audit events of the router's own or runs one control plane
(`MCPRouter.Handles`), and so does a call at the host, which besides may keep the call as pending
(`ConfigRuntime.Called`). Neither gives a grant. A response of an operator runs no control plane: it
sets the state of its request and may store a grant (`ConfigRuntime.Submitted`). -/

namespace AgenticKVM

open Lib (Prog Outcome)

/-! ## Tool requests -/

/-- Effects that are audit events of a surface. -/
def OwnEvents (effects : List RuntimeEffect) : Prop :=
  ∀ effect ∈ effects, ∀ adapter inner, effect ≠ .handled adapter inner

theorem ownEvents_nil : OwnEvents [] := fun _ member => by cases member

/-- A surface's emission is an event of its own. -/
theorem RuntimeEnvironment.emit_own (environment : RuntimeEnvironment) (event : SurfaceEvent)
    (history : List RuntimeEffect) (store : Option ApprovalStore) :
    OwnEvents (environment.emit event history store).effects
      ∧ (environment.emit event history store).state = store := by
  refine ⟨fun effect member adapter inner same => ?_, rfl⟩
  rw [RuntimeEnvironment.emit, Prog.perform_run, List.mem_singleton] at member
  subst same
  split at member <;> cases member

namespace MCPRouter

variable (lib : AuditLibrary) (router : MCPRouter) {request : MCPToolRequest}
  {history : List RuntimeEffect} {store : Option ApprovalStore}

/-- **What a tool request leaves**: audit events of the router's own, or what one control plane does
with a request that presents no signed grant. -/
inductive Handles (history : List RuntimeEffect) (store : Option ApprovalStore) :
    List RuntimeEffect → Option ApprovalStore → Prop
  | own {effects : List RuntimeEffect} (own : OwnEvents effects) : Handles history store effects store
  | plane (adapter : ProviderAdapter) (selection : AuthChannelSelection)
      (request : CapabilityRequest) (unsigned : request.signedApprovalGrant = none)
      (local_ : resolveAuthChannel lib.toStdlib router.authChannel defaultAuthChannel = .ok selection) :
      Handles history store
        (((router.controlPlane adapter selection history).handle lib.toStdlib request []
          ⟨store, []⟩).effects.map (.handled adapter))
        ((router.controlPlane adapter selection history).handle lib.toStdlib request []
          ⟨store, []⟩).state.approvalStore

variable {lib router}

/-- A refused request leaves audit events of the router's own. -/
theorem refuse_own (refusal : Refusal) :
    OwnEvents (router.refuse request refusal history store).effects
      ∧ (router.refuse request refusal history store).state = store := by
  have emitted : OwnEvents (router.auditValidationError request refusal.audited history
        store).effects
      ∧ (router.auditValidationError request refusal.audited history store).state = store := by
    unfold auditValidationError
    cases router.capabilityRegistry.get "runtime.noop" with
    | none => exact ⟨ownEvents_nil, rfl⟩
    | some capability => exact router.environment.emit_own _ _ _
  have same : router.refuse request refusal history store = _ :=
    Prog.bind_ofExcept_run (router.auditValidationError request refusal.audited)
      fun _ => Except.ok (refusal.result request)
  rw [same]
  exact emitted

/-- A tool request is handled by at most one control plane. -/
theorem handleToolRequest_handles :
    router.Handles lib history store (router.handleToolRequest lib request history store).effects
      (router.handleToolRequest lib request history store).state := by
  unfold handleToolRequest
  cases router.route request with
  | error refusal =>
      dsimp only
      obtain ⟨own, kept⟩ := @refuse_own router request history store refusal
      rw [kept]
      exact .own own
  | ok route =>
      dsimp only
      unfold MCPRouter.execute
      cases selected : resolveAuthChannel lib.toStdlib router.authChannel defaultAuthChannel with
      | error e =>
          rw [Prog.ofExcept_bind_run_error rfl]
          exact .own ownEvents_nil
      | ok selection =>
          rw [Prog.ofExcept_bind_run rfl, Prog.bind_ofExcept_run]
          exact .plane route.adapter selection (capabilityRequest request route.tool) rfl selected

end MCPRouter

/-! ## Answers -/

/-- An element that occurs once splits a list in one way. -/
theorem append_cons_inj {α : Type} {p : α → Bool} {first first' rest rest' : List α} {a a' : α}
    (same : first ++ a :: rest = first' ++ a' :: rest') (isHere : p a' = true)
    (before : first.filter p = []) (after : rest.filter p = []) :
    first = first' ∧ a = a' ∧ rest = rest' := by
  have outside : ∀ {l : List α}, l.filter p = [] → a' ∉ l := by
    intro l none member
    have kept := List.mem_filter.mpr ⟨member, isHere⟩
    rw [none] at kept
    cases kept
  rcases List.append_eq_append_iff.mp same with ⟨mid, split, tail⟩ | ⟨mid, split, tail⟩
  · cases mid with
    | nil =>
        obtain ⟨rfl, rfl⟩ := List.cons.inj (tail : a :: rest = a' :: rest')
        exact ⟨(split.trans (List.append_nil first)).symm, rfl, rfl⟩
    | cons b mid =>
        obtain ⟨-, tail⟩ := List.cons.inj (tail : a :: rest = b :: (mid ++ a' :: rest'))
        exact absurd (tail ▸ List.mem_append_right mid List.mem_cons_self) (outside after)
  · cases mid with
    | nil =>
        obtain ⟨rfl, rfl⟩ := List.cons.inj (tail : a' :: rest' = a :: rest)
        exact ⟨split.trans (List.append_nil first'), rfl, rfl⟩
    | cons b mid =>
        obtain ⟨rfl, -⟩ := List.cons.inj (tail : a' :: rest' = b :: (mid ++ a :: rest))
        exact absurd (split ▸ List.mem_append_right first' List.mem_cons_self) (outside before)

/-- **Every answer of a provider is the environment's**, to all that happened before. -/
def AnsweredFrom (environment : RuntimeEnvironment) (history effects : List RuntimeEffect) : Prop :=
  ∀ before adapter request answer after,
    effects = before ++ .handled adapter (.executed request answer) :: after →
      answer = environment.execute (history ++ before) adapter request

section Answers

variable {environment : RuntimeEnvironment} {history effects : List RuntimeEffect}

theorem answered_own (own : OwnEvents effects) : AnsweredFrom environment history effects := by
  intro before adapter request answer after split
  have member : RuntimeEffect.handled adapter (.executed request answer) ∈ effects := by
    rw [split]
    exact List.mem_append_right before List.mem_cons_self
  exact absurd rfl (own _ member adapter (.executed request answer))

theorem AnsweredFrom.append {more : List RuntimeEffect} (first : AnsweredFrom environment history effects)
    (second : AnsweredFrom environment (history ++ effects) more) :
    AnsweredFrom environment history (effects ++ more) := by
  intro before adapter request answer after split
  rcases List.append_eq_append_iff.mp split with ⟨mid, beforeIs, rest⟩ | ⟨mid, effectsIs, rest⟩
  · rw [beforeIs, ← List.append_assoc]
    exact second mid adapter request answer after rest
  · cases mid with
    | nil =>
        rw [List.append_nil] at effectsIs
        rw [← effectsIs]
        have here := second [] adapter request answer after rest.symm
        rwa [List.append_nil] at here
    | cons effect mid =>
        obtain ⟨rfl, -⟩ := List.cons.inj rest
        exact first before adapter request answer mid effectsIs

/-- The answers of a control plane that is built for one request. -/
theorem MCPRouter.answered_handle {lib : AuditLibrary} (router : MCPRouter)
    (adapter : ProviderAdapter) (selection : AuthChannelSelection) (request : CapabilityRequest)
    (s : PlaneState) :
    AnsweredFrom router.environment history
      (((router.controlPlane adapter selection history).handle lib.toStdlib request [] s).effects.map
        (.handled adapter)) := by
  set plane := router.controlPlane adapter selection history
  intro before on asked answer after split
  obtain ⟨inner, rest, made, rfl, tail⟩ := List.map_eq_append_iff.mp split
  obtain ⟨effect, later, rfl, same, -⟩ := List.map_eq_cons_iff.mp tail
  cases same
  have executes : ControlPlane.Executes (plane.handle lib.toStdlib request) [] s := by
    refine ControlPlane.executes_iff.mpr fun idle => ?_
    have member : Effect.executed asked answer
        ∈ executions (plane.handle lib.toStdlib request [] s).effects := by
      rw [made]
      exact List.mem_filter.mpr ⟨List.mem_append_right inner List.mem_cons_self, rfl⟩
    rw [idle] at member
    cases member
  obtain ⟨capability, route, s', authorisation, execution⟩ :=
    ControlPlane.execution_of_executes executes
  have run := execution.reaches.run
  rw [ControlPlane.executeProvider_eq execution.reaches.announced] at run
  set opening := (plane.openingEvents request).map Effect.emitted ++ route
  set started := plane.startedEvent request
    (ControlPlane.capabilityRefOf request.capabilityId (some capability)) (plane.decisionOf request)
  have silent : (opening ++ [Effect.emitted started]).filter Effect.isExecution = [] := by
    change executions _ = []
    rw [executions_append, executions_append, execution.route.trace.1,
      (ControlPlane.openingEvents_neutral request).executions]
    rfl
  have answeredAt : ∃ reports, Neutral reports
      ∧ (plane.handle lib.toStdlib request [] s).effects = (opening ++ [Effect.emitted started])
        ++ .executed (ControlPlane.providerRequest request capability)
          (plane.provider.executeAuthorized (opening ++ [Effect.emitted started])
            (ControlPlane.providerRequest request capability)) :: reports := by
    cases given : plane.provider.executeAuthorized (opening ++ [Effect.emitted started])
        (ControlPlane.providerRequest request capability) with
    | error e =>
        rw [List.nil_append, given] at run
        refine ⟨[], Neutral.nil, ?_⟩
        rw [run]
        simp only [Outcome.prepend_effects, List.append_assoc]
        rfl
    | ok result =>
        rw [List.nil_append, given] at run
        obtain ⟨quiet, -⟩ := @ControlPlane.reportExecution_quiet plane request
          (ControlPlane.capabilityRefOf request.capabilityId (some capability))
          (plane.decisionOf request) result
        refine ⟨_, quiet (opening ++ [.emitted started,
          .executed (ControlPlane.providerRequest request capability) (.ok result)]) s', ?_⟩
        rw [run]
        simp only [Outcome.prepend_effects, List.append_assoc]
        rfl
  obtain ⟨reports, neutral, shape⟩ := answeredAt
  obtain ⟨rfl, isAnswer, -⟩ := append_cons_inj (p := Effect.isExecution) (shape.symm.trans made) rfl
    silent neutral.executions
  cases isAnswer
  rfl

/-- The answers of a tool request. -/
theorem MCPRouter.Handles.answered {lib : AuditLibrary} {router : MCPRouter}
    {store after : Option ApprovalStore}
    (handles : router.Handles lib history store effects after) :
    AnsweredFrom router.environment history effects := by
  cases handles with
  | own own => exact answered_own own
  | plane adapter selection request unsigned local_ =>
      exact router.answered_handle adapter selection request ⟨store, []⟩

end Answers

/-! ## Calls -/

namespace ConfigRuntime

variable (lib : AuditLibrary) (runtime : ConfigRuntime)

/-- **What a call leaves**: what its tool request leaves, and perhaps a pending approval under the id
of its own approval request. -/
structure Called (history : List RuntimeEffect) (s : HostState) (effects : List RuntimeEffect)
    (s' : HostState) : Prop where
  handles : ∃ store, runtime.adapterRouter.Handles lib history (some s.store) effects store
    ∧ s'.store = store.getD s.store
  states : s'.states = s.states
  pending : s'.pending = s.pending
    ∨ ∃ call approval, s'.pending = dictSet s.pending approval.id ⟨call, approval⟩

variable {lib runtime} {history : List RuntimeEffect} {s : HostState}

theorem called_nothing : runtime.Called lib history s [] s :=
  ⟨⟨some s.store, .own ownEvents_nil, rfl⟩, rfl, .inl rfl⟩

section Showing

variable {call : HostToolCall} {adapterResult payload : Record}

/-- A result that cannot be shown is raised. -/
theorem showResult_error {e : PyExc} (unshown : hostPayload lib adapterResult = .error e) :
    runtime.showResult lib call adapterResult history s = ⟨.error e, s, []⟩ := by
  rw [showResult, Prog.ofExcept_bind_run_error unshown]

/-- A result that waits for no operator is returned. -/
theorem showResult_plain (shown : hostPayload lib adapterResult = .ok payload)
    (decided : payload.get "status" ≠ .str "approval_required") :
    runtime.showResult lib call adapterResult history s = ⟨.ok payload, s, []⟩ := by
  rw [showResult, Prog.ofExcept_bind_run shown, if_neg fun waits => decided (isLink_iff.mp waits)]
  rfl

/-- **A result that waits for an operator** is kept as pending and returned with its approval
request. -/
theorem showResult_waits (shown : hostPayload lib adapterResult = .ok payload)
    (waits : payload.get "status" = .str "approval_required") {approval : HostApprovalRequest}
    (asked : HostApprovalRequest.fromHostResult lib payload call.params call.correlationId
      (runtime.environment.now history) = .ok approval) :
    runtime.showResult lib call adapterResult history s
      = ⟨(approval.toDict lib).map fun shown => dictSet payload "approval_request" (.obj shown),
        { s with pending := dictSet s.pending approval.id ⟨call, approval⟩ }, []⟩ := by
  rw [showResult, Prog.ofExcept_bind_run shown, if_pos (isLink_iff.mpr waits), keepPending,
    Prog.ask_bind_run, Prog.ofExcept_bind_run asked, Prog.modify_bind_run]
  cases written : approval.toDict lib with
  | error e => rw [Prog.ofExcept_bind_run_error rfl, Except.map]
  | ok shown =>
      rw [Prog.ofExcept_bind_run rfl]
      rfl

/-- A result whose approval request cannot be read is raised. -/
theorem showResult_unread (shown : hostPayload lib adapterResult = .ok payload)
    (waits : payload.get "status" = .str "approval_required") {e : PyExc}
    (unread : HostApprovalRequest.fromHostResult lib payload call.params call.correlationId
      (runtime.environment.now history) = .error e) :
    runtime.showResult lib call adapterResult history s = ⟨.error e, s, []⟩ := by
  rw [showResult, Prog.ofExcept_bind_run shown, if_pos (isLink_iff.mpr waits), keepPending,
    Prog.ask_bind_run, Prog.ofExcept_bind_run_error unread]

/-- Showing a result has no effects, and changes nothing but the pending approvals. -/
theorem showResult_run (call : HostToolCall) (adapterResult : Record) :
    (runtime.showResult lib call adapterResult history s).effects = []
      ∧ ((runtime.showResult lib call adapterResult history s).state = s
        ∨ ∃ approval, (runtime.showResult lib call adapterResult history s).state
          = { s with pending := dictSet s.pending approval.id ⟨call, approval⟩ }) := by
  cases shown : hostPayload lib adapterResult with
  | error e =>
      rw [showResult_error shown]
      exact ⟨rfl, .inl rfl⟩
  | ok payload =>
      by_cases waits : payload.get "status" = .str "approval_required"
      · cases asked : HostApprovalRequest.fromHostResult lib payload call.params
            call.correlationId (runtime.environment.now history) with
        | error e =>
            rw [showResult_unread shown waits asked]
            exact ⟨rfl, .inl rfl⟩
        | ok approval =>
            rw [showResult_waits shown waits asked]
            exact ⟨rfl, .inr ⟨approval, rfl⟩⟩
      · rw [showResult_plain shown waits]
        exact ⟨rfl, .inl rfl⟩

end Showing

/-- A call at the adapter is a tool request, or is refused before it. -/
theorem adapterCall_handles (call : MCPSDKToolCall) (store : Option ApprovalStore) :
    runtime.adapterRouter.Handles lib history store
      (runtime.adapterCall lib call history store).effects
      (runtime.adapterCall lib call history store).state := by
  rw [adapterCall]
  cases made : MCPToolRequest.init call.toolName call.target call.sessionId call.requesterId
      call.params call.provider call.approvalContext call.correlationId with
  | error e =>
      rw [Prog.ofExcept_bind_run_error rfl]
      exact .own ownEvents_nil
  | ok request =>
      rw [Prog.ofExcept_bind_run rfl, Prog.bind_ofExcept_run]
      exact MCPRouter.handleToolRequest_handles

/-- What a call does until it raises. -/
theorem callBody_called (call : HostToolCall) :
    runtime.Called lib history s (runtime.callBody lib call history s).effects
      (runtime.callBody lib call history s).state := by
  have handles := @adapterCall_handles lib runtime history call (some s.store)
  rw [callBody]
  match ran : runtime.adapterCall lib call history (some s.store) with
  | ⟨.error e, store, effects⟩ =>
      rw [ran] at handles
      have run : onStore (runtime.adapterCall lib call) history s
          = ⟨.error e, { s with store := store.getD s.store }, effects⟩ := by
        rw [onStore, Prog.zoom, ran]
      rw [Prog.bind_run_error run]
      exact ⟨⟨store, handles, rfl⟩, rfl, .inl rfl⟩
  | ⟨.ok result, store, effects⟩ =>
      rw [ran] at handles
      have run : onStore (runtime.adapterCall lib call) history s
          = ⟨.ok result, { s with store := store.getD s.store }, effects⟩ := by
        rw [onStore, Prog.zoom, ran]
      rw [Prog.bind_run_ok run, Lib.Outcome.prepend_effects, Lib.Outcome.prepend_state]
      obtain ⟨silent, kept | ⟨approval, kept⟩⟩ :=
        @showResult_run lib runtime (history ++ effects) { s with store := store.getD s.store }
          call result
      · rw [silent, kept, List.append_nil]
        exact ⟨⟨store, handles, rfl⟩, rfl, .inl rfl⟩
      · rw [silent, kept, List.append_nil]
        exact ⟨⟨store, handles, rfl⟩, rfl, .inr ⟨call, approval, rfl⟩⟩

/-- The run of a call is that of its body, of which only the result may change. -/
theorem callTool_run {input : CallInput} {call : HostToolCall} (read : callOf lib input = .ok call) :
    runtime.callTool lib input history s
      = ⟨orElse (fun e => hostError lib e.text (namedTool input))
          (runtime.callBody lib call history s).result,
        (runtime.callBody lib call history s).state,
        (runtime.callBody lib call history s).effects⟩ := by
  rw [callTool, Prog.bind_ofExcept_run, Prog.attempt_run, Prog.ofExcept_bind_run read]
  rfl

/-- **What a call at the host does.** -/
theorem callTool_called (input : CallInput) :
    runtime.Called lib history s (runtime.callTool lib input history s).effects
      (runtime.callTool lib input history s).state := by
  cases read : callOf lib input with
  | error e =>
      rw [callTool, Prog.bind_ofExcept_run, Prog.attempt_run, Prog.ofExcept_bind_run_error read]
      exact called_nothing
  | ok call =>
      rw [callTool_run read]
      exact callBody_called call

/-- **What a resumption does**: nothing, or what a call does. -/
theorem resumeApprovedTool_called (requestId : String) :
    runtime.Called lib history s (runtime.resumeApprovedTool lib requestId history s).effects
      (runtime.resumeApprovedTool lib requestId history s).state := by
  rw [resumeApprovedTool, Prog.get_bind_run]
  cases s.pending.lookup requestId with
  | none => exact called_nothing
  | some pending =>
      dsimp only
      cases s.states.lookup requestId with
      | none => exact callTool_called _
      | some status =>
          cases status with
          | granted => exact callTool_called _
          | denied | expired | validationError => exact called_nothing

/-! ## Responses -/

/-- A response is about a pending request and names no other action. -/
structure Answers (s : HostState) (response : HostApprovalResponse) (pending : PendingApproval) :
    Prop where
  known : s.pending.lookup response.requestId = some pending
  agrees : approvalMismatch pending.approval response = none

/-- A response denies its request, or expires it. -/
def Refuses (approval : HostApprovalRequest) (response : HostApprovalResponse) : Prop :=
  isExpired approval response = .ok true
    ∨ isExpired approval response = .ok false ∧ response.decision = .denied

/-- A response grants its request: it comes in time, and does not deny it. -/
def GivesLeave (approval : HostApprovalRequest) (response : HostApprovalResponse) : Prop :=
  isExpired approval response = .ok false ∧ response.decision ≠ .denied

/-- A response that grants its request does not refuse it. -/
theorem GivesLeave.not_refuses {approval : HostApprovalRequest} {response : HostApprovalResponse}
    (leave : GivesLeave approval response) : ¬ Refuses approval response := by
  rintro (expired | ⟨-, denies⟩)
  · rw [leave.1] at expired
    cases expired
  · exact leave.2 denies

variable (lib runtime) in
/-- **What a response leaves**: a refusal sets the state of its request and a grant is stored;
anything else at most marks a request as having had an invalid response. -/
inductive Submitted (history : List RuntimeEffect) (s : HostState) (input : ResponseInput) :
    HostState → Prop
  | kept (states : List (String × HostApprovalResultStatus))
      (invalid : states = s.states ∨ ∃ id, states = dictSet s.states id .validationError) :
      Submitted history s input { s with states }
  | refused {response : HostApprovalResponse} {pending : PendingApproval}
      (read : responseOf lib (runtime.environment.now history) input = .ok response)
      (answers : Answers s response pending) (refuses : Refuses pending.approval response)
      {status : HostApprovalResultStatus} (refusal : status = .denied ∨ status = .expired) :
      Submitted history s input { s with states := dictSet s.states response.requestId status }
  | granted {response : HostApprovalResponse} {pending : PendingApproval} {grant : ApprovalGrant}
      (read : responseOf lib (runtime.environment.now history) input = .ok response)
      (answers : Answers s response pending) (leave : GivesLeave pending.approval response)
      (made : grantOf pending.approval response = .ok grant) :
      Submitted history s input
        { s with
          store := s.store.addActionGrant grant
          states := dictSet s.states response.requestId .granted }

/-- A response that leaves the host as it was. -/
theorem submitted_nothing {input : ResponseInput} : Submitted lib runtime history s input s :=
  .kept s.states (.inl rfl)

/-- The event about a response is one of the host's own, and changes nothing. -/
theorem emitApprovalEvent_run (eventType : AuditEventType) (pending : PendingApproval)
    (response : HostApprovalResponse) (status : HostApprovalResultStatus) :
    ∃ result effects, OwnEvents effects ∧
      runtime.emitApprovalEvent lib eventType pending response status history s
        = ⟨result, s, effects⟩ := by
  rw [emitApprovalEvent]
  cases built : hostApprovalEvent lib eventType pending response status with
  | error e => exact ⟨.error e, [], ownEvents_nil, Prog.ofExcept_bind_run_error rfl _⟩
  | ok event =>
      have own := (runtime.environment.emit_own event history (some s.store)).1
      exact ⟨_, _, own, Prog.ofExcept_bind_run rfl _⟩

/-- After the event about a response, the rest runs from the same state, unless the event is
refused. -/
theorem emitApprovalEvent_bind {α : Type} {eventType : AuditEventType} {pending : PendingApproval}
    {response : HostApprovalResponse} {status : HostApprovalResultStatus} (rest : Unit → Host α) :
    ∃ effects, OwnEvents effects ∧
      ((∃ e, (runtime.emitApprovalEvent lib eventType pending response status >>= rest) history s
          = ⟨.error e, s, effects⟩) ∨
        (runtime.emitApprovalEvent lib eventType pending response status >>= rest) history s
          = (rest () (history ++ effects) s).prepend effects) := by
  obtain ⟨result, effects, own, run⟩ :=
    @emitApprovalEvent_run lib runtime history s eventType pending response status
  refine ⟨effects, own, ?_⟩
  cases result with
  | error e => exact .inl ⟨e, Prog.bind_run_error run rest⟩
  | ok u => exact .inr (Prog.bind_run_ok run rest)

/-- Setting the state of a request, and returning what there is to return. -/
theorem setState_bind_run (requestId : String) (status : HostApprovalResultStatus)
    (result : Except PyExc Record) :
    (setState requestId status >>= fun _ => Prog.ofExcept result) history s
      = ⟨result, { s with states := dictSet s.states requestId status }, []⟩ := by
  rw [setState, Prog.modify_bind_run, Prog.ofExcept_run]

section Submitting

variable {input : ResponseInput} {response : HostApprovalResponse} {pending : PendingApproval}

/-- A refusal sets the state of its request, once its event is recorded. -/
theorem refuseApproval_submitted
    (read : responseOf lib (runtime.environment.now history) input = .ok response)
    (answers : Answers s response pending) (refuses : Refuses pending.approval response)
    {eventType : AuditEventType} {status : HostApprovalResultStatus} {reason : String}
    (refusal : status = .denied ∨ status = .expired) :
    OwnEvents (runtime.refuseApproval lib eventType status reason pending response history s).effects
      ∧ Submitted lib runtime history s input
        (runtime.refuseApproval lib eventType status reason pending response history s).state := by
  rw [refuseApproval]
  obtain ⟨effects, own, ⟨e, run⟩ | run⟩ := @emitApprovalEvent_bind lib runtime history s Record
    eventType pending response status fun _ => do
      setState response.requestId status
      Prog.ofExcept (hostApprovalResult lib status response.requestId reason (some pending.approval)
        (some response) none)
  · rw [run]
    exact ⟨own, submitted_nothing⟩
  · rw [run, setState_bind_run]
    refine ⟨?_, .refused read answers refuses refusal⟩
    rw [Lib.Outcome.prepend_effects, List.append_nil]
    exact own

/-- A grant is stored, once its event is recorded. -/
theorem giveApproval_submitted
    (read : responseOf lib (runtime.environment.now history) input = .ok response)
    (answers : Answers s response pending) (leave : GivesLeave pending.approval response) :
    OwnEvents (runtime.giveApproval lib pending response history s).effects
      ∧ Submitted lib runtime history s input
        (runtime.giveApproval lib pending response history s).state := by
  rw [giveApproval]
  cases made : grantOf pending.approval response with
  | error e =>
      rw [Prog.ofExcept_bind_run_error rfl]
      exact ⟨ownEvents_nil, submitted_nothing⟩
  | ok grant =>
      rw [Prog.ofExcept_bind_run rfl]
      obtain ⟨effects, own, ⟨e, run⟩ | run⟩ := @emitApprovalEvent_bind lib runtime history s Record
        .approvalGranted pending response .granted fun _ => do
          Prog.modify fun s => { s with store := s.store.addActionGrant grant }
          setState response.requestId .granted
          Prog.ofExcept (hostApprovalResult lib .granted response.requestId "approval granted"
            (some pending.approval) (some response) (some grant))
      · rw [run]
        exact ⟨own, submitted_nothing⟩
      · rw [run, Prog.modify_bind_run, setState_bind_run]
        refine ⟨?_, .granted read answers leave made⟩
        rw [Lib.Outcome.prepend_effects, List.append_nil]
        exact own

/-- An invalid response marks its request. -/
theorem approvalValidationError_submitted (requestId reason : String)
    (known : Option PendingApproval) :
    OwnEvents (runtime.approvalValidationError lib requestId reason known response history
        s).effects
      ∧ Submitted lib runtime history s input
        (runtime.approvalValidationError lib requestId reason known response history s).state := by
  cases known with
  | none =>
      rw [approvalValidationError, emitValidationError, Prog.pure_bind_run, setState_bind_run]
      exact ⟨ownEvents_nil, .kept _ (.inr ⟨requestId, rfl⟩)⟩
  | some pending =>
      obtain ⟨effects, own, ⟨e, run⟩ | run⟩ := @emitApprovalEvent_bind lib runtime history s Record
        .approvalDenied pending response .validationError fun _ => do
          setState requestId .validationError
          Prog.ofExcept (hostApprovalResult lib .validationError requestId reason
            (some pending.approval) (some response) none)
      · rw [approvalValidationError, emitValidationError, Option.map_some, run]
        exact ⟨own, submitted_nothing⟩
      · rw [approvalValidationError, emitValidationError, Option.map_some, run, setState_bind_run]
        refine ⟨?_, .kept _ (.inr ⟨requestId, rfl⟩)⟩
        rw [Lib.Outcome.prepend_effects, List.append_nil]
        exact own

end Submitting

/-- **What a response does.** -/
theorem submitApprovalResponse_submitted (input : ResponseInput) :
    OwnEvents (runtime.submitApprovalResponse lib input history s).effects
      ∧ Submitted lib runtime history s input
        (runtime.submitApprovalResponse lib input history s).state := by
  rw [submitApprovalResponse, Prog.bind_ofExcept_run, Prog.attempt_run, submitBody,
    Prog.ask_bind_run]
  cases read : responseOf lib (runtime.environment.now history) input with
  | error e =>
      rw [Prog.ofExcept_bind_run_error rfl]
      exact ⟨ownEvents_nil, submitted_nothing⟩
  | ok response =>
      rw [Prog.ofExcept_bind_run rfl, Prog.get_bind_run]
      cases known : s.pending.lookup response.requestId with
      | none => exact approvalValidationError_submitted _ _ none
      | some pending =>
          dsimp only
          rw [decidePending]
          cases agrees : approvalMismatch pending.approval response with
          | some mismatch => exact approvalValidationError_submitted _ _ (some pending)
          | none =>
              have answers : Answers s response pending := ⟨known, agrees⟩
              dsimp only
              cases late : isExpired pending.approval response with
              | error e =>
                  rw [Prog.ofExcept_bind_run_error rfl]
                  exact ⟨ownEvents_nil, submitted_nothing⟩
              | ok expired =>
                  rw [Prog.ofExcept_bind_run rfl]
                  cases expired with
                  | true => exact refuseApproval_submitted read answers (.inl late) (.inr rfl)
                  | false =>
                      rw [if_neg Bool.false_ne_true]
                      split_ifs with denied
                      · exact refuseApproval_submitted read answers (.inr ⟨late, denied⟩) (.inl rfl)
                      · exact giveApproval_submitted read answers ⟨late, denied⟩

end ConfigRuntime

end AgenticKVM
