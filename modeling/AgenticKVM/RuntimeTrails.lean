import AgenticKVM.ClearanceAuthority

/-! # What the audit trail of a runtime accounts for

Read as an operator reads it, the audit trail says of each provider call which decision was
announced before it and which grant was consumed for it. Whatever is done with a runtime, through
the adapter, the hosts and the playbooks in any order, the trail accounts for every call of a
provider: no call was denied, a call whose decision asks stands on a grant that an operator gave for
this very action earlier, and no one-time grant carries two calls (`auditTrail_accounts`). -/

namespace AgenticKVM

open Lib (Prog Outcome SpendsOnce)

/-! ## Reading a trail -/

/-- **A provider call as the trail accounts for it**: the decision that was announced for its
request and the grant that was consumed for it, where there is one. -/
structure AuditedCall where
  adapter : ProviderAdapter
  request : ProviderActionRequest
  decision : Option PolicyDecision
  grant : Option ApprovalGrant

/-- What has been read about the request that is under way. -/
structure TrailState where
  decision : Option PolicyDecision
  grant : Option ApprovalGrant

namespace TrailState

/-- Nothing is known of a request that has just been received. -/
def fresh : TrailState := ⟨none, none⟩

/-- An event is read. -/
def readEvent (state : TrailState) (event : AuditEmission) : TrailState :=
  match event.eventType, event.approval with
  | .requestReceived, _ => fresh
  | .approvalConsumed, some (.grant grant) => { state with grant := some grant }
  | .providerExecutionStarted, _ => { state with decision := some event.policyDecision }
  | _, _ => state

/-- An effect is read: only recorded events tell anything. -/
def read (state : TrailState) : RuntimeEffect → TrailState
  | .handled _ (.emitted event) => state.readEvent event
  | _ => state

/-- The provider call an effect is, with what is known of its request. -/
def call? (state : TrailState) : RuntimeEffect → Option AuditedCall
  | .handled adapter (.executed request _) => some ⟨adapter, request, state.decision, state.grant⟩
  | _ => none

end TrailState

/-- The provider calls of a trail, read from a state on. -/
def auditedFrom (state : TrailState) : List RuntimeEffect → List AuditedCall
  | [] => []
  | effect :: rest => (state.call? effect).toList ++ auditedFrom (state.read effect) rest

/-- The provider calls of a trail. -/
def auditedCalls (effects : List RuntimeEffect) : List AuditedCall := auditedFrom .fresh effects

/-- The response id of the one-time grant a call stands on. -/
def AuditedCall.oneTimeResponse (call : AuditedCall) : Option String :=
  match call.grant with
  | some grant => if grant.scope = .oneTime then some grant.responseId else none
  | none => none

section Reading

variable {state : TrailState}

theorem auditedFrom_append (first second : List RuntimeEffect) :
    auditedFrom state (first ++ second)
      = auditedFrom state first ++ auditedFrom (first.foldl TrailState.read state) second := by
  induction first generalizing state with
  | nil => rfl
  | cons effect rest ih =>
      rw [List.cons_append, auditedFrom, auditedFrom, ih, List.append_assoc]
      rfl

/-- Where no provider is called there is nothing to account for. -/
theorem auditedFrom_idle {adapter : ProviderAdapter} {effects : List Effect}
    (idle : executions effects = []) :
    auditedFrom state (effects.map (.handled adapter)) = [] := by
  induction effects generalizing state with
  | nil => rfl
  | cons effect rest ih =>
      rw [executions, List.filter_cons] at idle
      split_ifs at idle with executed
      have silent : state.call? (.handled adapter effect) = none := by
        cases effect with
        | executed request answer => exact absurd rfl executed
        | _ => rfl
      rw [List.map_cons, auditedFrom, silent, ih idle]
      rfl

/-- Every provider call of a trail is accounted for. -/
theorem auditedFrom_calls {effects : List RuntimeEffect} :
    (auditedFrom state effects).map (fun call => (call.adapter, call.request))
      = effects.filterMap RuntimeEffect.providerCall := by
  induction effects generalizing state with
  | nil => rfl
  | cons effect rest ih =>
      have here : (state.call? effect).map (fun call => (call.adapter, call.request))
          = effect.providerCall := by
        cases effect with
        | handled adapter inner => cases inner <;> rfl
        | _ => rfl
      rw [auditedFrom, List.map_append, ih, ← Option.toList_map, here]
      cases called : effect.providerCall with
      | none =>
          rw [List.filterMap_cons_none called]
          rfl
      | some call =>
          rw [List.filterMap_cons_some called]
          rfl

theorem auditedFrom_own {effects : List RuntimeEffect} (own : OwnEvents effects) :
    auditedFrom state effects = [] := by
  induction effects generalizing state with
  | nil => rfl
  | cons effect rest ih =>
      have silent : state.call? effect = none := by
        cases effect with
        | handled adapter inner => exact absurd rfl (own _ List.mem_cons_self adapter inner)
        | _ => rfl
      rw [auditedFrom, silent, ih fun effect member => own effect (List.mem_cons_of_mem _ member)]
      rfl

/-- The opening events of a request: what was known of the one before is forgotten. -/
theorem read_openingEvents (plane : ControlPlane) (request : CapabilityRequest)
    (adapter : ProviderAdapter) :
    (((plane.openingEvents request).map Effect.emitted).map (RuntimeEffect.handled adapter)).foldl
      TrailState.read state = .fresh := by
  rw [ControlPlane.openingEvents]
  cases (plane.registry.get request.capabilityId).isSome <;> rfl

end Reading

/-! ## One request -/

/-- **A call that is accounted for**, between two states of the approval store: its decision was
announced and is no denial, and it asks exactly where a grant was consumed. That grant was in the
store, could be used and was unexpired, is bound to the call's action, and is marked afterwards if
it is good for one time only. -/
structure Accounted (lib : AuditLibrary) (environment : RuntimeEnvironment)
    (history : List RuntimeEffect) (store : ApprovalStore) (call : AuditedCall)
    (after : ApprovalStore) : Prop where
  announced : ∃ decision, call.decision = some decision ∧ decision ≠ .deny
    ∧ decision.asks = call.grant.isSome
  stored : ∀ grant ∈ call.grant, grant ∈ store.actionGrants ∧ store.usable grant = true
    ∧ ∃ more, Datetime.lt (environment.now (history ++ more)) grant.expiresAt = .ok true
  bound : ∀ grant ∈ call.grant, ∃ fingerprint,
    actionFingerprint lib.toStdlib call.request.parameters = .ok fingerprint
      ∧ grant.binding = ⟨call.request.capability, call.request.sessionId, call.request.targetId,
        call.adapter.providerId, fingerprint⟩
  spent : ∀ id ∈ call.oneTimeResponse, id ∈ after.consumedResponseIds

/-- The uses of a response id in a trail: the calls that stand on its one-time grant. -/
def responseUses (effects : List RuntimeEffect) (id : String) : Nat :=
  ((auditedCalls effects).filterMap AuditedCall.oneTimeResponse).count id

/-- A response id is marked as used. -/
def Spent (store : ApprovalStore) (id : String) : Prop := id ∈ store.consumedResponseIds

/-- A call that stands on a one-time grant finds its response id unmarked. -/
theorem Accounted.unspent {lib : AuditLibrary} {environment : RuntimeEnvironment}
    {history : List RuntimeEffect} {store after : ApprovalStore} {call : AuditedCall}
    (accounted : Accounted lib environment history store call after) {id : String}
    (stands : call.oneTimeResponse = some id) : ¬ Spent store id := by
  rw [AuditedCall.oneTimeResponse] at stands
  cases held : call.grant with
  | none =>
      rw [held] at stands
      cases stands
  | some grant =>
      rw [held] at stands
      dsimp only at stands
      split_ifs at stands with once
      cases stands
      obtain ⟨-, usable, -⟩ := accounted.stored grant held
      rw [ApprovalStore.usable, ApprovalGrant.reusable, once] at usable
      simpa [Spent] using usable

/-- **A trail with one call** spends the response id the call stands on, and no other. -/
theorem Accounted.spendsOnce {lib : AuditLibrary} {environment : RuntimeEnvironment}
    {history effects : List RuntimeEffect} {store after : ApprovalStore} {call : AuditedCall}
    (accounted : Accounted lib environment history store call after)
    (trail : auditedCalls effects = [call])
    (kept : store.consumedResponseIds ⊆ after.consumedResponseIds) :
    SpendsOnce Spent responseUses store effects after := by
  cases stands : call.oneTimeResponse with
  | none =>
      refine .idle (fun id => ?_) fun _ spent => kept spent
      rw [responseUses, trail, List.filterMap_cons_none stands]
      rfl
  | some used =>
      have uses (id : String) : responseUses effects id = if used = id then 1 else 0 := by
        rw [responseUses, trail, List.filterMap_cons_some stands, List.filterMap_nil,
          List.count_singleton]
        simp
      refine ⟨fun id => ?_, fun id spent => ?_, fun id isUsed => ?_, fun _ spent => kept spent⟩
      · rw [uses]
        split_ifs <;> omega
      · rw [uses, if_neg]
        rintro rfl
        exact accounted.unspent stands spent
      · rw [uses] at isUsed
        split_ifs at isUsed with same
        · exact same ▸ accounted.spent used stands
        · exact absurd rfl isUsed

/-- **The call a control plane makes for a request**: on its adapter, for a capability its policy
admits, under the policy's decision. -/
structure CallOf (plane : ControlPlane) (adapter : ProviderAdapter) (request : CapabilityRequest)
    (call : AuditedCall) : Prop where
  on : call.adapter = adapter
  admitted : ∃ capability, plane.policy.Admits plane.registry request.capabilityId
      (some request.targetId) (some request.sessionId) request.credentialId capability
    ∧ call.request = ControlPlane.providerRequest request capability
  decided : call.decision = some (plane.decisionOf request).decision

section Requests

variable {lib : AuditLibrary} {router : MCPRouter} {history : List RuntimeEffect}
  {store : ApprovalStore}

/-- **The trail of one control plane** without a tower, for a request without a signed grant. -/
theorem audited_of_handle (unwired : router.clearanceClient = none) (adapter : ProviderAdapter)
    (selection : AuthChannelSelection) {request : CapabilityRequest}
    (unsigned : request.signedApprovalGrant = none) :
    let run := (router.controlPlane adapter selection history).handle lib.toStdlib request []
      ⟨some store, []⟩
    (∀ state, auditedFrom state (run.effects.map (.handled adapter)) = [])
      ∨ ∃ call after, (∀ state, auditedFrom state (run.effects.map (.handled adapter)) = [call])
        ∧ run.state.approvalStore = some after
        ∧ CallOf (router.controlPlane adapter selection history) adapter request call
        ∧ Accounted lib router.environment history store call after := by
  intro run
  set plane := router.controlPlane adapter selection history
  by_cases idle : executions run.effects = []
  · exact .inl fun _ => auditedFrom_idle idle
  have executes : ControlPlane.Executes (plane.handle lib.toStdlib request) [] ⟨some store, []⟩ :=
    ControlPlane.executes_iff.mpr idle
  obtain ⟨capability, before, s', authorisation, execution⟩ :=
    ControlPlane.execution_of_executes executes
  obtain ⟨-, recorded, ends⟩ := execution.trace
  obtain ⟨result, answer, later, neutral, shape⟩ := execution.run
  set started := plane.startedEvent request
    (ControlPlane.capabilityRefOf request.capabilityId (some capability)) (plane.decisionOf request)
  have named : capability.id = request.capabilityId :=
    CapabilityRegistry.id_of_get execution.admitted.registered
  -- what is read of the route is the grant it consumes
  have read (known : TrailState)
      (isRead : known = (before.map (RuntimeEffect.handled adapter)).foldl TrailState.read .fresh)
      (state : TrailState) :
      auditedFrom state (run.effects.map (.handled adapter))
        = [⟨adapter, ControlPlane.providerRequest request capability,
          some (plane.decisionOf request).decision, known.grant⟩] := by
    have effects : run.effects = (plane.openingEvents request).map .emitted ++ (before
        ++ .emitted started :: .executed (ControlPlane.providerRequest request capability) answer
          :: later) := congrArg Outcome.effects shape
    rw [effects, List.map_append, auditedFrom_append, read_openingEvents,
      auditedFrom_idle (Neutral.executions (ControlPlane.openingEvents_neutral request)),
      List.map_append, auditedFrom_append, auditedFrom_idle execution.route.trace.1, ← isRead]
    exact congrArg (List.cons _) (auditedFrom_idle neutral.executions)
  have final : run.state.approvalStore = s'.approvalStore := congrArg PlaneState.approvalStore ends
  have notDenied := execution.passes.notDenied
  have route := execution.route
  have isOf (grant : Option ApprovalGrant) : CallOf plane adapter request
      ⟨adapter, ControlPlane.providerRequest request capability,
        some (plane.decisionOf request).decision, grant⟩ :=
    ⟨rfl, ⟨capability, execution.admitted, rfl⟩, rfl⟩
  refine .inr ?_
  cases route with
  | clearance asks selected wired chain =>
      have none : plane.clearanceClient = none := by
        change router.clearanceClient.map _ = none
        rw [unwired]
        rfl
      exact absurd (none.symm.trans wired) (by simp)
  | signed asks locally accepted =>
      exact absurd (unsigned.symm.trans accepted.presented) (by simp)
  | policy allows =>
      refine ⟨_, store, read _ rfl, final, isOf _, ⟨_, rfl, notDenied, allows⟩, ?_, ?_, ?_⟩
      all_goals exact fun _ member => by cases member
  | @stored quiet store' grant now asks locally silent matched =>
      have grantRead : ((((quiet ++ [Effect.emitted (ControlPlane.consumedEvent request
          (ControlPlane.capabilityRefOf request.capabilityId (some capability))
          (plane.decisionOf request) grant)]).map (RuntimeEffect.handled adapter)).foldl
          TrailState.read .fresh).grant) = some grant := by
        rw [List.map_append, List.foldl_append]
        rfl
      have used : .storeGrant grant ∈ authorisations run.effects := by
        change _ ∈ authorisations (plane.handle lib.toStdlib request [] ⟨some store, []⟩).effects
        rw [recorded]
        exact List.mem_singleton_self _
      obtain ⟨held, more, same, member, usable, unexpired⟩ :=
        ControlPlane.storedGrant_of_executes executes used
      obtain ⟨fingerprint, printed, -, bound, -, -⟩ := matched.grant
      cases same
      cases matched.stored
      refine ⟨_, store.consume grant, read _ rfl, final, isOf _, ⟨_, rfl, notDenied, ?_⟩,
        ?_, ?_, ?_⟩
      · rw [grantRead]
        exact asks
      · intro other here
        rw [grantRead] at here
        cases here
        exact ⟨member, usable, more.map (.handled adapter), unexpired⟩
      · intro other here
        rw [grantRead] at here
        cases here
        refine ⟨fingerprint, printed, bound.trans ?_⟩
        rw [ControlPlane.providerRequest, named]
        rfl
      · intro id spent
        rw [AuditedCall.oneTimeResponse, grantRead] at spent
        dsimp only at spent
        split_ifs at spent with once
        · cases spent
          exact (ApprovalStore.mem_consume grant _).mpr (.inl ⟨once, rfl⟩)
        · cases spent

/-- **The trail of one tool request**, whatever was read before it. -/
theorem MCPRouter.Handles.audited (unwired : router.clearanceClient = none)
    {effects : List RuntimeEffect} {after : Option ApprovalStore}
    (handles : router.Handles lib history (some store) effects after) :
    (∀ state, auditedFrom state effects = [])
      ∨ ∃ call store', (∀ state, auditedFrom state effects = [call]) ∧ after = some store'
        ∧ Accounted lib router.environment history store call store' := by
  cases handles with
  | own own => exact .inl fun _ => auditedFrom_own own
  | plane adapter selection request unsigned selected =>
      rcases audited_of_handle unwired adapter selection unsigned with
        silent | ⟨call, after, isCall, left, -, accounted⟩
      · exact .inl silent
      · exact .inr ⟨call, after, isCall, left, accounted⟩

end Requests

/-! ## The calls of a sequence -/

namespace ConfigRuntime

section Operations

variable {lib : AuditLibrary} {runtime : ConfigRuntime} {history : List RuntimeEffect}
  {store : ApprovalStore}

/-- The trail of a tool request. -/
theorem handleToolRequest_audited (call : MCPToolRequest) {effects : List RuntimeEffect}
    {mid : ApprovalStore}
    (made : (runtime.adapterRouter.handleToolRequest lib call history (some store)).effects
      = effects)
    (left : (runtime.adapterRouter.handleToolRequest lib call history (some store)).state
      = some mid) :
    (∀ state, auditedFrom state effects = [])
      ∨ ∃ audited, (∀ state, auditedFrom state effects = [audited])
        ∧ Accounted lib runtime.environment history store audited mid := by
  have handles := @MCPRouter.handleToolRequest_handles lib runtime.adapterRouter call history
    (some store)
  rw [made, left] at handles
  have unwired : runtime.adapterRouter.clearanceClient = none := rfl
  rcases handles.audited unwired with silent | ⟨audited, after, isCall, same, accounted⟩
  · exact .inl silent
  · obtain rfl := Option.some.inj same
    exact .inr ⟨audited, isCall, accounted⟩

/-- What was read before a sequence of requests does not matter for its calls. -/
theorem Requests.standalone {effects : List RuntimeEffect} {after : ApprovalStore}
    (requests : runtime.Requests lib history store effects after) (state : TrailState) :
    auditedFrom state effects = auditedCalls effects := by
  induction requests generalizing state with
  | none => rfl
  | request call made left rest ih =>
      rw [auditedCalls, auditedFrom_append, auditedFrom_append, ih, ih]
      rcases handleToolRequest_audited call made left with silent | ⟨audited, isCall, -⟩
      · rw [silent, silent]
      · rw [isCall, isCall]

/-- The calls of a request and of those after it. -/
theorem Requests.auditedCalls_append {effects more : List RuntimeEffect} {mid after : ApprovalStore}
    (rest : runtime.Requests lib (history ++ effects) mid more after) :
    auditedCalls (effects ++ more) = auditedCalls effects ++ auditedCalls more := by
  rw [auditedCalls, auditedFrom_append, rest.standalone]
  rfl

/-- **Requests spend one-time grants once**: a call that stands on one uses up its response id. -/
theorem Requests.spendsOnce {effects : List RuntimeEffect} {after : ApprovalStore}
    (requests : runtime.Requests lib history store effects after) :
    SpendsOnce Spent responseUses store effects after := by
  induction requests with
  | none => exact .idle (fun _ => rfl) fun _ => id
  | @request history effects more store mid after call made left rest ih =>
      have here : SpendsOnce Spent responseUses store effects mid := by
        have kept := (Requests.request call made left .none).keepsGrants.2
        rcases handleToolRequest_audited call made left with silent | ⟨audited, isCall, accounted⟩
        · refine .idle (fun id => ?_) fun _ spent => kept spent
          rw [responseUses, auditedCalls, silent]
          rfl
        · exact accounted.spendsOnce (isCall _) kept
      refine here.trans ih fun id => ?_
      rw [responseUses, rest.auditedCalls_append, List.filterMap_append, List.count_append]
      rfl

/-- **The calls of a sequence** stand on grants that the store holds from its start. -/
theorem Requests.accounted {effects : List RuntimeEffect} {after : ApprovalStore}
    (requests : runtime.Requests lib history store effects after) :
    ∀ call ∈ auditedCalls effects, ∃ more store' after',
      store'.actionGrants = store.actionGrants
        ∧ Accounted lib runtime.environment (history ++ more) store' call after' := by
  induction requests with
  | none => exact fun _ member => absurd member List.not_mem_nil
  | @request history effects more store mid after call made left rest ih =>
      intro audited member
      rw [rest.auditedCalls_append, List.mem_append] at member
      rcases member with here | later
      · rcases handleToolRequest_audited call made left with silent | ⟨audited', isCall, accounted⟩
        · rw [auditedCalls, silent] at here
          cases here
        · rw [auditedCalls, isCall, List.mem_singleton] at here
          subst here
          refine ⟨[], store, mid, rfl, ?_⟩
          rw [List.append_nil]
          exact accounted
      · obtain ⟨further, store', after', same, accounted⟩ := ih audited later
        refine ⟨effects ++ further, store', after', ?_, ?_⟩
        · exact same.trans (Requests.request call made left .none).keepsGrants.1
        · rw [← List.append_assoc]
          exact accounted

/-! ## Runs -/

/-- An operation spends one-time grants once. -/
theorem runtimeStep_spendsOnce (operation : RuntimeOperation) :
    SpendsOnce (fun (life : RuntimeLife) id => Spent life.store id) responseUses life
      (runtime.runtimeStep lib registry life operation).2
      (runtime.runtimeStep lib registry life operation).1 := by
  obtain ⟨-, requests | ⟨own, left⟩⟩ := @runtimeStep_leaves lib runtime registry life operation
  · have once := requests.spendsOnce
    exact ⟨once.once, once.fresh, once.marked, once.kept⟩
  · refine .idle (fun id => ?_) fun id spent => ?_
    · rw [responseUses, auditedCalls, auditedFrom_own own]
      rfl
    · rcases left with same | ⟨n, input, grant, -, -, added⟩
      · rw [Spent, same]
        exact spent
      · rw [Spent, added]
        exact spent

/-- **A grant that was given in a run**: some operation of it was a response of an operator that
gave it. -/
def GivenIn (lib : AuditLibrary) (runtime : ConfigRuntime) (registry : PlaybookRegistry)
    (operations : List RuntimeOperation) (grant : ApprovalGrant) : Prop :=
  ∃ before n input after, operations = before ++ .host n (.submitApprovalResponse input) :: after
    ∧ runtime.Gives lib (Lib.final (runtime.runtimeStep lib registry) .start before) n input grant

/-- **Every grant of the store was given.** -/
theorem givenIn_of_mem (operations : List RuntimeOperation) :
    ∀ grant ∈ (Lib.final (runtime.runtimeStep lib registry) .start operations).store.actionGrants,
      runtime.GivenIn lib registry operations grant := by
  induction operations using List.reverseRecOn with
  | nil => exact fun _ member => absurd member List.not_mem_nil
  | append_singleton operations operation ih =>
      intro grant member
      rw [Lib.final_append] at member
      set life := Lib.final (runtime.runtimeStep lib registry) .start operations
      have earlier (held : grant ∈ life.store.actionGrants) :
          runtime.GivenIn lib registry (operations ++ [operation]) grant := by
        obtain ⟨before, n, input, after, split, gives⟩ := ih grant held
        refine ⟨before, n, input, after ++ [operation], ?_, gives⟩
        rw [split, List.append_assoc, List.cons_append]
      change grant ∈ (runtime.runtimeStep lib registry life operation).1.store.actionGrants
        at member
      obtain ⟨-, requests | ⟨-, same | ⟨n, input, given, here, gives, added⟩⟩⟩ :=
        @runtimeStep_leaves lib runtime registry life operation
      · rw [requests.keepsGrants.1] at member
        exact earlier member
      · rw [same] at member
        exact earlier member
      · rw [added, ApprovalStore.addActionGrant, List.mem_append, List.mem_singleton] at member
        rcases member with held | rfl
        · exact earlier held
        · exact ⟨operations, n, input, [], by rw [here], gives⟩

end Operations

end ConfigRuntime

open ConfigRuntime in
/-- **The audit trail accounts for every provider call**, in every run of a runtime from its start:
no one-time grant carries two calls of the run; and each call's decision was announced and is no
denial, and it asks exactly where a grant was consumed, which is bound to this very action, was
unexpired when the clock was read, and was given by an operator's response earlier in the run. -/
theorem auditTrail_accounts (lib : AuditLibrary) (runtime : ConfigRuntime)
    (registry : PlaybookRegistry) (operations : List RuntimeOperation) :
    let run := Lib.outputs (runtime.runtimeStep lib registry) .start operations
    ((run.flatMap auditedCalls).filterMap AuditedCall.oneTimeResponse).Nodup ∧
      ∀ k effects, run[k]? = some effects → ∀ call ∈ auditedCalls effects,
        (∃ decision, call.decision = some decision ∧ decision ≠ .deny
          ∧ decision.asks = call.grant.isSome)
        ∧ ∀ grant ∈ call.grant,
          (∃ fingerprint, actionFingerprint lib.toStdlib call.request.parameters = .ok fingerprint
            ∧ grant.binding = ⟨call.request.capability, call.request.sessionId,
              call.request.targetId, call.adapter.providerId, fingerprint⟩)
          ∧ (∃ more, Datetime.lt (runtime.environment.now ((Lib.final
              (runtime.runtimeStep lib registry) .start (operations.take k)).history ++ more))
              grant.expiresAt = .ok true)
          ∧ runtime.GivenIn lib registry (operations.take k) grant := by
  intro run
  constructor
  · have law : Lib.SingleUse (runtime.runtimeStep lib registry)
        (fun life id => Spent life.store id) responseUses :=
      .of_spendsOnce fun life operation => runtimeStep_spendsOnce operation
    rw [List.nodup_iff_count]
    intro id
    rw [List.filterMap_flatMap, List.count_flatMap]
    exact law.uses_le_one .start operations id
  · intro k effects here call member
    rw [Lib.outputs_getElem?] at here
    obtain ⟨operation, -, rfl⟩ := Option.map_eq_some_iff.mp here
    set life := Lib.final (runtime.runtimeStep lib registry) .start (operations.take k)
    have accounted : ∃ more store' after', store'.actionGrants = life.store.actionGrants
        ∧ Accounted lib runtime.environment (life.history ++ more) store' call after' := by
      obtain ⟨-, requests | ⟨own, -⟩⟩ := @runtimeStep_leaves lib runtime registry life operation
      · exact requests.accounted call member
      · rw [auditedCalls, auditedFrom_own own] at member
        cases member
    obtain ⟨more, store', after', same, accounted⟩ := accounted
    refine ⟨accounted.announced, fun grant held => ?_⟩
    obtain ⟨stored, -, further, unexpired⟩ := accounted.stored grant held
    refine ⟨accounted.bound grant held, ⟨more ++ further, ?_⟩, ?_⟩
    · rw [← List.append_assoc]
      exact unexpired
    · rw [same] at stored
      exact givenIn_of_mem (operations.take k) grant stored

end AgenticKVM
