import Mathlib.Data.Bool.AllAny
import AgenticKVM.HostResults

/-! # Calls that wait, from the store to the host and back

A routed call runs one control plane and shows what came of it (`callBody_routed`). In a steady
environment a call for which the policy asks and the store has no grant waits for an operator: the
host keeps it as pending under the id of its approval request (`callTool_waits`), and only then is a
call shown as waiting (`asks_of_waiting`). With a grant in the store the provider is called
(`callTool_resumes`). -/

namespace AgenticKVM

open Lib (Json Prog Outcome except_bind_eq_ok except_ok_bind except_pure)

/-! ## Looking entries up that are set -/

section Setting

variable {β : Type} {entries : List (String × β)} {key other : String} {value : β}

/-- What is set is found. -/
theorem lookup_dictSet_self : (dictSet entries key value).lookup key = some value := by
  rw [dictSet]
  split_ifs with present
  · induction entries with
    | nil => cases present
    | cons entry rest ih =>
        rw [List.map_cons]
        by_cases same : (entry.1 == key) = true
        · rw [if_pos same, List.lookup_cons_self]
        · have ne : (key == entry.1) = false := by
            rw [BEq.comm]
            exact Bool.eq_false_iff.mpr same
          rw [if_neg same, List.lookup_cons, ne]
          rw [List.any_cons, Bool.eq_false_iff.mpr same, Bool.false_or] at present
          exact ih present
  · rw [List.lookup_append, List.lookup_eq_none_iff.mpr, List.lookup_cons_self]
    · rfl
    · intro entry member
      rw [bne_iff_ne]
      rintro rfl
      exact present (List.any_eq_true.mpr ⟨entry, member, beq_self_eq_true _⟩)

/-- What is found under another key is found as before. -/
theorem lookup_dictSet_ne (ne : other ≠ key) :
    (dictSet entries key value).lookup other = entries.lookup other := by
  have apart : (other == key) = false := beq_false_of_ne ne
  rw [dictSet]
  split_ifs with present
  · clear present
    induction entries with
    | nil => rfl
    | cons entry rest ih =>
        rw [List.map_cons, List.lookup_cons, List.lookup_cons, ih]
        by_cases same : (entry.1 == key) = true
        · rw [if_pos same, apart, beq_iff_eq.mp same, apart]
        · rw [if_neg same]
  · rw [List.lookup_append, List.lookup_cons, apart]
    exact Option.or_none

end Setting

/-! ## Routed calls -/

/-- The call of a provider an effect is, if it is one. -/
def RuntimeEffect.providerCall : RuntimeEffect → Option (ProviderAdapter × ProviderActionRequest)
  | .handled adapter (.executed request _) => some (adapter, request)
  | _ => none

/-- The stored grant whose consumption an effect records, if it records one. -/
def RuntimeEffect.usedGrant : RuntimeEffect → Option ApprovalGrant
  | .handled _ effect =>
      match effect.authorisation with
      | some (.storeGrant grant) => some grant
      | _ => none
  | _ => none

/-- A request's own fields pass its checks. -/
theorem MCPToolRequest.init_self (call : MCPToolRequest) :
    MCPToolRequest.init call.toolName call.target call.sessionId call.requesterId call.params
      call.provider call.approvalContext call.correlationId = .ok call := by
  simp only [MCPToolRequest.init, MCPToolRequest.checked, call.named, call.targeted, call.inSession,
    call.requested, ne_eq, not_false_eq_true, dite_true]

namespace ConfigRuntime

variable (lib : AuditLibrary) (runtime : ConfigRuntime)

/-- The selection of the adapter's router. -/
def localSelection : AuthChannelSelection where
  channel := defaultAuthChannel
  isDefault := true
  recommended := decide (defaultAuthChannel = recommendedAuthChannel)
  authority := authorityByChannel defaultAuthChannel
  warning := if decide (defaultAuthChannel = recommendedAuthChannel) then none
    else some localTerminalWarning

/-- The control plane of a routed call. -/
def routePlane (route : ToolRoute) (history : List RuntimeEffect) : ControlPlane :=
  runtime.adapterRouter.controlPlane route.adapter localSelection history

/-- What the control plane of a routed call does. -/
def routeRun (call : HostToolCall) (route : ToolRoute) (history : List RuntimeEffect)
    (store : ApprovalStore) : Outcome Effect PlaneState PyExc ControlPlaneResult :=
  (runtime.routePlane route history).handle lib.toStdlib
    (MCPRouter.capabilityRequest call route.tool) [] ⟨some store, []⟩

/-- A result as the adapter returns it. -/
def adapterRecord (result : MCPToolResult) : Except PyExc Record := do
  match ← jsonSafeValue lib (.dict result.toDict) with
  | .obj entries => return entries
  | _ => .error (.typeError "a mapping is written as an object")

variable {lib runtime} {call : HostToolCall} {route : ToolRoute} {history : List RuntimeEffect}
  {store : ApprovalStore}

/-- **A routed request** runs one control plane. -/
theorem handleToolRequest_routed (routed : runtime.adapterRouter.route call = .ok route) :
    runtime.adapterRouter.handleToolRequest lib call history (some store)
      = ⟨MCPRouter.answer lib call route (runtime.routeRun lib call route history
            store).result,
        (runtime.routeRun lib call route history store).state.approvalStore,
        (runtime.routeRun lib call route history store).effects.map (.handled route.adapter)⟩ := by
  rw [MCPRouter.handleToolRequest, routed]
  dsimp only
  rw [MCPRouter.execute, Prog.ofExcept_bind_run (show resolveAuthChannel lib.toStdlib
    runtime.adapterRouter.authChannel defaultAuthChannel = .ok localSelection from rfl),
    Prog.bind_ofExcept_run, Prog.attempt_run]
  rfl

/-- A routed call at the adapter is a routed request. -/
theorem adapterCall_routed (routed : runtime.adapterRouter.route call = .ok route) :
    runtime.adapterCall lib call history (some store)
      = ⟨MCPRouter.answer lib call route (runtime.routeRun lib call route history
            store).result >>= adapterRecord lib,
        (runtime.routeRun lib call route history store).state.approvalStore,
        (runtime.routeRun lib call route history store).effects.map (.handled route.adapter)⟩ := by
  rw [adapterCall, MCPToolRequest.init_self, Prog.ofExcept_bind_run rfl, Prog.bind_ofExcept_run,
    handleToolRequest_routed routed]
  rfl

/-- What a routed call shows of the adapter's result. -/
theorem callBody_routed (routed : runtime.adapterRouter.route call = .ok route) {s : HostState}
    {record : Record}
    (answered : (MCPRouter.answer lib call route
      (runtime.routeRun lib call route history s.store).result >>= adapterRecord lib) = .ok record) :
    runtime.callBody lib call history s
      = (runtime.showResult lib call record
          (history ++ (runtime.routeRun lib call route history s.store).effects.map
            (.handled route.adapter))
          { s with store := (runtime.routeRun lib call route history
              s.store).state.approvalStore.getD s.store }).prepend
        ((runtime.routeRun lib call route history s.store).effects.map (.handled route.adapter)) := by
  have run : onStore (runtime.adapterCall lib call) history s
      = ⟨.ok record, { s with store := (runtime.routeRun lib call route history
            s.store).state.approvalStore.getD s.store },
          (runtime.routeRun lib call route history s.store).effects.map
            (.handled route.adapter)⟩ := by
    rw [onStore, Prog.zoom, adapterCall_routed routed, answered]
  rw [callBody, Prog.bind_run_ok run]

/-- The pending approvals after a call: the call may wait under an id of its own. -/
def Keeps (call : HostToolCall) (before after : List (String × PendingApproval)) : Prop :=
  after = before ∨ ∃ approval : HostApprovalRequest, after = dictSet before approval.id ⟨call, approval⟩

/-- What a routed call leaves, whatever is shown of it. -/
theorem callBody_leaves (routed : runtime.adapterRouter.route call = .ok route) {s : HostState} :
    (runtime.callBody lib call history s).effects
        = (runtime.routeRun lib call route history s.store).effects.map (.handled route.adapter)
      ∧ ∃ pending, Keeps call s.pending pending ∧ (runtime.callBody lib call history s).state
        = ⟨(runtime.routeRun lib call route history s.store).state.approvalStore.getD s.store,
          pending, s.states⟩ := by
  set run := runtime.routeRun lib call route history s.store
  cases answered : (MCPRouter.answer lib call route run.result
      >>= adapterRecord lib) with
  | error e =>
      have body : onStore (runtime.adapterCall lib call) history s
          = ⟨.error e, { s with store := run.state.approvalStore.getD s.store },
              run.effects.map (.handled route.adapter)⟩ := by
        rw [onStore, Prog.zoom, adapterCall_routed routed, answered]
      rw [callBody, Prog.bind_run_error body]
      exact ⟨rfl, _, .inl rfl, rfl⟩
  | ok record =>
      rw [callBody_routed routed answered, Outcome.prepend_effects, Outcome.prepend_state]
      obtain ⟨silent, kept | ⟨approval, kept⟩⟩ := @showResult_run lib runtime
        (history ++ run.effects.map (.handled route.adapter))
        { s with store := run.state.approvalStore.getD s.store } call record
      · rw [silent, kept, List.append_nil]
        exact ⟨rfl, _, .inl rfl, rfl⟩
      · rw [silent, kept, List.append_nil]
        exact ⟨rfl, _, .inr ⟨approval, rfl⟩, rfl⟩

/-! ## Results that wait -/

/-- A result with JSON data, as the adapter returns it. -/
theorem adapterRecord_eq_ok {result : MCPToolResult} {data : Record}
    (same : result.data = PyValue.ofEntries data)
    (readable : Json.Readable lib.readFloat (.obj data)) :
    adapterRecord lib result = .ok (Json.reread (result.record data)) := by
  have readable' : Json.Readable lib.readFloat (.obj (result.record data)) :=
    readable_resultRecord readable
  rw [adapterRecord, MCPToolResult.toDict_eq_record same, jsonSafeValue_ofJson readable',
    Json.norm_obj_reread]
  rfl

variable {params : Record} {fingerprint : String} {decision : PolicyDecisionResult}
  {approval : ApprovalRequest}

/-- The answer to a request that waits for an operator shows its approval request. -/
theorem answer_waits (json : call.params = PyValue.ofEntries params)
    (readable : Json.Readable lib.readFloat (.obj params))
    (printed : actionFingerprint lib.toStdlib call.params = .ok fingerprint)
    (unlimited : approval.limits = []) :
    ∃ result, MCPRouter.answer lib call route
        (.ok (ControlPlane.waitingResult decision approval)) = .ok result
      ∧ result.status = .approvalRequired ∧ result.approvalRequestId = some approval.id
      ∧ result.data = PyValue.ofEntries (pendingRecord lib approval
          (redactedRecord lib params) fingerprint decision.decision.value) := by
  have answer : MCPRouter.answer lib call route
        (.ok (ControlPlane.waitingResult decision approval))
      = pendingOutcome lib call route.tool.capabilityId route.target.providerId .approvalRequired
          (ControlPlane.waitingResult decision approval) (some approval.id)
          ("approval_request", approval.toDict lib) [] := rfl
  rw [answer, pendingOutcome, printed]
  refine ⟨_, rfl, rfl, rfl, ?_⟩
  change strEntries ([("approval_request", .dict (approval.toDict lib)),
    ("params_preview", .dict (redactMapping lib call.params none).1),
    ("params_fingerprint", .str fingerprint), ("policy_decision", .str decision.decision.value)]
    ++ []) = _
  rw [ApprovalRequest.toDict_eq_record unlimited, json, redactMapping_record readable]
  rfl

/-- **The host shows a result that waits** with its approval request, and keeps the call as pending
under the request's id. -/
theorem showResult_pending (texts : TextLaws lib) (iso : IsoLaws lib) (stamps : StampLaws lib)
    {result : MCPToolResult} (waits : result.status = .approvalRequired)
    (asked : result.approvalRequestId = some approval.id) {policyDecision providerId id : String}
    (same : result.data
      = PyValue.ofEntries (pendingRecord lib approval params fingerprint policyDecision))
    (readable : Json.Readable lib.readFloat (.obj params)) {request : CapabilityRequest}
    {capability : Capability} {now : Datetime}
    (describes : approval.Describes request capability decision providerId id now)
    (asks : decision.decision.asks = true) (utc : now.utcoffset = some 0) (identified : id ≠ "")
    (inSession : request.sessionId ≠ "") (targeted : request.targetId ≠ "")
    (served : providerId ≠ "") (printed : fingerprint ≠ "") {s : HostState} :
    ∃ record shown payload, adapterRecord lib result = .ok record
      ∧ runtime.showResult lib call record history s
        = ⟨.ok payload, { s with pending := dictSet s.pending shown.id ⟨call, shown⟩ }, []⟩
      ∧ shown.Shows lib approval request.targetId providerId fingerprint
      ∧ payload.get "status" = .str "approval_required"
      ∧ payload.get "approval_request_id" = .str approval.id := by
  set data := pendingRecord lib approval params fingerprint policyDecision
  have readable' : Json.Readable lib.readFloat (.obj data) :=
    readable_pendingRecord approval readable fingerprint policyDecision
  obtain ⟨reason, redactions, fullCapture, written⟩ := @hostPayload_record lib result data readable'
  rw [waits, asked] at written
  set payload : Record := Json.reread (resultRecord
    (HostResultStatus.ofJson (.str MCPResultStatus.approvalRequired.value)).value result.toolName
    result.capability result.target result.provider reason
    (redactJsonEntries lib fullCapture (Json.reread data)) result.risks redactions
    (some approval.id))
  obtain ⟨shown, read, shows⟩ := @fromHostResult_waits lib approval request capability decision
    providerId id fingerprint now params texts iso stamps describes asks utc identified inSession
    targeted served printed readable result.toolName result.target result.provider reason
    policyDecision result.capability (some approval.id) result.risks redactions fullCapture
    call.params call.correlationId (runtime.environment.now history)
  obtain ⟨preview, same', readablePreview⟩ := shows.preview
  have recorded := HostApprovalRequest.toDict_eq_ok same' readablePreview
  set record := Json.reread (shown.record lib preview)
  have found {key : String} {v : Json} (stored : (resultRecord
      (HostResultStatus.ofJson (.str MCPResultStatus.approvalRequired.value)).value result.toolName
      result.capability result.target result.provider reason
      (redactJsonEntries lib fullCapture (Json.reread data)) result.risks redactions
      (some approval.id)).lookup key = some v) : Record.get payload key = Json.norm v := by
    rw [Record.get, lookup_resultRecord, stored]
    rfl
  have status : Record.get payload "status" = .str "approval_required" :=
    @found "status" (.str "approval_required") rfl
  have other {key : String} (ne : key ≠ "approval_request") :
      Record.get (dictSet payload "approval_request" (.obj record)) key = Record.get payload key := by
    rw [Record.get, Record.get, lookup_dictSet_ne ne]
  refine ⟨_, shown, dictSet payload "approval_request" (.obj record),
    adapterRecord_eq_ok same readable', ?_, shows, ?_, ?_⟩
  · rw [showResult_waits written status read, recorded]
    rfl
  · rw [other (by decide), status]
  · rw [other (by decide)]
    exact @found "approval_request_id" (.str approval.id) rfl

end ConfigRuntime

/-! ## What the status of a result says -/

namespace ConfigRuntime

variable {lib : AuditLibrary}

/-- A result whose data can be stored can be stored. -/
theorem storable_toDict {result : MCPToolResult}
    (storable : (PyValue.dict result.data).Storable lib.readFloat) :
    (PyValue.dict result.toDict).Storable lib.readFloat := by
  have capability : (optionalStr result.capability).Storable lib.readFloat := by
    cases result.capability <;> trivial
  rw [MCPToolResult.toDict]
  cases result.approvalRequestId with
  | none =>
      exact ⟨rfl, trivial, rfl, trivial, rfl, capability, rfl, trivial, rfl, trivial, rfl, trivial, rfl,
        storable, rfl, storable_strList _, rfl, storable_strList _, trivial⟩
  | some id =>
      exact ⟨rfl, trivial, rfl, trivial, rfl, capability, rfl, trivial, rfl, trivial, rfl, trivial, rfl,
        storable, rfl, storable_strList _, rfl, storable_strList _, rfl, trivial, trivial⟩

/-- **The status the host shows** is the one the router gave. -/
theorem status_of_hostPayload {result : MCPToolResult} {record payload : Record}
    (storable : (PyValue.dict result.data).Storable lib.readFloat)
    (recorded : adapterRecord lib result = .ok record)
    (shown : hostPayload lib record = .ok payload) :
    payload.get "status" = .str (HostResultStatus.ofJson (.str result.status.value)).value := by
  have storable' := storable_toDict storable
  have status : Record.get record "status" = .str result.status.value := by
    rw [Record.get, lookup_jsonSafeEntriesOf storable' recorded rfl]
    rfl
  have readable : Json.Readable lib.readFloat (.obj record) := by
    obtain ⟨j, safe, shape⟩ := except_bind_eq_ok.mp recorded
    obtain ⟨v, -, readable, rfl⟩ := jsonSafeValue_eq_ok storable' safe
    have read := (Json.readable_norm v).mpr readable
    split at shape
    · next entries same =>
      cases shape
      rw [← same]
      exact read
    · cases shape
  obtain ⟨hosted, adapted, written⟩ := except_bind_eq_ok.mp shown
  obtain ⟨data, dataRead, adapted⟩ := except_bind_eq_ok.mp adapted
  obtain ⟨risks, -, adapted⟩ := except_bind_eq_ok.mp adapted
  obtain ⟨redactions, -, adapted⟩ := except_bind_eq_ok.mp adapted
  have dataReadable : Json.Readable lib.readFloat (.obj data) := by
    unfold queueMapping at dataRead
    split at dataRead
    · cases dataRead
      exact ⟨List.nodup_nil, trivial⟩
    · next found =>
      cases dataRead
      exact readable.lookup found
    · cases dataRead
  rw [status] at adapted
  cases adapted
  rw [HostToolResult.toDict_eq_ok (redactMapping_record dataReadable)
    (readable_redactedRecord dataReadable)] at written
  cases written
  rw [Record.get, HostToolResult.record, lookup_resultRecord]
  rfl

/-- An error is not shown as waiting. -/
theorem status_of_hostError {reason : String} {toolName : Option String} {payload : Record}
    (shown : hostError lib reason toolName = .ok payload) :
    payload.get "status" = .str "validation_error" := by
  have storable : (strDict ([("status", .str HostResultStatus.validationError.value),
      ("reason", .str (redactHostText lib.toStdlib reason)), ("details", .dict []),
      ("redactions", strList [])]
      ++ (toolName.toList.map fun name => ("tool_name", PyValue.str name)))).Storable
        lib.readFloat := by
    cases toolName with
    | none => exact ⟨rfl, trivial, rfl, trivial, rfl, trivial, rfl, trivial, trivial⟩
    | some name => exact ⟨rfl, trivial, rfl, trivial, rfl, trivial, rfl, trivial, rfl, trivial, trivial⟩
  rw [Record.get, lookup_jsonSafeEntriesOf storable shown rfl]
  rfl

end ConfigRuntime

/-! ## Calls in a steady environment -/

/-- **A steady environment**: the sink records every event, the clock reads in UTC, far from the end of
time, and does not go back, ids are there, and what a provider answers can be written as JSON. -/
structure Steady (lib : AuditLibrary) (environment : RuntimeEnvironment) : Prop where
  records : ∀ history event, environment.auditSink history event = none
  utc : ∀ history, (environment.now history).utcoffset = some 0
  lasting : ∀ history, ∃ t, (environment.now history).addSeconds approvalTtlSeconds = .ok t
  forward : ∀ history more, (environment.now history).wall ≤ (environment.now (history ++ more)).wall
  ids : ∀ history, environment.freshId history ≠ ""
  loggable : ∀ history adapter request answer,
    environment.execute history adapter request = .ok answer →
      (PyValue.dict answer.data).Loggable lib ""

/-- What the proofs take from the standard library about texts and times. -/
structure HostLaws (lib : AuditLibrary) : Prop where
  texts : TextLaws lib
  iso : IsoLaws lib
  stamps : StampLaws lib

namespace ConfigRuntime

variable (lib : AuditLibrary) (runtime : ConfigRuntime) (call : HostToolCall) (route : ToolRoute)

/-- A call is routed, and the policy asks an operator about it, with local approvals to answer. -/
structure Asked (capability : Capability) : Prop where
  routed : runtime.adapterRouter.route call = .ok route
  asks : ∀ history, (runtime.routePlane route history).AsksLocally
    (MCPRouter.capabilityRequest call route.tool) capability

/-- The action of a call. -/
def callBinding (fingerprint : String) : ActionBinding :=
  ⟨route.tool.capabilityId, call.sessionId, call.target, route.adapter.providerId, fingerprint⟩

/-- What a store hands out for a call at a time. -/
def callAnswer (store : ApprovalStore) (now : Datetime) : Except PyExc (Option ApprovalGrant) := do
  let fingerprint ← actionFingerprint lib.toStdlib call.params
  store.findActionGrant (callBinding call route fingerprint) now

/-- The time at which a call asks the store. -/
def callTime (history : List RuntimeEffect) : Datetime :=
  (runtime.routePlane route history).nowFactory
    ((runtime.routePlane route history).openedHistory
      (MCPRouter.capabilityRequest call route.tool) [])

/-- It is a reading of the clock after the call has begun. -/
theorem callTime_eq (history : List RuntimeEffect) :
    ∃ before, runtime.callTime call route history = runtime.environment.now (history ++ before) :=
  ⟨_, rfl⟩

/-- The effects of a call that asks the store at that time. -/
def AsksStore (history effects : List RuntimeEffect) : Prop :=
  ∃ before rest, runtime.callTime call route history = runtime.environment.now (history ++ before)
    ∧ effects = before ++ .handled route.adapter (.clockRead (runtime.callTime call route history))
      :: rest

variable {lib runtime call route} {capability : Capability} {history : List RuntimeEffect}
  {s : HostState} {input : CallInput}

/-- A control plane's question to the store is the call's. -/
theorem asksStore_of_plane {effects : List Effect} (asks : (runtime.routePlane route history).AsksStore
    (MCPRouter.capabilityRequest call route.tool) [] effects) :
    runtime.AsksStore call route history (effects.map (.handled route.adapter)) := by
  obtain ⟨rest, rfl⟩ := asks
  exact ⟨_, rest.map (.handled route.adapter), rfl, List.map_append⟩

/-- The clock is read. -/
theorem AsksStore.reads {effects : List RuntimeEffect} (asks : runtime.AsksStore call route history effects) :
    .handled route.adapter (.clockRead (runtime.callTime call route history)) ∈ effects := by
  obtain ⟨before, rest, -, rfl⟩ := asks
  exact List.mem_append_right _ List.mem_cons_self

/-- What is read later is no earlier time. -/
theorem AsksStore.forward {effects : List RuntimeEffect}
    (asks : runtime.AsksStore call route history effects) (steady : Steady lib runtime.environment)
    (more : List RuntimeEffect) : (runtime.callTime call route history).wall
      ≤ (runtime.callTime call route (history ++ effects ++ more)).wall := by
  obtain ⟨before, rest, same, rfl⟩ := asks
  set reading := RuntimeEffect.handled route.adapter
    (.clockRead (runtime.callTime call route history))
  obtain ⟨before', same'⟩ := callTime_eq runtime call route
    (history ++ (before ++ reading :: rest) ++ more)
  have later := steady.forward (history ++ before) (reading :: rest ++ more ++ before')
  rw [same, same']
  simp only [List.append_assoc, List.cons_append] at later ⊢
  exact later

theorem Asked.anytime (routed : runtime.adapterRouter.route call = .ok route)
    (local_ : (runtime.routePlane route history).AsksLocally
      (MCPRouter.capabilityRequest call route.tool) capability) : Asked runtime call route capability :=
  ⟨routed, fun _ => ⟨local_.known, ⟨local_.passes.notDenied, local_.passes.hardware⟩, local_.asks,
    local_.unwired, local_.unsigned⟩⟩

theorem routePlane_recordsAll (steady : Steady lib runtime.environment) :
    (runtime.routePlane route history).RecordsAll :=
  fun _ _ => steady.records _ _

/-- The provider of a route has an id. -/
theorem providerId_ne (routed : runtime.adapterRouter.route call = .ok route) :
    route.adapter.providerId ≠ "" := by
  obtain ⟨_, entry, contained⟩ := (MCPRouter.route_eq_ok.mp routed).contained
  rw [entry.valid.adapterId _ contained.providerAdapter]
  intro empty
  have form := entry.valid.id
  rw [empty] at form
  cases form

/-- What the policy of a built-in mode asks is without limits. -/
theorem decisionOf_limits {mode : ControlMode} (builtIn : runtime.policy = modePreset mode none)
    (route : ToolRoute) (history : List RuntimeEffect) (request : CapabilityRequest) :
    ((runtime.routePlane route history).decisionOf request).limits = [] := by
  change (runtime.policy.decisionFor _ _ _ _ _).limits = []
  rw [builtIn, CapabilityPolicy.decisionFor]
  split
  · rfl
  · split_ifs
    all_goals rfl

/-- No provider is called by neutral effects. -/
theorem providerCalls_neutral {effects : List Effect} (neutral : Neutral effects)
    (adapter : ProviderAdapter) :
    (effects.map (.handled adapter)).filterMap RuntimeEffect.providerCall = [] := by
  refine List.filterMap_eq_nil_iff.mpr fun effect member => ?_
  obtain ⟨inner, inside, rfl⟩ := List.mem_map.mp member
  have idle := (neutral inner inside).1
  cases inner with
  | executed request answer => cases idle
  | _ => rfl

/-- The provider calls of effects are their executions. -/
theorem providerCalls_handled (effects : List Effect) (adapter : ProviderAdapter) :
    (effects.map (.handled adapter)).filterMap RuntimeEffect.providerCall
      = ((executions effects).map (.handled adapter)).filterMap RuntimeEffect.providerCall := by
  induction effects with
  | nil => rfl
  | cons effect rest ih =>
      cases effect with
      | executed request answer => exact congrArg (List.cons _) ih
      | _ => exact ih

variable (lib runtime call route) in
/-- The host shows the approval request of a call: its action, but for the target, which is shown as
redaction leaves it, under an id and with an expiry that are given then. -/
structure Mirrors (shown : HostApprovalRequest) (fingerprint : String) : Prop where
  identified : shown.id ≠ ""
  sessionId : shown.sessionId = call.sessionId
  target : shown.target = shownText lib "targets" call.target
  provider : shown.provider = route.adapter.providerId
  capability : shown.capability = route.tool.capabilityId
  paramsFingerprint : shown.paramsFingerprint = fingerprint
  expires : ∃ moment,
    (runtime.environment.now moment).addSeconds approvalTtlSeconds = .ok shown.expiresAt
  decision : ∃ decision, PolicyDecision.ofValue shown.policyDecision = .ok decision
  preview : ∃ record, shown.paramsPreview = PyValue.ofEntries record
    ∧ Json.Readable lib.readFloat (.obj record)

/-- The expiry of what is shown is in UTC. -/
theorem Mirrors.utc {shown : HostApprovalRequest} {fingerprint : String}
    (mirrors : runtime.Mirrors lib call route shown fingerprint)
    (steady : Steady lib runtime.environment) : shown.expiresAt.utcoffset = some 0 := by
  obtain ⟨moment, expires⟩ := mirrors.expires
  exact (addSeconds_utc (steady.utc moment) expires).2

/-- What is shown of an approval request that describes a call mirrors the call. -/
theorem mirrors_of_shows {approval : ApprovalRequest} {decision : PolicyDecisionResult}
    {id fingerprint : String} {moment : List RuntimeEffect} {shown : HostApprovalRequest}
    (describes : approval.Describes (MCPRouter.capabilityRequest call route.tool) capability decision
      route.adapter.providerId id (runtime.environment.now moment))
    (known : capability.id = route.tool.capabilityId) (identified : id ≠ "")
    (shows : shown.Shows lib approval call.target route.adapter.providerId fingerprint) :
    runtime.Mirrors lib call route shown fingerprint where
  identified := by
    rw [shows.id, describes.id]
    exact identified
  sessionId := shows.sessionId.trans describes.sessionId
  target := shows.target
  provider := shows.provider
  capability := by
    rw [shows.capability, describes.capabilityRef]
    exact known
  paramsFingerprint := shows.paramsFingerprint
  expires := ⟨moment, by rw [shows.expiresAt, describes.expiresAt]⟩
  decision := ⟨approval.policyDecision, by rw [shows.policyDecision, PolicyDecision.ofValue_value]⟩
  preview := shows.preview

/-- The stored grants a run uses are those its control plane is authorised by. -/
theorem usedGrants_handled (effects : List Effect) (adapter : ProviderAdapter) :
    (effects.map (.handled adapter)).filterMap RuntimeEffect.usedGrant
      = (authorisations effects).filterMap fun
          | .storeGrant grant => some grant
          | _ => none := by
  rw [List.filterMap_map, authorisations, List.filterMap_filterMap]
  congr 1
  funext effect
  rw [Function.comp_apply, RuntimeEffect.usedGrant]
  rcases effect.authorisation with _ | _ | _ | _ <;> rfl

/-- **A call the store has no grant for** waits for an operator: no provider is called, and the call
is pending under the id of its approval request. -/
theorem callTool_waits (laws : HostLaws lib) (steady : Steady lib runtime.environment)
    (read : callOf lib input = .ok call) (asked : Asked runtime call route capability)
    {fingerprint : String} (printed : actionFingerprint lib.toStdlib call.params = .ok fingerprint)
    (answer : s.store.findActionGrant (callBinding call route fingerprint)
      (runtime.callTime call route history) = .ok none)
    {params : Record} (json : call.params = PyValue.ofEntries params)
    (readable : Json.Readable lib.readFloat (.obj params))
    (unlimited : ((runtime.routePlane route history).decisionOf
      (MCPRouter.capabilityRequest call route.tool)).limits = []) :
    ∃ shown payload effects,
      runtime.Mirrors lib call route shown fingerprint ∧
      effects.filterMap RuntimeEffect.providerCall = [] ∧
      runtime.AsksStore call route history effects ∧
      Record.get payload "status" = .str "approval_required" ∧
      Record.get payload "approval_request_id" = .str shown.id ∧
      runtime.callTool lib input history s
        = ⟨.ok payload, { s with pending := dictSet s.pending shown.id ⟨call, shown⟩ }, effects⟩ := by
  set plane := runtime.routePlane route history
  set request := MCPRouter.capabilityRequest call route.tool
  have local_ : plane.AsksLocally request capability := asked.asks history
  have handed : plane.storeAnswer lib.toStdlib request s.store
      (plane.nowFactory (plane.openedHistory request [])) = .ok none := by
    rw [ControlPlane.storeAnswer]
    exact (congrArg (· >>= _) printed).trans answer
  obtain ⟨approval, drawn, _, describes, neutral, reading, returned, unchanged⟩ :=
    @ControlPlane.handle_waits lib.toStdlib plane request capability [] ⟨some s.store, []⟩ s.store
      (routePlane_recordsAll steady) local_ rfl handed (fun _ => steady.utc _) (fun _ => steady.lasting _)
  obtain ⟨result, answered, waits, identified, data⟩ := @answer_waits lib call route params
    fingerprint (plane.decisionOf request) approval json readable printed
    (describes.limits.trans unlimited)
  have present : fingerprint ≠ "" := by
    obtain ⟨value, -, hashed⟩ := except_bind_eq_ok.mp printed
    rw [← Except.ok.inj hashed]
    exact laws.texts.digest _
  obtain ⟨record, shown, payload, recorded, shownRun, shows, status, asks⟩ :=
    @showResult_pending lib runtime call
      (history ++ (runtime.routeRun lib call route history s.store).effects.map
        (.handled route.adapter)) (redactedRecord lib params) fingerprint
      (plane.decisionOf request) approval laws.texts laws.iso laws.stamps result waits identified
      (plane.decisionOf request).decision.value route.adapter.providerId _ data
      (readable_redactedRecord readable) request capability _ describes local_.asks (steady.utc _)
      (steady.ids _) call.inSession call.targeted (providerId_ne asked.routed) present s
  have same : runtime.routeRun lib call route history s.store
      = plane.handle lib.toStdlib request [] ⟨some s.store, []⟩ := rfl
  have mirrors : runtime.Mirrors lib call route shown fingerprint := mirrors_of_shows describes
    (CapabilityRegistry.id_of_get local_.known) (steady.ids _) shows
  have adapted : (MCPRouter.answer lib call route
      (runtime.routeRun lib call route history s.store).result >>= adapterRecord lib)
      = .ok record := by
    rw [same, returned, answered, except_ok_bind, recorded]
  refine ⟨shown, payload, _, mirrors, providerCalls_neutral neutral route.adapter,
    asksStore_of_plane reading, status, by rw [asks, shows.id], ?_⟩
  have kept : { s with store := (runtime.routeRun lib call route history
      s.store).state.approvalStore.getD s.store } = s := by
    rw [same, unchanged]
    rfl
  rw [callTool_run read, callBody_routed asked.routed adapted, kept, shownRun, same]
  simp only [Outcome.prepend, List.append_nil, orElse]

/-- **A call the store has a grant for** calls the provider once, on the strength of the grant, which
is consumed. -/
theorem callTool_resumes (steady : Steady lib runtime.environment)
    (read : callOf lib input = .ok call) (asked : Asked runtime call route capability)
    {fingerprint : String} (printed : actionFingerprint lib.toStdlib call.params = .ok fingerprint)
    {grant : ApprovalGrant} (answer : s.store.findActionGrant (callBinding call route fingerprint)
      (runtime.callTime call route history) = .ok (some grant)) :
    ∃ result pending effects,
      effects.filterMap RuntimeEffect.providerCall = [(route.adapter,
        ControlPlane.providerRequest (MCPRouter.capabilityRequest call route.tool) capability)] ∧
      effects.filterMap RuntimeEffect.usedGrant = [grant] ∧
      runtime.AsksStore call route history effects ∧
      Keeps call s.pending pending ∧
      runtime.callTool lib input history s
        = ⟨result, ⟨s.store.consume grant, pending, s.states⟩, effects⟩ := by
  set plane := runtime.routePlane route history
  set request := MCPRouter.capabilityRequest call route.tool
  have local_ : plane.AsksLocally request capability := asked.asks history
  have handed : plane.storeAnswer lib.toStdlib request s.store
      (plane.nowFactory (plane.openedHistory request [])) = .ok (some grant) := by
    rw [ControlPlane.storeAnswer]
    exact (congrArg (· >>= _) printed).trans answer
  obtain ⟨result, answered, effects, executed, authorised, reading, -, run⟩ :=
    @ControlPlane.handle_resumes lib.toStdlib plane request capability [] ⟨some s.store, []⟩ s.store
      (routePlane_recordsAll steady) local_ rfl grant handed
  have same : runtime.routeRun lib call route history s.store
      = ⟨result, ControlPlane.markStored ⟨some s.store, []⟩ s.store grant, effects⟩ := run
  obtain ⟨left, pending, keeps, state⟩ := @callBody_leaves lib runtime call route history
    asked.routed s
  rw [same] at left state
  refine ⟨(runtime.callTool lib input history s).result, pending,
    effects.map (.handled route.adapter), ?_, ?_, asksStore_of_plane reading, keeps, ?_⟩
  · rw [providerCalls_handled, executed]
    rfl
  · rw [usedGrants_handled, authorised]
    rfl
  · rw [callTool_run read, left, state]
    rfl

/-! ## Only then -/

/-- The envelope of an answer whose data can be logged can be stored: its data are redacted. -/
theorem storable_normalized {answer : ProviderActionResult}
    (loggable : (PyValue.dict answer.data).Loggable lib "") :
    (PyValue.dict (answer.normalized lib)).Storable lib.readFloat := by
  have data : (redactValue lib "" "" false (.dict answer.data)).value.Storable lib.readFloat :=
    redactValue_loggable loggable "" false
  have message : (redactValue lib "" "" false (.str (answer.errorMessage.getD ""))).value.Storable
      lib.readFloat := @redactValue_loggable lib "" (.str _) trivial "" false
  have code : (optionalStr answer.errorCode).Storable lib.readFloat := by
    cases answer.errorCode <;> trivial
  rw [ProviderActionResult.normalized]
  cases answer.timestamp with
  | none =>
      exact ⟨rfl, trivial, rfl, trivial, rfl, trivial, rfl, trivial, rfl, trivial, rfl, data, rfl,
        storable_strList _, rfl, trivial, rfl, code, rfl, message, rfl, trivial, rfl, trivial, trivial⟩
  | some timestamp =>
      exact ⟨rfl, trivial, rfl, trivial, rfl, trivial, rfl, trivial, rfl, trivial, rfl, data, rfl,
        storable_strList _, rfl, trivial, rfl, code, rfl, message, rfl, trivial, rfl, trivial, rfl,
        trivial, trivial⟩

/-- What is left of a provider's answer can be stored. -/
theorem storable_redactMapping {values : Params} (storable : (PyValue.dict values).Storable lib.readFloat) :
    (PyValue.dict (redactMapping lib values none).1).Storable lib.readFloat := by
  have keyed := PyValue.stringKeyedEntries_of_storable storable
  exact (congrArg (PyValue.Storable lib.readFloat ∘ .dict) (pyDict_redactedEntries keyed)).mpr
    (redactedEntries_storable storable "" _)

variable (lib runtime call history s) in
/-- **What a tool request comes to**: a result without data, what a provider answered, or, where the
policy asks and the store has no grant, a request for approval. -/
inductive Comes : MCPToolResult → Prop
  | plain {result : MCPToolResult} (empty : result.data = [])
      (refused : result.status ∈
        [MCPResultStatus.denied, .validationError, .policyError]) : Comes result
  | provided {route : ToolRoute} {outcome : ControlPlaneResult} {answer : ProviderActionResult}
      (routed : runtime.adapterRouter.route call = .ok route)
      (reports : (runtime.routePlane route history).Reports
        (runtime.routeRun lib call route history s.store).effects outcome answer) :
      Comes (providerOutcome lib call route.tool.capabilityId route.target.providerId
        (if answer.ok then .ok else .providerError) outcome)
  | waits {route : ToolRoute} {capability : Capability} {fingerprint : String}
      {approval : ApprovalRequest} {decision : PolicyDecisionResult} {result : MCPToolResult}
      (asked : Asked runtime call route capability)
      (printed : actionFingerprint lib.toStdlib call.params = .ok fingerprint)
      (open_ : s.store.findActionGrant (callBinding call route fingerprint)
        (runtime.callTime call route history) = .ok none)
      (decided : decision = (runtime.routePlane route history).decisionOf
        (MCPRouter.capabilityRequest call route.tool))
      (limits : approval.limits = decision.limits)
      (answered : MCPRouter.answer lib call route
        (.ok (ControlPlane.waitingResult decision approval)) = .ok result) : Comes result

/-- A call at the adapter that returns is of one of these. -/
theorem adapterCall_comes {record : Record}
    (returned : (runtime.adapterCall lib call history (some s.store)).result = .ok record) :
    ∃ result, adapterRecord lib result = .ok record ∧ Comes lib runtime call history s result := by
  cases routed : runtime.adapterRouter.route call with
  | error refusal =>
      obtain ⟨noop, known⟩ : ∃ noop, runtime.adapterRouter.capabilityRegistry.get "runtime.noop"
          = some noop := Option.isSome_iff_exists.mp
            (show (defaultCapabilityRegistry.get "runtime.noop").isSome = true by decide +kernel)
      rw [adapterCall, MCPToolRequest.init_self, Prog.ofExcept_bind_run rfl, Prog.bind_ofExcept_run,
        MCPRouter.handleToolRequest, routed] at returned
      dsimp only at returned
      obtain ⟨-, ⟨-, refused⟩ | ⟨e, -, raised⟩⟩ := @MCPRouter.refuse_run runtime.adapterRouter call
        noop refusal history (some s.store) known
      · rw [refused] at returned
        refine ⟨_, returned, .plain rfl ?_⟩
        change refusal.status ∈ _
        rcases MCPRouter.status_of_route_error routed with status | status
        all_goals
          rw [status]
          decide
      · rw [raised] at returned
        cases returned
  | ok route =>
      rw [adapterCall_routed routed] at returned
      obtain ⟨result, answered, recorded⟩ := except_bind_eq_ok.mp returned
      refine ⟨result, recorded, ?_⟩
      set plane := runtime.routePlane route history
      set request := MCPRouter.capabilityRequest call route.tool
      rcases ran : runtime.routeRun lib call route history s.store with ⟨e | outcome, s', effects⟩
      · rw [ran] at answered
        cases e with
        | valueError message | runtimeError message =>
            cases answered
            exact .plain rfl (show MCPResultStatus.policyError ∈ _ by decide)
        | _ => cases answered
      · rw [ran] at answered
        have same : effects = (runtime.routeRun lib call route history s.store).effects := by
          rw [ran]
        rcases @ControlPlane.outcome_of_unwired lib.toStdlib plane request [] ⟨some s.store, []⟩
          s.store rfl rfl rfl outcome s' effects ran with
          denied | ⟨answer, reports⟩ | ⟨capability, approval, asks, open_, limits, rfl⟩
        · rw [MCPRouter.answer, mcpResultFromControlPlane, denied] at answered
          cases answered
          exact .plain rfl (show MCPResultStatus.denied ∈ _ by decide)
        · have status := reports.status
          rw [same] at reports
          have provided := @Comes.provided lib runtime call history s route outcome answer routed
            reports
          rw [MCPRouter.answer, mcpResultFromControlPlane, status] at answered
          cases ok : answer.ok with
          | true =>
              rw [ok, if_pos rfl] at answered provided
              cases answered
              exact provided
          | false =>
              rw [ok, if_neg Bool.false_ne_true] at answered provided
              cases answered
              exact provided
        · obtain ⟨fingerprint, printed, search⟩ := except_bind_eq_ok.mp open_
          exact .waits (Asked.anytime routed asks) printed search rfl limits answered

/-- **In a steady environment** what a call comes to has another status, with data that can be stored,
or the policy asks, the store has no grant, and it is a request for approval. -/
theorem Comes.decided_or_waits (steady : Steady lib runtime.environment) {result : MCPToolResult}
    (comes : Comes lib runtime call history s result) :
    (result.status ≠ .approvalRequired ∧ (PyValue.dict result.data).Storable lib.readFloat) ∨
    ∃ (route : ToolRoute) (capability : Capability) (fingerprint : String)
        (approval : ApprovalRequest),
      Asked runtime call route capability ∧
      actionFingerprint lib.toStdlib call.params = .ok fingerprint ∧
      s.store.findActionGrant (callBinding call route fingerprint)
        (runtime.callTime call route history) = .ok none ∧
      approval.limits = ((runtime.routePlane route history).decisionOf
        (MCPRouter.capabilityRequest call route.tool)).limits ∧
      MCPRouter.answer lib call route (.ok (ControlPlane.waitingResult
        ((runtime.routePlane route history).decisionOf
          (MCPRouter.capabilityRequest call route.tool)) approval)) = .ok result := by
  cases comes with
  | plain empty refused =>
      refine .inl ⟨fun waits => ?_, ?_⟩
      · rw [waits] at refused
        revert refused
        decide
      · rw [empty]
        trivial
  | @provided route outcome answer routed reports =>
      refine .inl ⟨?_, storable_redactMapping ⟨rfl, ?_, trivial⟩⟩
      · change (if answer.ok then MCPResultStatus.ok else .providerError) ≠ .approvalRequired
        split_ifs
        all_goals decide
      · obtain ⟨before, asked, answered, -⟩ := reports.answered
        rw [reports.provided]
        exact storable_normalized (steady.loggable _ _ _ _ answered)
  | waits asked printed open_ decided limits answered =>
      subst decided
      exact .inr ⟨_, _, _, _, asked, printed, open_, limits, answered⟩

/-- What is shown of an adapter's result: its payload, and where it waits, the approval request. -/
theorem showResult_inv {record payload : Record}
    (shown : (runtime.showResult lib call record history s).result = .ok payload) :
    ∃ hosted, hostPayload lib record = .ok hosted ∧
      (Record.get hosted "status" ≠ .str "approval_required" ∧ payload = hosted ∨
        Record.get hosted "status" = .str "approval_required" ∧
          ∃ written, payload = dictSet hosted "approval_request" (.obj written)) := by
  cases read : hostPayload lib record with
  | error e =>
      rw [showResult_error read] at shown
      cases shown
  | ok hosted =>
      refine ⟨hosted, rfl, ?_⟩
      by_cases waits : Record.get hosted "status" = .str "approval_required"
      · refine .inr ⟨waits, ?_⟩
        cases asked : HostApprovalRequest.fromHostResult lib hosted call.params call.correlationId
            (runtime.environment.now history) with
        | error e =>
            rw [showResult_unread read waits asked] at shown
            cases shown
        | ok approval =>
            rw [showResult_waits read waits asked] at shown
            dsimp only at shown
            cases written : approval.toDict lib with
            | error e =>
                rw [written] at shown
                cases shown
            | ok record =>
                rw [written] at shown
                exact ⟨record, (Except.ok.inj shown).symm⟩
      · rw [showResult_plain read waits] at shown
        exact .inl ⟨waits, (Except.ok.inj shown).symm⟩

/-- What is shown as waiting is an adapter's result that waits, with its approval request. -/
theorem shown_of_waiting (read : callOf lib input = .ok call) {payload : Record}
    (returned : (runtime.callTool lib input history s).result = .ok payload)
    (waits : payload.get "status" = .str "approval_required") :
    ∃ record hosted written,
      (runtime.adapterCall lib call history (some s.store)).result = .ok record ∧
      hostPayload lib record = .ok hosted ∧
      Record.get hosted "status" = .str "approval_required" ∧
      payload = dictSet hosted "approval_request" (.obj written) := by
  rw [callTool_run read] at returned
  dsimp only at returned
  cases body : (runtime.callBody lib call history s).result with
  | error e =>
      rw [body] at returned
      have refused := status_of_hostError returned
      rw [waits] at refused
      exact absurd (Json.str.inj refused) (by decide)
  | ok payload' =>
      rw [body] at returned
      cases returned
      rw [callBody] at body
      rcases ran : onStore (runtime.adapterCall lib call) history s with ⟨e | record, mid, effects⟩
      · rw [Prog.bind_run_error ran] at body
        cases body
      · rw [Prog.bind_run_ok ran, Outcome.prepend_result] at body
        have recorded : (runtime.adapterCall lib call history (some s.store)).result = .ok record :=
          congrArg Outcome.result ran
        obtain ⟨hosted, shown, ⟨decided, rfl⟩ | ⟨asked, written, same⟩⟩ := showResult_inv body
        · exact absurd waits decided
        · exact ⟨record, hosted, written, recorded, shown, asked, same⟩

/-- A result with another status is not shown as waiting. -/
theorem decided_of_hostPayload {result : MCPToolResult} {record payload : Record}
    (storable : (PyValue.dict result.data).Storable lib.readFloat)
    (recorded : adapterRecord lib result = .ok record)
    (shown : hostPayload lib record = .ok payload) (other : result.status ≠ .approvalRequired) :
    Record.get payload "status" ≠ .str "approval_required" := by
  rw [status_of_hostPayload storable recorded shown]
  intro same
  cases answer : result.status with
  | approvalRequired => exact other answer
  | _ =>
      rw [answer] at same
      exact absurd (Json.str.inj same) (by decide)

/-- **A call is shown as waiting** only where the policy asks and the store has no grant. -/
theorem asks_of_waiting (steady : Steady lib runtime.environment)
    (read : callOf lib input = .ok call) {payload : Record}
    (returned : (runtime.callTool lib input history s).result = .ok payload)
    (waits : payload.get "status" = .str "approval_required") :
    ∃ route capability fingerprint, Asked runtime call route capability ∧
      actionFingerprint lib.toStdlib call.params = .ok fingerprint ∧
      s.store.findActionGrant (callBinding call route fingerprint)
        (runtime.callTime call route history) = .ok none := by
  obtain ⟨record, hosted, written, returned, shown, asks, -⟩ := shown_of_waiting read returned waits
  obtain ⟨result, recorded, comes⟩ := adapterCall_comes returned
  rcases comes.decided_or_waits steady with ⟨other, storable⟩
    | ⟨route, capability, fingerprint, _, asked, printed, open_, -⟩
  · exact absurd asks (decided_of_hostPayload storable recorded shown other)
  · exact ⟨route, capability, fingerprint, asked, printed, open_⟩

/-! ## Resumptions -/

/-- A resumption of a pending call calls the tool again, unless its request was refused or had an
invalid response. -/
theorem resumeApprovedTool_granted {requestId : String} {pending : PendingApproval}
    (known : s.pending.lookup requestId = some pending)
    (granted : s.states.lookup requestId = some .granted) :
    runtime.resumeApprovedTool lib requestId history s
      = runtime.callTool lib (.call pending.call) history s := by
  rw [resumeApprovedTool, Prog.get_bind_run, known]
  dsimp only
  rw [granted]

/-- A resumption that does not call the tool leaves nothing. -/
theorem resumeApprovedTool_or {requestId : String} {pending : PendingApproval}
    (known : s.pending.lookup requestId = some pending) :
    runtime.resumeApprovedTool lib requestId history s
        = runtime.callTool lib (.call pending.call) history s
      ∨ (runtime.resumeApprovedTool lib requestId history s).effects = [] := by
  rw [resumeApprovedTool, Prog.get_bind_run, known]
  dsimp only
  cases s.states.lookup requestId with
  | none => exact .inl rfl
  | some status =>
      cases status with
      | granted => exact .inl rfl
      | denied | expired | validationError => exact .inr rfl

/-! ## Responses that are accepted -/

section Responding

variable {response : HostApprovalResponse} {pending : PendingApproval} {answer : ResponseInput}

/-- A response that names no other action than the approval request does not mismatch. -/
theorem approvalMismatch_eq_none {approval : HostApprovalRequest}
    (session : ∀ id ∈ response.sessionId, id = approval.sessionId)
    (target : ∀ id ∈ response.target, id = approval.target)
    (provider : ∀ id ∈ response.provider, id = approval.provider)
    (capability : ∀ id ∈ response.capability, id = approval.capability)
    (fingerprint : ∀ text ∈ response.paramsFingerprint, text = approval.paramsFingerprint) :
    approvalMismatch approval response = none := by
  have agrees {named : Option String} {own : String} (same : ∀ text ∈ named, text = own) :
      named.any (· ≠ own) = false := by
    cases named with
    | none => rfl
    | some text => simp [same text rfl]
  rw [approvalMismatch, Option.map_eq_none_iff, List.find?_eq_none]
  intro check member
  simp only [List.mem_cons, List.not_mem_nil, or_false] at member
  rw [Bool.not_eq_true]
  rcases member with rfl | rfl | rfl | rfl | rfl
  exacts [agrees session, agrees target, agrees provider, agrees capability, agrees fingerprint]

/-- The grant of an approval request whose capability may be resumed is bound to what is shown. -/
theorem exists_grant {approval : HostApprovalRequest}
    (resumable : approval.capability ∉ approvalResumptionBlockedCapabilities) :
    ∃ grant, grantOf approval response = .ok grant ∧ grant.requestId = approval.id
      ∧ grant.binding = ⟨approval.capability, approval.sessionId, approval.target, approval.provider,
        approval.paramsFingerprint⟩
      ∧ grant.responseId = hostResponseId approval.id response.operatorId
      ∧ grant.expiresAt = approval.expiresAt ∧ grant.scope = response.scope := by
  rw [grantOf, dif_pos resumable]
  exact ⟨_, rfl, rfl, rfl, rfl, rfl, rfl⟩

/-- The event about a response can be built where the host shows the call as it is. -/
theorem hostApprovalEvent_isOk (known : (defaultCapabilityRegistry.get pending.approval.capability).isSome)
    (decision : ∃ decision, PolicyDecision.ofValue pending.approval.policyDecision = .ok decision)
    (preview : ∃ record, pending.approval.paramsPreview = PyValue.ofEntries record
      ∧ Json.Readable lib.readFloat (.obj record)) (eventType : AuditEventType)
    (status : HostApprovalResultStatus) :
    ∃ event, hostApprovalEvent lib eventType pending response status = .ok event := by
  obtain ⟨capability, known⟩ := Option.isSome_iff_exists.mp known
  obtain ⟨decision, decided⟩ := decision
  obtain ⟨record, same, readable⟩ := preview
  rw [hostApprovalEvent, requireDefaultCapability, known, except_ok_bind, decided, except_ok_bind,
    HostApprovalRequest.toDict_eq_ok same readable, except_ok_bind,
    HostApprovalResponse.toDict_eq_ok, except_ok_bind]
  exact ⟨_, rfl⟩

/-- Where the event about a response is recorded, the rest runs from the same state. -/
theorem emitApprovalEvent_recorded (steady : Steady lib runtime.environment) {α : Type}
    {eventType : AuditEventType} {status : HostApprovalResultStatus} {event : SurfaceEvent}
    (built : hostApprovalEvent lib eventType pending response status = .ok event)
    (rest : Unit → Host α) :
    (runtime.emitApprovalEvent lib eventType pending response status >>= rest) history s
      = (rest () (history ++ [.emitted event]) s).prepend [.emitted event] := by
  have run : runtime.emitApprovalEvent lib eventType pending response status history s
      = ⟨.ok (), s, [.emitted event]⟩ := by
    rw [emitApprovalEvent, Prog.ofExcept_bind_run built, onStore, Prog.zoom, RuntimeEnvironment.emit,
      Prog.perform_run, steady.records]
    rfl
  exact Prog.bind_run_ok run rest

/-- A response to a pending request is decided on as it is read. -/
theorem submitApprovalResponse_run
    (read : responseOf lib (runtime.environment.now history) answer = .ok response)
    (answers : Answers s response pending) {expired : Bool}
    (late : isExpired pending.approval response = .ok expired) :
    let run := (if expired then
        runtime.refuseApproval lib .approvalExpired .expired "approval expired" pending response
      else if response.decision = .denied then
        runtime.refuseApproval lib .approvalDenied .denied "approval denied" pending response
      else runtime.giveApproval lib pending response) history s
    (runtime.submitApprovalResponse lib answer history s).state = run.state
      ∧ (runtime.submitApprovalResponse lib answer history s).effects = run.effects := by
  rw [submitApprovalResponse, Prog.bind_ofExcept_run, Prog.attempt_run, submitBody,
    Prog.ask_bind_run, Prog.ofExcept_bind_run read, Prog.get_bind_run, answers.known]
  dsimp only
  rw [decidePending, answers.agrees]
  dsimp only
  rw [Prog.ofExcept_bind_run late]
  exact ⟨rfl, rfl⟩

/-- **A grant in time** is stored. -/
theorem submitApprovalResponse_grants (steady : Steady lib runtime.environment)
    (read : responseOf lib (runtime.environment.now history) answer = .ok response)
    (answers : Answers s response pending) (early : isExpired pending.approval response = .ok false)
    (granted : response.decision ≠ .denied) {grant : ApprovalGrant}
    (made : grantOf pending.approval response = .ok grant)
    (built : ∃ event, hostApprovalEvent lib .approvalGranted pending response .granted = .ok event) :
    ∃ event, (runtime.submitApprovalResponse lib answer history s).state
        = ⟨s.store.addActionGrant grant, s.pending, dictSet s.states response.requestId .granted⟩
      ∧ (runtime.submitApprovalResponse lib answer history s).effects = [.emitted event] := by
  obtain ⟨event, built⟩ := built
  obtain ⟨state, effects⟩ := submitApprovalResponse_run read answers early
  rw [if_neg Bool.false_ne_true, if_neg granted, giveApproval, Prog.ofExcept_bind_run made,
    emitApprovalEvent_recorded steady built, Prog.modify_bind_run, setState_bind_run] at state effects
  exact ⟨event, state, effects⟩

/-- **A denial in time** sets the state of its request, and leaves the store. -/
theorem submitApprovalResponse_denies (steady : Steady lib runtime.environment)
    (read : responseOf lib (runtime.environment.now history) answer = .ok response)
    (answers : Answers s response pending) (early : isExpired pending.approval response = .ok false)
    (denied : response.decision = .denied)
    (built : ∃ event, hostApprovalEvent lib .approvalDenied pending response .denied = .ok event) :
    ∃ event, (runtime.submitApprovalResponse lib answer history s).state
        = ⟨s.store, s.pending, dictSet s.states response.requestId .denied⟩
      ∧ (runtime.submitApprovalResponse lib answer history s).effects = [.emitted event] := by
  obtain ⟨event, built⟩ := built
  obtain ⟨state, effects⟩ := submitApprovalResponse_run read answers early
  rw [if_neg Bool.false_ne_true, if_pos denied, refuseApproval,
    emitApprovalEvent_recorded steady built, setState_bind_run] at state effects
  exact ⟨event, state, effects⟩

end Responding

end ConfigRuntime

/-! ## A configured deployment -/

/-- The policy of a runtime is that of a built-in mode. -/
theorem buildRuntime_policy {configLib : ConfigLibrary} {environment : RuntimeEnvironment}
    {transportFor : String → ACTHTTPTransport RuntimeEffect} {raw : Params} {runtime : ConfigRuntime}
    (built : runtimeOf configLib environment transportFor raw = .ok runtime) :
    (∃ mode, runtime.policy = modePreset mode none) ∧ runtime.environment = environment := by
  obtain ⟨config, -, built⟩ := except_bind_eq_ok.mp built
  obtain ⟨providers, -, built⟩ := except_bind_eq_ok.mp built
  obtain ⟨targets, -, built⟩ := except_bind_eq_ok.mp built
  split at built
  · obtain ⟨wiring, -, built⟩ := except_bind_eq_ok.mp built
    cases built
    exact ⟨⟨_, rfl⟩, rfl⟩
  · cases built
    exact ⟨⟨_, rfl⟩, rfl⟩

namespace Deployment

/-- A mark of a tally as a dot. -/
def dotted (c : Char) : Char := if c = 'x' then '.' else c

/-- A dot as a mark of a tally. -/
def undotted (c : Char) : Char := if c = '.' then 'x' else c

/-- The library, with dots for the marks of tallies: its texts of times have no letters but `T`. -/
def stampLibrary : AuditLibrary :=
  { isoLibrary with
    isoformat := fun t => (isoLibrary.isoformat t).map dotted
    fromisoformat := fun text => isoLibrary.fromisoformat (text.map undotted) }

theorem toLower_of_name {name : String} (named : isName name = true) : name.toLower = name := by
  have same : ∀ c ∈ name.toList, c.toLower = c := by
    intro c member
    have kind := List.all_eq_true.mp named c member
    delta Char.toLower
    split_ifs with upper
    · exfalso
      have capital : 65 ≤ c.toNat ∧ c.toNat ≤ 90 := upper
      simp only [Bool.or_eq_true, isLower_iff, isDigit_iff, beq_iff_eq] at kind
      rcases kind with (lower | digit) | rfl
      · omega
      · omega
      · exact absurd capital (by decide)
    · rfl
  refine String.toList_inj.mp ?_
  change (name.map Char.toLower).toList = name.toList
  rw [String.toList_map]
  exact (List.map_congr_left same).trans (List.map_id _)

/-- The characters of a tally. -/
theorem mem_tally {t : Datetime} {c : Char} (member : c ∈ (tally t).toList) : c ∈ ['x', '+', '-'] := by
  have marks {n : Nat} (inside : c ∈ List.replicate n 'x') : c ∈ ['x', '+', '-'] := by
    rw [List.eq_of_mem_replicate inside]
    exact List.mem_cons_self
  rw [tally, String.toList_ofList] at member
  rcases List.mem_append.mp member with wall | rest
  · exact marks wall
  · split at rest
    · split_ifs at rest
      all_goals
        rcases List.mem_cons.mp rest with rfl | later
        · decide
        · exact marks later
    · cases rest

/-- The texts of times have no dots. -/
theorem undotted_dotted {t : Datetime} :
    ∀ c ∈ (isoLibrary.isoformat t).toList, undotted (dotted c) = c := by
  simp only [isoLibrary]
  split_ifs
  · exact List.all_iff_forall_prop.mp (by decide)
  · exact List.all_iff_forall_prop.mp (by decide)
  · intro c member
    have kept : ∀ c ∈ ['x', '+', '-'], undotted (dotted c) = c :=
      List.all_iff_forall_prop.mp (by decide)
    exact kept c (mem_tally member)

/-- With dots for marks they are of digits and separators. -/
theorem isStampChar_dotted {t : Datetime} :
    ∀ c ∈ (isoLibrary.isoformat t).toList, isStampChar (dotted c) = true := by
  simp only [isoLibrary]
  split_ifs
  · exact List.all_iff_forall_prop.mp (by decide)
  · exact List.all_iff_forall_prop.mp (by decide)
  · intro c member
    have stamp : ∀ c ∈ ['x', '+', '-'], isStampChar (dotted c) = true :=
      List.all_iff_forall_prop.mp (by decide)
    exact stamp c (mem_tally member)

theorem countP_isDigit_dotted {t : Datetime} :
    (isoLibrary.isoformat t).toList.countP (Char.isDigit ∘ dotted) < 32 := by
  simp only [isoLibrary]
  split_ifs
  · decide
  · decide
  · have none : ∀ c ∈ ['x', '+', '-'], ¬ (Char.isDigit ∘ dotted) c = true :=
      List.all_iff_forall_prop.mp (by decide)
    rw [List.countP_eq_zero.mpr fun c member => none c (mem_tally member)]
    decide

theorem stampLibrary_laws : HostLaws stampLibrary where
  texts :=
    { lower := fun name named => toLower_of_name named
      digits := fun _ _ => rfl
      digest := sha256_ne_empty }
  iso :=
    { inverts := by
        intro t zoned
        have same : ((isoLibrary.isoformat t).map dotted).map undotted = isoLibrary.isoformat t := by
          refine String.toList_inj.mp ?_
          rw [String.toList_map, String.toList_map, List.map_map]
          exact (List.map_congr_left undotted_dotted).trans (List.map_id _)
        exact (congrArg isoLibrary.fromisoformat same).trans (isoLibrary_laws.inverts t zoned)
      valid := fun text t read => isoLibrary_laws.valid _ t read
      empty := by
        change isoLibrary.fromisoformat ("".map undotted) = none
        rw [String.map_eq_empty.mpr rfl]
        exact isoLibrary_laws.empty }
  stamps :=
    { chars := by
        intro t _ _
        change ((isoLibrary.isoformat t).map dotted).toList.all isStampChar = true
        rw [String.toList_map, List.all_map, List.all_eq_true]
        exact isStampChar_dotted
      digits := by
        intro t _ _
        change ((isoLibrary.isoformat t).map dotted).toList.countP Char.isDigit < 32
        rw [String.toList_map, List.countP_map]
        exact countP_isDigit_dotted }

/-- The built-in environment is steady. -/
theorem calmEnvironment_steady : Steady stampLibrary calmEnvironment where
  records _ _ := rfl
  utc _ := rfl
  lasting _ := ⟨clockAt 900, show (clockAt 0).addSeconds approvalTtlSeconds = _ by decide⟩
  forward _ _ := Int.le_refl _
  ids history := by
    simp only [calmEnvironment]
    split_ifs <;> decide
  loggable _ _ _ _ answered := by
    rw [← Except.ok.inj answered]
    trivial

/-- A configuration of the mock provider and one target of it. -/
def targetConfig (targetId : String) : Params :=
  strEntries
    [("providers", .list [strDict [("id", .str "mock"), ("type", .str "mock")]]),
      ("targets", .list
        [strDict [("id", .str targetId), ("provider", .str "mock"),
          ("allowed_modes", .list [.str "Supervised"])]])]

theorem lab_named : "lab-1" ≠ "" := by decide

/-- A call that restarts a target. -/
def restartCall (targetId : String) (targeted : targetId ≠ "") : HostToolCall where
  toolName := "graceful_restart"
  target := targetId
  sessionId := "session-1"
  requesterId := "agent-1"
  params := []
  provider := none
  approvalContext := []
  correlationId := none
  named := by decide
  targeted := targeted
  inSession := session_named
  requested := agent_named

/-- The configuration is accepted, and its policy asks about a restart of its target. -/
def asksAboutRestart (targetId : String) (targeted : targetId ≠ "") : Bool :=
  match runtimeOf configLibrary calmEnvironment noTransport (targetConfig targetId) with
  | .error _ => false
  | .ok runtime =>
      match runtime.adapterRouter.route (restartCall targetId targeted) with
      | .error _ => false
      | .ok route => runtime.policy.mode = .supervised
          && route.tool.capabilityId = "power.graceful_restart" && !route.adapter.isRealHardware

/-- The policy of supervised work asks each time about a restart. -/
theorem decisionFor_restart (targetId : String) :
    ((modePreset .supervised none).decisionFor "power.graceful_restart" (some targetId)
      (some "session-1") none defaultCapabilityRegistry).decision = .askEachTime := by
  rfl

/-- A runtime routes a restart of a target and works supervised. -/
def routesRestart (runtime : ConfigRuntime) (targetId : String) (targeted : targetId ≠ "") : Bool :=
  match runtime.adapterRouter.route (restartCall targetId targeted) with
  | .error _ => false
  | .ok route => runtime.policy.mode = .supervised
      && route.tool.capabilityId = "power.graceful_restart" && !route.adapter.isRealHardware

section Restart

variable {configLib : ConfigLibrary} {raw : Params} {runtime : ConfigRuntime} {targetId : String}
  {targeted : targetId ≠ ""}

/-- A restart a configured runtime routes is asked about. -/
theorem asked_of_routes
    (built : runtimeOf configLib calmEnvironment noTransport raw = .ok runtime)
    (routes : routesRestart runtime targetId targeted = true) :
    ∃ route capability, runtime.Asked (restartCall targetId targeted) route capability ∧
      route.tool.capabilityId = "power.graceful_restart" := by
  rw [routesRestart] at routes
  cases routed : runtime.adapterRouter.route (restartCall targetId targeted) with
  | error refusal =>
      rw [routed] at routes
      cases routes
  | ok route =>
      rw [routed] at routes
      simp only [Bool.and_eq_true, decide_eq_true_eq, Bool.not_eq_true'] at routes
      obtain ⟨⟨supervised, restart⟩, safe⟩ := routes
      obtain ⟨capability, known⟩ : ∃ capability,
          defaultCapabilityRegistry.get "power.graceful_restart" = some capability :=
        Option.isSome_iff_exists.mp (by decide +kernel)
      have policy : runtime.policy = modePreset .supervised none := by
        obtain ⟨⟨mode, builtIn⟩, -⟩ := buildRuntime_policy built
        rw [builtIn] at supervised ⊢
        exact congrArg (modePreset · none) supervised
      have decision : ((runtime.routePlane route []).decisionOf
          (MCPRouter.capabilityRequest (restartCall targetId targeted) route.tool)).decision
          = .askEachTime := by
        change (runtime.policy.decisionFor route.tool.capabilityId _ _ _ _).decision = _
        rw [policy, restart]
        exact decisionFor_restart targetId
      refine ⟨route, capability, @ConfigRuntime.Asked.anytime runtime _ route capability [] routed ?_,
        restart⟩
      refine ⟨?_, ⟨?_, ?_⟩, ?_, rfl, rfl⟩
      · change defaultCapabilityRegistry.get route.tool.capabilityId = _
        rw [restart, known]
      · rw [decision]
        decide
      · intro real
        rw [show (runtime.routePlane route []).provider.isRealHardware
          = route.adapter.isRealHardware from rfl, safe] at real
        cases real
      · change ((runtime.routePlane route []).decisionOf _).decision.asks = true
        rw [decision]
        rfl

end Restart

/-- The runtime of the configuration routes a restart of its target. -/
theorem routes_of_asks {targetId : String} {targeted : targetId ≠ ""}
    (asks : asksAboutRestart targetId targeted = true) :
    ∃ runtime, runtimeOf configLibrary calmEnvironment noTransport (targetConfig targetId) = .ok runtime
      ∧ routesRestart runtime targetId targeted = true := by
  rw [asksAboutRestart] at asks
  cases built : runtimeOf configLibrary calmEnvironment noTransport (targetConfig targetId) with
  | error e =>
      rw [built] at asks
      cases asks
  | ok runtime =>
      rw [built] at asks
      exact ⟨runtime, rfl, asks⟩

/-- A restart of the configuration's target is asked about. -/
theorem asked_restart {targetId : String} {targeted : targetId ≠ ""}
    (asks : asksAboutRestart targetId targeted = true) :
    ∃ runtime route capability,
      runtimeOf configLibrary calmEnvironment noTransport (targetConfig targetId) = .ok runtime ∧
      runtime.Asked (restartCall targetId targeted) route capability ∧
      route.tool.capabilityId = "power.graceful_restart" := by
  obtain ⟨runtime, built, routes⟩ := routes_of_asks asks
  obtain ⟨route, capability, asked⟩ := asked_of_routes built routes
  exact ⟨runtime, route, capability, built, asked⟩

/-- A response to a pending restart that names no action. -/
def restartResponse (decision : HostApprovalDecision) (requestId : String)
    (identified : requestId ≠ "") : HostApprovalResponse where
  requestId := requestId
  decision := decision
  operatorId := "operator-1"
  scope := .oneTime
  reason := ""
  decidedAt := clockAt 0
  sessionId := none
  target := none
  provider := none
  capability := none
  paramsFingerprint := none
  identified := identified
  decided := operator_named

open ConfigRuntime in
/-- A restart a configured runtime routes waits at a fresh host. -/
theorem waits_of_routes {configLib : ConfigLibrary} {raw : Params} {runtime : ConfigRuntime}
    {targetId : String} {targeted : targetId ≠ ""}
    (built : runtimeOf configLib calmEnvironment noTransport raw = .ok runtime)
    (routes : routesRestart runtime targetId targeted = true) :
    ∃ route capability fingerprint shown payload effects,
      Steady stampLibrary runtime.environment ∧ runtime.environment = calmEnvironment ∧
      runtime.Asked (restartCall targetId targeted) route capability ∧
      route.tool.capabilityId = "power.graceful_restart" ∧
      actionFingerprint stampLibrary.toStdlib [] = .ok fingerprint ∧
      runtime.Mirrors stampLibrary (restartCall targetId targeted) route shown fingerprint ∧
      shown.expiresAt = clockAt 900 ∧
      Record.get payload "status" = .str "approval_required" ∧
      Record.get payload "approval_request_id" = .str shown.id ∧
      runtime.callTool stampLibrary (.call (restartCall targetId targeted)) [] (.fresh .empty)
        = ⟨.ok payload, ⟨.empty, [(shown.id, ⟨restartCall targetId targeted, shown⟩)], []⟩,
          effects⟩ := by
  obtain ⟨route, capability, asked, restart⟩ := asked_of_routes built routes
  obtain ⟨⟨mode, builtIn⟩, same⟩ := buildRuntime_policy built
  have steady : Steady stampLibrary runtime.environment := by
    rw [same]
    exact calmEnvironment_steady
  obtain ⟨fingerprint, printed⟩ : ∃ fingerprint,
      actionFingerprint stampLibrary.toStdlib [] = .ok fingerprint := ⟨_, rfl⟩
  obtain ⟨shown, payload, effects, mirrors, -, -, status, id, run⟩ :=
    @callTool_waits stampLibrary runtime (restartCall targetId targeted) route capability []
      (.fresh .empty) (.call (restartCall targetId targeted)) stampLibrary_laws steady rfl asked
      fingerprint printed rfl [] rfl ⟨List.nodup_nil, trivial⟩
      (decisionOf_limits builtIn route [] _)
  have expires : shown.expiresAt = clockAt 900 := by
    obtain ⟨moment, expires⟩ := mirrors.expires
    rw [same] at expires
    exact (Except.ok.inj (expires.symm.trans
      (show (clockAt 0).addSeconds approvalTtlSeconds = .ok (clockAt 900) by decide)))
  exact ⟨route, capability, fingerprint, shown, payload, effects, steady, same, asked, restart, printed,
    mirrors, expires, status, id, run⟩

open ConfigRuntime in
/-- A restart waits at a fresh host of the configuration. -/
theorem restart_waits {targetId : String} {targeted : targetId ≠ ""}
    (asks : asksAboutRestart targetId targeted = true) :
    ∃ runtime route capability fingerprint shown payload effects,
      runtimeOf configLibrary calmEnvironment noTransport (targetConfig targetId) = .ok runtime ∧
      Steady stampLibrary runtime.environment ∧ runtime.environment = calmEnvironment ∧
      runtime.Asked (restartCall targetId targeted) route capability ∧
      route.tool.capabilityId = "power.graceful_restart" ∧
      actionFingerprint stampLibrary.toStdlib [] = .ok fingerprint ∧
      runtime.Mirrors stampLibrary (restartCall targetId targeted) route shown fingerprint ∧
      shown.expiresAt = clockAt 900 ∧
      Record.get payload "status" = .str "approval_required" ∧
      Record.get payload "approval_request_id" = .str shown.id ∧
      runtime.callTool stampLibrary (.call (restartCall targetId targeted)) [] (.fresh .empty)
        = ⟨.ok payload, ⟨.empty, [(shown.id, ⟨restartCall targetId targeted, shown⟩)], []⟩,
          effects⟩ := by
  obtain ⟨runtime, built, routes⟩ := routes_of_asks asks
  obtain ⟨route, capability, fingerprint, shown, payload, effects, waits⟩ :=
    waits_of_routes built routes
  exact ⟨runtime, route, capability, fingerprint, shown, payload, effects, built, waits⟩

end Deployment

end AgenticKVM
