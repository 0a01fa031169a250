import AgenticKVM.ApprovalRuns

/-! # Audit traces

What the events of one request tell. Every execution stands behind its recorded opening events, its
evidence and its announcement, and an emission that raises ends the request (`audit_before_act`).
Traces are complete exactly where everything the request asks for answers: `handle` catches no
exception of the provider, the tower's client, the fingerprints, the verifiers or the clock
(`trace_wellFormed_iff`). -/

namespace AgenticKVM

open Lib (Json Prog Outcome)
open Lib.Prog (Does Never Ends Returns)

/-! ## Emissions -/

/-- The event an effect records, or fails to record. -/
def Effect.attempted : Effect → Option AuditEmission
  | .emitted event | .emitRaised event _ => some event
  | _ => none

/-- The event an effect records. -/
def Effect.recorded : Effect → Option AuditEmission
  | .emitted event => some event
  | _ => none

/-- An effect is an emission that raised. -/
def Effect.raises : Effect → Bool
  | .emitRaised _ _ => true
  | _ => false

/-- The events that were recorded, in order. -/
def recorded (effects : List Effect) : List AuditEmission := effects.filterMap Effect.recorded

/-- The types of the events that were recorded, in order. -/
def traceOf (effects : List Effect) : List AuditEventType :=
  (recorded effects).map AuditEmission.eventType

/-- Recorded events are read off run by run. -/
@[simp] theorem recorded_append (effects more : List Effect) :
    recorded (effects ++ more) = recorded effects ++ recorded more :=
  List.filterMap_append ..

/-- What is emitted without a raise is recorded. -/
@[simp] theorem recorded_emitted (events : List AuditEmission) :
    recorded (events.map .emitted) = events := by
  induction events with
  | nil => rfl
  | cons event rest ih => exact congrArg (event :: ·) ih

/-- Traces are read off run by run. -/
@[simp] theorem traceOf_append (effects more : List Effect) :
    traceOf (effects ++ more) = traceOf effects ++ traceOf more := by
  rw [traceOf, recorded_append, List.map_append, traceOf, traceOf]

namespace ControlPlane

/-- A step emits, and tries to emit, events of these types only. -/
abbrev Attempts {α : Type} (types : List AuditEventType) (m : Step α) : Prop :=
  Never m fun effect => ∃ event, effect.attempted = some event ∧ event.eventType ∉ types

section Attempts

variable {plane : ControlPlane} {std : Stdlib} {request : CapabilityRequest}
  {capability : Capability} {capabilityRef : CapabilityRef} {decision : PolicyDecisionResult}
  {types : List AuditEventType} {history : List Effect} {s : PlaneState}

/-- An emission is recorded or raises. -/
theorem emit_cases (event : AuditEmission) (history : List Effect) (s : PlaneState) :
    plane.emit event history s = ⟨.ok (), s, [.emitted event]⟩ ∨
      ∃ e, plane.emit event history s = ⟨.error e, s, [.emitRaised event e]⟩ := by
  cases answer : plane.auditSink history event with
  | none => exact Or.inl (emit_run answer)
  | some e =>
      refine Or.inr ⟨e, ?_⟩
      simp only [emit, Prog.perform_run, answer]

/-- An emission attempts its own type only. -/
theorem emit_attempts {event : AuditEmission} (eventType : AuditEventType)
    (same : event.eventType = eventType) (member : eventType ∈ types) :
    Attempts types (plane.emit event) := by
  refine Never.perform fun history => ?_
  rintro ⟨other, attempted, outside⟩
  rw [← same] at member
  split at attempted
  all_goals
    cases attempted
    exact outside member

/-- Reading the clock emits nothing. -/
theorem now_attempts : Attempts types plane.now := by
  refine Never.perform fun history => ?_
  rintro ⟨_, attempted, -⟩
  cases attempted

/-- Drawing an id emits nothing. -/
theorem drawId_attempts : Attempts types plane.drawId := by
  refine Never.perform fun history => ?_
  rintro ⟨_, attempted, -⟩
  cases attempted

/-- Emissions in a row attempt their own types only. -/
theorem emitAll_attempts {events : List AuditEmission}
    (members : ∀ event ∈ events, event.eventType ∈ types) :
    Attempts types (plane.emitAll events) := by
  induction events with
  | nil => exact Never.pure ()
  | cons event rest ih =>
      exact Never.bind (emit_attempts _ rfl (members event List.mem_cons_self)) fun _ =>
        ih fun other member => members other (List.mem_cons_of_mem event member)

/-- The last event of a request is a `result_returned`. -/
theorem emitResultReturned_attempts (member : .resultReturned ∈ types)
    (status : ControlPlaneStatus) :
    Attempts types (plane.emitResultReturned request capabilityRef decision status) :=
  emit_attempts .resultReturned rfl member

/-- The types of the events that open a request. -/
def openingTypes : List AuditEventType :=
  [.requestReceived, .capabilityResolved, .capabilityUnknownDenied, .policyDecision]

/-- A request opens with the three opening types. -/
theorem openingEvents_attempts (subset : openingTypes ⊆ types) :
    Attempts types (plane.emitAll (plane.openingEvents request)) := by
  refine emitAll_attempts fun event member => subset ?_
  simp only [openingEvents, List.mem_cons, List.not_mem_nil, or_false] at member
  rcases member with rfl | rfl | rfl
  · show AuditEventType.requestReceived ∈ openingTypes
    decide
  · cases known : plane.registry.get request.capabilityId
    all_goals exact of_decide_eq_true rfl
  · show AuditEventType.policyDecision ∈ openingTypes
    decide

/-- The types of the events that report an execution. -/
def reportTypes : List AuditEventType :=
  [.providerExecutionCompleted, .providerExecutionFailed, .resultReturned]

/-- The provider call emits nothing. -/
theorem callProvider_attempts (providerRequest : ProviderActionRequest) :
    Attempts types (plane.callProvider providerRequest) := by
  refine Never.perform fun history => ?_
  rintro ⟨_, attempted, -⟩
  cases attempted

/-- The report of an execution attempts the types of a report. -/
theorem reportExecution_attempts (subset : reportTypes ⊆ types) (result : ProviderActionResult) :
    Attempts types (plane.reportExecution request capabilityRef decision result) := by
  refine Never.bind (emit_attempts _ rfl (subset ?_)) fun _ =>
    Never.bind (emitResultReturned_attempts (subset (by decide)) _) fun _ => Never.pure _
  cases ok : result.ok <;> simp [finishedEvent, event, reportTypes, ok]

/-- A rejection is an `approval_rejected`. -/
theorem rejectSigned_attempts (member : .approvalRejected ∈ types) (payload : ApprovalPayload) :
    Attempts types (plane.rejectSigned request capabilityRef decision payload) :=
  Never.bind (emit_attempts .approvalRejected rfl member) fun _ => Never.pure _

/-- The consumption of a signed grant is an `approval_consumed`. -/
theorem consumeSigned_attempts (member : .approvalConsumed ∈ types)
    (signedGrant : SignedApprovalGrant) (verification : GrantVerificationResult) :
    Attempts types
      (plane.consumeSigned request capabilityRef decision signedGrant verification) := by
  unfold consumeSigned
  split
  exacts [Never.bind (Never.modify _) fun _ => emit_attempts .approvalConsumed rfl member,
    Never.pure _]

/-- The verification of a presented grant is told by a rejection, or by a verification and perhaps a
consumption. -/
theorem verifySignedApprovalGrant_attempts
    (subset : [.approvalRejected, .approvalVerified, .approvalConsumed] ⊆ types) :
    Attempts types (plane.verifySignedApprovalGrant std request capabilityRef decision) := by
  have reject (payload : ApprovalPayload) :
      Attempts types (plane.rejectSigned request capabilityRef decision payload) :=
    rejectSigned_attempts (subset (by decide)) payload
  unfold verifySignedApprovalGrant
  split
  · exact Never.pure _
  split
  · exact reject _
  split
  · exact reject _
  refine Never.bind Never.get fun _ => ?_
  split
  · exact reject _
  refine Never.bind now_attempts fun _ => Never.bind (Never.ofExcept _) fun _ =>
    Never.bind (Never.ofExcept _) fun _ => ?_
  split
  · exact Never.bind (emit_attempts .approvalVerified rfl (subset (by decide))) fun _ =>
      Never.bind (consumeSigned_attempts (subset (by decide)) _ _) fun _ => Never.pure _
  · exact reject _

/-- The search of the store emits nothing. -/
theorem matchingApprovalGrant_attempts :
    Attempts types (plane.matchingApprovalGrant std request) := by
  refine Never.bind Never.get fun _ => ?_
  split
  · exact Never.pure _
  · exact Never.bind (Never.ofExcept _) fun _ => Never.bind now_attempts fun _ => Never.ofExcept _

/-- The consumption of a stored grant is an `approval_consumed`. -/
theorem consumeGrant_attempts (member : .approvalConsumed ∈ types) (grant : ApprovalGrant) :
    Attempts types (plane.consumeGrant request capabilityRef decision grant) := by
  refine Never.bind Never.get fun _ => ?_
  split
  · exact Never.throw _
  · exact Never.bind (Never.modify _) fun _ => emit_attempts .approvalConsumed rfl member

/-- The id of a clearance request is drawn without an event. -/
theorem clearanceRequestId_attempts : Attempts types (plane.clearanceRequestId request) := by
  unfold clearanceRequestId
  split
  · exact drawId_attempts
  split
  exacts [drawId_attempts, Never.pure _]

/-- The question to the tower emits nothing. -/
theorem askClearance_attempts {client : ClearanceClient} (clearanceRequest : ClearanceRequest) :
    Attempts types (plane.askClearance client clearanceRequest) := by
  refine Never.perform fun history => ?_
  rintro ⟨_, attempted, -⟩
  cases attempted

end Attempts

/-! ## Audit before act -/

/-- The one-time approval whose consumption an event tells. -/
def consumedId (request : CapabilityRequest) (event : AuditEmission) : Option ApprovalId :=
  match event.eventType, event.approval with
  | .approvalConsumed, some (.grant grant) =>
      if grant.scope = .oneTime then some (.response grant.responseId) else none
  | .approvalConsumed, some (.grantVerification _) =>
      request.signedApprovalGrant.map fun signedGrant => .grant signedGrant.payload.grantId
  | _, _ => none

/-- The one-time approval whose consumption an effect records, or fails to record. -/
def consumedBy (request : CapabilityRequest) (effect : Effect) : Option ApprovalId :=
  effect.attempted.bind (consumedId request)

/-- Every one-time approval whose consumption a run recorded, or failed to record, is spent. -/
def Attested (request : CapabilityRequest) (effects : List Effect) (s : PlaneState) : Prop :=
  ∀ effect ∈ effects, ∀ id, consumedBy request effect = some id → Spent s id

/-- A step that keeps every mark and leaves spent what it tells to be consumed. -/
structure Attests (request : CapabilityRequest) {α : Type} (m : Step α) : Prop where
  keeps : KeepsMarks m
  attested : ∀ history s, Attested request (m history s).effects (m history s).state

section AuditBeforeAct

variable {plane : ControlPlane} {std : Stdlib} {request : CapabilityRequest}
  {history before after : List Effect} {s : PlaneState} {id : ApprovalId}

/-- Only events of consumption tell of a consumption. -/
theorem consumedId_eq_none {event : AuditEmission} (other : event.eventType ≠ .approvalConsumed) :
    consumedId request event = none := by
  unfold consumedId
  split
  · next consumed _ => exact absurd consumed other
  · next consumed _ => exact absurd consumed other
  · rfl

/-- A step without emissions of consumption attests to all it tells. -/
theorem attests_of_attempts {α : Type} {types : List AuditEventType} {m : Step α}
    (others : .approvalConsumed ∉ types) (keeps : KeepsMarks m) (attempts : Attempts types m) :
    Attests request m := by
  refine ⟨keeps, fun history s effect member id told => ?_⟩
  obtain ⟨event, attempted, consumed⟩ := Option.bind_eq_some_iff.mp told
  refine absurd ⟨effect, member, event, attempted, fun inside => ?_⟩ (attempts history s)
  have other : event.eventType ≠ .approvalConsumed := fun same => others (same ▸ inside)
  rw [consumedId_eq_none other] at consumed
  cases consumed

/-- Steps in a row attest to what they tell: later steps keep the marks of the earlier ones. -/
theorem Attests.bind {α β : Type} {m : Step α} {f : α → Step β} (first : Attests request m)
    (second : ∀ a, Attests request (f a)) : Attests request (m >>= f) := by
  refine ⟨Prog.Keeps.bind (fun earlier later => earlier.trans later) first.keeps fun a =>
    (second a).keeps, fun history s => ?_⟩
  have here := first.attested history s
  match run : m history s with
  | ⟨.error e, mid, before⟩ =>
      rw [Prog.bind_run_error run f]
      rw [run] at here
      exact here
  | ⟨.ok a, mid, before⟩ =>
      rw [Prog.bind_run_ok run f]
      rw [run] at here
      intro effect member id told
      -- what the first part leaves spent stays so in the second, which keeps every mark
      rcases List.mem_append.mp member with member | member
      · exact ((second a).keeps _ mid).spent (here effect member id told)
      · exact (second a).attested _ mid effect member id told

/-- An emission attests to the approvals that were marked before it. -/
theorem attested_emit {event : AuditEmission}
    (spent : ∀ id, consumedId request event = some id → Spent s id) :
    Attested request (plane.emit event history s).effects
      (plane.emit event history s).state := by
  intro effect member id told
  rcases @emit_cases plane event history s with run | ⟨e, run⟩
  all_goals
    rw [run] at member ⊢
    rw [List.mem_singleton.mp member] at told
    exact spent id told

/-- Consumption marks the approval before it is told. -/
theorem attests_consumeSigned {capabilityRef : CapabilityRef} {decision : PolicyDecisionResult}
    {signedGrant : SignedApprovalGrant} {verification : GrantVerificationResult}
    (presented : request.signedApprovalGrant = some signedGrant) :
    Attests request
      (plane.consumeSigned request capabilityRef decision signedGrant verification) := by
  refine ⟨(keepsMarks_closed request).consumeSigned _ _ _ _ presented, fun history s => ?_⟩
  unfold consumeSigned
  split
  · rw [Prog.modify_bind_run]
    refine attested_emit fun id told => ?_
    have told : request.signedApprovalGrant.map
        (fun signedGrant => ApprovalId.grant signedGrant.payload.grantId) = some id := told
    rw [presented] at told
    cases told
    exact List.mem_cons_self
  · exact fun effect member => (List.not_mem_nil member).elim

/-- The consumption of a stored grant is marked before it is told. -/
theorem attests_consumeGrant {capabilityRef : CapabilityRef} {decision : PolicyDecisionResult}
    {grant : ApprovalGrant} :
    Attests request (plane.consumeGrant request capabilityRef decision grant) := by
  refine ⟨(keepsMarks_closed request).consumeGrant _ _ _, fun history s => ?_⟩
  unfold consumeGrant
  rw [Prog.get_bind_run]
  cases stored : s.approvalStore with
  | none => exact fun effect member => (List.not_mem_nil member).elim
  | some store =>
      simp only [Prog.modify_bind_run]
      refine attested_emit fun id told => ?_
      have told : (if grant.scope = .oneTime then some (ApprovalId.response grant.responseId)
        else none) = some id := told
      split at told
      · next single =>
          cases told
          exact ⟨_, rfl, (ApprovalStore.mem_consume grant _).mpr (Or.inl ⟨single, rfl⟩)⟩
      · cases told

/-- Every part of a request attests to the consumptions it tells. -/
theorem attests_closed : Closed plane request (@Attests request) := by
  have keeps : Closed plane request @KeepsMarks := keepsMarks_closed request
  have silent {α : Type} {m : Step α} (kept : KeepsMarks m) (attempts : Attempts [] m) :
      Attests request m := attests_of_attempts List.not_mem_nil kept attempts
  exact {
    pure a := silent (keeps.pure a) (Never.pure a)
    throw e := silent (keeps.throw e) (Never.throw e)
    ofExcept r := silent (keeps.ofExcept r) (Never.ofExcept r)
    get := silent keeps.get Never.get
    bind first second := Attests.bind first second
    emit event other := by
      have attempts : Attempts [event.eventType] (plane.emit event) :=
        emit_attempts _ rfl List.mem_cons_self
      refine attests_of_attempts ?_ (keeps.emit event other) attempts
      rw [List.mem_singleton]
      exact fun same => other same.symm
    now := silent keeps.now now_attempts
    drawId := silent keeps.drawId drawId_attempts
    askClearance client clearanceRequest :=
      silent (keeps.askClearance client clearanceRequest) (askClearance_attempts _)
    callProvider providerRequest :=
      silent (keeps.callProvider providerRequest) (callProvider_attempts _)
    consumeSigned _ _ _ _ presented := attests_consumeSigned presented
    consumeGrant _ _ _ := attests_consumeGrant }

/-- An emission that raises is the last thing a step does. -/
abbrev EndsAtRaise {α : Type} (m : Step α) : Prop := Ends (fun effect => effect.raises = true) m

/-- A step that emits nothing has no emission to raise. -/
theorem endsAtRaise_of_attempts {α : Type} {m : Step α} (attempts : Attempts [] m) :
    EndsAtRaise m := by
  refine Never.ends fun history s => ?_
  rintro ⟨effect, member, raises⟩
  cases effect with
  | emitRaised event e => exact attempts history s ⟨_, member, event, rfl, List.not_mem_nil⟩
  | _ => cases raises

/-- A refused emission is the last effect of its step, which raises. -/
theorem endsAtRaise_emit (event : AuditEmission) : EndsAtRaise (plane.emit event) := by
  refine Ends.perform fun history _ returned => ?_
  cases recorded : plane.auditSink history event with
  | none => exact Bool.false_ne_true
  | some e =>
      rw [recorded] at returned
      cases returned

/-- An emission that raises ends every part of a request. -/
theorem endsAtRaise_closed : Closed plane request @EndsAtRaise where
  pure a := endsAtRaise_of_attempts (Never.pure a)
  throw e := endsAtRaise_of_attempts (Never.throw e)
  ofExcept r := endsAtRaise_of_attempts (Never.ofExcept r)
  get := endsAtRaise_of_attempts Never.get
  bind first second := Ends.bind first second
  emit event _ := endsAtRaise_emit event
  now := endsAtRaise_of_attempts now_attempts
  drawId := endsAtRaise_of_attempts drawId_attempts
  askClearance _ _ := endsAtRaise_of_attempts (askClearance_attempts _)
  callProvider _ := endsAtRaise_of_attempts (callProvider_attempts _)
  consumeSigned _ _ _ _ _ := by
    unfold consumeSigned
    split
    · exact Ends.bind (endsAtRaise_of_attempts (Never.modify _)) fun _ => endsAtRaise_emit _
    · exact endsAtRaise_of_attempts (Never.pure _)
  consumeGrant _ _ _ := by
    refine Ends.bind (endsAtRaise_of_attempts Never.get) fun _ => ?_
    split
    · exact endsAtRaise_of_attempts (Never.throw _)
    · exact Ends.bind (endsAtRaise_of_attempts (Never.modify _)) fun _ => endsAtRaise_emit _

/-- The type of the event that is evidence of an authorisation. -/
def evidenceType : Authorisation → AuditEventType
  | .storeGrant _ => .approvalConsumed
  | .signedGrant _ | .clearance _ => .approvalVerified

/-- An event that records an authorisation has the type of its evidence. -/
theorem eventType_of_authorisation {event : AuditEmission} {authorisation : Authorisation}
    (evidence : (Effect.emitted event).authorisation = some authorisation) :
    event.eventType = evidenceType authorisation := by
  simp only [Effect.authorisation] at evidence
  split at evidence
  · next consumed _ => cases evidence; exact consumed
  · next verified _ => cases evidence; exact verified
  · next verified _ => cases evidence; exact verified
  · cases evidence

/-- **What is on record before the provider is called**: no emission has raised, and the three opening
events, the evidence where the decision asks, and the announcement of the execution were recorded in
this order. -/
structure AuditedBefore (plane : ControlPlane) (request : CapabilityRequest)
    (before : List Effect) : Prop where
  unraised : ∀ effect ∈ before, effect.raises = false
  opening : (plane.openingEvents request).map AuditEmission.eventType
    = [.requestReceived, .capabilityResolved, .policyDecision]
  ordered : ∃ evidence started, started.eventType = .providerExecutionStarted ∧
    (plane.openingEvents request ++ evidence ++ [started]).Sublist (recorded before) ∧
    ((plane.decisionOf request).requiresApproval = true → ∃ event authorisation,
      evidence = [event] ∧ (Effect.emitted event).authorisation = some authorisation ∧
      event.eventType = evidenceType authorisation ∧ authorisations before = [authorisation])

/-- The evidence a route leaves on record. -/
theorem Route.evidence {capability : Capability} {capabilityRef : CapabilityRef}
    {decision : PolicyDecisionResult} {s' : PlaneState} {authorisation : Option Authorisation}
    (route : Route std plane request capability capabilityRef decision history s before s'
      authorisation) :
    ∃ evidence, evidence.Sublist (recorded before) ∧
      (decision.requiresApproval = true → ∃ event accepted, evidence = [event] ∧
        authorisation = some accepted ∧ (Effect.emitted event).authorisation = some accepted) := by
  cases route with
  | policy allows =>
      exact ⟨[], List.nil_sublist _, fun asks => absurd (allows.symm.trans asks) (by decide)⟩
  | @clearance _ _ response asks selected wired chain =>
      refine ⟨[clearanceVerifiedEvent request capabilityRef decision response], ?_,
        fun _ => ⟨_, _, rfl, rfl, rfl⟩⟩
      rw [clearanceEffects, recorded_append]
      exact List.sublist_append_right _ _
  | @signed signedGrant verification asks locally accepted =>
      refine ⟨[approvalEvent request capabilityRef decision .approvalVerified
        (.grantVerification verification)], ?_, fun _ => ⟨_, _, rfl, rfl, rfl⟩⟩
      change [_].Sublist (recorded ((signedEvents request capabilityRef decision signedGrant
        verification).map .emitted))
      rw [recorded_emitted]
      exact List.singleton_sublist.mpr List.mem_cons_self
  | @stored _ _ grant _ asks locally neutral matched =>
      refine ⟨[consumedEvent request capabilityRef decision grant], ?_,
        fun _ => ⟨_, _, rfl, rfl, rfl⟩⟩
      rw [recorded_append]
      exact List.sublist_append_right _ _

/-- After the provider was called only its answer is reported. -/
theorem Execution.reports {capability : Capability} {s' : PlaneState} {routed : List Effect}
    {authorisation : Option Authorisation}
    (execution : Execution std plane request history s capability routed s' authorisation) :
    ∃ answer after, (∀ effect ∈ after, ∀ event, effect.attempted = some event →
        event.eventType ∈ reportTypes) ∧
      (plane.handle std request history s).effects
        = ((plane.openingEvents request).map .emitted ++ routed
          ++ [.emitted (plane.startedEvent request
            (capabilityRefOf request.capabilityId (some capability)) (plane.decisionOf request))])
          ++ .executed (providerRequest request capability) answer :: after := by
  rw [execution.reaches.run, executeProvider_eq execution.reaches.announced]
  split
  · next e answer =>
      refine ⟨.error e, [], fun effect member => (List.not_mem_nil member).elim, ?_⟩
      simp only [Outcome.prepend_effects, List.append_assoc, List.cons_append, List.nil_append]
  · next result answer =>
      simp only [Outcome.prepend_effects]
      generalize history ++ _ ++ _ = later
      refine ⟨.ok result, (plane.reportExecution request
        (capabilityRefOf request.capabilityId (some capability)) (plane.decisionOf request) result
        later s').effects, fun effect member event attempted => ?_, ?_⟩
      · by_contra outside
        exact reportExecution_attempts (fun _ reported => reported) result _ _
          ⟨effect, member, event, attempted, outside⟩
      · simp only [List.append_assoc, List.cons_append, List.nil_append]

/-- The provider is called behind a complete record, and afterwards only its answer is reported. -/
theorem auditedBefore_of_called {providerRequest : ProviderActionRequest}
    {answer : Except PyExc ProviderActionResult}
    (called : (plane.handle std request history s).effects
      = before ++ .executed providerRequest answer :: after) :
    AuditedBefore plane request before ∧
      ∀ effect ∈ after, ∀ event, effect.attempted = some event →
        event.eventType ∈ reportTypes := by
  have executes : Executes (plane.handle std request) history s :=
    ⟨_, by rw [called]; exact List.mem_append_right before List.mem_cons_self, rfl⟩
  obtain ⟨capability, routed, s', authorisation, execution⟩ := execution_of_executes executes
  obtain ⟨none, recordedAuthorisations⟩ := execution.route.trace
  have opening : Neutral ((plane.openingEvents request).map .emitted) :=
    openingEvents_neutral request
  -- the call is the only one, so the run splits at it in one way
  obtain ⟨answer', reports, reported, run⟩ := execution.reports
  have single : (executions (plane.handle std request history s).effects).length = 1 :=
    execution.trace.1
  have silentAfter : Effect.executed providerRequest answer ∉ reports := by
    intro member
    rw [run, executions_append] at single
    have more : 0 < (executions reports).length :=
      List.length_pos_of_mem (List.mem_filter.mpr ⟨member, rfl⟩)
    have count : (executions (.executed (ControlPlane.providerRequest request capability) answer'
        :: reports)).length = (executions reports).length + 1 := rfl
    rw [List.length_append, count] at single
    omega
  have silentBefore : Effect.executed providerRequest answer
      ∉ (plane.openingEvents request).map .emitted ++ routed
        ++ [.emitted (plane.startedEvent request
          (capabilityRefOf request.capabilityId (some capability)) (plane.decisionOf request))] := by
    intro member
    have call : Effect.executed providerRequest answer ∈ executions
        ((plane.openingEvents request).map .emitted ++ routed
          ++ [.emitted (plane.startedEvent request
            (capabilityRefOf request.capabilityId (some capability))
            (plane.decisionOf request))]) := List.mem_filter.mpr ⟨member, rfl⟩
    rw [executions_append, executions_append, opening.executions, none] at call
    exact List.not_mem_nil call
  obtain ⟨rfl, -, rfl⟩ := (List.append_cons_inj_of_notMem silentBefore silentAfter).mp
    (run.symm.trans called)
  refine ⟨⟨fun effect member => ?_, ?_, ?_⟩, reported⟩
  · -- an emission that raised would have been the last effect
    by_contra raised
    obtain ⟨front, back, same⟩ := List.append_of_mem member
    have ends : EndsAtRaise (plane.handle std request) := endsAtRaise_closed.handle
    rw [same, List.append_assoc, List.cons_append] at called
    have nothing := ends.nothing_after called (Bool.not_eq_false _ ▸ raised)
    exact List.append_ne_nil_of_right_ne_nil back (List.cons_ne_nil _ reports) nothing
  · simp only [openingEvents, execution.admitted.registered, Option.isSome_some, if_true,
      List.map_cons, List.map_nil, event]
  · obtain ⟨evidence, onRecord, asked⟩ := execution.route.evidence
    refine ⟨evidence, plane.startedEvent request
      (capabilityRefOf request.capabilityId (some capability)) (plane.decisionOf request), rfl,
      ?_, fun asks => ?_⟩
    · rw [recorded_append, recorded_append, recorded_emitted]
      exact ((List.Sublist.refl _).append onRecord).append (List.Sublist.refl _)
    · obtain ⟨event, accepted, rfl, rfl, told⟩ := asked asks
      refine ⟨event, accepted, rfl, told, eventType_of_authorisation told, ?_⟩
      rw [authorisations_append, authorisations_append, opening.authorisations,
        recordedAuthorisations]
      rfl

/-- **Audit before act.** Whatever the sink answers to any emission: the provider is called behind a
complete record only; an emission that raises is the last thing the request does, and unless it was
to report an execution the provider is not called at all; and a one-time approval whose consumption
the request told, or failed to tell, authorises no later execution of the control plane. -/
theorem audit_before_act (std : Stdlib) (plane : ControlPlane) (request : CapabilityRequest)
    (history : List Effect) (s : PlaneState) :
    (∀ before providerRequest answer after,
      (plane.handle std request history s).effects
        = before ++ .executed providerRequest answer :: after →
      AuditedBefore plane request before) ∧
    (∀ before event e after,
      (plane.handle std request history s).effects = before ++ .emitRaised event e :: after →
      after = [] ∧ (event.eventType ∉ reportTypes →
        executions (plane.handle std request history s).effects = [])) ∧
    ∀ id, (∃ effect ∈ (plane.handle std request history s).effects,
        consumedBy request effect = some id) →
      ∀ operations, Lib.totalUses oneTimeUses (Lib.outputs (step std plane)
        ⟨history ++ (plane.handle std request history s).effects,
          (plane.handle std request history s).state⟩ operations) id = 0 := by
  refine ⟨fun before _ answer after called => (auditedBefore_of_called called).1, ?_, ?_⟩
  · intro before event e after raised
    have ends : EndsAtRaise (plane.handle std request) := endsAtRaise_closed.handle
    refine ⟨ends.nothing_after raised rfl, fun other => ?_⟩
    by_contra executed
    obtain ⟨call, member⟩ := List.exists_mem_of_ne_nil _ executed
    obtain ⟨member, isCall⟩ := List.mem_filter.mp member
    cases call with
    | executed providerRequest answer =>
        obtain ⟨front, back, called⟩ := List.append_of_mem member
        obtain ⟨audited, reported⟩ := auditedBefore_of_called called
        -- the failed emission stands before the call, or reports it
        have occurs : Effect.emitRaised event e ∈ (plane.handle std request history s).effects := by
          rw [raised]
          exact List.mem_append_right before List.mem_cons_self
        rw [called, List.mem_append, List.mem_cons] at occurs
        rcases occurs with earlier | same | later
        · exact Bool.noConfusion (audited.unraised _ earlier)
        · cases same
        · exact other (reported _ later event rfl)
    | _ => cases isCall
  · rintro id ⟨effect, member, told⟩ operations
    have spent : Spent (plane.handle std request history s).state id :=
      attests_closed.handle.attested history s effect member id told
    exact step_singleUse.uses_eq_zero spent operations

end AuditBeforeAct

end ControlPlane

namespace Deployment

/-- The local control plane with a sink that cannot record the announcement of an execution. -/
def unannouncedPlane : ControlPlane :=
  { localPlane with
    auditSink := fun _ event =>
      if event.eventType = .providerExecutionStarted then
        some (.other "OSError" "[Errno 28] No space left on device")
      else none }

/-- The restart, presented with the signed grant. -/
def signedRestart : CapabilityRequest :=
  { restartRequest with signedApprovalGrant := some signedGrant }

/-- Where the announcement of the restart cannot be recorded, the restart is not executed, and the
signed grant it consumed authorises nothing afterwards. -/
theorem audit_before_act_unannounced :
    executions (unannouncedPlane.handle library signedRestart [] ⟨none, []⟩).effects = [] ∧
      ∀ operations, Lib.totalUses ControlPlane.oneTimeUses
        (Lib.outputs (ControlPlane.step library unannouncedPlane)
          ⟨[] ++ (unannouncedPlane.handle library signedRestart [] ⟨none, []⟩).effects,
            (unannouncedPlane.handle library signedRestart [] ⟨none, []⟩).state⟩ operations)
        (.grant "grant-1") = 0 := by
  obtain ⟨-, raised, consumed⟩ :=
    ControlPlane.audit_before_act library unannouncedPlane signedRestart [] ⟨none, []⟩
  refine ⟨?_, consumed (.grant "grant-1") (by decide +kernel)⟩
  have failed : ∃ effect ∈ (unannouncedPlane.handle library signedRestart [] ⟨none, []⟩).effects,
      effect.raises = true ∧
        effect.attempted.map AuditEmission.eventType = some .providerExecutionStarted := by
    decide +kernel
  obtain ⟨effect, member, raises, started⟩ := failed
  cases effect with
  | emitRaised event e =>
      obtain ⟨front, back, same⟩ := List.append_of_mem member
      refine (raised front event e back same).2 ?_
      rw [Option.some.inj started]
      decide
  | _ => cases raises

end Deployment

end AgenticKVM
