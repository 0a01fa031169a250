import AgenticKVM.AuditTraces
import AgenticKVM.PiKVMProvider
import AgenticKVM.RedactionLaws

/-! # Complete traces

A trace is well formed where every announced execution has its one outcome and the trace ends with
its one result. `handle` catches nothing, so that the trace of a request is well formed exactly where
the request goes through: where the provider, the tower's client, the fingerprints, the verifiers, the
store and the clock answer along the way it takes (`trace_wellFormed_iff`). -/

namespace AgenticKVM

open Lib (Json Prog Outcome)
open Lib.Prog (Does Never Returns)

/-! ## Well-formed traces -/

/-- An event reports the outcome of an execution. -/
def AuditEventType.isOutcome : AuditEventType → Bool
  | .providerExecutionCompleted | .providerExecutionFailed => true
  | _ => false

/-- **A well-formed trace**: each announced execution is followed by exactly one outcome, and the
trace ends with the only result. -/
structure WellFormedTrace (trace : List AuditEventType) : Prop where
  outcomes : ∀ before after, trace = before ++ .providerExecutionStarted :: after →
    after.countP AuditEventType.isOutcome = 1
  result : ∃ before, trace = before ++ [.resultReturned] ∧ .resultReturned ∉ before

/-- The types of the events that come before an execution or a result. -/
def preliminaryTypes : List AuditEventType :=
  [.requestReceived, .capabilityResolved, .capabilityUnknownDenied, .policyDecision,
    .approvalRequested, .approvalVerified, .approvalRejected, .approvalConsumed]

/-- Preliminary events before a well-formed trace leave it well formed. -/
theorem WellFormedTrace.prepend {front trace : List AuditEventType}
    (preliminary : ∀ eventType ∈ front, eventType ∈ preliminaryTypes)
    (wellFormed : WellFormedTrace trace) : WellFormedTrace (front ++ trace) := by
  have absent (eventType : AuditEventType) (other : eventType ∉ preliminaryTypes) :
      eventType ∉ front := fun member => other (preliminary eventType member)
  constructor
  · intro before after same
    rcases List.append_eq_append_iff.mp same with ⟨more, -, rest⟩ | ⟨more, rfl, rest⟩
    · exact wellFormed.outcomes more after rest
    · cases more with
      | nil => exact wellFormed.outcomes [] after rest.symm
      | cons eventType more =>
          -- the announcement is no preliminary event
          cases rest
          exact absurd (List.mem_append_right before List.mem_cons_self)
            (absent .providerExecutionStarted (by decide))
  · obtain ⟨before, rfl, single⟩ := wellFormed.result
    refine ⟨front ++ before, (List.append_assoc front before _).symm, fun member => ?_⟩
    rcases List.mem_append.mp member with member | member
    exacts [absent .resultReturned (by decide) member, single member]

/-- A result alone is a well-formed trace. -/
theorem wellFormedTrace_result : WellFormedTrace [.resultReturned] := by
  refine ⟨fun before after same => ?_, [], rfl, List.not_mem_nil⟩
  have member : AuditEventType.providerExecutionStarted ∈ [AuditEventType.resultReturned] := by
    rw [same]
    exact List.mem_append_right before List.mem_cons_self
  exact absurd member (by decide)

/-- An announced execution, its outcome and its result are a well-formed trace. -/
theorem wellFormedTrace_execution {outcome : AuditEventType} (isOutcome : outcome.isOutcome = true) :
    WellFormedTrace [.providerExecutionStarted, outcome, .resultReturned] := by
  have other : outcome ≠ .providerExecutionStarted ∧ outcome ≠ .resultReturned := by
    constructor
    all_goals
      rintro rfl
      cases isOutcome
  constructor
  · intro before after same
    cases before with
    | nil =>
        cases same
        rw [List.countP_cons_of_pos isOutcome]
        rfl
    | cons first before =>
        have member : AuditEventType.providerExecutionStarted ∈ [outcome, .resultReturned] := by
          rw [(List.cons.inj same).2]
          exact List.mem_append_right before List.mem_cons_self
        simp only [List.mem_cons, List.not_mem_nil, or_false, reduceCtorEq] at member
        exact absurd member.symm other.1
  · refine ⟨[.providerExecutionStarted, outcome], rfl, fun member => ?_⟩
    simp only [List.mem_cons, List.not_mem_nil, or_false, reduceCtorEq, false_or] at member
    exact other.2 member.symm

namespace ControlPlane

/-! ## Steps that conclude a trace -/

/-- A step that leaves a good trace where it returns, and no result where it raises. -/
structure Leaves (good : List AuditEventType → Prop) (m : Step ControlPlaneResult) : Prop where
  returned : ∀ history s result, (m history s).result = .ok result →
    good (traceOf (m history s).effects)
  raised : ∀ history s e, (m history s).result = .error e →
    .resultReturned ∉ traceOf (m history s).effects

/-- A step that leaves a well-formed trace where it returns, and no result where it raises. -/
abbrev Concludes (m : Step ControlPlaneResult) : Prop := Leaves WellFormedTrace m

section Leaves

variable {plane : ControlPlane} {std : Stdlib} {request : CapabilityRequest}
  {capability : Capability} {capabilityRef : CapabilityRef} {decision : PolicyDecisionResult}
  {good good' : List AuditEventType → Prop} {α : Type}

/-- A first part that never returns a result, before a step that leaves a good trace. -/
theorem Leaves.bind {m : Step α} {f : α → Step ControlPlaneResult}
    (first : ∀ history s, .resultReturned ∉ traceOf (m history s).effects)
    (second : ∀ a, Leaves good (f a))
    (prepend : ∀ history s a mid before trace, m history s = ⟨.ok a, mid, before⟩ → good trace →
      good' (traceOf before ++ trace)) : Leaves good' (m >>= f) := by
  constructor
  · intro history s result returned
    match run : m history s with
    | ⟨.error e, mid, before⟩ =>
        rw [Prog.bind_run_error run f] at returned
        cases returned
    | ⟨.ok a, mid, before⟩ =>
        rw [Prog.bind_run_ok run f] at returned ⊢
        rw [Outcome.prepend_effects, traceOf_append]
        exact prepend history s a mid before _ run ((second a).returned _ _ _ returned)
  · intro history s e raised member
    have here := first history s
    match run : m history s with
    | ⟨.error e, mid, before⟩ =>
        rw [Prog.bind_run_error run f] at member
        rw [run] at here
        exact here member
    | ⟨.ok a, mid, before⟩ =>
        rw [Prog.bind_run_ok run f] at raised member
        rw [run] at here
        rw [Outcome.prepend_effects, traceOf_append] at member
        rcases List.mem_append.mp member with member | member
        exacts [here member, (second a).raised _ _ _ raised member]

/-- What a step records is of the types it tries to emit. -/
theorem Attempts.mem_trace {types : List AuditEventType} {m : Step α}
    (attempts : Attempts types m) (history : List Effect) (s : PlaneState) :
    ∀ eventType ∈ traceOf (m history s).effects, eventType ∈ types := by
  intro eventType member
  obtain ⟨event, onRecord, rfl⟩ := List.mem_map.mp member
  obtain ⟨effect, occurs, told⟩ := List.mem_filterMap.mp onRecord
  by_contra outside
  cases effect with
  | emitted event' =>
      cases told
      exact attempts history s ⟨_, occurs, event, rfl, outside⟩
  | _ => cases told

/-- Preliminary steps before one that concludes. -/
theorem Leaves.after {m : Step α} {f : α → Step ControlPlaneResult}
    (first : Attempts preliminaryTypes m) (second : ∀ a, Concludes (f a)) :
    Concludes (m >>= f) := by
  refine Leaves.bind (fun history s member => ?_) second ?_
  · exact absurd (first.mem_trace history s _ member) (by decide)
  · intro history s a mid before trace run wellFormed
    have front := first.mem_trace history s
    rw [run] at front
    exact wellFormed.prepend front

/-- An event that is no result, before a step that leaves a good trace. -/
theorem Leaves.emit {event : AuditEmission} {m : Step ControlPlaneResult}
    (other : event.eventType ≠ .resultReturned) (second : Leaves good m) :
    Leaves (fun trace => ∃ rest, trace = event.eventType :: rest ∧ good rest)
      (plane.emit event >>= fun _ => m) := by
  refine Leaves.bind (fun history s member => ?_) (fun _ => second) ?_
  · have attempts : Attempts [event.eventType] (plane.emit event) :=
      emit_attempts _ rfl List.mem_cons_self
    exact other (List.mem_singleton.mp (attempts.mem_trace history s _ member)).symm
  · intro history s _ mid before trace run isGood
    obtain ⟨-, rfl, rfl⟩ := emit_run_inv run
    exact ⟨trace, rfl, isGood⟩

/-- A step that raises before it does anything. -/
theorem leaves_throw (e : PyExc) : Leaves good (Prog.throw e) := by
  constructor
  · intro history s result returned
    cases returned
  · exact fun _ _ _ _ => List.not_mem_nil

/-- A result that is recorded and returned. -/
theorem leaves_result (status : ControlPlaneStatus) (result : ControlPlaneResult) :
    Leaves (· = [.resultReturned])
      (plane.emitResultReturned request capabilityRef decision status >>= fun _ =>
        pure result) := by
  unfold emitResultReturned
  set event := { event request capabilityRef decision .resultReturned with
    result := some (.status status decision.reason) }
  constructor
  · intro history s _ returned
    rcases @emit_cases plane event history s with run | ⟨e, run⟩
    · rw [Prog.bind_run_ok run]
      rfl
    · rw [Prog.bind_run_error run] at returned
      cases returned
  · intro history s _ raised
    rcases @emit_cases plane event history s with run | ⟨e, run⟩
    · rw [Prog.bind_run_ok run] at raised
      cases raised
    · rw [Prog.bind_run_error run]
      exact List.not_mem_nil

theorem Leaves.mono {m : Step ControlPlaneResult} (leaves : Leaves good m)
    (weaker : ∀ trace, good trace → good' trace) : Leaves good' m :=
  ⟨fun history s result returned => weaker _ (leaves.returned history s result returned),
    leaves.raised⟩

theorem concludes_result (status : ControlPlaneStatus) (result : ControlPlaneResult) :
    Concludes (plane.emitResultReturned request capabilityRef decision status >>= fun _ =>
      pure result) := by
  refine (leaves_result status result).mono ?_
  rintro _ rfl
  exact wellFormedTrace_result

/-- **An execution** concludes a trace: what is announced has its outcome and its result, unless
something raises. -/
theorem concludes_executeProvider :
    Concludes (plane.executeProvider request capability capabilityRef decision) := by
  have report (result : ProviderActionResult) :
      Leaves (fun trace => ∃ outcome : AuditEventType, outcome.isOutcome = true ∧
          trace = [outcome, .resultReturned])
        (plane.reportExecution request capabilityRef decision result) := by
    have isOutcome : (plane.finishedEvent request capabilityRef decision result).eventType.isOutcome
        = true := by
      cases ok : result.ok <;> simp [finishedEvent, AuditEventType.isOutcome, event, ok]
    refine (Leaves.emit (fun same => ?_) (leaves_result _ _)).mono ?_
    · rw [same] at isOutcome
      cases isOutcome
    · rintro _ ⟨_, rfl, rfl⟩
      exact ⟨_, isOutcome, rfl⟩
  have called : Leaves (fun trace => ∃ outcome : AuditEventType, outcome.isOutcome = true ∧
        trace = [outcome, .resultReturned])
      (plane.callProvider (providerRequest request capability) >>= fun result =>
        plane.reportExecution request capabilityRef decision result) := by
    refine Leaves.bind (fun history s => List.not_mem_nil) report ?_
    intro history s result mid before trace run isGood
    simp only [callProvider, Prog.perform_run, Outcome.mk.injEq] at run
    obtain ⟨-, -, rfl⟩ := run
    exact isGood
  refine (Leaves.emit (fun same => ?_) called).mono ?_
  · cases same
  · rintro _ ⟨_, rfl, outcome, isOutcome, rfl⟩
    exact wellFormedTrace_execution isOutcome

theorem concludes_deny : Concludes (plane.deny request capabilityRef decision) :=
  concludes_result _ _

theorem concludes_requestApproval :
    Concludes (plane.requestApproval request capability capabilityRef decision) :=
  Leaves.after now_attempts fun _ => Leaves.after drawId_attempts fun _ =>
    Leaves.after drawId_attempts fun _ => Leaves.after (Never.ofExcept _) fun _ =>
      Leaves.after (emit_attempts .approvalRequested rfl (by decide)) fun _ => concludes_result _ _

theorem concludes_handleLocalClearance :
    Concludes (plane.handleLocalClearance std request capability capabilityRef decision) := by
  refine Leaves.after (verifySignedApprovalGrant_attempts (by decide)) fun accepted => ?_
  split
  · exact concludes_executeProvider
  · refine Leaves.after matchingApprovalGrant_attempts fun found => ?_
    split
    · exact Leaves.after (consumeGrant_attempts (by decide) _) fun _ => concludes_executeProvider
    · exact concludes_requestApproval

theorem concludes_verifyClearance {now : Datetime} {clearanceRequest : ClearanceRequest}
    {response : ClearanceResponse} :
    Concludes (plane.verifyClearance std request capability capabilityRef decision now
      clearanceRequest response) := by
  unfold verifyClearance
  split
  · exact Leaves.after (Never.ofExcept _) fun _ =>
      Leaves.after (emit_attempts .approvalRejected rfl (by decide)) fun _ => concludes_result _ _
  · refine Leaves.after (Never.ofExcept _) fun verification => Leaves.after (Never.ofExcept _)
      fun _ => Leaves.after (emit_attempts _ rfl ?_) fun _ => ?_
    · cases valid : verification.valid <;> simp [approvalEvent, event, preliminaryTypes]
    split
    exacts [concludes_executeProvider, concludes_result _ _]

theorem concludes_handleActClearance {client : ClearanceClient} :
    Concludes (plane.handleActClearance std client request capability capabilityRef decision) := by
  refine Leaves.after now_attempts fun _ => Leaves.after clearanceRequestId_attempts fun _ =>
    Leaves.after (Never.ofExcept _) fun _ =>
      Leaves.after (emit_attempts .approvalRequested rfl (by decide)) fun _ =>
        Leaves.after (askClearance_attempts _) fun response => ?_
  unfold answerClearance
  split
  · exact concludes_verifyClearance
  · exact Leaves.after (Never.ofExcept _) fun _ =>
      Leaves.after (emit_attempts .approvalRejected rfl (by decide)) fun _ => concludes_result _ _
  · exact concludes_result _ _

/-- **A request that returns** leaves a well-formed trace, and one that raises leaves no result. -/
theorem concludes_handle : Concludes (plane.handle std request) := by
  refine Leaves.after (openingEvents_attempts (by decide)) fun _ => ?_
  unfold ControlPlane.decide
  split
  · exact concludes_deny
  split
  · exact concludes_deny
  split
  · split
    · exact leaves_throw _
    · unfold clear
      split
      exacts [concludes_handleActClearance, concludes_handleLocalClearance]
  · split
    exacts [leaves_throw _, concludes_executeProvider]

/-- A trace is well formed exactly where the request returns. -/
theorem wellFormed_iff_returns {history : List Effect} {s : PlaneState} :
    WellFormedTrace (traceOf (plane.handle std request history s).effects) ↔
      Returns (plane.handle std request) history s := by
  constructor
  · intro wellFormed
    unfold Returns
    cases result : (plane.handle std request history s).result with
    | ok a => exact ⟨a, rfl⟩
    | error e =>
        obtain ⟨before, last, -⟩ := wellFormed.result
        refine absurd ?_ (concludes_handle.raised history s e result)
        rw [last]
        exact List.mem_append_right before List.mem_cons_self
  · rintro ⟨result, returned⟩
    exact concludes_handle.returned history s result returned

end Leaves

/-! ## Requests that go through

What a request asks of its environment along the way it takes, with a sink that records everything.
Each answer is the environment's to the history at that point. -/

section GoesThrough

variable (std : Stdlib) (plane : ControlPlane) (request : CapabilityRequest)
  (capability : Capability) (capabilityRef : CapabilityRef) (decision : PolicyDecisionResult)

/-- The provider answers the request. -/
def ProviderAnswers (history : List Effect) : Prop :=
  ∃ result, plane.provider.executeAuthorized
    (history ++ [.emitted (plane.startedEvent request capabilityRef decision)])
    (providerRequest request capability) = .ok result

/-- An approval request for the operator can be built. -/
def AsksOperator (history : List Effect) : Prop :=
  let first := history ++ [plane.clockEffect history]
  let second := first ++ [.idDrawn (plane.freshId first)]
  ∃ approvalRequest, buildApprovalRequest decision capability request.sessionId request.requester
    [request.targetId] request.intendedEffect (plane.nowFactory history) (plane.freshId first)
    (plane.freshId second) (some plane.provider.providerId) = .ok approvalRequest

/-- The store, where there is one, is searched, and what follows from it goes through. -/
def StoreGoesThrough (history : List Effect) (s : PlaneState) : Prop :=
  match s.approvalStore with
  | none => plane.AsksOperator request capability decision history
  | some store =>
      ∃ fingerprint found, actionFingerprint std request.parameters = .ok fingerprint ∧
        store.findActionGrant ⟨request.capabilityId, request.sessionId, request.targetId,
          plane.provider.providerId, fingerprint⟩ (plane.nowFactory history) = .ok found ∧
        match found with
        | some grant => plane.ProviderAnswers request capability capabilityRef decision
            (history ++ [plane.clockEffect history,
              .emitted (consumedEvent request capabilityRef decision grant)])
        | none => plane.AsksOperator request capability decision
            (history ++ [plane.clockEffect history])

/-- The verdict on the presented signed grant: there is none, it is refused with a payload (the clock
was read where it was verified), or it is accepted. -/
inductive SignedVerdict
  | absent
  | refused (clock : Bool) (payload : ApprovalPayload)
  | accepted (signedGrant : SignedApprovalGrant) (verification : GrantVerificationResult)

/-- The verdict on the presented signed grant at a time, unless the parameters cannot be
fingerprinted or the grant cannot be verified. -/
def signedVerdict (s : PlaneState) (now : Datetime) : Except PyExc SignedVerdict :=
  match request.signedApprovalGrant, plane.approvalGrantVerifier, request.approvalRequestId with
  | none, _, _ => .ok .absent
  | some _, none, _ =>
      .ok (.refused false (.refusal none "signed approval verifier is not configured"))
  | some _, some _, none => .ok (.refused false (.refusal none "approval request id is required"))
  | some signedGrant, some verifier, some requestId =>
      if signedGrant.payload.grantId ∈ s.consumedSignedGrantIds then
        .ok (.refused false
          (.refusal (some signedGrant.payload.grantId) "signed grant already consumed"))
      else do
        let context ← GrantVerificationContext.fromParameters std requestId request.sessionId
          request.targetId plane.provider.providerId request.capabilityId request.parameters
          capabilityRef.family now
        let verification ← verifier.verify signedGrant context
        return if verification.valid then .accepted signedGrant verification
          else .refused true (.grantVerification verification)

/-- What a verdict leaves behind. -/
def SignedVerdict.effects (clock : Effect) : SignedVerdict → List Effect
  | .absent => []
  | .refused read payload => (if read then [clock] else [])
      ++ [.emitted (approvalEvent request capabilityRef decision .approvalRejected payload)]
  | .accepted signedGrant verification => clock
      :: (signedEvents request capabilityRef decision signedGrant verification).map .emitted

/-- Local approvals go through: the presented grant is judged, and after it the store is searched
unless it was accepted. -/
def LocalGoesThrough (history : List Effect) (s : PlaneState) : Prop :=
  ∃ verdict, plane.signedVerdict std request capabilityRef s (plane.nowFactory history)
      = .ok verdict ∧
    let after := history
      ++ verdict.effects request capabilityRef decision (plane.clockEffect history)
    match verdict with
    | .accepted _ _ => plane.ProviderAnswers request capability capabilityRef decision after
    | _ => plane.StoreGoesThrough std request capability capabilityRef decision after s

/-- A response goes through, from the history it is answered in: a denial is written, a clearance
is verified where a verifier is configured, written, and executed where it is accepted. What is
written has an expiry with a place in UTC. -/
def ResponseGoesThrough (clearanceRequest : ClearanceRequest) (response : ClearanceResponse)
    (now : Datetime) (history : List Effect) : Prop :=
  (response.status = .cleared ∨ response.status = .denied →
    ∃ written, response.expiryInUtc std = .ok written) ∧
  (response.status = .cleared → ∀ verifier, plane.clearanceVerifier = some verifier →
    ∃ verification, verifier.verify std clearanceRequest response now = .ok verification ∧
      (verification.valid = true →
        plane.ProviderAnswers request capability capabilityRef decision (history
          ++ [.emitted (clearanceVerifiedEvent request capabilityRef decision response)])))

/-- The tower's clearance goes through: its request is built, the client answers, and the response
goes through. -/
def TowerGoesThrough (client : ClearanceClient) (history : List Effect) : Prop :=
  ∃ clearanceRequest response,
    plane.clearanceRequestAt std request capability decision history = .ok clearanceRequest ∧
    client.requestClearance
      (history ++ plane.beforeAsking request capabilityRef decision history clearanceRequest)
      clearanceRequest plane.clearanceTimeoutSeconds = .ok response ∧
    plane.ResponseGoesThrough std request capability capabilityRef decision clearanceRequest
      response (plane.nowFactory history)
      (history ++ plane.untilAnswer request capabilityRef decision history clearanceRequest
        response)

/-- **A request that goes through**: it is denied, or everything answers along the way its decision
takes. -/
def GoesThrough (history : List Effect) (s : PlaneState) : Prop :=
  plane.Passes (plane.decisionOf request) → ∀ capability,
    plane.registry.get request.capabilityId = some capability →
    let capabilityRef := capabilityRefOf request.capabilityId (some capability)
    let decision := plane.decisionOf request
    let opened := history ++ (plane.openingEvents request).map .emitted
    if decision.requiresApproval then
      (∀ client, plane.authChannelSelection.channel = .mobileSigned →
        plane.clearanceClient = some client →
        plane.TowerGoesThrough std request capability capabilityRef decision client opened) ∧
      (plane.ClearsLocally →
        plane.LocalGoesThrough std request capability capabilityRef decision opened s)
    else plane.ProviderAnswers request capability capabilityRef decision opened

end GoesThrough

section Returns

variable {std : Stdlib} {plane : ControlPlane} {request : CapabilityRequest}
  {capability : Capability} {capabilityRef : CapabilityRef} {decision : PolicyDecisionResult}
  {history : List Effect} {s : PlaneState}

/-- The search of the store and what follows it. -/
theorem returns_matchingApprovalGrant_bind {f : Option ApprovalGrant → Step ControlPlaneResult} :
    Returns (plane.matchingApprovalGrant std request >>= f) history s ↔
      match s.approvalStore with
      | none => Returns (f none) history s
      | some store =>
          ∃ fingerprint found, actionFingerprint std request.parameters = .ok fingerprint ∧
            store.findActionGrant ⟨request.capabilityId, request.sessionId, request.targetId,
              plane.provider.providerId, fingerprint⟩ (plane.nowFactory history) = .ok found ∧
            Returns (f found) (history ++ [plane.clockEffect history]) s := by
  cases stored : s.approvalStore with
  | none =>
      have run : plane.matchingApprovalGrant std request history s = ⟨.ok none, s, []⟩ := by
        rw [matchingApprovalGrant, Prog.get_bind_run, stored]
        rfl
      rw [Prog.returns_bind_ok run, List.append_nil]
  | some store =>
      cases fingerprinted : actionFingerprint std request.parameters with
      | error e =>
          have run : plane.matchingApprovalGrant std request history s = ⟨.error e, s, []⟩ := by
            rw [matchingApprovalGrant, Prog.get_bind_run, stored, fingerprinted]
            rfl
          refine iff_of_false (Prog.not_returns_bind run) ?_
          rintro ⟨_, _, none, -⟩
          cases none
      | ok fingerprint =>
          have run : plane.matchingApprovalGrant std request history s
              = ⟨store.findActionGrant ⟨request.capabilityId, request.sessionId, request.targetId,
                plane.provider.providerId, fingerprint⟩ (plane.nowFactory history), s,
                [plane.clockEffect history]⟩ := by
            rw [matchingApprovalGrant, Prog.get_bind_run, stored, fingerprinted]
            dsimp only
            rw [Prog.bind_run_ok (Prog.ofExcept_run _), List.append_nil,
              Prog.bind_run_ok now_run]
            rfl
          cases search : store.findActionGrant ⟨request.capabilityId, request.sessionId,
              request.targetId, plane.provider.providerId, fingerprint⟩
              (plane.nowFactory history) with
          | error e =>
              rw [search] at run
              refine iff_of_false (Prog.not_returns_bind run) ?_
              rintro ⟨_, found, same, searched, -⟩
              cases same
              rw [search] at searched
              cases searched
          | ok found =>
              rw [search] at run
              rw [Prog.returns_bind_ok run]
              constructor
              · exact fun returns => ⟨fingerprint, found, rfl, search, returns⟩
              · rintro ⟨_, other, same, searched, returns⟩
                cases same
                rw [search] at searched
                cases searched
                exact returns

/-- The state a verdict leaves: an accepted one-time grant is marked. -/
def SignedVerdict.state (s : PlaneState) : SignedVerdict → PlaneState
  | .accepted signedGrant _ => markSigned s signedGrant
  | _ => s

/-- The presented grant is accepted. -/
def SignedVerdict.isAccepted : SignedVerdict → Bool
  | .accepted _ _ => true
  | _ => false

variable (records : ∀ history event, plane.auditSink history event = none)

include records

theorem returns_emit_bind {α : Type} {event : AuditEmission} {f : Unit → Step α} :
    Returns (plane.emit event >>= f) history s ↔
      Returns (f ()) (history ++ [.emitted event]) s :=
  Prog.returns_bind_ok (emit_run (records history event))

theorem returns_result (status : ControlPlaneStatus) (result : ControlPlaneResult) :
    Returns (plane.emitResultReturned request capabilityRef decision status >>= fun _ =>
      pure result) history s := by
  refine (returns_emit_bind records).mpr ?_
  exact Prog.returns_pure result

theorem returns_executeProvider :
    Returns (plane.executeProvider request capability capabilityRef decision) history s ↔
      plane.ProviderAnswers request capability capabilityRef decision history := by
  unfold Returns ProviderAnswers
  rw [executeProvider_eq (records _ _)]
  cases answer : plane.provider.executeAuthorized
      (history ++ [.emitted (plane.startedEvent request capabilityRef decision)])
      (providerRequest request capability) with
  | error e => simp only [reduceCtorEq, exists_false]
  | ok result =>
      refine iff_of_true ?_ ⟨result, rfl⟩
      rw [Outcome.prepend_result]
      exact (returns_emit_bind records).mpr (returns_result records _ _)

theorem returns_requestApproval :
    Returns (plane.requestApproval request capability capabilityRef decision) history s ↔
      plane.AsksOperator request capability decision history := by
  unfold requestApproval AsksOperator
  have drawn (history : List Effect) : plane.drawId history s
      = ⟨.ok (plane.freshId history), s, [.idDrawn (plane.freshId history)]⟩ := rfl
  rw [Prog.returns_bind_ok now_run, Prog.returns_bind_ok (drawn _),
    Prog.returns_bind_ok (drawn _), Prog.returns_ofExcept_bind]
  refine exists_congr fun approvalRequest => and_iff_left_of_imp fun _ => ?_
  rw [returns_emit_bind records]
  exact returns_result records _ _

/-- Consumption of an accepted signed grant, after its verification was recorded. -/
theorem consumeSigned_run {signedGrant : SignedApprovalGrant}
    {verification : GrantVerificationResult} :
    plane.consumeSigned request capabilityRef decision signedGrant verification history s
      = ⟨.ok (), markSigned s signedGrant,
        ((signedEvents request capabilityRef decision signedGrant verification).map
          .emitted).tail⟩ := by
  unfold consumeSigned markSigned signedEvents
  by_cases once : signedGrant.payload.oneTime = true
  · rw [if_pos once, if_pos once, if_pos once, Prog.modify_bind_run, emit_run (records _ _)]
    rfl
  · rw [if_neg once, if_neg once, if_neg once]
    rfl

/-- The judgement of the presented grant runs as its verdict says. -/
theorem verifySignedApprovalGrant_run :
    plane.verifySignedApprovalGrant std request capabilityRef decision history s
      = match plane.signedVerdict std request capabilityRef s (plane.nowFactory history) with
        | .error e => ⟨.error e, s, [plane.clockEffect history]⟩
        | .ok verdict => ⟨.ok verdict.isAccepted, verdict.state s,
            verdict.effects request capabilityRef decision (plane.clockEffect history)⟩ := by
  have reject (history : List Effect) (payload : ApprovalPayload) :
      plane.rejectSigned request capabilityRef decision payload history s = ⟨.ok false, s,
        [.emitted (approvalEvent request capabilityRef decision .approvalRejected payload)]⟩ := by
    rw [rejectSigned, Prog.bind_run_ok (emit_run (records _ _))]
    rfl
  unfold verifySignedApprovalGrant signedVerdict
  cases request.signedApprovalGrant with
  | none => rfl
  | some signedGrant =>
  cases plane.approvalGrantVerifier with
  | none => exact reject _ _
  | some verifier =>
  cases request.approvalRequestId with
  | none => exact reject _ _
  | some requestId =>
  dsimp only
  rw [Prog.get_bind_run]
  by_cases consumed : signedGrant.payload.grantId ∈ s.consumedSignedGrantIds
  · rw [if_pos consumed, if_pos consumed]
    exact reject _ _
  rw [if_neg consumed, if_neg consumed, Prog.bind_run_ok now_run]
  cases GrantVerificationContext.fromParameters std requestId request.sessionId request.targetId
      plane.provider.providerId request.capabilityId request.parameters capabilityRef.family
      (plane.nowFactory history) with
  | error e =>
      rw [Prog.bind_run_error (Prog.ofExcept_run _)]
      rfl
  | ok context =>
  rw [Prog.bind_run_ok (Prog.ofExcept_run _), List.append_nil, Outcome.prepend_nil]
  cases verified : verifier.verify signedGrant context with
  | error e =>
      rw [Prog.bind_run_error (Prog.ofExcept_run _), Lib.except_ok_bind, verified]
      rfl
  | ok verification =>
  rw [Prog.bind_run_ok (Prog.ofExcept_run _), List.append_nil, Outcome.prepend_nil,
    Lib.except_ok_bind, verified, Lib.except_ok_bind]
  by_cases valid : verification.valid = true
  · rw [if_pos valid, if_pos valid, Prog.bind_run_ok (emit_run (records _ _)),
      Prog.bind_run_ok (consumeSigned_run records), Prog.pure_run]
    simp only [Outcome.prepend, List.append_nil]
    rfl
  · rw [if_neg valid, if_neg valid, reject]
    rfl

/-- The search of the store returns exactly where what follows it goes through. -/
theorem returns_store :
    Returns (plane.matchingApprovalGrant std request >>= fun
      | some grant => do
        plane.consumeGrant request capabilityRef decision grant
        plane.executeProvider request capability capabilityRef decision
      | none => plane.requestApproval request capability capabilityRef decision) history s ↔
    plane.StoreGoesThrough std request capability capabilityRef decision history s := by
  rw [returns_matchingApprovalGrant_bind]
  unfold StoreGoesThrough
  cases stored : s.approvalStore with
  | none => exact returns_requestApproval records
  | some store =>
      refine exists_congr fun fingerprint => exists_congr fun found =>
        and_congr_right fun _ => and_congr_right fun _ => ?_
      cases found with
      | none => exact returns_requestApproval records
      | some grant =>
          have consume (history : List Effect) :
              plane.consumeGrant request capabilityRef decision grant history s
                = ⟨.ok (), markStored s store grant,
                  [.emitted (consumedEvent request capabilityRef decision grant)]⟩ := by
            rw [consumeGrant, Prog.get_bind_run, stored]
            exact (Prog.modify_bind_run _ _).trans (emit_run (records _ _))
          dsimp only
          rw [Prog.returns_bind_ok (consume _), returns_executeProvider records,
            List.append_assoc]
          rfl

/-- Local approvals return exactly where they go through. -/
theorem returns_handleLocalClearance :
    Returns (plane.handleLocalClearance std request capability capabilityRef decision) history s ↔
      plane.LocalGoesThrough std request capability capabilityRef decision history s := by
  have run : plane.verifySignedApprovalGrant std request capabilityRef decision history s = _ :=
    verifySignedApprovalGrant_run records
  unfold handleLocalClearance LocalGoesThrough
  cases judged : plane.signedVerdict std request capabilityRef s (plane.nowFactory history) with
  | error e =>
      rw [judged] at run
      refine iff_of_false (Prog.not_returns_bind run) ?_
      rintro ⟨_, none, -⟩
      cases none
  | ok verdict =>
      rw [judged] at run
      rw [Prog.returns_bind_ok run]
      simp only [Except.ok.injEq, exists_eq_left']
      cases verdict with
      | accepted signedGrant verification => exact returns_executeProvider records
      | absent => exact returns_store records
      | refused clock payload => exact returns_store records

/-- What follows the tower's answer returns where the response goes through. -/
theorem returns_answerClearance {now : Datetime} {clearanceRequest : ClearanceRequest}
    {response : ClearanceResponse} :
    Returns (plane.answerClearance std request capability capabilityRef decision now
        clearanceRequest response) history s ↔
      plane.ResponseGoesThrough std request capability capabilityRef decision clearanceRequest
        response now history := by
  unfold answerClearance ResponseGoesThrough
  split
  · next cleared =>
      rw [forall_prop_of_true cleared, forall_prop_of_true (Or.inl cleared)]
      unfold verifyClearance
      cases configured : plane.clearanceVerifier with
      | none =>
          rw [Prog.returns_ofExcept_bind]
          constructor
          · rintro ⟨expiry, written, -⟩
            exact ⟨⟨expiry, written⟩, fun _ none => by cases none⟩
          · rintro ⟨⟨expiry, written⟩, -⟩
            exact ⟨expiry, written, (returns_emit_bind records).mpr (returns_result records _ _)⟩
      | some verifier =>
          simp only [Option.some.injEq, forall_eq', Prog.returns_ofExcept_bind]
          rw [← exists_and_left]
          refine exists_congr fun verification => ?_
          rw [and_left_comm, ← exists_and_right]
          refine and_congr_right fun verify => exists_congr fun expiry => and_congr_right fun _ => ?_
          rw [returns_emit_bind records]
          by_cases valid : verification.valid = true
          · have accepts := ACTClearanceVerifier.accepts_of_verify verify valid
            rw [accepts.verify_eq] at verify
            cases verify
            rw [if_pos valid, forall_prop_of_true valid]
            exact returns_executeProvider records
          · rw [if_neg valid]
            exact iff_of_true (returns_result records _ _) fun accepted => absurd accepted valid
  · next denied =>
      rw [forall_prop_of_true (Or.inr denied), Prog.returns_ofExcept_bind]
      constructor
      · rintro ⟨expiry, written, -⟩
        exact ⟨⟨expiry, written⟩, fun cleared => by rw [denied] at cleared; cases cleared⟩
      · rintro ⟨⟨expiry, written⟩, -⟩
        exact ⟨expiry, written, (returns_emit_bind records).mpr (returns_result records _ _)⟩
  · next notCleared notDenied =>
      refine iff_of_true (returns_result records _ _)
        ⟨fun decided => ?_, fun cleared => absurd cleared notCleared⟩
      exact absurd decided (not_or.mpr ⟨notCleared, notDenied⟩)

/-- The tower's clearance returns exactly where it goes through. -/
theorem returns_handleActClearance {client : ClearanceClient} :
    Returns (plane.handleActClearance std client request capability capabilityRef decision) history
        s ↔
      plane.TowerGoesThrough std request capability capabilityRef decision client history := by
  unfold handleActClearance TowerGoesThrough
  rw [Prog.returns_bind_ok now_run, Prog.returns_bind_ok clearanceRequestId_run,
    Prog.returns_ofExcept_bind]
  refine exists_congr fun clearanceRequest => ?_
  rw [returns_emit_bind records, exists_and_left]
  refine and_congr_right fun _ => ?_
  -- the tower is asked behind the clock reading, the id and the event
  have before : history ++ [.clockRead (plane.nowFactory history)]
        ++ plane.idEffects request (history ++ [.clockRead (plane.nowFactory history)])
        ++ [.emitted (plane.clearanceRequestedEvent request capabilityRef decision clearanceRequest)]
      = history ++ plane.beforeAsking request capabilityRef decision history clearanceRequest := by
    simp only [beforeAsking, preparing, clockEffect, List.append_assoc, List.cons_append,
      List.nil_append]
  rw [before]
  set mid := history
    ++ plane.beforeAsking request capabilityRef decision history clearanceRequest with midEq
  cases answer : client.requestClearance mid clearanceRequest plane.clearanceTimeoutSeconds with
  | error e =>
      have ask : plane.askClearance client clearanceRequest mid s = ⟨.error e, s,
          [.clearanceAsked clearanceRequest plane.clearanceTimeoutSeconds (.error e)]⟩ := by
        simp only [askClearance, Prog.perform_run, answer]
      refine iff_of_false (Prog.not_returns_bind ask) ?_
      rintro ⟨_, none, -⟩
      cases none
  | ok response =>
      rw [Prog.returns_bind_ok (askClearance_run answer), returns_answerClearance records]
      simp only [Except.ok.injEq, exists_eq_left', untilAnswer, midEq,
        List.append_assoc]

/-- **A request returns exactly where it goes through.** -/
theorem returns_handle :
    Returns (plane.handle std request) history s ↔ plane.GoesThrough std request history s := by
  have opened : plane.Records history (plane.openingEvents request) := by
    refine ⟨records _ _, records _ _, records _ _, trivial⟩
  unfold handle GoesThrough
  rw [Prog.returns_bind_ok (emitAll_run opened)]
  have denied (capabilityRef : CapabilityRef) (decision : PolicyDecisionResult)
      (history : List Effect) : Returns (plane.deny request capabilityRef decision) history s :=
    returns_result records _ _
  by_cases passes : plane.Passes (plane.decisionOf request)
  · rw [forall_prop_of_true passes]
    obtain ⟨capability, admits⟩ := CapabilityPolicy.decisionFor_of_ne_deny passes.notDenied
    have known : plane.registry.get request.capabilityId = some capability := admits.registered
    rw [known, passes.decide_eq]
    simp only [Option.some.injEq, forall_eq']
    by_cases asks : (plane.decisionOf request).requiresApproval = true
    · rw [if_pos asks, if_pos asks]
      by_cases locally : plane.ClearsLocally
      · rw [clear_of_locally locally, returns_handleLocalClearance records,
          forall_prop_of_true locally]
        refine (and_iff_right fun client selected wired => ?_).symm
        exact absurd ⟨selected, by rw [wired]; rfl⟩ locally
      · obtain ⟨selected, configured⟩ := not_not.mp locally
        obtain ⟨client, wired⟩ := Option.isSome_iff_exists.mp configured
        rw [clear_of_wired selected wired, returns_handleActClearance records]
        simp only [selected, wired, Option.some.injEq, forall_eq', forall_const]
        exact (and_iff_left fun cleared => absurd cleared locally).symm
    · rw [if_neg asks, if_neg asks]
      exact returns_executeProvider records
  · refine iff_of_true ?_ fun passed => absurd passed passes
    unfold ControlPlane.decide
    split
    · exact denied _ _ _
    next allowed =>
    split
    · exact denied _ _ _
    next inside =>
    exact absurd ⟨allowed, fun real => not_not.mp fun refused => inside ⟨real, refused⟩⟩ passes

/-- **Complete traces**: with a sink that records everything, a request leaves a well-formed trace
exactly where it goes through. -/
theorem trace_wellFormed_iff :
    WellFormedTrace (traceOf (plane.handle std request history s).effects) ↔
      plane.GoesThrough std request history s :=
  wellFormed_iff_returns.trans (returns_handle records)

end Returns

end ControlPlane

namespace Deployment

/-- The restart, presented with the signed grant, goes through. -/
theorem signedRestart_goesThrough :
    localPlane.GoesThrough library signedRestart [] ⟨none, []⟩ := by
  refine (ControlPlane.trace_wellFormed_iff fun _ _ => rfl).mp ?_
  have trace : traceOf (localPlane.handle library signedRestart [] ⟨none, []⟩).effects
      = [.requestReceived, .capabilityResolved, .policyDecision, .approvalVerified,
          .approvalConsumed]
        ++ [.providerExecutionStarted, .providerExecutionCompleted, .resultReturned] := by
    decide +kernel
  rw [trace]
  exact (wellFormedTrace_execution rfl).prepend (by decide)

/-- `int(value)`, on the values that occur. -/
def readInt : PyValue → Except PyExc Int
  | .int i => .ok i
  | .str s =>
      let digits := (strip s).toList
      if digits ≠ [] ∧ digits.all Char.isDigit then
        .ok (digits.foldl (fun n c => 10 * n + (c.toNat - '0'.toNat)) 0 : Nat)
      else .error (.valueError ("invalid literal for int() with base 10: " ++ library.repr s))
  | value => .error (.typeError ("int() argument must be a string, a bytes-like object or a real "
      ++ "number, not '" ++ value.typeName ++ "'"))

/-- A PiKVM adapter whose client answers every call. -/
def pikvm : PiKVMObserveProvider where
  providerId := "pikvm-fixture"
  enabled := true
  client := some fun _ _ _ => .ok [(.str "performed", .bool true)]
  int := readInt

/-- A control plane in Full Control mode over the PiKVM adapter. -/
def pikvmPlane : ControlPlane :=
  { localPlane with
    policy := modePreset .fullControl none
    provider := pikvm.toProvider auditLibrary }

/-- A request to move the pointer to a position that is no number. -/
def strayPointer : CapabilityRequest :=
  { restartRequest with
    capabilityId := "input.mouse_move"
    parameters := [(.str "x", .str "abc")] }

/-- The announced pointer move has no outcome and the trace no result, with a sink that records
everything. -/
theorem not_trace_wellFormed_strayPointer :
    (∀ history event, pikvmPlane.auditSink history event = none) ∧
      ¬ WellFormedTrace (traceOf (pikvmPlane.handle library strayPointer [] ⟨none, []⟩).effects) := by
  refine ⟨fun _ _ => rfl, fun wellFormed => ?_⟩
  have trace : traceOf (pikvmPlane.handle library strayPointer [] ⟨none, []⟩).effects
      = [.requestReceived, .capabilityResolved, .policyDecision, .providerExecutionStarted] := by
    decide +kernel
  obtain ⟨before, last, -⟩ := wellFormed.result
  rw [trace] at last
  have lasts := congrArg List.getLast? last
  rw [List.getLast?_concat] at lasts
  cases lasts

end Deployment

end AgenticKVM
