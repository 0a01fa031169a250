import AgenticKVM.Engine

/-! # What one step of the control plane does

One lemma for each helper of `handle` says how a run of it that returns looks: which events were
recorded, which answers the environment gave, what became of the state. Executions and
authorisations are read off the effects alone. -/

namespace AgenticKVM

open Lib (Json Prog Outcome)
open Lib.Prog (Does Never)

/-- An effect is a call of the provider. -/
def Effect.isExecution : Effect → Bool
  | .executed _ _ => true
  | _ => false

/-- The provider calls among effects. -/
def executions (effects : List Effect) : List Effect := effects.filter Effect.isExecution

/-- An effect is a question to the tower. -/
def Effect.isQuestion : Effect → Bool
  | .clearanceAsked _ _ _ => true
  | _ => false

/-- What a request was authorised by, as its own effects tell it: the consumption of a stored
grant, the verification of a signed grant, or the verification of a clearance. -/
inductive Authorisation
  | storeGrant (grant : ApprovalGrant)
  | signedGrant (result : GrantVerificationResult)
  | clearance (response : ClearanceResponse)

/-- The authorisation an effect records, if it records one. -/
def Effect.authorisation : Effect → Option Authorisation
  | .emitted event =>
      match event.eventType, event.approval with
      | .approvalConsumed, some (.grant grant) => some (.storeGrant grant)
      | .approvalVerified, some (.grantVerification result) => some (.signedGrant result)
      | .approvalVerified, some (.clearanceVerification response _) => some (.clearance response)
      | _, _ => none
  | _ => none

/-- The authorisations among effects, in order. -/
def authorisations (effects : List Effect) : List Authorisation :=
  effects.filterMap Effect.authorisation

/-- Effects that neither call the provider nor ask the tower nor record an authorisation. -/
def Neutral (effects : List Effect) : Prop :=
  ∀ effect ∈ effects,
    effect.isExecution = false ∧ effect.isQuestion = false ∧ effect.authorisation = none

section Neutral

variable {effects more : List Effect}

/-- Provider calls are counted run by run. -/
@[simp] theorem executions_append :
    executions (effects ++ more) = executions effects ++ executions more :=
  List.filter_append ..

/-- Authorisations are read off run by run. -/
@[simp] theorem authorisations_append :
    authorisations (effects ++ more) = authorisations effects ++ authorisations more :=
  List.filterMap_append ..

/-- A run without effects is neutral. -/
theorem Neutral.nil : Neutral [] := fun _ member => by cases member

/-- Neutral runs one after the other are neutral together. -/
theorem Neutral.append (first : Neutral effects) (second : Neutral more) :
    Neutral (effects ++ more) := by
  intro effect member
  rcases List.mem_append.mp member with member | member
  exacts [first effect member, second effect member]

/-- A neutral run calls no provider. -/
theorem Neutral.executions (neutral : Neutral effects) : executions effects = [] :=
  List.filter_eq_nil_iff.mpr fun effect member => by simp [(neutral effect member).1]

/-- A neutral run records no authorisation. -/
theorem Neutral.authorisations (neutral : Neutral effects) : authorisations effects = [] :=
  List.filterMap_eq_nil_iff.mpr fun effect member => (neutral effect member).2.2

/-- The effect of an emission that records no authorisation. -/
theorem Neutral.emitted {event : AuditEmission}
    (none : (Effect.emitted event).authorisation = none) : Neutral [.emitted event] := by
  intro effect member
  rw [List.mem_singleton] at member
  subst member
  exact ⟨rfl, rfl, none⟩

/-- Reading the clock is neutral. -/
theorem Neutral.clockRead (t : Datetime) : Neutral [.clockRead t] := by
  intro effect member
  rw [List.mem_singleton] at member
  subst member
  exact ⟨rfl, rfl, rfl⟩

end Neutral

namespace ControlPlane

/-- A run calls the provider. -/
def Executes {α : Type} (m : Step α) (history : List Effect) (s : PlaneState) : Prop :=
  Does m (fun effect => effect.isExecution = true) history s

/-- A step never calls the provider. -/
abbrev Idle {α : Type} (m : Step α) : Prop := Never m fun effect => effect.isExecution = true

/-- A step whose runs have neutral effects. -/
def Quiet {α : Type} (m : Step α) : Prop := ∀ history s, Neutral (m history s).effects

/-- A quiet step never calls the provider. -/
theorem Quiet.idle {α : Type} {m : Step α} (quiet : Quiet m) : Idle m := by
  rintro history s ⟨effect, member, execution⟩
  rw [(quiet history s effect member).1] at execution
  exact Bool.noConfusion execution

/-- A quiet step followed by quiet steps is quiet. -/
theorem Quiet.bind {α β : Type} {m : Step α} {f : α → Step β} (first : Quiet m)
    (second : ∀ a, Quiet (f a)) : Quiet (m >>= f) := by
  intro history s
  have here := first history s
  match run : m history s with
  | ⟨.error e, mid, before⟩ =>
      rw [Prog.bind_run_error run f]
      rw [run] at here
      exact here
  | ⟨.ok a, mid, before⟩ =>
      rw [Prog.bind_run_ok run f]
      rw [run] at here
      exact here.append (second a _ _)

/-- Returning is quiet. -/
theorem Quiet.pure {α : Type} (a : α) : Quiet (pure a : Step α) := fun _ _ => Neutral.nil

variable (std : Stdlib) (plane : ControlPlane)

/-! ## Events, clock and ids -/

/-- The audit sink records the events in turn, from a history on. -/
def Records (history : List Effect) : List AuditEmission → Prop
  | [] => True
  | event :: rest =>
      plane.auditSink history event = none ∧ Records (history ++ [.emitted event]) rest

variable {plane} {history effects : List Effect} {s s' : PlaneState}

/-- An event that is recorded leaves itself as the only effect. -/
theorem emit_run {event : AuditEmission} (recorded : plane.auditSink history event = none) :
    plane.emit event history s = ⟨.ok (), s, [.emitted event]⟩ := by
  simp only [emit, Prog.perform_run, recorded]

/-- An emission that returns has been recorded. -/
theorem emit_run_inv {event : AuditEmission}
    (run : plane.emit event history s = ⟨.ok (), s', effects⟩) :
    plane.auditSink history event = none ∧ s' = s ∧ effects = [.emitted event] := by
  cases recorded : plane.auditSink history event with
  | none =>
      rw [emit_run recorded] at run
      cases run
      exact ⟨rfl, rfl, rfl⟩
  | some e =>
      simp only [emit, Prog.perform_run, recorded] at run
      cases run

/-- An emission calls no provider, also where the sink raises. -/
theorem emit_idle (event : AuditEmission) : Idle (plane.emit event) := by
  refine Never.perform fun history => ?_
  split <;> simp [Effect.isExecution]

/-- After an emission the provider is called where the event is recorded and the rest calls it. -/
theorem executes_emit_bind {α : Type} {event : AuditEmission} {f : Unit → Step α} :
    Executes (plane.emit event >>= f) history s ↔
      plane.auditSink history event = none ∧
        Executes (f ()) (history ++ [.emitted event]) s := by
  constructor
  · intro executes
    obtain ⟨_, _, _, run, later⟩ := Does.bind_inv (emit_idle event) executes
    obtain ⟨recorded, rfl, rfl⟩ := emit_run_inv run
    exact ⟨recorded, later⟩
  · rintro ⟨recorded, later⟩
    exact (Prog.does_bind_ok (emit_idle event) (emit_run recorded)).mpr later

/-- An event that records no authorisation is a quiet step. -/
theorem emit_quiet {event : AuditEmission}
    (none : (Effect.emitted event).authorisation = none) : Quiet (plane.emit event) := by
  intro history s effect member
  simp only [emit, Prog.perform_run, List.mem_singleton] at member
  subst member
  split
  exacts [⟨rfl, rfl, none⟩, ⟨rfl, rfl, rfl⟩]

/-- The clock is read from what happened before, and the state stays. -/
theorem now_run : plane.now history s
    = ⟨.ok (plane.nowFactory history), s, [.clockRead (plane.nowFactory history)]⟩ := rfl

/-- Reading the clock is quiet. -/
theorem now_quiet : Quiet plane.now := fun _ _ => Neutral.clockRead _

/-- After the clock was read, a run executes as the rest does from the longer history. -/
theorem executes_now_bind {α : Type} {f : Datetime → Step α} :
    Executes (plane.now >>= f) history s ↔
      Executes (f (plane.nowFactory history))
        (history ++ [.clockRead (plane.nowFactory history)]) s :=
  Prog.does_bind_ok now_quiet.idle now_run

/-- Drawing an id is quiet. -/
theorem drawId_quiet : Quiet plane.drawId := by
  intro history s effect member
  simp only [drawId, Prog.perform_run, List.mem_singleton] at member
  subst member
  exact ⟨rfl, rfl, rfl⟩

/-- A computation that may raise is quiet: it has no effects at all. -/
theorem ofExcept_quiet {α : Type} (r : Except PyExc α) : Quiet (Prog.ofExcept r : Step α) :=
  fun _ _ => Neutral.nil

/-- Recorded events leave themselves as the only effects. -/
theorem emitAll_run {events : List AuditEmission} (recorded : plane.Records history events) :
    plane.emitAll events history s = ⟨.ok (), s, events.map .emitted⟩ := by
  induction events generalizing history with
  | nil => rfl
  | cons event rest ih =>
      rw [emitAll, Prog.bind_run_ok (emit_run recorded.1), ih recorded.2]
      rfl

/-- Emissions that return have been recorded. -/
theorem emitAll_run_inv {events : List AuditEmission}
    (run : plane.emitAll events history s = ⟨.ok (), s', effects⟩) :
    plane.Records history events ∧ s' = s ∧ effects = events.map .emitted := by
  induction events generalizing history effects with
  | nil =>
      cases run
      exact ⟨trivial, rfl, rfl⟩
  | cons event rest ih =>
      obtain ⟨_, mid, before, after, first, later, rfl⟩ := Prog.bind_run_inv run
      obtain ⟨recorded, rfl, rfl⟩ := emit_run_inv first
      obtain ⟨others, rfl, rfl⟩ := ih later
      exact ⟨⟨recorded, others⟩, rfl, rfl⟩

/-- Emissions in a row call no provider. -/
theorem emitAll_idle (events : List AuditEmission) : Idle (plane.emitAll events) := by
  induction events with
  | nil => exact Never.pure ()
  | cons event rest ih => exact Never.bind (emit_idle event) fun _ => ih

/-- The events a request starts with record no authorisation. -/
theorem openingEvents_neutral (request : CapabilityRequest) :
    Neutral ((plane.openingEvents request).map .emitted) := by
  intro effect member
  obtain ⟨event, opening, rfl⟩ := List.mem_map.mp member
  simp only [openingEvents, List.mem_cons, List.not_mem_nil, or_false] at opening
  refine ⟨rfl, rfl, ?_⟩
  rcases opening with rfl | rfl | rfl
  · rfl
  · cases (plane.registry.get request.capabilityId).isSome <;> rfl
  · rfl

/-- The last event of a request records no authorisation. -/
theorem emitResultReturned_quiet (request : CapabilityRequest) (capabilityRef : CapabilityRef)
    (decision : PolicyDecisionResult) (status : ControlPlaneStatus) :
    Quiet (plane.emitResultReturned request capabilityRef decision status) :=
  emit_quiet rfl

/-! ## Execution -/

section Execution

variable {request : CapabilityRequest} {capability : Capability} {capabilityRef : CapabilityRef}
  {decision : PolicyDecisionResult}

/-- Reporting an execution records no authorisation and leaves the state alone. -/
theorem reportExecution_quiet (result : ProviderActionResult) :
    Quiet (plane.reportExecution request capabilityRef decision result) ∧
      ∀ history s,
        (plane.reportExecution request capabilityRef decision result history s).state = s := by
  constructor
  · refine Quiet.bind (emit_quiet ?_) fun _ =>
      Quiet.bind (emitResultReturned_quiet _ _ _ _) fun _ => Quiet.pure _
    cases ok : result.ok <;> simp [Effect.authorisation, finishedEvent, event, ok]
  · have refl : ∀ s : PlaneState, s = s := fun _ => rfl
    exact fun history s => (Prog.Keeps.bind (fun first second => first.trans second)
      (Prog.Keeps.perform refl _) (fun _ => Prog.Keeps.bind (fun first second => first.trans second)
        (Prog.Keeps.perform refl _) fun _ => Prog.Keeps.pure refl _) history s).symm

/-- An execution whose announcement is recorded: the provider is called, and what it answers is
reported. What it raises is not caught. -/
theorem executeProvider_eq
    (recorded : plane.auditSink history (plane.startedEvent request capabilityRef decision)
      = none) :
    plane.executeProvider request capability capabilityRef decision history s
      = match plane.provider.executeAuthorized
          (history ++ [.emitted (plane.startedEvent request capabilityRef decision)])
          (providerRequest request capability) with
        | .error e => ⟨.error e, s, [.emitted (plane.startedEvent request capabilityRef decision),
            .executed (providerRequest request capability) (.error e)]⟩
        | .ok result =>
            (plane.reportExecution request capabilityRef decision result
              (history ++ [.emitted (plane.startedEvent request capabilityRef decision),
                .executed (providerRequest request capability) (.ok result)]) s).prepend
              [.emitted (plane.startedEvent request capabilityRef decision),
                .executed (providerRequest request capability) (.ok result)] := by
  rw [executeProvider, Prog.bind_run_ok (emit_run recorded)]
  set mid := history ++ [Effect.emitted (plane.startedEvent request capabilityRef decision)]
    with midEq
  have call : plane.callProvider (providerRequest request capability) mid s
      = ⟨plane.provider.executeAuthorized mid (providerRequest request capability), s,
        [.executed (providerRequest request capability)
          (plane.provider.executeAuthorized mid (providerRequest request capability))]⟩ := rfl
  cases answer : plane.provider.executeAuthorized mid (providerRequest request capability) with
  | error e =>
      rw [answer] at call
      rw [Prog.bind_run_error call]
      rfl
  | ok result =>
      rw [answer] at call
      rw [Prog.bind_run_ok call, Outcome.prepend_prepend, midEq, List.append_assoc]
      rfl

/-- What an execution leaves where its announcement is recorded: the announcement, one provider
call and events that record no authorisation; the state is as before. -/
theorem executeProvider_run
    (recorded : plane.auditSink history (plane.startedEvent request capabilityRef decision)
      = none) :
    ∃ result answer after, Neutral after ∧
      plane.executeProvider request capability capabilityRef decision history s
        = ⟨result, s, .emitted (plane.startedEvent request capabilityRef decision)
          :: .executed (providerRequest request capability) answer :: after⟩ := by
  rw [executeProvider_eq recorded]
  split
  · next e answer => exact ⟨_, _, [], Neutral.nil, rfl⟩
  · next result answer =>
      obtain ⟨quiet, same⟩ :=
        @reportExecution_quiet plane request capabilityRef decision result
      set later := history ++ [Effect.emitted (plane.startedEvent request capabilityRef decision),
        Effect.executed (providerRequest request capability) (.ok result)]
      have neutral := quiet later s
      have unchanged := same later s
      match report : plane.reportExecution request capabilityRef decision result later s with
      | ⟨outcome, state, after⟩ =>
          rw [report] at neutral unchanged
          subst unchanged
          exact ⟨outcome, .ok result, after, neutral, rfl⟩

/-- The provider is called exactly where the announcement is recorded. -/
theorem executes_executeProvider :
    Executes (plane.executeProvider request capability capabilityRef decision) history s ↔
      plane.auditSink history (plane.startedEvent request capabilityRef decision) = none := by
  constructor
  · exact fun executes => (executes_emit_bind.mp executes).1
  · intro recorded
    obtain ⟨result, answer, after, -, run⟩ := executeProvider_run (s := s) recorded
    refine ⟨.executed (providerRequest request capability) answer, ?_, rfl⟩
    rw [run]
    exact List.mem_cons_of_mem _ List.mem_cons_self

end Execution

/-! ## Local approvals -/

section LocalApprovals

variable {std : Stdlib} {request : CapabilityRequest} {capabilityRef : CapabilityRef}
  {decision : PolicyDecisionResult}

/-- A presented signed grant that is accepted for the request at a time: its id is not consumed,
and the configured verifier finds it valid in the request's exact context. -/
structure SignedAccepted (std : Stdlib) (plane : ControlPlane) (request : CapabilityRequest)
    (capabilityRef : CapabilityRef) (s : PlaneState) (now : Datetime)
    (signedGrant : SignedApprovalGrant) (verification : GrantVerificationResult) : Prop where
  presented : request.signedApprovalGrant = some signedGrant
  fresh : signedGrant.payload.grantId ∉ s.consumedSignedGrantIds
  verified : ∃ verifier requestId context, plane.approvalGrantVerifier = some verifier ∧
    request.approvalRequestId = some requestId ∧
    GrantVerificationContext.fromParameters std requestId request.sessionId request.targetId
      plane.provider.providerId request.capabilityId request.parameters capabilityRef.family now
      = .ok context ∧
    verifier.verify signedGrant context = .ok verification
  valid : verification.valid = true

/-- The verifier accepts an accepted signed grant in the context of the request. -/
theorem SignedAccepted.accepts {signedGrant : SignedApprovalGrant}
    {verification : GrantVerificationResult} {now : Datetime}
    (accepted : SignedAccepted std plane request capabilityRef s now signedGrant verification) :
    ∃ verifier requestId paramsFingerprint, plane.approvalGrantVerifier = some verifier ∧
      request.approvalRequestId = some requestId ∧
      fingerprintParameters std request.parameters = .ok paramsFingerprint ∧
      verifier.Accepts signedGrant ⟨requestId, request.sessionId, request.targetId,
        plane.provider.providerId, request.capabilityId, paramsFingerprint, capabilityRef.family,
        now, ["observe", "runtime"]⟩ := by
  obtain ⟨verifier, requestId, context, configured, identified, built, verified⟩ :=
    accepted.verified
  obtain ⟨paramsFingerprint, fingerprintEq, rfl⟩ :=
    GrantVerificationContext.fromParameters_ok built
  exact ⟨verifier, requestId, paramsFingerprint, configured, identified, fingerprintEq,
    ApprovalGrantVerifier.verify_valid_iff.mp ⟨verification, verified, accepted.valid⟩⟩

/-- An accepted signed grant never unlocks a blocked capability. -/
theorem SignedAccepted.resumable {signedGrant : SignedApprovalGrant}
    {verification : GrantVerificationResult} {now : Datetime}
    (accepted : SignedAccepted std plane request capabilityRef s now signedGrant verification) :
    request.capabilityId ∉ approvalResumptionBlockedCapabilities := by
  obtain ⟨verifier, requestId, paramsFingerprint, -, -, -, accepts⟩ := accepted.accepts
  have same : signedGrant.payload.capability = request.capabilityId := accepts.boundTo.capability
  rw [← same]
  exact accepts.resumable

/-- The events of an accepted signed grant. -/
def signedEvents (request : CapabilityRequest) (capabilityRef : CapabilityRef)
    (decision : PolicyDecisionResult) (signedGrant : SignedApprovalGrant)
    (verification : GrantVerificationResult) : List AuditEmission :=
  approvalEvent request capabilityRef decision .approvalVerified
      (.grantVerification verification)
    :: if signedGrant.payload.oneTime then
      [approvalEvent request capabilityRef decision .approvalConsumed
        (.grantVerification verification)]
    else []

/-- The state an accepted signed grant leaves: a one-time grant's id is marked. -/
def markSigned (s : PlaneState) (signedGrant : SignedApprovalGrant) : PlaneState :=
  if signedGrant.payload.oneTime then
    { s with consumedSignedGrantIds :=
        signedGrant.payload.grantId :: s.consumedSignedGrantIds }
  else s

/-- A rejection that returns has accepted nothing, left the state as it was and recorded no
authorisation. -/
theorem rejectSigned_run_inv {payload : ApprovalPayload} {accepted : Bool}
    (run : plane.rejectSigned request capabilityRef decision payload history s
      = ⟨.ok accepted, s', effects⟩) :
    accepted = false ∧ s' = s ∧ Neutral effects := by
  obtain ⟨_, _, _, _, first, last, rfl⟩ := Prog.bind_run_inv run
  obtain ⟨-, rfl, rfl⟩ := emit_run_inv first
  cases last
  exact ⟨rfl, rfl, Neutral.emitted rfl⟩

/-- A consumption that returns has marked a one-time grant, and has emitted, after the verification,
exactly the events of an accepted grant. -/
theorem consumeSigned_run_inv {signedGrant : SignedApprovalGrant}
    {verification : GrantVerificationResult}
    (run : plane.consumeSigned request capabilityRef decision signedGrant verification history s
      = ⟨.ok (), s', effects⟩) :
    s' = markSigned s signedGrant ∧
      .emitted (approvalEvent request capabilityRef decision .approvalVerified
          (.grantVerification verification)) :: effects
        = (signedEvents request capabilityRef decision signedGrant verification).map .emitted := by
  unfold consumeSigned at run
  unfold markSigned signedEvents
  split at run
  · next oneTime =>
      rw [Prog.modify_bind_run] at run
      obtain ⟨-, rfl, rfl⟩ := emit_run_inv run
      simp [oneTime]
  · next reusable =>
      cases run
      simp [reusable]

/-- **The signed-grant step**: it returns `false` and changes nothing, or the presented grant is
accepted, its verification recorded and a one-time grant marked. -/
theorem verifySignedApprovalGrant_run_inv {accepted : Bool}
    (run : plane.verifySignedApprovalGrant std request capabilityRef decision history s
      = ⟨.ok accepted, s', effects⟩) :
    (accepted = false ∧ s' = s ∧ Neutral effects) ∨
      (accepted = true ∧ ∃ signedGrant verification,
        SignedAccepted std plane request capabilityRef s (plane.nowFactory history) signedGrant
          verification ∧
        s' = markSigned s signedGrant ∧
        effects = .clockRead (plane.nowFactory history)
          :: (signedEvents request capabilityRef decision signedGrant verification).map
            .emitted) := by
  unfold verifySignedApprovalGrant at run
  cases presented : request.signedApprovalGrant with
  | none =>
      rw [presented] at run
      cases run
      exact Or.inl ⟨rfl, rfl, Neutral.nil⟩
  | some signedGrant =>
  cases configured : plane.approvalGrantVerifier with
  | none =>
      rw [presented, configured] at run
      exact Or.inl (rejectSigned_run_inv run)
  | some verifier =>
  cases identified : request.approvalRequestId with
  | none =>
      rw [presented, configured, identified] at run
      exact Or.inl (rejectSigned_run_inv run)
  | some requestId =>
  simp only [presented, configured, identified, Prog.get_bind_run] at run
  split at run
  · exact Or.inl (rejectSigned_run_inv run)
  next fresh =>
  obtain ⟨now, _, _, _, clock, verifying, rfl⟩ := Prog.bind_run_inv run
  rw [now_run] at clock
  cases clock
  obtain ⟨context, _, _, _, contextRun, checking, rfl⟩ := Prog.bind_run_inv verifying
  obtain ⟨contextEq, rfl, rfl⟩ := Prog.ofExcept_run_inv contextRun
  obtain ⟨verification, _, _, _, verifyRun, recording, rfl⟩ := Prog.bind_run_inv checking
  obtain ⟨verifyEq, rfl, rfl⟩ := Prog.ofExcept_run_inv verifyRun
  split at recording
  · next valid =>
      obtain ⟨_, _, _, _, emitRun, consuming, rfl⟩ := Prog.bind_run_inv recording
      obtain ⟨-, rfl, rfl⟩ := emit_run_inv emitRun
      obtain ⟨_, _, _, _, consumeRun, last, rfl⟩ := Prog.bind_run_inv consuming
      obtain ⟨rfl, events⟩ := consumeSigned_run_inv consumeRun
      cases last
      refine Or.inr ⟨rfl, signedGrant, verification,
        ⟨presented, fresh, ⟨verifier, requestId, context, configured, identified, contextEq,
          verifyEq⟩, valid⟩, rfl, ?_⟩
      simpa using events
  · obtain ⟨rfl, rfl, neutral⟩ := rejectSigned_run_inv recording
    exact Or.inl ⟨rfl, rfl, (Neutral.clockRead _).append neutral⟩

/-- A rejection calls no provider. -/
theorem rejectSigned_idle (payload : ApprovalPayload) :
    Idle (plane.rejectSigned request capabilityRef decision payload) :=
  Never.bind (emit_idle _) fun _ => Never.pure _

/-- The consumption of a signed grant calls no provider. -/
theorem consumeSigned_idle (signedGrant : SignedApprovalGrant)
    (verification : GrantVerificationResult) :
    Idle (plane.consumeSigned request capabilityRef decision signedGrant verification) := by
  unfold consumeSigned
  split
  exacts [Never.bind (Never.modify _) fun _ => emit_idle _, Never.pure _]

/-- The provider is not called while the presented signed grant is verified. -/
theorem verifySignedApprovalGrant_idle :
    Idle (plane.verifySignedApprovalGrant std request capabilityRef decision) := by
  unfold verifySignedApprovalGrant
  split
  · exact Never.pure _
  split
  · exact rejectSigned_idle _
  split
  · exact rejectSigned_idle _
  refine Never.bind Never.get fun _ => ?_
  split
  · exact rejectSigned_idle _
  refine Never.bind now_quiet.idle fun _ => Never.bind (Never.ofExcept _) fun _ =>
    Never.bind (Never.ofExcept _) fun _ => ?_
  split
  · exact Never.bind (emit_idle _) fun _ => Never.bind (consumeSigned_idle _ _) fun _ =>
      Never.pure _
  · exact rejectSigned_idle _

/-- **The stored-grant step** finds only what the store hands out for exactly this action. -/
theorem matchingApprovalGrant_run_inv {found : Option ApprovalGrant}
    (run : plane.matchingApprovalGrant std request history s = ⟨.ok found, s', effects⟩) :
    s' = s ∧ Neutral effects ∧ ∀ grant, found = some grant →
      ∃ store fingerprint, s.approvalStore = some store ∧
        actionFingerprint std request.parameters = .ok fingerprint ∧
        effects = [.clockRead (plane.nowFactory history)] ∧
        store.findActionGrant ⟨request.capabilityId, request.sessionId, request.targetId,
          plane.provider.providerId, fingerprint⟩ (plane.nowFactory history)
          = .ok (some grant) := by
  unfold matchingApprovalGrant at run
  rw [Prog.get_bind_run] at run
  cases stored : s.approvalStore with
  | none =>
      rw [stored] at run
      cases run
      exact ⟨rfl, Neutral.nil, fun grant none => by cases none⟩
  | some store =>
      rw [stored] at run
      obtain ⟨fingerprint, _, _, _, fingerprintRun, reading, rfl⟩ := Prog.bind_run_inv run
      obtain ⟨fingerprintEq, rfl, rfl⟩ := Prog.ofExcept_run_inv fingerprintRun
      obtain ⟨now, _, _, _, clock, searching, rfl⟩ := Prog.bind_run_inv reading
      rw [now_run, List.append_nil] at clock
      cases clock
      obtain ⟨search, rfl, rfl⟩ := Prog.ofExcept_run_inv searching
      refine ⟨rfl, Neutral.clockRead _, fun grant found =>
        ⟨store, fingerprint, rfl, fingerprintEq, rfl, ?_⟩⟩
      rw [← found]
      exact search

/-- The search of the store calls no provider. -/
theorem matchingApprovalGrant_idle : Idle (plane.matchingApprovalGrant std request) := by
  refine Never.bind Never.get fun _ => ?_
  split
  · exact Never.pure _
  · exact Never.bind (Never.ofExcept _) fun _ => Never.bind now_quiet.idle fun _ =>
      Never.ofExcept _

/-- **Consumption** marks the grant in the store before it is recorded. -/
theorem consumeGrant_run_inv {grant : ApprovalGrant}
    (run : plane.consumeGrant request capabilityRef decision grant history s
      = ⟨.ok (), s', effects⟩) :
    ∃ store, s.approvalStore = some store ∧
      s' = { s with approvalStore := some (store.consume grant) } ∧
      effects = [.emitted (approvalEvent request capabilityRef decision .approvalConsumed
        (.grant grant))] := by
  unfold consumeGrant at run
  rw [Prog.get_bind_run] at run
  cases stored : s.approvalStore with
  | none =>
      rw [stored] at run
      cases run
  | some store =>
      simp only [stored, Prog.modify_bind_run] at run
      obtain ⟨-, rfl, rfl⟩ := emit_run_inv run
      exact ⟨store, rfl, rfl, rfl⟩

/-- The consumption of a stored grant calls no provider. -/
theorem consumeGrant_idle (grant : ApprovalGrant) :
    Idle (plane.consumeGrant request capabilityRef decision grant) := by
  refine Never.bind Never.get fun _ => ?_
  split
  · exact Never.throw _
  · exact Never.bind (Never.modify _) fun _ => emit_idle _

/-- Asking an operator records no authorisation. -/
theorem requestApproval_quiet (capability : Capability) :
    Quiet (plane.requestApproval request capability capabilityRef decision) :=
  Quiet.bind now_quiet fun _ => Quiet.bind drawId_quiet fun _ => Quiet.bind drawId_quiet fun _ =>
    Quiet.bind (ofExcept_quiet _) fun _ => Quiet.bind (emit_quiet rfl) fun _ =>
      Quiet.bind (emitResultReturned_quiet _ _ _ _) fun _ => Quiet.pure _

end LocalApprovals

/-! ## What every part of a request satisfies -/

/-- **A property of steps** that the interactions of the control plane have, with the consumption of
the approvals of a request taken as a whole, and that carries over to composed steps. -/
structure Closed (plane : ControlPlane) (request : CapabilityRequest)
    (P : ∀ {α : Type}, Step α → Prop) : Prop where
  pure : ∀ {α : Type} (a : α), P (pure a : Step α)
  throw : ∀ {α : Type} (e : PyExc), P (Prog.throw e : Step α)
  ofExcept : ∀ {α : Type} (r : Except PyExc α), P (Prog.ofExcept r : Step α)
  get : P (Prog.get : Step PlaneState)
  bind : ∀ {α β : Type} {m : Step α} {f : α → Step β}, P m → (∀ a, P (f a)) → P (m >>= f)
  emit : ∀ event : AuditEmission, event.eventType ≠ .approvalConsumed → P (plane.emit event)
  now : P plane.now
  drawId : P plane.drawId
  askClearance : ∀ client clearanceRequest, P (plane.askClearance client clearanceRequest)
  callProvider : ∀ providerRequest, P (plane.callProvider providerRequest)
  consumeSigned : ∀ capabilityRef decision signedGrant verification,
    request.signedApprovalGrant = some signedGrant →
    P (plane.consumeSigned request capabilityRef decision signedGrant verification)
  consumeGrant : ∀ capabilityRef decision grant,
    P (plane.consumeGrant request capabilityRef decision grant)

section Closed

variable {std : Stdlib} {request : CapabilityRequest} {capability : Capability}
  {capabilityRef : CapabilityRef} {decision : PolicyDecisionResult}
  {P : ∀ {α : Type}, Step α → Prop}

/-- A closed property holds of emissions in a row, none of which consumes a stored grant. -/
theorem Closed.emitAll (closed : Closed plane request P) {events : List AuditEmission}
    (others : ∀ event ∈ events, event.eventType ≠ .approvalConsumed) :
    P (plane.emitAll events) := by
  induction events with
  | nil => exact closed.pure ()
  | cons event rest ih =>
      exact closed.bind (closed.emit event (others event List.mem_cons_self)) fun _ =>
        ih fun other member => others other (List.mem_cons_of_mem event member)

/-- A closed property holds of the last event of a request. -/
theorem Closed.emitResultReturned (closed : Closed plane request P) (status : ControlPlaneStatus) :
    P (plane.emitResultReturned request capabilityRef decision status) :=
  closed.emit _ nofun

/-- A closed property holds of an execution. -/
theorem Closed.executeProvider (closed : Closed plane request P) :
    P (plane.executeProvider request capability capabilityRef decision) := by
  refine closed.bind (closed.emit _ nofun) fun _ =>
    closed.bind (closed.callProvider _) fun result => closed.bind (closed.emit _ ?_) fun _ =>
      closed.bind (closed.emitResultReturned _) fun _ => closed.pure _
  cases ok : result.ok <;> simp [finishedEvent, event, ok]

/-- A closed property holds of a rejection. -/
theorem Closed.rejectSigned (closed : Closed plane request P) (payload : ApprovalPayload) :
    P (plane.rejectSigned request capabilityRef decision payload) :=
  closed.bind (closed.emit _ nofun) fun _ => closed.pure _

/-- A closed property holds of the verification of a presented grant. -/
theorem Closed.verifySignedApprovalGrant (closed : Closed plane request P) :
    P (plane.verifySignedApprovalGrant std request capabilityRef decision) := by
  unfold ControlPlane.verifySignedApprovalGrant
  split
  · exact closed.pure _
  next signedGrant presented =>
  split
  · exact closed.rejectSigned _
  split
  · exact closed.rejectSigned _
  refine closed.bind closed.get fun _ => ?_
  split
  · exact closed.rejectSigned _
  refine closed.bind closed.now fun _ => closed.bind (closed.ofExcept _) fun _ =>
    closed.bind (closed.ofExcept _) fun _ => ?_
  split
  · exact closed.bind (closed.emit _ nofun) fun _ =>
      closed.bind (closed.consumeSigned _ _ _ _ presented) fun _ => closed.pure _
  · exact closed.rejectSigned _

/-- A closed property holds of the search of the store. -/
theorem Closed.matchingApprovalGrant (closed : Closed plane request P) :
    P (plane.matchingApprovalGrant std request) := by
  refine closed.bind closed.get fun _ => ?_
  split
  · exact closed.pure _
  · exact closed.bind (closed.ofExcept _) fun _ => closed.bind closed.now fun _ =>
      closed.ofExcept _

/-- A closed property holds of the request to the operator. -/
theorem Closed.requestApproval (closed : Closed plane request P) :
    P (plane.requestApproval request capability capabilityRef decision) :=
  closed.bind closed.now fun _ => closed.bind closed.drawId fun _ =>
    closed.bind closed.drawId fun _ => closed.bind (closed.ofExcept _) fun _ =>
      closed.bind (closed.emit _ nofun) fun _ =>
        closed.bind (closed.emitResultReturned _) fun _ => closed.pure _

/-- A closed property holds of local clearance. -/
theorem Closed.handleLocalClearance (closed : Closed plane request P) :
    P (plane.handleLocalClearance std request capability capabilityRef decision) := by
  refine closed.bind closed.verifySignedApprovalGrant fun accepted => ?_
  split
  · exact closed.executeProvider
  · refine closed.bind closed.matchingApprovalGrant fun found => ?_
    split
    · exact closed.bind (closed.consumeGrant _ _ _) fun _ => closed.executeProvider
    · exact closed.requestApproval

/-- A closed property holds of a denial. -/
theorem Closed.deny (closed : Closed plane request P) : P (plane.deny request capabilityRef decision) :=
  closed.bind (closed.emitResultReturned _) fun _ => closed.pure _

/-- A closed property holds of what follows the tower's answer. -/
theorem Closed.verifyClearance (closed : Closed plane request P) {now : Datetime}
    {clearanceRequest : ClearanceRequest} {response : ClearanceResponse} :
    P (plane.verifyClearance std request capability capabilityRef decision now clearanceRequest
      response) := by
  unfold ControlPlane.verifyClearance
  split
  · exact closed.bind (closed.ofExcept _) fun _ => closed.bind (closed.emit _ nofun) fun _ =>
      closed.bind (closed.emitResultReturned _) fun _ => closed.pure _
  · refine closed.bind (closed.ofExcept _) fun verification =>
      closed.bind (closed.ofExcept _) fun _ => closed.bind (closed.emit _ ?_) fun _ => ?_
    · cases valid : verification.valid <;> simp [approvalEvent, event]
    split
    · exact closed.executeProvider
    · exact closed.bind (closed.emitResultReturned _) fun _ => closed.pure _

/-- A closed property holds of the tower's clearance. -/
theorem Closed.handleActClearance (closed : Closed plane request P) {client : ClearanceClient} :
    P (plane.handleActClearance std client request capability capabilityRef decision) := by
  refine closed.bind closed.now fun _ => closed.bind ?_ fun _ =>
    closed.bind (closed.ofExcept _) fun _ => closed.bind (closed.emit _ nofun) fun _ =>
      closed.bind (closed.askClearance _ _) fun response => ?_
  · unfold ControlPlane.clearanceRequestId
    split
    · exact closed.drawId
    split
    exacts [closed.drawId, closed.pure _]
  · unfold ControlPlane.answerClearance
    split
    · exact closed.verifyClearance
    · exact closed.bind (closed.ofExcept _) fun _ => closed.bind (closed.emit _ nofun) fun _ =>
        closed.bind (closed.emitResultReturned _) fun _ => closed.pure _
    · exact closed.bind (closed.emitResultReturned _) fun _ => closed.pure _

/-- **A property of the interactions is one of the whole request.** -/
theorem Closed.handle (closed : Closed plane request P) : P (plane.handle std request) := by
  refine closed.bind (closed.emitAll fun event member => ?_) fun _ => ?_
  · simp only [openingEvents, List.mem_cons, List.not_mem_nil, or_false] at member
    rcases member with rfl | rfl | rfl
    · exact of_decide_eq_true rfl
    · cases known : plane.registry.get request.capabilityId
      all_goals exact of_decide_eq_true rfl
    · exact of_decide_eq_true rfl
  unfold ControlPlane.decide
  split
  · exact closed.deny
  split
  · exact closed.deny
  split
  · split
    · exact closed.throw _
    · unfold ControlPlane.clear
      split
      exacts [closed.handleActClearance, closed.handleLocalClearance]
  · split
    exacts [closed.throw _, closed.executeProvider]

end Closed

end ControlPlane

end AgenticKVM
