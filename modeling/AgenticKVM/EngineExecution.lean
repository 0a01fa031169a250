import AgenticKVM.EngineSteps

/-! # Which requests reach the provider

`handle` reaches the provider along four routes: the policy allows the action, the tower clears it,
a presented signed grant is accepted, or the approval store has a matching grant. `Route` lists them
with the effects and the state each leaves behind, and `execution_of_executes` says that a run that
calls the provider took one of them. -/

namespace AgenticKVM

open Lib (Json Prog Outcome)
open Lib.Prog (Does Never)

namespace ControlPlane

/-! ## The clearance chain -/

section ActChain

variable (std : Stdlib) (plane : ControlPlane) (client : ClearanceClient)
  (request : CapabilityRequest) (capability : Capability) (capabilityRef : CapabilityRef)
  (decision : PolicyDecisionResult) (history : List Effect)

/-- The id a clearance request is given. -/
def idAt : String :=
  match request.approvalRequestId with
  | none => plane.freshId history
  | some id => if id = "" then plane.freshId history else id

/-- What giving a clearance request its id leaves behind. -/
def idEffects : List Effect :=
  match request.approvalRequestId with
  | none => [.idDrawn (plane.freshId history)]
  | some id => if id = "" then [.idDrawn (plane.freshId history)] else []

/-- The clock reading that starts a clearance. -/
def clockEffect : Effect := .clockRead (plane.nowFactory history)

/-- The clearance request that is built from a request at a point of a run. -/
def clearanceRequestAt : Except PyExc ClearanceRequest :=
  buildClearanceRequest std
    (plane.clearanceInputs request capability decision (plane.nowFactory history))
    (plane.idAt request (history ++ [plane.clockEffect history]))

/-- The effects before a clearance request is built: the clock reading and a fresh id. -/
def preparing : List Effect :=
  plane.clockEffect history :: plane.idEffects request (history ++ [plane.clockEffect history])

variable (clearanceRequest : ClearanceRequest) (response : ClearanceResponse)

/-- The effects before the tower is asked. -/
def beforeAsking : List Effect :=
  plane.preparing request history
    ++ [.emitted (plane.clearanceRequestedEvent request capabilityRef decision clearanceRequest)]

/-- The effects up to the tower's answer. -/
def untilAnswer : List Effect :=
  plane.beforeAsking request capabilityRef decision history clearanceRequest
    ++ [.clearanceAsked clearanceRequest plane.clearanceTimeoutSeconds (.ok response)]

/-- The result of a verification that accepts a response. -/
def acceptedResult : ClearanceVerificationResult :=
  ⟨true, .cleared, "ACT clearance verified", response.towerId, response.requestId⟩

/-- The event of an accepted clearance. -/
def clearanceVerifiedEvent : AuditEmission :=
  approvalEvent request capabilityRef decision .approvalVerified
    (.clearanceVerification response (acceptedResult response))

/-- The effects of a clearance that is accepted, up to the execution. -/
def clearanceEffects : List Effect :=
  plane.untilAnswer request capabilityRef decision history clearanceRequest response
    ++ [.emitted (clearanceVerifiedEvent request capabilityRef decision response)]

/-- **The clearance chain** from a point of a run to the execution: the clearance request is built
and recorded, the tower answers it, and the configured verifier accepts the answer *at the time read
before the tower was asked*; the acceptance and the execution are recorded. -/
structure ActChain : Prop where
  built : plane.clearanceRequestAt std request capability decision history = .ok clearanceRequest
  requested : plane.auditSink (history ++ plane.preparing request history)
    (plane.clearanceRequestedEvent request capabilityRef decision clearanceRequest) = none
  answered : client.requestClearance
    (history ++ plane.beforeAsking request capabilityRef decision history clearanceRequest)
    clearanceRequest plane.clearanceTimeoutSeconds = .ok response
  accepted : ∃ verifier, plane.clearanceVerifier = some verifier ∧
    verifier.Accepts std clearanceRequest response (plane.nowFactory history)
  verified : plane.auditSink
    (history ++ plane.untilAnswer request capabilityRef decision history clearanceRequest response)
    (clearanceVerifiedEvent request capabilityRef decision response) = none
  announced : plane.auditSink
    (history
      ++ plane.clearanceEffects request capabilityRef decision history clearanceRequest response)
    (plane.startedEvent request capabilityRef decision) = none

variable {std plane client request capability capabilityRef decision history clearanceRequest
  response} {s : PlaneState}

theorem clearanceRequestId_run : plane.clearanceRequestId request history s
    = ⟨.ok (plane.idAt request history), s, plane.idEffects request history⟩ := by
  unfold clearanceRequestId idAt idEffects
  cases request.approvalRequestId with
  | none => rfl
  | some id =>
      by_cases empty : id = ""
      · simp only [empty, if_true]
        rfl
      · simp only [empty, if_false]
        rfl

theorem clearanceRequestId_idle : Idle (plane.clearanceRequestId request) := by
  unfold clearanceRequestId
  split
  · exact drawId_quiet.idle
  split
  exacts [drawId_quiet.idle, Never.pure _]

theorem askClearance_idle : Idle (plane.askClearance client clearanceRequest) :=
  Never.perform fun _ execution => Bool.noConfusion execution

theorem askClearance_run
    (answered : client.requestClearance history clearanceRequest plane.clearanceTimeoutSeconds
      = .ok response) :
    plane.askClearance client clearanceRequest history s
      = ⟨.ok response, s,
        [.clearanceAsked clearanceRequest plane.clearanceTimeoutSeconds (.ok response)]⟩ := by
  simp only [askClearance, Prog.perform_run, answered]

/-- After the tower was asked the provider is called where the tower answers and the rest calls
it. -/
theorem executes_askClearance_bind {α : Type} {f : ClearanceResponse → Step α} :
    Executes (plane.askClearance client clearanceRequest >>= f) history s ↔
      ∃ response, client.requestClearance history clearanceRequest plane.clearanceTimeoutSeconds
          = .ok response ∧
        Executes (f response) (history
          ++ [.clearanceAsked clearanceRequest plane.clearanceTimeoutSeconds (.ok response)]) s := by
  constructor
  · intro executes
    obtain ⟨response, _, _, ask, later⟩ := Does.bind_inv askClearance_idle executes
    have answered := congrArg Outcome.result ask
    rw [askClearance_run answered] at ask
    cases ask
    exact ⟨response, answered, later⟩
  · rintro ⟨response, answered, later⟩
    exact (Prog.does_bind_ok askClearance_idle (askClearance_run answered)).mpr later

/-- The verification of a cleared response calls the provider exactly where the configured verifier
accepts the response and the acceptance and the execution are recorded. -/
theorem executes_verifyClearance {now : Datetime} :
    Executes (plane.verifyClearance std request capability capabilityRef decision now
        clearanceRequest response) history s ↔
      (∃ verifier, plane.clearanceVerifier = some verifier ∧
        verifier.Accepts std clearanceRequest response now) ∧
      plane.auditSink history (clearanceVerifiedEvent request capabilityRef decision response)
        = none ∧
      plane.auditSink
        (history ++ [.emitted (clearanceVerifiedEvent request capabilityRef decision response)])
        (plane.startedEvent request capabilityRef decision) = none := by
  unfold verifyClearance
  cases configured : plane.clearanceVerifier with
  | none =>
      refine iff_of_false (Never.bind (Never.ofExcept _) (fun _ => Never.bind (emit_idle _) fun _ =>
        Never.bind (emitResultReturned_quiet _ _ _ _).idle fun _ => Never.pure _) history s) ?_
      rintro ⟨⟨_, none, -⟩, -⟩
      cases none
  | some verifier =>
      simp only [Executes, Prog.does_ofExcept_bind, Option.some.injEq, exists_eq_left']
      constructor
      · rintro ⟨verification, verify, -, -, executes⟩
        obtain ⟨recorded, executes⟩ := executes_emit_bind.mp executes
        by_cases valid : verification.valid = true
        · have accepts := ACTClearanceVerifier.accepts_of_verify verify valid
          rw [accepts.verify_eq] at verify
          cases verify
          exact ⟨accepts, recorded, executes_executeProvider.mp executes⟩
        · rw [if_neg valid] at executes
          exact absurd executes (Never.bind (emitResultReturned_quiet _ _ _ _).idle
            (fun _ => Never.pure _) _ _)
      · rintro ⟨accepts, recorded, announced⟩
        obtain ⟨expiry, written⟩ := accepts.expiryInUtc
        exact ⟨acceptedResult response, accepts.verify_eq, expiry, written,
          executes_emit_bind.mpr ⟨recorded, executes_executeProvider.mpr announced⟩⟩

/-- Only a cleared response is verified, and no other answer calls the provider. -/
theorem executes_answerClearance {now : Datetime} :
    Executes (plane.answerClearance std request capability capabilityRef decision now
        clearanceRequest response) history s ↔
      response.status = .cleared ∧
        Executes (plane.verifyClearance std request capability capabilityRef decision now
          clearanceRequest response) history s := by
  unfold answerClearance
  split
  · next cleared => rw [and_iff_right cleared]
  · next denied =>
      refine iff_of_false (Never.bind (Never.ofExcept _) (fun _ => Never.bind (emit_idle _) fun _ =>
        Never.bind (emitResultReturned_quiet _ _ _ _).idle fun _ => Never.pure _) _ _) ?_
      rw [denied]
      exact fun ⟨cleared, _⟩ => by cases cleared
  · next other _ =>
      exact iff_of_false (Never.bind (emitResultReturned_quiet _ _ _ _).idle
        (fun _ => Never.pure _) _ _) fun ⟨cleared, _⟩ => other cleared

/-- **The tower's route**: the provider is called exactly at the end of the whole chain. -/
theorem executes_handleActClearance :
    Executes (plane.handleActClearance std client request capability capabilityRef decision)
        history s ↔
      ∃ clearanceRequest response, ActChain std plane client request capability capabilityRef
        decision history clearanceRequest response := by
  unfold handleActClearance
  rw [executes_now_bind, Executes,
    Prog.does_bind_ok clearanceRequestId_idle clearanceRequestId_run, Prog.does_ofExcept_bind]
  constructor
  · rintro ⟨clearanceRequest, built, executes⟩
    obtain ⟨requested, asks⟩ := executes_emit_bind.mp executes
    obtain ⟨response, answered, answer⟩ := executes_askClearance_bind.mp asks
    obtain ⟨-, verifies⟩ := executes_answerClearance.mp answer
    obtain ⟨accepted, verified, announced⟩ := executes_verifyClearance.mp verifies
    simp only [List.append_assoc, List.cons_append, List.nil_append]
      at requested answered verified announced
    refine ⟨clearanceRequest, response, built, ?_, ?_, accepted, ?_, ?_⟩
    all_goals
      simpa only [clearanceEffects, untilAnswer, beforeAsking, preparing, clockEffect,
        List.append_assoc, List.cons_append, List.nil_append]
  · rintro ⟨clearanceRequest, response, built, requested, answered, accepted, verified, announced⟩
    simp only [clearanceEffects, untilAnswer, beforeAsking, preparing, clockEffect,
      List.append_assoc, List.cons_append, List.nil_append]
      at requested answered verified announced
    have cleared : response.status = .cleared := by
      obtain ⟨_, -, accepts⟩ := accepted
      exact accepts.cleared
    refine ⟨clearanceRequest, built, executes_emit_bind.mpr ⟨?_, executes_askClearance_bind.mpr
      ⟨response, ?_, executes_answerClearance.mpr ⟨cleared, executes_verifyClearance.mpr
        ⟨accepted, ?_, ?_⟩⟩⟩⟩⟩
    all_goals
      simpa only [List.append_assoc, List.cons_append, List.nil_append]

/-- An accepted response leads to the execution, once its acceptance is recorded. -/
theorem verifyClearance_run {now : Datetime} {verifier : ACTClearanceVerifier}
    (configured : plane.clearanceVerifier = some verifier)
    (accepts : verifier.Accepts std clearanceRequest response now)
    (recorded : plane.auditSink history
      (clearanceVerifiedEvent request capabilityRef decision response) = none) :
    plane.verifyClearance std request capability capabilityRef decision now clearanceRequest
        response history s
      = (plane.executeProvider request capability capabilityRef decision
          (history ++ [.emitted (clearanceVerifiedEvent request capabilityRef decision response)])
          s).prepend
        [.emitted (clearanceVerifiedEvent request capabilityRef decision response)] := by
  unfold verifyClearance
  obtain ⟨expiry, written⟩ := accepts.expiryInUtc
  simp only [configured]
  rw [Prog.ofExcept_bind_run accepts.verify_eq, Prog.ofExcept_bind_run written]
  exact Prog.bind_run_ok (emit_run recorded) _

/-- **A clearance that is accepted** leads to the execution, with the effects of the chain before
it. -/
theorem ActChain.run (chain : ActChain std plane client request capability capabilityRef decision
      history clearanceRequest response) :
    plane.handleActClearance std client request capability capabilityRef decision history s
      = (plane.executeProvider request capability capabilityRef decision
          (history
            ++ plane.clearanceEffects request capabilityRef decision history clearanceRequest
              response) s).prepend
        (plane.clearanceEffects request capabilityRef decision history clearanceRequest
          response) := by
  obtain ⟨built, requested, answered, ⟨verifier, configured, accepts⟩, verified, -⟩ := chain
  have built : buildClearanceRequest std
      (plane.clearanceInputs request capability decision (plane.nowFactory history))
      (plane.idAt request (history ++ [.clockRead (plane.nowFactory history)]))
      = .ok clearanceRequest := built
  simp only [clearanceEffects, untilAnswer, beforeAsking, preparing, clockEffect,
    List.append_assoc, List.cons_append, List.nil_append] at requested answered verified ⊢
  rw [handleActClearance, Prog.bind_run_ok now_run, Prog.bind_run_ok clearanceRequestId_run,
    built, Prog.bind_run_ok (Prog.ofExcept_run _)]
  simp only [List.append_assoc, List.cons_append, List.nil_append, List.append_nil]
  rw [Prog.bind_run_ok (emit_run requested)]
  simp only [List.append_assoc, List.cons_append]
  rw [Prog.bind_run_ok (askClearance_run answered), answerClearance]
  simp only [List.append_assoc, List.cons_append, List.nil_append, accepts.cleared]
  rw [verifyClearance_run configured accepts verified]
  simp only [Outcome.prepend_prepend, List.append_assoc, List.cons_append, List.nil_append]

end ActChain

/-! ## Routes -/

section Routes

variable (std : Stdlib) (plane : ControlPlane) (request : CapabilityRequest)
  (capability : Capability) (capabilityRef : CapabilityRef) (decision : PolicyDecisionResult)

/-- Local approvals clear the ask-class decisions: another channel than the tower's is selected, or
no client is wired. -/
def ClearsLocally : Prop :=
  ¬ (plane.authChannelSelection.channel = .mobileSigned ∧ plane.clearanceClient.isSome = true)

/-- The approval store hands out a grant for exactly this request, at a time that was read. -/
structure StoredMatch (s : PlaneState) (before : List Effect) (store : ApprovalStore)
    (grant : ApprovalGrant) (now : Datetime) : Prop where
  stored : s.approvalStore = some store
  read : .clockRead now ∈ before
  found : ∃ fingerprint, actionFingerprint std request.parameters = .ok fingerprint ∧
    store.findActionGrant ⟨request.capabilityId, request.sessionId, request.targetId,
      plane.provider.providerId, fingerprint⟩ now = .ok (some grant)

variable {std plane request} in
/-- What the store hands out for a request: a stored grant, bound to the request's capability,
session, target, provider and parameter fingerprint, unexpired, and reusable or not consumed. -/
theorem StoredMatch.grant {s : PlaneState} {before : List Effect} {store : ApprovalStore}
    {grant : ApprovalGrant} {now : Datetime}
    (matched : StoredMatch std plane request s before store grant now) :
    ∃ fingerprint, actionFingerprint std request.parameters = .ok fingerprint ∧
      grant ∈ store.actionGrants ∧
      grant.binding = ⟨request.capabilityId, request.sessionId, request.targetId,
        plane.provider.providerId, fingerprint⟩ ∧
      Datetime.lt now grant.expiresAt = .ok true ∧
      (grant.scope = .session ∨ grant.responseId ∉ store.consumedResponseIds) := by
  obtain ⟨fingerprint, eq, found⟩ := matched.found
  exact ⟨fingerprint, eq, ApprovalStore.findActionGrant_some found⟩

variable {std plane request} in
/-- A stored grant never unlocks a blocked capability. -/
theorem StoredMatch.resumable {s : PlaneState} {before : List Effect} {store : ApprovalStore}
    {grant : ApprovalGrant} {now : Datetime}
    (matched : StoredMatch std plane request s before store grant now) :
    request.capabilityId ∉ approvalResumptionBlockedCapabilities := by
  obtain ⟨fingerprint, -, -, bound, -⟩ := matched.grant
  have same : grant.capabilityId = request.capabilityId :=
    congrArg ActionBinding.capabilityId bound
  rw [← same]
  exact grant.resumable

/-- The event of a grant's consumption. -/
def consumedEvent (grant : ApprovalGrant) : AuditEmission :=
  approvalEvent request capabilityRef decision .approvalConsumed (.grant grant)

/-- The state after a stored grant is consumed. -/
def markStored (s : PlaneState) (store : ApprovalStore) (grant : ApprovalGrant) : PlaneState :=
  { s with approvalStore := some (store.consume grant) }

/-- **The routes to an execution** from a point of a run, after the policy has decided: what is left
behind until the provider is announced, the state then, and what authorised the execution. -/
inductive Route (history : List Effect) (s : PlaneState) :
    List Effect → PlaneState → Option Authorisation → Prop
  | policy (allows : decision.requiresApproval = false) : Route history s [] s none
  | clearance {client : ClearanceClient} {clearanceRequest : ClearanceRequest}
      {response : ClearanceResponse} (asks : decision.requiresApproval = true)
      (selected : plane.authChannelSelection.channel = .mobileSigned)
      (wired : plane.clearanceClient = some client)
      (chain : ActChain std plane client request capability capabilityRef decision history
        clearanceRequest response) :
      Route history s
        (plane.clearanceEffects request capabilityRef decision history clearanceRequest response) s
        (some (.clearance response))
  | signed {signedGrant : SignedApprovalGrant} {verification : GrantVerificationResult}
      (asks : decision.requiresApproval = true) (locally : plane.ClearsLocally)
      (accepted : SignedAccepted std plane request capabilityRef s (plane.nowFactory history)
        signedGrant verification) :
      Route history s
        (plane.clockEffect history
          :: (signedEvents request capabilityRef decision signedGrant verification).map .emitted)
        (markSigned s signedGrant) (some (.signedGrant verification))
  | stored {before : List Effect} {store : ApprovalStore} {grant : ApprovalGrant} {now : Datetime}
      (asks : decision.requiresApproval = true) (locally : plane.ClearsLocally)
      (neutral : Neutral before) (matched : StoredMatch std plane request s before store grant now) :
      Route history s (before ++ [.emitted (consumedEvent request capabilityRef decision grant)])
        (markStored s store grant) (some (.storeGrant grant))

/-- A step leaves `before` behind, is then in the state `s'`, and goes on with the announced
execution. -/
structure Reaches (m : Step ControlPlaneResult) (history : List Effect) (s : PlaneState)
    (before : List Effect) (s' : PlaneState) : Prop where
  run : m history s = (plane.executeProvider request capability capabilityRef decision
    (history ++ before) s').prepend before
  announced : plane.auditSink (history ++ before) (plane.startedEvent request capabilityRef decision)
    = none

variable {std plane request capability capabilityRef decision} {history : List Effect}
  {s : PlaneState}

/-- An announced execution is itself at the end of the route of the policy. -/
theorem reaches_executeProvider
    (executes : Executes (plane.executeProvider request capability capabilityRef decision)
      history s) :
    Reaches plane request capability capabilityRef decision
      (plane.executeProvider request capability capabilityRef decision) history s [] s := by
  constructor
  · rw [List.append_nil, Outcome.prepend_nil]
  · rw [List.append_nil]
    exact executes_executeProvider.mp executes

/-- A step before which something returns goes on along the routes from there. -/
theorem Reaches.after {α : Type} {m : Step α} {f : α → Step ControlPlaneResult} {a : α}
    {mid s' : PlaneState} {before more : List Effect} (first : m history s = ⟨.ok a, mid, before⟩)
    (rest : Reaches plane request capability capabilityRef decision (f a) (history ++ before) mid
      more s') :
    Reaches plane request capability capabilityRef decision (m >>= f) history s (before ++ more)
      s' := by
  constructor
  · rw [Prog.bind_run_ok first, rest.run, Outcome.prepend_prepend, List.append_assoc]
  · rw [← List.append_assoc]
    exact rest.announced

/-- **Local clearance** calls the provider along the route of a signed or a stored grant. -/
theorem route_of_handleLocalClearance (asks : decision.requiresApproval = true)
    (locally : plane.ClearsLocally)
    (executes : Executes (plane.handleLocalClearance std request capability capabilityRef decision)
      history s) :
    ∃ before s' authorisation,
      Route std plane request capability capabilityRef decision history s before s'
        authorisation ∧
      Reaches plane request capability capabilityRef decision
        (plane.handleLocalClearance std request capability capabilityRef decision) history s before
        s' := by
  unfold handleLocalClearance at executes ⊢
  obtain ⟨accepted, s₁, before₁, signedRun, afterSigned⟩ :=
    executes.bind_inv verifySignedApprovalGrant_idle
  rcases verifySignedApprovalGrant_run_inv signedRun with
    ⟨rfl, rfl, neutral⟩ | ⟨rfl, signedGrant, verification, accepted, rfl, rfl⟩
  · rw [if_neg Bool.false_ne_true] at afterSigned
    obtain ⟨found, s₂, before₂, storedRun, afterStored⟩ :=
      afterSigned.bind_inv matchingApprovalGrant_idle
    obtain ⟨rfl, neutral₂, matched⟩ := matchingApprovalGrant_run_inv storedRun
    cases found with
    | none => exact absurd afterStored ((requestApproval_quiet capability).idle _ _)
    | some grant =>
        obtain ⟨store, fingerprint, stored, fingerprintEq, rfl, found⟩ := matched grant rfl
        obtain ⟨_, s₃, before₃, consumeRun, executes⟩ :=
          Does.bind_inv (consumeGrant_idle grant) afterStored
        obtain ⟨store', stored', rfl, rfl⟩ := consumeGrant_run_inv consumeRun
        rw [stored] at stored'
        cases stored'
        refine ⟨_, _, _, .stored asks locally (neutral.append neutral₂) ⟨stored, ?_, fingerprint,
          fingerprintEq, found⟩, ?_⟩
        · exact List.mem_append_right _ List.mem_cons_self
        · rw [List.append_assoc]
          refine Reaches.after signedRun ?_
          rw [if_neg Bool.false_ne_true]
          refine Reaches.after storedRun ?_
          rw [← List.append_nil [Effect.emitted _]]
          exact Reaches.after consumeRun (reaches_executeProvider executes)
  · rw [if_pos rfl] at afterSigned
    refine ⟨_, _, _, .signed asks locally accepted, ?_⟩
    rw [← List.append_nil (_ :: _)]
    refine Reaches.after signedRun ?_
    rw [if_pos rfl]
    exact reaches_executeProvider afterSigned

/-- With the tower's channel selected and a client wired, the tower clears. -/
theorem clear_of_wired {client : ClearanceClient}
    (selected : plane.authChannelSelection.channel = .mobileSigned)
    (wired : plane.clearanceClient = some client) :
    plane.clear std request capability capabilityRef decision
      = plane.handleActClearance std client request capability capabilityRef decision := by
  simp only [clear, selected, wired]

theorem clear_of_locally (locally : plane.ClearsLocally) :
    plane.clear std request capability capabilityRef decision
      = plane.handleLocalClearance std request capability capabilityRef decision := by
  unfold clear
  split
  · next selected wired => exact absurd ⟨selected, by rw [wired]; rfl⟩ locally
  · rfl

/-- The ask-class branch calls the provider along the route of a clearance or a local grant. -/
theorem route_of_clear (asks : decision.requiresApproval = true)
    (executes : Executes (plane.clear std request capability capabilityRef decision) history s) :
    ∃ before s' authorisation,
      Route std plane request capability capabilityRef decision history s before s'
        authorisation ∧
      Reaches plane request capability capabilityRef decision
        (plane.clear std request capability capabilityRef decision) history s before s' := by
  by_cases locally : plane.ClearsLocally
  · rw [clear_of_locally locally] at executes ⊢
    exact route_of_handleLocalClearance asks locally executes
  · obtain ⟨selected, configured⟩ := not_not.mp locally
    obtain ⟨client, wired⟩ := Option.isSome_iff_exists.mp configured
    rw [clear_of_wired selected wired] at executes ⊢
    obtain ⟨clearanceRequest, response, chain⟩ := executes_handleActClearance.mp executes
    exact ⟨_, _, _, .clearance asks selected wired chain, chain.run, chain.announced⟩

/-- What a policy decision lets through: it is no denial, and a provider of real hardware lies in
the policy's scope. -/
structure Passes (plane : ControlPlane) (decision : PolicyDecisionResult) : Prop where
  notDenied : decision.decision ≠ .deny
  hardware : plane.provider.isRealHardware = true →
    plane.policy.targetScope.allowRealHardware = true

/-- A decision that passes goes on with its clearance or its execution. -/
theorem Passes.decide_eq (passes : plane.Passes decision) :
    plane.decide std request (some capability) capabilityRef decision
      = if decision.requiresApproval then
          plane.clear std request capability capabilityRef decision
        else plane.executeProvider request capability capabilityRef decision := by
  unfold ControlPlane.decide
  rw [if_neg passes.notDenied, if_neg fun h => h.2 (passes.hardware h.1)]

theorem deny_idle : Idle (plane.deny request capabilityRef decision) :=
  Never.bind (emitResultReturned_quiet _ _ _ _).idle fun _ => Never.pure _

/-- A decision under which the provider is called passes, and its capability is known. -/
theorem passes_of_executes {known : Option Capability}
    (executes : Executes (plane.decide std request known capabilityRef decision) history s) :
    plane.Passes decision ∧ ∃ capability, known = some capability := by
  unfold ControlPlane.decide at executes
  by_cases denied : decision.decision = .deny
  · rw [if_pos denied] at executes
    exact absurd executes (deny_idle _ _)
  rw [if_neg denied] at executes
  by_cases outside : plane.provider.isRealHardware = true ∧
      ¬ plane.policy.targetScope.allowRealHardware = true
  · rw [if_pos outside] at executes
    exact absurd executes (deny_idle _ _)
  rw [if_neg outside] at executes
  refine ⟨⟨denied, fun real => not_not.mp fun refused => outside ⟨real, refused⟩⟩, ?_⟩
  cases known with
  | some capability => exact ⟨capability, rfl⟩
  | none =>
      split at executes
      all_goals exact absurd executes (Never.throw _ _ _)

/-- A decision that passes calls the provider along a route. -/
theorem Passes.route (passes : plane.Passes decision)
    (executes : Executes (plane.decide std request (some capability) capabilityRef decision)
      history s) :
    ∃ before s' authorisation,
      Route std plane request capability capabilityRef decision history s before s'
        authorisation ∧
      Reaches plane request capability capabilityRef decision
        (plane.decide std request (some capability) capabilityRef decision) history s before
        s' := by
  rw [passes.decide_eq] at executes ⊢
  by_cases asks : decision.requiresApproval = true
  · rw [if_pos asks] at executes ⊢
    exact route_of_clear asks executes
  · rw [if_neg asks] at executes ⊢
    exact ⟨_, _, _, .policy (Bool.eq_false_iff.mpr asks), reaches_executeProvider executes⟩

/-! ## Executions -/

variable (std plane request) in
/-- **An execution**: what a run of `handle` that calls the provider is made of. The policy admits
the request, hardware is in scope, the opening events are recorded, one route is taken and the
execution is announced. -/
structure Execution (history : List Effect) (s : PlaneState) (capability : Capability)
    (before : List Effect) (s' : PlaneState) (authorisation : Option Authorisation) : Prop where
  admitted : plane.policy.Admits plane.registry request.capabilityId (some request.targetId)
    (some request.sessionId) request.credentialId capability
  passes : plane.Passes (plane.decisionOf request)
  opened : plane.Records history (plane.openingEvents request)
  route : Route std plane request capability
    (capabilityRefOf request.capabilityId (some capability)) (plane.decisionOf request)
    (history ++ (plane.openingEvents request).map .emitted) s before s' authorisation
  reaches : Reaches plane request capability
    (capabilityRefOf request.capabilityId (some capability)) (plane.decisionOf request)
    (plane.handle std request) history s ((plane.openingEvents request).map .emitted ++ before) s'

/-- The policy's own checks have been passed where its decision does. -/
theorem Passes.admitted (passes : plane.Passes (plane.decisionOf request))
    (known : plane.registry.get request.capabilityId = some capability) :
    plane.policy.Admits plane.registry request.capabilityId (some request.targetId)
      (some request.sessionId) request.credentialId capability := by
  obtain ⟨admitted, admits⟩ := CapabilityPolicy.decisionFor_of_ne_deny passes.notDenied
  have same := admits.registered.symm.trans known
  cases same
  exact admits

/-- **Every call of the provider is an execution**: some route was taken to it. -/
theorem execution_of_executes (executes : Executes (plane.handle std request) history s) :
    ∃ capability before s' authorisation,
      Execution std plane request history s capability before s' authorisation := by
  unfold handle at executes
  obtain ⟨_, _, _, opening, executes⟩ := executes.bind_inv (emitAll_idle _)
  obtain ⟨opened, rfl, rfl⟩ := emitAll_run_inv opening
  obtain ⟨passes, capability, known⟩ := passes_of_executes executes
  rw [known] at executes
  obtain ⟨before, s', authorisation, route, reaches⟩ := passes.route executes
  refine ⟨capability, before, s', authorisation, passes.admitted known, passes, opened, route, ?_⟩
  unfold handle
  refine Reaches.after opening ?_
  rw [known]
  exact reaches

/-! ## What an execution leaves -/

theorem idEffects_neutral : Neutral (plane.idEffects request history) := by
  intro effect member
  unfold idEffects at member
  split at member
  · rw [List.mem_singleton] at member
    subst member
    exact ⟨rfl, rfl, rfl⟩
  · split at member
    · rw [List.mem_singleton] at member
      subst member
      exact ⟨rfl, rfl, rfl⟩
    · cases member

theorem preparing_neutral : Neutral (plane.preparing request history) :=
  (Neutral.clockRead (plane.nowFactory history)).append idEffects_neutral

theorem beforeAsking_neutral {clearanceRequest : ClearanceRequest} :
    Neutral (plane.beforeAsking request capabilityRef decision history clearanceRequest) :=
  preparing_neutral.append (Neutral.emitted rfl)

variable {before : List Effect} {s' : PlaneState} {authorisation : Option Authorisation}

/-- Before the execution, a route does not call the provider, and it records exactly its own
authorisation. -/
theorem Route.trace (route : Route std plane request capability capabilityRef decision history s
      before s' authorisation) :
    executions before = [] ∧ authorisations before = authorisation.toList := by
  cases route with
  | policy allows => exact ⟨rfl, rfl⟩
  | clearance asks selected wired chain =>
      simp only [clearanceEffects, untilAnswer, executions_append, authorisations_append,
        beforeAsking_neutral.executions, beforeAsking_neutral.authorisations]
      exact ⟨rfl, rfl⟩
  | @signed signedGrant verification asks locally accepted =>
      unfold signedEvents
      split <;> exact ⟨rfl, rfl⟩
  | stored asks locally neutral matched =>
      rw [executions_append, authorisations_append, neutral.executions, neutral.authorisations]
      exact ⟨rfl, rfl⟩

/-- Only the route of a clearance asks the tower. -/
theorem Route.questions (route : Route std plane request capability capabilityRef decision history
      s before s' authorisation) :
    (∀ effect ∈ before, effect.isQuestion = false) ∨
      ∃ response, authorisation = some (.clearance response) := by
  cases route with
  | policy allows => exact Or.inl fun _ member => by cases member
  | @clearance _ _ response asks selected wired chain => exact Or.inr ⟨response, rfl⟩
  | @signed signedGrant verification asks locally accepted =>
      refine Or.inl fun effect member => ?_
      rcases List.mem_cons.mp member with rfl | member
      · rfl
      · obtain ⟨_, _, rfl⟩ := List.mem_map.mp member
        rfl
  | stored asks locally neutral matched =>
      refine Or.inl fun effect member => ?_
      rcases List.mem_append.mp member with member | member
      · exact (neutral effect member).2.1
      · rw [List.mem_singleton.mp member]
        rfl

/-- The effects of a run that calls the provider, in order. -/
theorem Execution.run
    (execution : Execution std plane request history s capability before s' authorisation) :
    ∃ result answer after, Neutral after ∧
      plane.handle std request history s = ⟨result, s',
        (plane.openingEvents request).map .emitted ++ (before
          ++ .emitted (plane.startedEvent request
              (capabilityRefOf request.capabilityId (some capability)) (plane.decisionOf request))
            :: .executed (providerRequest request capability) answer :: after)⟩ := by
  obtain ⟨result, answer, after, neutral, run⟩ :=
    executeProvider_run (s := s') execution.reaches.announced
  refine ⟨result, answer, after, neutral, ?_⟩
  rw [execution.reaches.run, run, Outcome.prepend, List.append_assoc]

/-- The provider is called once, and nothing but the route's authorisation is recorded. -/
theorem Execution.trace
    (execution : Execution std plane request history s capability before s' authorisation) :
    (executions (plane.handle std request history s).effects).length = 1 ∧
      authorisations (plane.handle std request history s).effects = authorisation.toList ∧
      (plane.handle std request history s).state = s' := by
  obtain ⟨result, answer, after, neutral, run⟩ := execution.run
  obtain ⟨none, recorded⟩ := execution.route.trace
  have opening : Neutral ((plane.openingEvents request).map .emitted) :=
    openingEvents_neutral request
  rw [run]
  simp only [executions_append, authorisations_append, opening.executions,
    opening.authorisations, none, recorded]
  refine ⟨?_, ?_, trivial⟩
  · change (executions after).length + 1 = 1
    rw [neutral.executions, List.length_nil]
  · change [] ++ (authorisation.toList ++ authorisations after) = _
    rw [neutral.authorisations, List.nil_append, List.append_nil]

/-- A run calls the provider exactly where its effects have a call. -/
theorem executes_iff {α : Type} {m : Step α} :
    Executes m history s ↔ executions (m history s).effects ≠ [] := by
  unfold Executes Does executions
  rw [Ne, List.filter_eq_nil_iff]
  push Not
  rfl

/-- No request calls the provider twice. -/
theorem executions_length_le_one :
    (executions (plane.handle std request history s).effects).length ≤ 1 := by
  by_cases executes : Executes (plane.handle std request) history s
  · obtain ⟨_, _, _, _, execution⟩ := execution_of_executes executes
    exact execution.trace.1.le
  · rw [executes_iff, not_not] at executes
    rw [executes]
    exact Nat.zero_le 1

/-! ## Requests cleared by the tower -/

variable (std plane request) in
/-- **A request the tower clears**: the tower's channel is selected and a client wired, the decision
passes and asks, the opening events are recorded, and the whole chain goes through. -/
structure TowerRun (history : List Effect) (client : ClearanceClient) (capability : Capability)
    (clearanceRequest : ClearanceRequest) (response : ClearanceResponse) : Prop where
  known : plane.registry.get request.capabilityId = some capability
  passes : plane.Passes (plane.decisionOf request)
  asks : (plane.decisionOf request).requiresApproval = true
  selected : plane.authChannelSelection.channel = .mobileSigned
  wired : plane.clearanceClient = some client
  opened : plane.Records history (plane.openingEvents request)
  chain : ActChain std plane client request capability
    (capabilityRefOf request.capabilityId (some capability)) (plane.decisionOf request)
    (history ++ (plane.openingEvents request).map .emitted) clearanceRequest response

section TowerRun

variable {client : ClearanceClient} {clearanceRequest : ClearanceRequest}
  {response : ClearanceResponse}

/-- A request the tower clears is executed. -/
theorem TowerRun.execution
    (cleared : TowerRun std plane request history client capability clearanceRequest response) :
    Execution std plane request history s capability
      (plane.clearanceEffects request (capabilityRefOf request.capabilityId (some capability))
        (plane.decisionOf request) (history ++ (plane.openingEvents request).map .emitted)
        clearanceRequest response) s (some (.clearance response)) := by
  obtain ⟨known, passes, asks, selected, wired, opened, chain⟩ := cleared
  refine ⟨passes.admitted known, passes, opened, .clearance asks selected wired chain, ?_⟩
  unfold handle
  refine Reaches.after (emitAll_run opened) ?_
  rw [known, passes.decide_eq, if_pos asks, clear_of_wired selected wired]
  exact ⟨chain.run, chain.announced⟩

/-- An execution on the strength of a clearance is that of a request the tower clears. -/
theorem Execution.towerRun
    (execution : Execution std plane request history s capability before s'
      (some (.clearance response))) :
    ∃ client clearanceRequest,
      TowerRun std plane request history client capability clearanceRequest response := by
  obtain ⟨admitted, passes, opened, route, -⟩ := execution
  cases route with
  | clearance asks selected wired chain =>
      exact ⟨_, _, admitted.registered, passes, asks, selected, wired, opened, chain⟩

theorem TowerRun.executes
    (cleared : TowerRun std plane request history client capability clearanceRequest response) :
    Executes (plane.handle std request) history s := by
  rw [executes_iff, ← List.length_pos_iff, cleared.execution.trace.1]
  exact Nat.one_pos

variable (plane request capability clearanceRequest history) in
/-- What a request leaves before the tower is asked about it. -/
def beforeQuestion : List Effect :=
  (plane.openingEvents request).map .emitted
    ++ plane.beforeAsking request (capabilityRefOf request.capabilityId (some capability))
      (plane.decisionOf request) (history ++ (plane.openingEvents request).map .emitted)
      clearanceRequest

/-- What a cleared request leaves: one question to the tower, and the execution after it. -/
theorem TowerRun.effects
    (cleared : TowerRun std plane request history client capability clearanceRequest response) :
    ∃ after, executions after ≠ [] ∧ (∀ effect ∈ after, effect.isQuestion = false) ∧
      (plane.handle std request history s).effects
        = plane.beforeQuestion request capability history clearanceRequest
          ++ .clearanceAsked clearanceRequest plane.clearanceTimeoutSeconds (.ok response)
          :: after := by
  obtain ⟨result, answer, after, neutral, run⟩ := (cleared.execution (s := s)).run
  refine ⟨.emitted (clearanceVerifiedEvent request
      (capabilityRefOf request.capabilityId (some capability)) (plane.decisionOf request) response)
    :: .emitted (plane.startedEvent request
      (capabilityRefOf request.capabilityId (some capability)) (plane.decisionOf request))
    :: .executed (providerRequest request capability) answer :: after, ?_, ?_, ?_⟩
  · exact List.cons_ne_nil _ (executions after)
  · intro effect member
    simp only [List.mem_cons] at member
    rcases member with rfl | rfl | rfl | member
    exacts [rfl, rfl, rfl, (neutral effect member).2.1]
  · rw [run]
    simp only [beforeQuestion, clearanceEffects, untilAnswer, List.append_assoc, List.cons_append,
      List.nil_append]

/-- The question of a cleared request is the only one. -/
theorem TowerRun.question
    (cleared : TowerRun std plane request history client capability clearanceRequest response)
    {before after : List Effect} {clearanceRequest' : ClearanceRequest} {timeout : Int}
    {answer : Except PyExc ClearanceResponse}
    (effects : (plane.handle std request history s).effects
      = before ++ .clearanceAsked clearanceRequest' timeout answer :: after) :
    before = plane.beforeQuestion request capability history clearanceRequest ∧
      clearanceRequest' = clearanceRequest ∧ timeout = plane.clearanceTimeoutSeconds ∧
      answer = .ok response := by
  obtain ⟨rest, -, quiet, split⟩ := cleared.effects (s := s)
  have neutral : Neutral (plane.beforeQuestion request capability history clearanceRequest) :=
    (openingEvents_neutral request).append beforeAsking_neutral
  obtain ⟨same, question, -⟩ := (List.append_cons_inj_of_notMem
    (fun member => Bool.noConfusion ((neutral _ member).2.1))
    (fun member => Bool.noConfusion (quiet _ member))).mp (split.symm.trans effects)
  cases question
  exact ⟨same.symm, rfl, rfl, rfl⟩

/-- A request that is executed after a question to the tower is one the tower clears. -/
theorem towerRun_of_question {before after : List Effect} {clearanceRequest : ClearanceRequest}
    {timeout : Int} {answer : Except PyExc ClearanceResponse}
    (effects : (plane.handle std request history s).effects
      = before ++ .clearanceAsked clearanceRequest timeout answer :: after)
    (executed : executions after ≠ []) :
    ∃ client capability response, answer = .ok response ∧ timeout = plane.clearanceTimeoutSeconds ∧
      before = plane.beforeQuestion request capability history clearanceRequest ∧
      TowerRun std plane request history client capability clearanceRequest response := by
  have executes : Executes (plane.handle std request) history s := by
    rw [executes_iff, effects, executions_append]
    exact fun none => executed (List.append_eq_nil_iff.mp none).2
  obtain ⟨capability, routed, s', authorisation, execution⟩ := execution_of_executes executes
  rcases execution.route.questions with quiet | ⟨response, rfl⟩
  · obtain ⟨_, _, rest, neutral, run⟩ := execution.run
    have asked : Effect.clearanceAsked clearanceRequest timeout answer
        ∈ (plane.handle std request history s).effects := by
      rw [effects]
      exact List.mem_append_right _ List.mem_cons_self
    rw [run] at asked
    simp only [List.mem_append, List.mem_cons, reduceCtorEq, false_or] at asked
    rcases asked with opening | before | after
    · exact Bool.noConfusion (openingEvents_neutral request _ opening).2.1
    · exact Bool.noConfusion (quiet _ before)
    · exact Bool.noConfusion (neutral _ after).2.1
  · obtain ⟨client, clearanceRequest', cleared⟩ := execution.towerRun
    obtain ⟨same, rfl, timed, answered⟩ := cleared.question effects
    exact ⟨client, capability, response, answered, timed, same, cleared⟩

end TowerRun

end Routes

end ControlPlane

end AgenticKVM
