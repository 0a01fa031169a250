import AgenticKVM.TowerClearance

/-! # Execution soundness

Whatever the policy, the provider, the store, the verifiers, the tower and the clock do: a request
that reaches the provider was admitted by the policy and, where its decision asks, authorised
exactly once and for this very request (`handle_sound`). -/

namespace AgenticKVM

namespace ControlPlane

/-- **An authorisation that was accepted for this very request.** On the tower's channel with a
client wired it is a cleared response which the configured verifier accepts for the clearance request
built from the request, as its answer; otherwise it is a signed grant the grant verifier accepts in
the request's exact context, or a stored grant that is bound to its capability, session, target,
provider and parameter fingerprint, unexpired, and reusable or not consumed. Every time is one that
was read during the run. -/
def AcceptedFor (std : Stdlib) (plane : ControlPlane) (request : CapabilityRequest)
    (capability : Capability) (s : PlaneState) (effects : List Effect) : Authorisation → Prop
  | .clearance response =>
      plane.authChannelSelection.channel = .mobileSigned ∧
      ∃ client verifier clearanceRequest now id, plane.clearanceClient = some client ∧
        plane.clearanceVerifier = some verifier ∧ .clockRead now ∈ effects ∧
        buildClearanceRequest std (plane.clearanceInputs request capability
          (plane.decisionOf request) now) id = .ok clearanceRequest ∧
        .clearanceAsked clearanceRequest plane.clearanceTimeoutSeconds (.ok response) ∈ effects ∧
        response.status = .cleared ∧
        ∃ verification, verifier.verify std clearanceRequest response now = .ok verification ∧
          verification.valid = true
  | .signedGrant verification =>
      plane.ClearsLocally ∧
      ∃ signedGrant verifier requestId paramsFingerprint now,
        request.signedApprovalGrant = some signedGrant ∧
        plane.approvalGrantVerifier = some verifier ∧ request.approvalRequestId = some requestId ∧
        .clockRead now ∈ effects ∧
        fingerprintParameters std request.parameters = .ok paramsFingerprint ∧
        verifier.verify signedGrant ⟨requestId, request.sessionId, request.targetId,
          plane.provider.providerId, request.capabilityId, paramsFingerprint, capability.family,
          now, ["observe", "runtime"]⟩ = .ok verification ∧
        verification.valid = true ∧
        signedGrant.payload.grantId ∉ s.consumedSignedGrantIds
  | .storeGrant grant =>
      plane.ClearsLocally ∧
      ∃ store fingerprint now, s.approvalStore = some store ∧ .clockRead now ∈ effects ∧
        actionFingerprint std request.parameters = .ok fingerprint ∧
        grant ∈ store.actionGrants ∧
        grant.binding = ⟨request.capabilityId, request.sessionId, request.targetId,
          plane.provider.providerId, fingerprint⟩ ∧
        Datetime.lt now grant.expiresAt = .ok true ∧
        (grant.scope = .session ∨ grant.responseId ∉ store.consumedResponseIds)

variable {std : Stdlib} {plane : ControlPlane} {request : CapabilityRequest}
  {capability : Capability} {capabilityRef : CapabilityRef} {decision : PolicyDecisionResult}
  {history before : List Effect} {s s' : PlaneState}

/-- The authorisation of a route was accepted for the request. -/
theorem Route.accepted {authorisation : Authorisation}
    (route : Route std plane request capability
      (capabilityRefOf request.capabilityId (some capability)) (plane.decisionOf request) history s
      before s' (some authorisation)) {effects : List Effect} (subset : before ⊆ effects) :
    AcceptedFor std plane request capability s effects authorisation := by
  cases route with
  | clearance asks selected wired chain =>
      obtain ⟨verifier, configured, accepts⟩ := chain.accepted
      refine ⟨selected, _, verifier, _, _, _, wired, configured, subset ?_, chain.built, subset ?_,
        accepts.cleared, _, accepts.verify_eq, rfl⟩
      · exact List.mem_append_left _ (List.mem_append_left _ (List.mem_append_left _
          List.mem_cons_self))
      · exact List.mem_append_left _ (List.mem_append_right _ List.mem_cons_self)
  | signed asks locally accepted =>
      obtain ⟨verifier, requestId, context, configured, identified, built, verified⟩ :=
        accepted.verified
      obtain ⟨paramsFingerprint, fingerprintEq, rfl⟩ :=
        GrantVerificationContext.fromParameters_ok built
      exact ⟨locally, _, verifier, requestId, paramsFingerprint, _, accepted.presented, configured,
        identified, subset List.mem_cons_self, fingerprintEq, verified, accepted.valid,
        accepted.fresh⟩
  | stored asks locally neutral matched =>
      obtain ⟨fingerprint, eq, member, bound, unexpired, usable⟩ := matched.grant
      exact ⟨locally, _, fingerprint, _, matched.stored,
        subset (List.mem_append_left _ matched.read), eq, member, bound, unexpired, usable⟩

/-- A route with an authorisation is one of a decision that asks. -/
theorem Route.asks {authorisation : Authorisation}
    (route : Route std plane request capability capabilityRef decision history s before s'
      (some authorisation)) : decision.decision.asks = true := by
  cases route with
  | clearance asks selected wired chain => exact asks
  | signed asks locally accepted => exact asks
  | stored asks locally neutral matched => exact asks

/-- An execution of a decision that asks has one authorisation, accepted for the request. -/
theorem Execution.authorised {authorisation : Option Authorisation}
    (execution : Execution std plane request history s capability before s' authorisation)
    (asks : (plane.decisionOf request).decision.asks = true) :
    ∃ accepted, authorisations (plane.handle std request history s).effects = [accepted] ∧
      AcceptedFor std plane request capability s (plane.handle std request history s).effects
        accepted := by
  obtain ⟨-, recorded, -⟩ := execution.trace
  cases authorisation with
  | none =>
      cases execution.route with
      | policy allows => exact absurd (asks.symm.trans allows) (by decide)
  | some accepted =>
      refine ⟨accepted, recorded, execution.route.accepted ?_⟩
      obtain ⟨_, _, _, -, run⟩ := execution.run
      rw [run]
      exact fun effect member => List.mem_append_right _ (List.mem_append_left _ member)

/-- A run that executes a decision that asks has one authorisation, accepted for the request. -/
theorem authorised_of_executes (executes : Executes (plane.handle std request) history s)
    (asks : (plane.decisionOf request).decision.asks = true) :
    ∃ capability accepted,
      authorisations (plane.handle std request history s).effects = [accepted] ∧
      AcceptedFor std plane request capability s (plane.handle std request history s).effects
        accepted := by
  obtain ⟨capability, _, _, _, execution⟩ := execution_of_executes executes
  exact ⟨capability, execution.authorised asks⟩

/-- **Execution soundness**: a request is executed only where the policy admits it (its capability is
registered and no hard denial, its scopes are present, target and session lie in the policy's scopes)
and hardware is in scope, and either the decision allows it or exactly one authorisation was accepted
for it. -/
theorem handle_sound (executes : Executes (plane.handle std request) history s) :
    ∃ capability,
      plane.policy.Admits plane.registry request.capabilityId (some request.targetId)
        (some request.sessionId) request.credentialId capability ∧
      (plane.provider.isRealHardware = true → plane.policy.targetScope.allowRealHardware = true) ∧
      (((plane.decisionOf request).decision.allows = true ∧
          authorisations (plane.handle std request history s).effects = []) ∨
        ((plane.decisionOf request).decision.asks = true ∧
          ∃ authorisation,
            authorisations (plane.handle std request history s).effects = [authorisation] ∧
            AcceptedFor std plane request capability s
              (plane.handle std request history s).effects authorisation)) := by
  obtain ⟨capability, before, s', authorisation, execution⟩ := execution_of_executes executes
  refine ⟨capability, execution.admitted, execution.passes.hardware, ?_⟩
  rcases PolicyDecision.asks_or_allows execution.passes.notDenied with asks | allows
  · exact Or.inr ⟨asks, execution.authorised asks⟩
  · refine Or.inl ⟨allows, ?_⟩
    rw [execution.trace.2.1]
    cases authorisation with
    | none => rfl
    | some authorisation =>
        have silent := PolicyDecision.asks_eq_false_of_allows allows
        exact absurd (execution.route.asks.symm.trans silent) (by decide)

/-- The deployment's request is executed, and so it is sound. -/
theorem handle_sound_reveal :
    ∃ capability,
      CapabilityPolicy.Admits (modePreset .fullControl none) defaultCapabilityRegistry
        "secrets.raw_reveal" (some "vm-1") (some "session-1") (some "credential-1") capability := by
  have cleared := Deployment.towerRun Deployment.slowClock_early []
  obtain ⟨capability, admits, -⟩ := handle_sound (cleared.executes (s := Deployment.start))
  exact ⟨capability, admits⟩

end ControlPlane

end AgenticKVM
