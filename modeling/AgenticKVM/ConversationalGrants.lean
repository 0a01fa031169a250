import AgenticKVM.ApprovalRuns

/-! # Conversational grants

A grant that was given in a conversation may approve the risk families `observe` and `runtime` only,
and the family of a capability stands for its risk. So a conversational grant never clears a
capability of another family, and it does clear the dangerous ones of these two
(`conversationRefused_iff`). -/

namespace AgenticKVM

namespace ControlPlane

/-- A conversational grant cannot verify for a capability: the capability is blocked for approvals, or
its family is none of those a conversation may approve. -/
def ConversationBarred (capability : Capability) : Prop :=
  capability.id ∈ approvalResumptionBlockedCapabilities ∨
    capability.family ∉ ["observe", "runtime"]

instance (capability : Capability) : Decidable (ConversationBarred capability) :=
  inferInstanceAs (Decidable (_ ∨ _))

/-- No conversational grant is valid in any context the control plane builds for a capability. -/
def ConversationUnverified (std : Stdlib) (capability : Capability) : Prop :=
  ∀ (verifier : ApprovalGrantVerifier) (signedGrant : SignedApprovalGrant)
    (requestId sessionId target provider : String) (parameters : Params) (now : Datetime)
    (context : GrantVerificationContext),
    GrantVerificationContext.fromParameters std requestId sessionId target provider capability.id
      parameters capability.family now = .ok context →
    signedGrant.payload.channel = .conversational →
    ¬ ∃ result, verifier.verify signedGrant context = .ok result ∧ result.valid = true

/-- A request was executed on the strength of a conversational grant: the grant it presents is
conversational, and the execution was authorised by a signed grant. -/
def ExecutedOnConversation (request : CapabilityRequest) (effects : List Effect) : Prop :=
  executions effects ≠ [] ∧
    (∃ verification, .signedGrant verification ∈ authorisations effects) ∧
    ∃ signedGrant, request.signedApprovalGrant = some signedGrant ∧
      signedGrant.payload.channel = .conversational

/-- No control plane that knows a capability executes it on the strength of a conversational grant. -/
def ConversationUnexecuted (std : Stdlib) (capability : Capability) : Prop :=
  ∀ (plane : ControlPlane) (request : CapabilityRequest) (history : List Effect) (s : PlaneState),
    plane.registry.get request.capabilityId = some capability →
    ¬ ExecutedOnConversation request (plane.handle std request history s).effects

section Barred

variable {std : Stdlib} {capability : Capability}

/-- What a conversational grant is accepted for is not barred. -/
theorem not_barred_of_accepts {verifier : ApprovalGrantVerifier}
    {signedGrant : SignedApprovalGrant} {context : GrantVerificationContext}
    (accepts : verifier.Accepts signedGrant context)
    (conversational : signedGrant.payload.channel = .conversational)
    (about : context.capability = capability.id) (family : context.riskFamily = capability.family)
    (allowed : context.allowedConversationalRiskFamilies = ["observe", "runtime"]) :
    ¬ ConversationBarred capability := by
  have boundTo := accepts.boundTo
  rintro (blocked | other)
  · refine accepts.resumable ?_
    rw [boundTo.capability, about]
    exact blocked
  · have member := (accepts.channelAllowed conversational).2
    rw [boundTo.riskFamily, family, allowed] at member
    exact other member

theorem unverified_of_barred (barred : ConversationBarred capability) :
    ConversationUnverified std capability := by
  intro verifier signedGrant requestId sessionId target provider parameters now context built
    conversational valid
  obtain ⟨paramsFingerprint, -, rfl⟩ := GrantVerificationContext.fromParameters_ok built
  have accepts := ApprovalGrantVerifier.verify_valid_iff.mp valid
  exact not_barred_of_accepts accepts conversational rfl rfl rfl barred

theorem unexecuted_of_barred (barred : ConversationBarred capability) :
    ConversationUnexecuted std capability := by
  rintro plane request history s known ⟨executed, ⟨verification, authorised⟩, signedGrant,
    presented, conversational⟩
  obtain ⟨capability', before, s', authorisation, execution⟩ :=
    execution_of_executes (executes_iff.mpr executed)
  have same := execution.admitted.registered.symm.trans known
  cases same
  rw [execution.trace.2.1, Option.mem_toList] at authorised
  cases authorised
  -- the execution took the route of the signed grant the request presents
  obtain ⟨-, signedGrant', verifier, requestId, paramsFingerprint, now, presented', -, -, -, -,
    verified, valid, -⟩ := execution.route.accepted (List.Subset.refl before)
  rw [presented] at presented'
  cases presented'
  have accepts := ApprovalGrantVerifier.verify_valid_iff.mp ⟨verification, verified, valid⟩
  have about := CapabilityRegistry.id_of_get known
  exact not_barred_of_accepts accepts conversational about.symm rfl rfl barred

/-- A conversational grant for a capability. -/
def conversationalGrant (capability : Capability) (paramsFingerprint : String)
    (present : paramsFingerprint ≠ "") : SignedApprovalGrant where
  payload :=
    { grantId := "grant-1"
      requestId := "req-1"
      sessionId := "session-1"
      target := "vm-1"
      provider := "mock"
      capability := capability.id
      paramsFingerprint
      riskFamily := capability.family
      channel := .conversational
      expiresAt := ⟨1, some 0⟩
      oneTime := true
      consumedAt := none
      policyConstraints := []
      signerKeyId := "operator-key-1"
      payloadVersion := "1"
      present := by
        have id := capability.id_ne_empty
        have family := capability.family_ne_empty
        simp [id, family, present]
      expiryAware := rfl }
  signature := "signature-of-grant-1"
  signatureAlgorithm := "ed25519"
  signaturePresent := Deployment.signature_present
  algorithmPresent := Deployment.algorithm_present

/-- For a capability that is not barred there is a conversational grant that verifies. -/
theorem barred_of_unverified (hashes : ∀ text, std.sha256 text ≠ "")
    (unverified : ConversationUnverified std capability) : ConversationBarred capability := by
  by_contra free
  rw [ConversationBarred, not_or, not_not] at free
  obtain ⟨resumable, family⟩ := free
  set paramsFingerprint := std.sha256 (Lib.Json.dumps (.obj [])) with fingerprintEq
  have fingerprinted : fingerprintParameters std [] = .ok paramsFingerprint :=
    fingerprintParameters_ofEntries std []
  set signedGrant := conversationalGrant capability paramsFingerprint (hashes _)
  refine unverified ⟨fun _ => some fun _ => .ok true⟩ signedGrant "req-1" "session-1" "vm-1" "mock"
    [] ⟨0, some 0⟩ ⟨"req-1", "session-1", "vm-1", "mock", capability.id, paramsFingerprint,
      capability.family, ⟨0, some 0⟩, ["observe", "runtime"]⟩ ?_ rfl ?_
  · rw [GrantVerificationContext.fromParameters, fingerprinted]
    rfl
  · refine ApprovalGrantVerifier.verify_valid_iff.mpr
      { signed := ⟨_, rfl, rfl⟩
        bound := by simp [GrantPayload.comparisons, signedGrant, conversationalGrant]
        resumable
        unexpired := rfl
        unconsumed := fun consumed => by cases consumed.2
        channelAllowed := fun _ => ⟨?_, family⟩ }
    -- neither of the two families is banned
    change capability.family ∉ _
    simp only [List.mem_cons, List.not_mem_nil, or_false] at family
    rcases family with same | same
    all_goals
      rw [same]
      decide

/-- **Conversational grants** neither verify for a capability nor have it executed, exactly where the
capability is barred; its flags play no part. -/
theorem conversationRefused_iff (std : Stdlib) (hashes : ∀ text, std.sha256 text ≠ "")
    (capability : Capability) :
    ConversationUnverified std capability ∧ ConversationUnexecuted std capability ↔
      ConversationBarred capability :=
  ⟨fun refused => barred_of_unverified hashes refused.1,
    fun barred => ⟨unverified_of_barred barred, unexecuted_of_barred barred⟩⟩

/-- Of the dangerous capabilities, exactly four of the family `runtime` are not barred. -/
example : (defaultCapabilities.filter fun capability =>
      (capability.dangerous ∨ capability.destructive) ∧ ¬ ConversationBarred capability).map
        Capability.id
    = ["runtime.run_approved_playbook", "runtime.execute_untrusted_script",
      "runtime.call_external_webhook", "runtime.spawn_subagent"] := by
  decide +kernel

end Barred

end ControlPlane

namespace Deployment

/-- The execution of an untrusted script, presented with a grant from a conversation. -/
def scriptRequest : CapabilityRequest :=
  { restartRequest with
    capabilityId := "runtime.execute_untrusted_script"
    signedApprovalGrant := some
      { signedGrant with
        payload :=
          { signedGrant.payload with
            capability := "runtime.execute_untrusted_script"
            riskFamily := "runtime"
            channel := .conversational
            present := by decide } } }

theorem power_known : "power" ∈ capabilityFamilies := by decide

/-- The reset of a machine. -/
def powerReset : Capability :=
  capability "power" "reset" .critical true true targetSession power_known

theorem library_sha256_ne_empty (text : String) : library.sha256 text ≠ "" := by
  have long : library.sha256 text ≠ "" ∨ library.sha256 text = "sha256 of " ++ text := by
    simp only [library]
    split_ifs
    all_goals first
      | exact .inl (by decide)
      | exact .inr rfl
  rcases long with nonempty | prefixed
  · exact nonempty
  · intro empty
    rw [prefixed] at empty
    have lists := congrArg String.toList empty
    simp at lists

end Deployment

namespace ControlPlane

/-- A conversational grant neither verifies for the reset of a machine nor has it executed. -/
theorem conversationRefused_powerReset :
    ConversationUnverified Deployment.library Deployment.powerReset ∧
      ConversationUnexecuted Deployment.library Deployment.powerReset :=
  (conversationRefused_iff Deployment.library Deployment.library_sha256_ne_empty
    Deployment.powerReset).mpr (.inr (by decide))

/-- Some dangerous capability is executed on the strength of a conversational grant: the untrusted
script is. -/
theorem not_conversationRefused :
    ¬ ∀ capability ∈ defaultCapabilityRegistry.capabilities,
      capability.dangerous = true ∨ capability.destructive = true →
        ConversationUnverified Deployment.library capability ∧
          ConversationUnexecuted Deployment.library capability := by
  intro refused
  have known : Deployment.localPlane.registry.get Deployment.scriptRequest.capabilityId
      = some (capability "runtime" "execute_untrusted_script" .critical true true targetSession) := by
    decide +kernel
  refine (refused _ (List.mem_of_find?_eq_some known) (.inl rfl)).2 Deployment.localPlane
    Deployment.scriptRequest [] ⟨none, []⟩ known ⟨?_, ?_, _, rfl, rfl⟩
  · intro none
    have length := congrArg List.length none
    revert length
    decide +kernel
  · have signed : (authorisations (Deployment.localPlane.handle Deployment.library
        Deployment.scriptRequest [] ⟨none, []⟩).effects).any
          (fun | .signedGrant _ => true | _ => false) = true := by
      decide +kernel
    obtain ⟨authorisation, member, isSigned⟩ := List.any_eq_true.mp signed
    cases authorisation with
    | signedGrant verification => exact ⟨verification, member⟩
    | _ => cases isSigned

end ControlPlane

end AgenticKVM
