import AgenticKVM.Approvals
import AgenticKVM.Lib.Except

/-! # Signed grants

The signed grants of the approval broker (`grants.py`), their verification against trusted signers
and the exact request context (`approval_broker.py`), and the cache that signed grants are read back
from (`approval_store.py`). Verification is a chain of checks; `verify_valid_iff` lists all of
them. -/

namespace AgenticKVM

open Lib (Json except_bind_eq_ok except_ok_bind except_pure)

/-- `ApprovalChannel`: approval channel families. -/
inductive ApprovalChannel
  | hostNative
  | outOfBand
  | watchTui
  | conversational
  | test
deriving DecidableEq

/-- `GrantVerificationStatus`. -/
inductive GrantVerificationStatus
  | valid
  | rejected
  | expired
  | consumed
  | malformed
  | unsigned
deriving DecidableEq

/-- `GrantPayload`: the canonical signed payload. Its identifying fields are present and its expiry
is timezone-aware. -/
structure GrantPayload where
  grantId : String
  requestId : String
  sessionId : String
  target : String
  provider : String
  capability : String
  paramsFingerprint : String
  riskFamily : String
  channel : ApprovalChannel
  expiresAt : Datetime
  oneTime : Bool
  consumedAt : Option Datetime
  policyConstraints : List (String × Json)
  signerKeyId : String
  payloadVersion : String
  present : ∀ field ∈ [grantId, requestId, sessionId, target, provider, capability,
    paramsFingerprint, riskFamily, signerKeyId], field ≠ ""
  expiryAware : expiresAt.aware = true

/-- `SignedApprovalGrant`: a signed envelope. -/
structure SignedApprovalGrant where
  payload : GrantPayload
  signature : String
  signatureAlgorithm : String
  signaturePresent : signature ≠ ""
  algorithmPresent : signatureAlgorithm ≠ ""

/-- `GrantVerificationResult`. -/
structure GrantVerificationResult where
  status : GrantVerificationStatus
  reason : String
  requestId : Option String
  grantId : Option String
  signerKeyId : Option String
deriving DecidableEq

/-- `GrantVerificationResult.valid`. -/
def GrantVerificationResult.valid (result : GrantVerificationResult) : Bool :=
  result.status = .valid

/-- `BANNED_CONVERSATIONAL_RISK_FAMILIES`. -/
def bannedConversationalRiskFamilies : List String :=
  ["power", "input", "boot", "media", "provider_mutation", "credentials", "policy", "audit",
    "emergency_stop"]

/-- `GrantVerificationContext`: the binding a signed grant is expected to have. -/
structure GrantVerificationContext where
  requestId : String
  sessionId : String
  target : String
  provider : String
  capability : String
  paramsFingerprint : String
  riskFamily : String
  now : Datetime
  allowedConversationalRiskFamilies : List String

/-- `GrantVerificationContext.from_parameters`. -/
def GrantVerificationContext.fromParameters (std : Stdlib)
    (requestId sessionId target provider capability : String) (parameters : Params)
    (riskFamily : String) (now : Datetime) : Except PyExc GrantVerificationContext := do
  let paramsFingerprint ← fingerprintParameters std parameters
  return ⟨requestId, sessionId, target, provider, capability, paramsFingerprint, riskFamily, now,
    ["observe", "runtime"]⟩

/-- A context is made of the values it is given and the fingerprint of the parameters. -/
theorem GrantVerificationContext.fromParameters_ok {std : Stdlib}
    {requestId sessionId target provider capability riskFamily : String} {parameters : Params}
    {now : Datetime} {context : GrantVerificationContext}
    (built : fromParameters std requestId sessionId target provider capability parameters
      riskFamily now = .ok context) :
    ∃ paramsFingerprint, fingerprintParameters std parameters = .ok paramsFingerprint ∧
      context = ⟨requestId, sessionId, target, provider, capability, paramsFingerprint, riskFamily,
        now, ["observe", "runtime"]⟩ := by
  obtain ⟨paramsFingerprint, eq, context⟩ := except_bind_eq_ok.mp built
  cases context
  exact ⟨paramsFingerprint, eq, rfl⟩

/-- The bound fields of a payload beside the expected ones, in the order they are compared. -/
def GrantPayload.comparisons (payload : GrantPayload) (context : GrantVerificationContext) :
    List (String × String × String) :=
  [("request_id", payload.requestId, context.requestId),
    ("session_id", payload.sessionId, context.sessionId),
    ("target", payload.target, context.target),
    ("provider", payload.provider, context.provider),
    ("capability", payload.capability, context.capability),
    ("params_fingerprint", payload.paramsFingerprint, context.paramsFingerprint),
    ("risk_family", payload.riskFamily, context.riskFamily)]

/-- `_first_mismatch`: the name of the first field whose values differ. -/
def firstMismatch (values : List (String × String × String)) : Option String :=
  (values.find? fun entry => entry.2.1 ≠ entry.2.2).map Prod.fst

/-- No mismatch means that every field agrees. -/
theorem firstMismatch_eq_none {values : List (String × String × String)} :
    firstMismatch values = none ↔ ∀ entry ∈ values, entry.2.1 = entry.2.2 := by
  simp [firstMismatch]

/-- `ApprovalSigner`: how a trusted signer verifies a grant. -/
abbrev ApprovalSigner : Type := SignedApprovalGrant → Except PyExc Bool

/-- `ApprovalGrantVerifier`: the trusted signers by key id. -/
structure ApprovalGrantVerifier where
  signers : String → Option ApprovalSigner

namespace ApprovalGrantVerifier

/-- A verification result about a payload. -/
def resultFor (payload : GrantPayload) (status : GrantVerificationStatus) (reason : String) :
    GrantVerificationResult :=
  ⟨status, reason, some payload.requestId, some payload.grantId, some payload.signerKeyId⟩

/-- `ApprovalGrantVerifier.verify` of a presented grant. -/
def verify (verifier : ApprovalGrantVerifier) (signedGrant : SignedApprovalGrant)
    (context : GrantVerificationContext) : Except PyExc GrantVerificationResult :=
  let payload := signedGrant.payload
  match verifier.signers payload.signerKeyId with
  | none => .ok (resultFor payload .rejected "untrusted signer key id")
  | some signer => do
    if ¬ (← signer signedGrant) then
      return resultFor payload .rejected "invalid signature"
    match firstMismatch (payload.comparisons context) with
    | some mismatch => return resultFor payload .rejected (mismatch ++ " mismatch")
    | none =>
      if payload.capability ∈ approvalResumptionBlockedCapabilities then
        return resultFor payload .rejected "hard invariant capability cannot be approved"
      if ← Datetime.ge context.now payload.expiresAt then
        return resultFor payload .expired "grant expired"
      if payload.oneTime ∧ payload.consumedAt.isSome then
        return resultFor payload .consumed "one-time grant already consumed"
      if payload.channel = .conversational then
        if payload.riskFamily ∈ bannedConversationalRiskFamilies then
          return resultFor payload .rejected "conversational approval banned for risk family"
        if payload.riskFamily ∉ context.allowedConversationalRiskFamilies then
          return resultFor payload .rejected "conversational approval not allowed for risk family"
      return resultFor payload .valid "grant verified"

/-- What a signed grant has to meet in a context: a trusted signer's signature, the exact binding, a
capability approvals can resume, an expiry that lies ahead, no mark of consumption on a one-time
grant, and a channel that may approve its risk family. -/
structure Accepts (verifier : ApprovalGrantVerifier) (signedGrant : SignedApprovalGrant)
    (context : GrantVerificationContext) : Prop where
  signed : ∃ signer, verifier.signers signedGrant.payload.signerKeyId = some signer ∧
    signer signedGrant = .ok true
  bound : ∀ entry ∈ signedGrant.payload.comparisons context, entry.2.1 = entry.2.2
  resumable : signedGrant.payload.capability ∉ approvalResumptionBlockedCapabilities
  unexpired : Datetime.lt context.now signedGrant.payload.expiresAt = .ok true
  unconsumed : ¬ (signedGrant.payload.oneTime = true ∧
    signedGrant.payload.consumedAt.isSome = true)
  channelAllowed : signedGrant.payload.channel = .conversational →
    signedGrant.payload.riskFamily ∉ bannedConversationalRiskFamilies ∧
      signedGrant.payload.riskFamily ∈ context.allowedConversationalRiskFamilies

variable {verifier : ApprovalGrantVerifier} {signedGrant : SignedApprovalGrant}
  {context : GrantVerificationContext}

/-- A payload is bound to exactly the action of a context. -/
structure BoundTo (payload : GrantPayload) (context : GrantVerificationContext) : Prop where
  requestId : payload.requestId = context.requestId
  sessionId : payload.sessionId = context.sessionId
  target : payload.target = context.target
  provider : payload.provider = context.provider
  capability : payload.capability = context.capability
  paramsFingerprint : payload.paramsFingerprint = context.paramsFingerprint
  riskFamily : payload.riskFamily = context.riskFamily

/-- The payload of an accepted grant is bound to the context. -/
theorem Accepts.boundTo (accepts : verifier.Accepts signedGrant context) :
    BoundTo signedGrant.payload context := by
  have bound := accepts.bound
  simp only [GrantPayload.comparisons, List.forall_mem_cons, List.not_mem_nil, false_implies,
    forall_const, and_true] at bound
  obtain ⟨requestId, sessionId, target, provider, capability, paramsFingerprint, riskFamily⟩ :=
    bound
  exact ⟨requestId, sessionId, target, provider, capability, paramsFingerprint, riskFamily⟩

/-- **Acceptance**: verification answers `valid` exactly when every check is met. -/
theorem verify_valid_iff :
    (∃ result, verifier.verify signedGrant context = .ok result ∧ result.valid = true) ↔
      verifier.Accepts signedGrant context := by
  constructor
  · rintro ⟨result, verified, valid⟩
    unfold verify at verified
    cases signerFound : verifier.signers signedGrant.payload.signerKeyId with
    | none =>
        simp only [signerFound, Except.ok.injEq] at verified
        subst verified
        cases valid
    | some signer =>
        simp only [signerFound] at verified
        obtain ⟨signed, signature, verified⟩ := except_bind_eq_ok.mp verified
        cases signed with
        | false => cases verified; cases valid
        | true =>
            cases mismatch : firstMismatch (signedGrant.payload.comparisons context) with
            | some name =>
                simp only [mismatch] at verified
                cases verified
                cases valid
            | none =>
                simp only [mismatch, not_true, if_false, except_pure] at verified
                split at verified
                · cases verified
                  cases valid
                next resumable =>
                obtain ⟨late, expiry, verified⟩ := except_bind_eq_ok.mp verified
                cases late with
                | true => cases verified; cases valid
                | false =>
                    simp only [Bool.false_eq_true, if_false] at verified
                    refine ⟨⟨signer, signerFound, signature⟩,
                      firstMismatch_eq_none.mp mismatch, resumable,
                      Datetime.ge_eq_false.mp expiry, fun consumed => ?_,
                      fun conversational => ?_⟩
                    · rw [if_pos consumed] at verified
                      cases verified
                      cases valid
                    · split_ifs at verified with consumed banned allowed
                      all_goals first
                        | exact ⟨banned, allowed⟩
                        | (cases verified; cases valid)
  · rintro ⟨⟨signer, found, signature⟩, bound, resumable, unexpired, unconsumed, channel⟩
    have mismatch := firstMismatch_eq_none.mpr bound
    refine ⟨resultFor signedGrant.payload .valid "grant verified", ?_, rfl⟩
    have early := Datetime.ge_eq_false.mpr unexpired
    simp only [verify, found, signature, mismatch, resumable, early, except_ok_bind, not_true,
      if_false, except_pure, Bool.false_eq_true, if_neg unconsumed]
    split_ifs with conversational banned allowed
    · exact absurd banned (channel conversational).1
    · rfl
    · exact absurd (channel conversational).2 allowed
    · rfl

end ApprovalGrantVerifier

/-! ## The cache of signed grants -/

/-- `SignedApprovalCache`: what reading its file gives, the signed grants in order or an
`ApprovalCacheError`. -/
structure SignedApprovalCache where
  readSignedGrants : Except PyExc (List SignedApprovalGrant)

/-- The loop of `find_verified_grant`. -/
def findVerifiedIn (verifier : ApprovalGrantVerifier) (context : GrantVerificationContext) :
    List SignedApprovalGrant → Except PyExc (Option SignedApprovalGrant)
  | [] => .ok none
  | grant :: rest => do
      if (← verifier.verify grant context).valid then return some grant
      findVerifiedIn verifier context rest

/-- `SignedApprovalCache.find_verified_grant`: the first cached grant that verifies. -/
def SignedApprovalCache.findVerifiedGrant (cache : SignedApprovalCache)
    (verifier : ApprovalGrantVerifier) (context : GrantVerificationContext) :
    Except PyExc (Option SignedApprovalGrant) :=
  match cache.readSignedGrants with
  | .error _ => .ok none
  | .ok grants => findVerifiedIn verifier context grants

end AgenticKVM
