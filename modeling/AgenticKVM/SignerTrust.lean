import AgenticKVM.GrantCodec
import AgenticKVM.HostRuns

/-! # Which signers are trusted

The signers of the broker (`approval_broker.py`, `signer_trust.py`) and the registry that says which
of them a verifier trusts. A signer verifies exactly the envelopes it signs itself
(`BrokerSigner.verify_iff_sign`), and the registry speaks through the last registration of a key id
only, so that the grants a verifier accepts are known from the registrations (`trusted_grants_iff`):
in production none of them is signed by a development signer. -/

namespace AgenticKVM

open Lib (except_bind_eq_ok lookup_eq_some_iff_mem)

/-! ## Signing -/

/-- `SignedApprovalGrant.__post_init__`. -/
def SignedApprovalGrant.init (payload : GrantPayload) (signature signatureAlgorithm : String) :
    Except PyExc SignedApprovalGrant :=
  if signaturePresent : signature ≠ "" then
    if algorithmPresent : signatureAlgorithm ≠ "" then
      .ok { payload, signature, signatureAlgorithm, signaturePresent, algorithmPresent }
    else .error (.valueError "signature algorithm is required")
  else .error (.valueError "signature is required")

/-- An envelope is made of what it is given. -/
theorem SignedApprovalGrant.init_eq_ok {payload : GrantPayload}
    {signature signatureAlgorithm : String} {grant : SignedApprovalGrant} :
    init payload signature signatureAlgorithm = .ok grant ↔
      grant.payload = payload ∧ grant.signature = signature
        ∧ grant.signatureAlgorithm = signatureAlgorithm := by
  unfold init
  constructor
  · intro made
    split_ifs at made
    cases made
    exact ⟨rfl, rfl, rfl⟩
  · rintro ⟨rfl, rfl, rfl⟩
    rw [dif_pos grant.signaturePresent, dif_pos grant.algorithmPresent]

/-- `InMemoryKeychainBackend`: keys in memory, which the holder can read. -/
structure InMemoryKeychainBackend where
  keys : List (String × List UInt8)

/-- The key material under an id, where there is some. -/
def InMemoryKeychainBackend.material (backend : InMemoryKeychainBackend) (keyId : String) :
    Option (List UInt8) :=
  (backend.keys.lookup keyId).filter (· ≠ [])

section Signers

variable (lib : AuditLibrary) (hmac : List UInt8 → String → String)

/-- `InMemoryKeychainBackend.sign`. -/
def InMemoryKeychainBackend.sign (backend : InMemoryKeychainBackend) (keyId message : String) :
    Except PyExc String :=
  match backend.material keyId with
  | some secret => .ok (hmac secret message)
  | none => .error (.keyError ("no key material for " ++ lib.repr keyId))

/-- `InMemoryKeychainBackend.verify`. -/
def InMemoryKeychainBackend.verify (backend : InMemoryKeychainBackend)
    (keyId message signature : String) : Except PyExc Bool :=
  match backend.material keyId with
  | some secret => compareDigest (hmac secret message) signature
  | none => .ok false

/-- The signers of the source: the development signer, and the keychain signer over keys in
memory. -/
inductive BrokerSigner
  | development (signer : HMACDevelopmentSigner)
  | keychain (keyId : String) (keyPresent : keyId ≠ "") (backend : InMemoryKeychainBackend)
      (signatureAlgorithm : String)

namespace BrokerSigner

/-- `key_id`. -/
def keyId : BrokerSigner → String
  | development signer => signer.keyId
  | keychain keyId _ _ _ => keyId

/-- `signature_algorithm`. -/
def signatureAlgorithm : BrokerSigner → String
  | development signer => signer.signatureAlgorithm
  | keychain _ _ _ signatureAlgorithm => signatureAlgorithm

theorem keyId_ne_empty (signer : BrokerSigner) : signer.keyId ≠ "" := by
  cases signer with
  | development signer => exact signer.keyPresent
  | keychain keyId keyPresent backend algorithm => exact keyPresent

/-- The signature of a message. -/
def signMessage (message : String) : BrokerSigner → Except PyExc String
  | development signer => .ok (hmac signer.secret message)
  | keychain keyId _ backend _ => backend.sign lib hmac keyId message

/-- `HMACDevelopmentSigner.sign` and `KeychainApprovalSigner.sign`. -/
def sign (signer : BrokerSigner) (payload : GrantPayload) : Except PyExc SignedApprovalGrant :=
  if payload.signerKeyId ≠ signer.keyId then
    .error (.valueError "payload signer key id does not match signer")
  else do
    let message ← payload.canonicalPayload lib
    let signature ← signer.signMessage lib hmac message
    SignedApprovalGrant.init payload signature signer.signatureAlgorithm

/-- `HMACDevelopmentSigner.verify` and `KeychainApprovalSigner.verify`. -/
def verify : BrokerSigner → ApprovalSigner
  | development signer => signer.verify lib hmac
  | keychain keyId keyPresent backend signatureAlgorithm =>
      (KeychainApprovalSigner.mk keyId (backend.verify hmac) signatureAlgorithm keyPresent).verify lib

end BrokerSigner

/-- **Digests are ASCII texts**, as `hexdigest()` returns them. -/
def AsciiDigests : Prop := ∀ secret message, (hmac secret message).toList.all (·.toNat < 128) = true

variable {lib hmac}

/-- A digest compares equal to itself only, and to no text that cannot be compared. -/
theorem compareDigest_eq_true {digest signature : String}
    (ascii : digest.toList.all (·.toNat < 128) = true) :
    compareDigest digest signature = .ok true ↔ signature = digest := by
  unfold compareDigest
  constructor
  · intro compared
    split_ifs at compared
    exact (of_decide_eq_true (Except.ok.inj compared)).symm
  · rintro rfl
    rw [if_pos (by rw [ascii]; rfl)]
    simp

/-- A message's signature verifies where it is the one that would be made. -/
theorem BrokerSigner.verifies_iff (ascii : AsciiDigests hmac) (signer : BrokerSigner)
    (grant : SignedApprovalGrant) :
    signer.verify lib hmac grant = .ok true ↔
      grant.signatureAlgorithm = signer.signatureAlgorithm
        ∧ grant.payload.signerKeyId = signer.keyId
        ∧ ∃ message, grant.payload.canonicalPayload lib = .ok message
          ∧ signer.signMessage lib hmac message = .ok grant.signature := by
  have checked (check : String → Except PyExc Bool) (algorithm key : String) :
      (if grant.signatureAlgorithm ≠ algorithm then Except.ok false
        else if grant.payload.signerKeyId ≠ key then .ok false
        else do
          let message ← grant.payload.canonicalPayload lib
          check message) = .ok true ↔
      grant.signatureAlgorithm = algorithm ∧ grant.payload.signerKeyId = key
        ∧ ∃ message, grant.payload.canonicalPayload lib = .ok message
          ∧ check message = .ok true := by
    split_ifs with other foreign
    · simp [other]
    · simp [foreign]
    · rw [except_bind_eq_ok, not_not.mp other, not_not.mp foreign]
      simp
  cases signer with
  | development signer =>
      refine (checked _ _ _).trans (and_congr_right fun _ => and_congr_right fun _ =>
        exists_congr fun message => and_congr_right fun _ => ?_)
      rw [compareDigest_eq_true (ascii signer.secret message), signMessage, Except.ok.injEq]
      exact eq_comm
  | keychain keyId keyPresent backend algorithm =>
      refine (checked _ _ _).trans (and_congr_right fun _ => and_congr_right fun _ =>
        exists_congr fun message => and_congr_right fun _ => ?_)
      change backend.verify hmac keyId message grant.signature = _ ↔ _
      rw [signMessage, InMemoryKeychainBackend.verify, InMemoryKeychainBackend.sign]
      cases backend.material keyId with
      | none => simp
      | some secret =>
          dsimp only
          rw [compareDigest_eq_true (ascii secret message), Except.ok.injEq]
          exact eq_comm

/-- **A signer verifies exactly what it signs**: of all envelopes of a payload it takes the one it
makes itself. -/
theorem BrokerSigner.verify_iff_sign (ascii : AsciiDigests hmac) (signer : BrokerSigner)
    (grant : SignedApprovalGrant) :
    signer.verify lib hmac grant = .ok true ↔ signer.sign lib hmac grant.payload = .ok grant := by
  rw [verifies_iff ascii, sign]
  by_cases own : grant.payload.signerKeyId = signer.keyId
  · rw [if_neg (not_not.mpr own), except_bind_eq_ok]
    constructor
    · rintro ⟨algorithm, -, message, canonical, signed⟩
      refine ⟨message, canonical, except_bind_eq_ok.mpr ⟨grant.signature, signed, ?_⟩⟩
      exact SignedApprovalGrant.init_eq_ok.mpr ⟨rfl, rfl, algorithm⟩
    · rintro ⟨message, canonical, made⟩
      obtain ⟨signature, signed, made⟩ := except_bind_eq_ok.mp made
      obtain ⟨-, same, algorithm⟩ := SignedApprovalGrant.init_eq_ok.mp made
      exact ⟨algorithm, own, message, canonical, same ▸ signed⟩
  · rw [if_pos own]
    simp [own]

end Signers

/-! ## The trust registry -/

/-- `SignerTrust`: a registered signer and whether it is a development key. -/
structure SignerTrust where
  signer : BrokerSigner
  development : Bool
  label : String

/-- What `register` is given. -/
structure SignerRegistration where
  signer : BrokerSigner
  development : Bool
  label : Option String

/-- What a registration stores: without a label, one that says what the signer is for. -/
def SignerRegistration.trust (registration : SignerRegistration) : SignerTrust where
  signer := registration.signer
  development := registration.development
  label := givenOr registration.label
    (if registration.development then "development" else "production")

/-- `SignerTrustRegistry`. -/
structure SignerTrustRegistry where
  allowDevelopment : Bool
  trust : List (String × SignerTrust)

/-- A row of `trust_summary`. -/
structure SignerTrustRow where
  keyId : String
  signatureAlgorithm : String
  development : Bool
  label : String
  trusted : Bool

namespace SignerTrustRegistry

/-- A registry without signers. -/
def new (allowDevelopment : Bool) : SignerTrustRegistry := ⟨allowDevelopment, []⟩

/-- `register`: a later signer of a key id takes the place of an earlier one. -/
def register (registry : SignerTrustRegistry) (registration : SignerRegistration) :
    Except PyExc SignerTrustRegistry :=
  if registration.signer.keyId = "" then .error (.valueError "signer key id is required")
  else .ok { registry with
    trust := dictSet registry.trust registration.signer.keyId registration.trust }

/-- `is_trusted` of what is stored under a key id. -/
def trusts (registry : SignerTrustRegistry) (trust : SignerTrust) : Bool :=
  !trust.development || registry.allowDevelopment

/-- `is_trusted`. -/
def isTrusted (registry : SignerTrustRegistry) (keyId : String) : Bool :=
  (registry.trust.lookup keyId).any registry.trusts

/-- `trusted_signers`. -/
def trustedSigners (registry : SignerTrustRegistry) : List (String × BrokerSigner) :=
  (registry.trust.filter fun entry => registry.isTrusted entry.1).map fun entry =>
    (entry.1, entry.2.signer)

/-- `trust_summary`. -/
def trustSummary (registry : SignerTrustRegistry) : List SignerTrustRow :=
  (registry.trust.insertionSort fun entry other => entry.1 ≤ other.1).map fun entry =>
    ⟨entry.1, entry.2.signer.signatureAlgorithm, entry.2.development, entry.2.label,
      registry.isTrusted entry.1⟩

end SignerTrustRegistry

/-- `ApprovalGrantVerifier.from_trust_registry`. -/
def ApprovalGrantVerifier.fromTrustRegistry (lib : AuditLibrary)
    (hmac : List UInt8 → String → String) (registry : SignerTrustRegistry) :
    ApprovalGrantVerifier :=
  ⟨fun keyId => (registry.trustedSigners.lookup keyId).map (·.verify lib hmac)⟩

/-- One registration, which leaves the registry as it is where it is refused. -/
def registerStep (registry : SignerTrustRegistry) (registration : SignerRegistration) :
    SignerTrustRegistry × Except PyExc Unit :=
  match registry.register registration with
  | .ok after => (after, .ok ())
  | .error e => (registry, .error e)

/-- The registration that speaks for a key id: the last one. -/
def lastRegistration (registrations : List SignerRegistration) (keyId : String) :
    Option SignerRegistration :=
  (registrations.filter fun registration => registration.signer.keyId = keyId).getLast?

section Registry

variable {registry : SignerTrustRegistry}

/-- Every signer of the source has a key id, so that none is refused. -/
theorem registerStep_eq (registration : SignerRegistration) :
    registerStep registry registration
      = ({ registry with
          trust := dictSet registry.trust registration.signer.keyId registration.trust },
        .ok ()) := by
  rw [registerStep, SignerTrustRegistry.register, if_neg registration.signer.keyId_ne_empty]

/-- **What a registry holds** under a key id is its last registration. -/
theorem lookup_final_registerStep (allowDevelopment : Bool)
    (registrations : List SignerRegistration) (keyId : String) :
    (Lib.final registerStep (.new allowDevelopment) registrations).allowDevelopment
        = allowDevelopment
      ∧ (Lib.final registerStep (.new allowDevelopment) registrations).trust.lookup keyId
        = (lastRegistration registrations keyId).map SignerRegistration.trust := by
  induction registrations using List.reverseRecOn with
  | nil => exact ⟨rfl, rfl⟩
  | append_singleton registrations registration ih =>
      rw [Lib.final_append, Lib.final, Lib.final, registerStep_eq, lastRegistration,
        List.filter_append]
      refine ⟨ih.1, ?_⟩
      by_cases here : registration.signer.keyId = keyId
      · subst here
        rw [lookup_dictSet_self, List.filter_cons_of_pos (by simp), List.filter_nil,
          List.getLast?_concat]
        rfl
      · rw [lookup_dictSet_ne (Ne.symm here), List.filter_cons_of_neg (by simpa using here),
          List.filter_nil, List.append_nil]
        exact ih.2

/-- No key id is held twice. -/
theorem keys_final_registerStep (allowDevelopment : Bool)
    (registrations : List SignerRegistration) :
    ((Lib.final registerStep (.new allowDevelopment) registrations).trust.map Prod.fst).Nodup := by
  induction registrations using List.reverseRecOn with
  | nil => exact List.nodup_nil
  | append_singleton registrations registration ih =>
      rw [Lib.final_append, Lib.final, Lib.final, registerStep_eq]
      set registry := Lib.final registerStep (.new allowDevelopment) registrations
      change ((dictSet registry.trust registration.signer.keyId registration.trust).map
        Prod.fst).Nodup
      rw [dictSet]
      split_ifs with present
      · have kept : (registry.trust.map fun entry =>
            if entry.1 == registration.signer.keyId
              then (registration.signer.keyId, registration.trust) else entry).map Prod.fst
            = registry.trust.map Prod.fst := by
          rw [List.map_map]
          refine List.map_congr_left fun entry _ => ?_
          by_cases same : (entry.1 == registration.signer.keyId) = true
          · rw [Function.comp_apply, if_pos same]
            exact (beq_iff_eq.mp same).symm
          · rw [Function.comp_apply, if_neg same]
        rw [kept]
        exact ih
      · rw [List.map_append, List.map_cons, List.map_nil, List.nodup_append]
        refine ⟨ih, List.nodup_singleton _, fun key member other here => ?_⟩
        rintro rfl
        obtain ⟨entry, held, rfl⟩ := List.mem_map.mp member
        rw [List.mem_singleton] at here
        exact present (List.any_eq_true.mpr ⟨entry, held, by simp [here]⟩)

/-- A part of a mapping that is chosen by its keys has what the mapping has under them. -/
theorem lookup_filter_keys {β : Type} (chosen : String → Bool) (entries : List (String × β))
    (key : String) :
    (entries.filter fun entry => chosen entry.1).lookup key
      = if chosen key then entries.lookup key else none := by
  induction entries with
  | nil => simp
  | cons entry rest ih =>
      rw [List.filter_cons]
      by_cases same : key = entry.1
      · subst same
        split_ifs at ih ⊢ with isChosen
        · rw [List.lookup_cons, List.lookup_cons, beq_self_eq_true]
        · exact ih
      · have apart : (key == entry.1) = false := beq_false_of_ne same
        rw [List.lookup_cons, apart, ← ih]
        split_ifs
        · rw [List.lookup_cons, apart]
        · rfl

/-- **The signers a verifier is given** are those that the registry trusts. -/
theorem fromTrustRegistry_signers (lib : AuditLibrary) (hmac : List UInt8 → String → String)
    (keyId : String) :
    (ApprovalGrantVerifier.fromTrustRegistry lib hmac registry).signers keyId
      = ((registry.trust.lookup keyId).filter registry.trusts).map
        fun trust => trust.signer.verify lib hmac := by
  have mapped (entries : List (String × SignerTrust)) :
      (entries.map fun entry => (entry.1, entry.2.signer)).lookup keyId
        = (entries.lookup keyId).map SignerTrust.signer := by
    induction entries with
    | nil => rfl
    | cons entry rest ih =>
        rw [List.map_cons, List.lookup_cons, List.lookup_cons, ih]
        cases keyId == entry.1 <;> rfl
  change (registry.trustedSigners.lookup keyId).map _ = _
  rw [SignerTrustRegistry.trustedSigners, mapped,
    lookup_filter_keys registry.isTrusted registry.trust keyId, SignerTrustRegistry.isTrusted]
  cases registry.trust.lookup keyId with
  | none => rfl
  | some trust => cases trusted : registry.trusts trust <;> simp [Option.filter, trusted]

/-- The row of a registration. -/
def SignerRegistration.row (registration : SignerRegistration) (allowDevelopment : Bool) :
    SignerTrustRow :=
  ⟨registration.signer.keyId, registration.signer.signatureAlgorithm, registration.development,
    registration.trust.label, !registration.development || allowDevelopment⟩

/-- The registration that speaks for a key id has that key id. -/
theorem keyId_of_lastRegistration {registrations : List SignerRegistration} {keyId : String}
    {registration : SignerRegistration}
    (last : lastRegistration registrations keyId = some registration) :
    registration.signer.keyId = keyId := by
  have member := List.mem_of_getLast? last
  exact of_decide_eq_true (List.mem_filter.mp member).2

/-- **The summary lists the registrations that speak**, in the order of their key ids. -/
theorem trustSummary_final (allowDevelopment : Bool) (registrations : List SignerRegistration) :
    let summary :=
      (Lib.final registerStep (.new allowDevelopment) registrations).trustSummary
    (summary.map SignerTrustRow.keyId).Pairwise (· < ·)
      ∧ ∀ row, row ∈ summary ↔ ∃ registration,
        lastRegistration registrations row.keyId = some registration
          ∧ row = registration.row allowDevelopment := by
  intro summary
  have keys := keys_final_registerStep allowDevelopment registrations
  have held := lookup_final_registerStep allowDevelopment registrations
  set registry := Lib.final registerStep (.new allowDevelopment) registrations
  set sorted := registry.trust.insertionSort fun entry other => entry.1 ≤ other.1
  have perm : sorted.Perm registry.trust := List.perm_insertionSort _ _
  have isTrusted (keyId : String) : registry.isTrusted keyId
      = (lastRegistration registrations keyId).any fun registration =>
        !registration.development || allowDevelopment := by
    rw [SignerTrustRegistry.isTrusted, (held keyId).2, Option.any_map]
    refine congrArg (Option.any · _) (funext fun registration => ?_)
    rw [SignerTrustRegistry.trusts, (held keyId).1]
    rfl
  constructor
  · have ordered : (sorted.map Prod.fst).Pairwise (· ≤ ·) :=
      List.pairwise_map.mpr (List.pairwise_insertionSort
        (fun entry other : String × SignerTrust => entry.1 ≤ other.1) registry.trust)
    have distinct : (sorted.map Prod.fst).Nodup := (perm.map Prod.fst).nodup_iff.mpr keys
    have same : summary.map SignerTrustRow.keyId = sorted.map Prod.fst := by
      change (sorted.map _).map _ = _
      rw [List.map_map]
      rfl
    rw [same]
    exact (ordered.and distinct).imp fun both => lt_of_le_of_ne both.1 both.2
  · intro row
    have stored (entry : String × SignerTrust) : entry ∈ sorted ↔
        (lastRegistration registrations entry.1).map SignerRegistration.trust = some entry.2 := by
      rw [perm.mem_iff, ← (held entry.1).2]
      exact (lookup_eq_some_iff_mem keys).symm
    change row ∈ sorted.map _ ↔ _
    constructor
    · intro member
      obtain ⟨entry, inside, rfl⟩ := List.mem_map.mp member
      obtain ⟨registration, last, isTrust⟩ := Option.map_eq_some_iff.mp ((stored entry).mp inside)
      refine ⟨registration, last, ?_⟩
      rw [isTrusted, last, ← isTrust, ← keyId_of_lastRegistration last]
      rfl
    · rintro ⟨registration, last, isRow⟩
      refine List.mem_map.mpr ⟨(row.keyId, registration.trust), (stored _).mpr ?_, ?_⟩
      · dsimp only
        rw [last]
        rfl
      · dsimp only
        rw [isTrusted, last, isRow]
        rfl

end Registry

/-! ## Accepted grants -/

/-- **What a payload has to meet in a context**, whoever signed it. -/
structure GrantPayload.Meets (payload : GrantPayload) (context : GrantVerificationContext) :
    Prop where
  boundTo : ApprovalGrantVerifier.BoundTo payload context
  resumable : payload.capability ∉ approvalResumptionBlockedCapabilities
  unexpired : Datetime.lt context.now payload.expiresAt = .ok true
  unconsumed : ¬ (payload.oneTime = true ∧ payload.consumedAt.isSome = true)
  channelAllowed : payload.channel = .conversational →
    payload.riskFamily ∉ bannedConversationalRiskFamilies
      ∧ payload.riskFamily ∈ context.allowedConversationalRiskFamilies

/-- A grant is accepted where a trusted signer verifies it and its payload meets the context. -/
theorem ApprovalGrantVerifier.accepts_iff {verifier : ApprovalGrantVerifier}
    {grant : SignedApprovalGrant} {context : GrantVerificationContext} :
    verifier.Accepts grant context ↔
      (∃ signer, verifier.signers grant.payload.signerKeyId = some signer
        ∧ signer grant = .ok true) ∧ grant.payload.Meets context := by
  constructor
  · intro accepts
    exact ⟨accepts.signed, accepts.boundTo, accepts.resumable, accepts.unexpired,
      accepts.unconsumed, accepts.channelAllowed⟩
  · rintro ⟨signed, meets⟩
    refine ⟨signed, ?_, meets.resumable, meets.unexpired, meets.unconsumed, meets.channelAllowed⟩
    have bound := meets.boundTo
    simp only [GrantPayload.comparisons, List.forall_mem_cons, List.not_mem_nil, false_implies,
      forall_const, and_true]
    exact ⟨bound.requestId, bound.sessionId, bound.target, bound.provider, bound.capability,
      bound.paramsFingerprint, bound.riskFamily⟩

/-- **Whose grants are accepted**, after any registrations: a verifier over the registry takes a
grant exactly where the last signer that was registered under its key id is none for development,
unless those are allowed, and signs the payload with this very envelope, and the payload meets the
context. The summary shows the registrations that speak and which of them are trusted. -/
theorem trusted_grants_iff (lib : AuditLibrary) (hmac : List UInt8 → String → String)
    (ascii : AsciiDigests hmac) (allowDevelopment : Bool)
    (registrations : List SignerRegistration) :
    let registry := Lib.final registerStep (.new allowDevelopment) registrations
    let verifier := ApprovalGrantVerifier.fromTrustRegistry lib hmac registry
    (∀ grant context,
      (∃ result, verifier.verify grant context = .ok result ∧ result.valid = true) ↔
        ∃ registration,
          lastRegistration registrations grant.payload.signerKeyId = some registration
            ∧ (registration.development = true → allowDevelopment = true)
            ∧ registration.signer.sign lib hmac grant.payload = .ok grant
            ∧ grant.payload.Meets context)
      ∧ (registry.trustSummary.map SignerTrustRow.keyId).Pairwise (· < ·)
      ∧ ∀ row, row ∈ registry.trustSummary ↔ ∃ registration,
        lastRegistration registrations row.keyId = some registration
          ∧ row = registration.row allowDevelopment := by
  intro registry verifier
  refine ⟨fun grant context => ?_, trustSummary_final allowDevelopment registrations⟩
  obtain ⟨allows, held⟩ :=
    lookup_final_registerStep allowDevelopment registrations grant.payload.signerKeyId
  rw [ApprovalGrantVerifier.verify_valid_iff, ApprovalGrantVerifier.accepts_iff]
  change (∃ signer, (ApprovalGrantVerifier.fromTrustRegistry lib hmac registry).signers _ = _ ∧ _)
    ∧ _ ↔ _
  rw [fromTrustRegistry_signers, held]
  cases last : lastRegistration registrations grant.payload.signerKeyId with
  | none => simp
  | some registration =>
      have trusts : registry.trusts registration.trust = true ↔
          (registration.development = true → allowDevelopment = true) := by
        rw [SignerTrustRegistry.trusts, allows]
        change (!registration.development || allowDevelopment) = true ↔ _
        cases registration.development <;> simp
      have signs : registration.signer.verify lib hmac grant = .ok true ↔ _ :=
        registration.signer.verify_iff_sign ascii grant
      rw [Option.map_some]
      by_cases trusted : registry.trusts registration.trust = true
      · rw [Option.filter_some_pos trusted, Option.map_some]
        constructor
        · rintro ⟨⟨signer, found, verified⟩, meets⟩
          obtain rfl := Option.some.inj found
          exact ⟨registration, rfl, trusts.mp trusted, signs.mp verified, meets⟩
        · rintro ⟨other, same, -, signed, meets⟩
          cases same
          exact ⟨⟨_, rfl, signs.mpr signed⟩, meets⟩
      · rw [Option.filter_some_neg (Bool.eq_false_iff.mpr trusted)]
        constructor
        · rintro ⟨⟨signer, found, -⟩, -⟩
          cases found
        · rintro ⟨other, same, allowed, -⟩
          cases same
          exact absurd (trusts.mpr allowed) trusted

namespace Deployment

/-- Key material as bytes. -/
def keyMaterial (text : String) : List UInt8 := text.toList.map fun c => UInt8.ofNat c.toNat

/-- The canonical text of the operator's grant for the restart. -/
def restartText : String :=
  "\x7b\"capability\":\"power.graceful_restart\",\"channel\":\"host_native\"," ++
  "\"consumed_at\":null,\"expires_at\":\"2026-01-01T00:15:00+00:00\",\"grant_id\":\"grant-1\"," ++
  "\"one_time\":true,\"params_fingerprint\":" ++
  "\"44136fa355b3678a1146ad16f7e8649e94fb4fc21fe77e8310c060f61caaff8a\"," ++
  "\"payload_version\":\"1\",\"policy_constraints\":\x7b\x7d,\"provider\":\"mock\"," ++
  "\"request_id\":\"req-1\",\"risk_family\":\"power\",\"session_id\":\"session-1\"," ++
  "\"signer_key_id\":\"operator-key-1\",\"target\":\"vm-1\"\x7d"

/-- Its digest under the operator's key. -/
def restartDigest : String := "8b5529426713a3a969e4ce2ef64eab073b117e884a71503dadca6d520e8c1d20"

/-- The digests of one message under one key; all others are zeros. -/
def knownDigests (secret : List UInt8) (message : String) : String :=
  if secret = keyMaterial "operator-keychain-material" ∧ message = restartText then restartDigest
  else "0000000000000000000000000000000000000000000000000000000000000000"

theorem knownDigests_ascii : AsciiDigests knownDigests := by
  intro secret message
  unfold knownDigests
  split_ifs
  · decide +kernel
  · decide +kernel

theorem operatorKey_present : "operator-key-1" ≠ "" := by decide

theorem keychain_present : "keychain" ≠ "" := by decide

theorem developmentSecret_present : keyMaterial "agent-readable-dev-secret" ≠ [] := by decide

/-- The operator's key, which is registered for development first and in a keychain then. -/
def operatorSigner : BrokerSigner :=
  .keychain "operator-key-1" operatorKey_present
    ⟨[("operator-key-1", keyMaterial "operator-keychain-material")]⟩ "keychain"

/-- The registrations of the key. -/
def operatorRegistrations : List SignerRegistration :=
  [⟨.development ⟨"operator-key-1", keyMaterial "agent-readable-dev-secret", "hmac-sha256",
      operatorKey_present, developmentSecret_present⟩, true, none⟩,
    ⟨operatorSigner, false, some "keychain"⟩]

theorem restartDigest_present : restartDigest ≠ "" := by decide

/-- The operator's grant for the restart in the keychain's envelope. -/
def keychainGrant : SignedApprovalGrant where
  payload := signedGrant.payload
  signature := restartDigest
  signatureAlgorithm := "keychain"
  signaturePresent := restartDigest_present
  algorithmPresent := keychain_present

/-- The restart the grant is for. -/
def restartContext : GrantVerificationContext :=
  ⟨"req-1", "session-1", "vm-1", "mock", "power.graceful_restart", emptyFingerprint, "power",
    clockAt 0, ["observe", "runtime"]⟩

/-- The keychain signs the grant so. -/
theorem operatorSigner_signs :
    operatorSigner.sign isoLibrary knownDigests keychainGrant.payload = .ok keychainGrant := by
  refine (operatorSigner.verify_iff_sign knownDigests_ascii keychainGrant).mp
    ((operatorSigner.verifies_iff knownDigests_ascii keychainGrant).mpr ⟨rfl, rfl, restartText, ?_⟩)
  have written : keychainGrant.payload.toDict isoLibrary
      = .ok (keychainGrant.payload.entries (.str "2026-01-01T00:15:00+00:00") .null) := rfl
  have text : Lib.Json.dumps
      (.obj (keychainGrant.payload.entries (.str "2026-01-01T00:15:00+00:00") .null))
      = restartText := by
    decide +kernel
  refine ⟨?_, ?_⟩
  · rw [GrantPayload.canonicalPayload_of_toDict written, text]
  · have digest : knownDigests (keyMaterial "operator-keychain-material") restartText
        = restartDigest := if_pos ⟨rfl, rfl⟩
    exact congrArg Except.ok digest

end Deployment

open Deployment in
/-- In production the keychain's grant is accepted for its restart: the development registration of
the same key id no longer speaks. -/
theorem trusted_grants_iff_keychain :
    ∃ result, (ApprovalGrantVerifier.fromTrustRegistry isoLibrary knownDigests
        (Lib.final registerStep (.new false) operatorRegistrations)).verify keychainGrant
        restartContext = .ok result ∧ result.valid = true := by
  refine ((trusted_grants_iff isoLibrary knownDigests knownDigests_ascii false
    operatorRegistrations).1 keychainGrant restartContext).mpr
      ⟨⟨operatorSigner, false, some "keychain"⟩, rfl, ?_, operatorSigner_signs, ?_⟩
  · exact fun development => absurd development Bool.false_ne_true
  · refine ⟨⟨rfl, rfl, rfl, rfl, rfl, rfl, rfl⟩, by decide, rfl, ?_, ?_⟩
    · exact fun consumed => absurd consumed.2 Bool.false_ne_true
    · exact fun conversational => by cases conversational

end AgenticKVM
