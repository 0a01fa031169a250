import AgenticKVM.Clearance
import AgenticKVM.Lib.Lines

/-! # Verification of a clearance

The tower's proof format (`act_proof.py`) and the verifier that compares a response with the request
field by field (`act_client.py`). The message a proof signs is eight lines under a fixed heading, so
equal messages of newline-free fields have equal fields (`buildClearanceProofMessage_inj`);
`verify_valid_iff` lists what the verifier checks. -/

namespace AgenticKVM

open Lib (Json joinLines joinLines_inj except_bind_eq_ok except_ok_bind except_pure)

/-! ## Proofs -/

/-- `ACT_PROOF_ALGORITHM`. -/
def actProofAlgorithm : String := "Ed25519"

/-- `ACT_PROOF_CANONICALIZATION`. -/
def actProofCanonicalization : String := "ACT-CLEARANCE-PROOF-V1"

/-- `ACT_PROOF_FIELD_ORDER`. -/
def actProofFieldOrder : List String :=
  ["approval_id", "params_fingerprint", "short_code", "risk_family", "expires_at", "tower_id",
    "contract_version", "extensions_digest"]

/-- `SUPPORTED_CONTRACT_VERSIONS`. -/
def supportedContractVersions : List String := ["act.clearance.v1", "act.clearance.v2"]

/-- `TowerKeyRegistry`: tower public keys by key id. -/
structure TowerKeyRegistry where
  publicKeyFor : String → Option (List UInt8)

/-- The values of the named fields of the material, in order. -/
def proofLines (material : List (String × String)) : List String → Except PyExc (List String)
  | [] => .ok []
  | name :: rest =>
      match material.lookup name with
      | some value => do return value :: (← proofLines material rest)
      | none => .error (.valueError ("proof material missing field: " ++ name))

/-- `build_clearance_proof_message`: the heading and the signed fields, one a line. -/
def buildClearanceProofMessage (material : List (String × String)) : Except PyExc String := do
  return joinLines (actProofCanonicalization :: (← proofLines material actProofFieldOrder))

/-- The lines are the values of the named fields. -/
theorem lookup_of_proofLines {material : List (String × String)} {names lines : List String}
    (built : proofLines material names = .ok lines) :
    names.map (fun name => material.lookup name) = lines.map some := by
  induction names generalizing lines with
  | nil =>
      cases built
      rfl
  | cons name rest ih =>
      unfold proofLines at built
      cases value : material.lookup name with
      | none =>
          rw [value] at built
          cases built
      | some text =>
          rw [value] at built
          obtain ⟨tail, eq, done⟩ := except_bind_eq_ok.mp built
          cases done
          rw [List.map_cons, List.map_cons, value, ih eq]

/-- A line is the value of a named field. -/
theorem mem_proofLines {material : List (String × String)} {names lines : List String}
    (built : proofLines material names = .ok lines) {value : String} :
    value ∈ lines ↔ ∃ name ∈ names, material.lookup name = some value := by
  have listed : some value ∈ lines.map some ↔ value ∈ lines := by simp
  rw [← listed, ← lookup_of_proofLines built, List.mem_map]

/-- There is one line for each named field. -/
theorem length_proofLines {material : List (String × String)} {names lines : List String}
    (built : proofLines material names = .ok lines) : lines.length = names.length := by
  have same := congrArg List.length (lookup_of_proofLines built)
  rw [List.length_map, List.length_map] at same
  exact same.symm

/-- **The message determines its lines**: materials with one message have the same signed fields,
as soon as the fields of one of them hold no newline. -/
theorem buildClearanceProofMessage_inj {material material' : List (String × String)}
    {lines lines' : List String} (built : proofLines material actProofFieldOrder = .ok lines)
    (built' : proofLines material' actProofFieldOrder = .ok lines')
    (free : ∀ line ∈ lines, '\n' ∉ line.toList)
    (same : buildClearanceProofMessage material = buildClearanceProofMessage material') :
    lines = lines' := by
  simp only [buildClearanceProofMessage, built, built', except_ok_bind, except_pure,
    Except.ok.injEq] at same
  have length : (actProofCanonicalization :: lines).length
      = (actProofCanonicalization :: lines').length := by
    rw [List.length_cons, List.length_cons, length_proofLines built, length_proofLines built']
  refine (List.cons.inj (joinLines_inj length ?_ same)).2
  intro line member
  rcases List.mem_cons.mp member with rfl | member
  exacts [by decide, free line member]

/-- **The fields of a message**: materials with one message agree on every signed field, as soon as
the fields of one of them hold no newline. -/
theorem lookup_of_message {material material' : List (String × String)} {message : String}
    (built : buildClearanceProofMessage material = .ok message)
    (built' : buildClearanceProofMessage material' = .ok message)
    (free : ∀ name ∈ actProofFieldOrder, ∀ value, material.lookup name = some value →
      '\n' ∉ value.toList) :
    ∀ name ∈ actProofFieldOrder,
      ∃ value, material.lookup name = some value ∧ material'.lookup name = some value := by
  obtain ⟨lines, read, -⟩ := except_bind_eq_ok.mp built
  obtain ⟨lines', read', -⟩ := except_bind_eq_ok.mp built'
  have freeLines : ∀ line ∈ lines, '\n' ∉ line.toList := by
    intro line member
    obtain ⟨name, field, eq⟩ := (mem_proofLines read).mp member
    exact free name field line eq
  have same : lines = lines' :=
    buildClearanceProofMessage_inj read read' freeLines (built.trans built'.symm)
  have values : actProofFieldOrder.map (fun name => material.lookup name)
      = actProofFieldOrder.map (fun name => material'.lookup name) := by
    rw [lookup_of_proofLines read, lookup_of_proofLines read', same]
  intro name member
  have equal := List.map_inj_left.mp values name member
  have present : material.lookup name ∈ lines.map some := by
    rw [← lookup_of_proofLines read]
    exact List.mem_map_of_mem member
  obtain ⟨value, -, eq⟩ := List.mem_map.mp present
  exact ⟨value, eq.symm, equal ▸ eq.symm⟩

/-! ## The signed bytes -/

/-- `build_clearance_proof_message` with its last step, the UTF-8 encoding. -/
def clearanceProofBytes (material : List (String × String)) : Except PyExc ByteArray := do
  return (← buildClearanceProofMessage material).toUTF8

/-- **The message is injective where it matters**: a material whose signed fields hold no newline
and any other material give the same bytes only where all eight fields are equal. -/
theorem clearanceProofBytes_binds {material material' : List (String × String)} {bytes : ByteArray}
    (free : ∀ name ∈ actProofFieldOrder, ∀ value, material.lookup name = some value →
      '\n' ∉ value.toList)
    (built : clearanceProofBytes material = .ok bytes)
    (built' : clearanceProofBytes material' = .ok bytes) :
    ∀ name ∈ actProofFieldOrder,
      ∃ value, material.lookup name = some value ∧ material'.lookup name = some value := by
  obtain ⟨message, made, encoded⟩ := except_bind_eq_ok.mp built
  obtain ⟨message', made', encoded'⟩ := except_bind_eq_ok.mp built'
  have bytesEq : message'.toByteArray = message.toByteArray := by
    simpa using (Except.ok.inj encoded').trans (Except.ok.inj encoded).symm
  rw [String.toByteArray_inj.mp bytesEq] at made'
  exact lookup_of_message made made' free

/-- The material of a proof. -/
def Deployment.signedMaterial : List (String × String) :=
  [("approval_id", "approval-1"), ("params_fingerprint", "02CF40"), ("short_code", "02CF403672"),
    ("risk_family", "high_risk"), ("expires_at", "2026-01-01T00:00:00Z"), ("tower_id", "tower-1"),
    ("contract_version", "act.clearance.v2"), ("extensions_digest", "ab12")]

/-- The same fields in another order, with one that is not signed. -/
def Deployment.annotatedMaterial : List (String × String) :=
  ("note", "two\nlines") :: Deployment.signedMaterial.reverse

/-- The two materials give the same bytes, and agree on the tower. -/
theorem clearanceProofBytes_binds_tower :
    ∃ value, Deployment.signedMaterial.lookup "tower_id" = some value ∧
      Deployment.annotatedMaterial.lookup "tower_id" = some value := by
  let message := joinLines [actProofCanonicalization, "approval-1", "02CF40", "02CF403672",
    "high_risk", "2026-01-01T00:00:00Z", "tower-1", "act.clearance.v2", "ab12"]
  have made : buildClearanceProofMessage Deployment.signedMaterial = .ok message := by decide
  have made' : buildClearanceProofMessage Deployment.annotatedMaterial
      = buildClearanceProofMessage Deployment.signedMaterial := by
    decide
  have free : ∀ name ∈ actProofFieldOrder, ∀ value,
      Deployment.signedMaterial.lookup name = some value → '\n' ∉ value.toList := by
    decide
  have signed : clearanceProofBytes Deployment.signedMaterial = .ok message.toUTF8 := by
    rw [clearanceProofBytes, made]
    rfl
  refine clearanceProofBytes_binds free signed ?_ "tower_id" (by decide)
  rw [clearanceProofBytes, made', made]
  rfl

/-- Whether a JSON value is the given text. -/
def isText (value : Json) (text : String) : Bool :=
  match value with
  | .str s => s = text
  | _ => false

@[simp] theorem isText_iff {value : Json} {text : String} :
    isText value text = true ↔ value = .str text := by
  cases value <;> simp [isText]

/-- `tuple(value)`: the items of a list, the keys of an object, the characters of a text. -/
def jsonTuple : Json → Option (List Json)
  | .list items => some items
  | .obj entries => some (entries.map fun entry => .str entry.1)
  | .str s => some (s.toList.map fun c => .str (String.ofList [c]))
  | _ => none

/-- Whether JSON values are exactly the given texts. -/
def areTexts : List Json → List String → Bool
  | [], [] => true
  | value :: values, text :: texts => isText value text && areTexts values texts
  | _, _ => false

/-- `decode_b64url`: base64 with its padding restored. -/
def decodeB64url (std : Stdlib) (value : String) : Option (List UInt8) :=
  let padding := (4 - value.toList.length % 4) % 4
  std.urlsafeB64decode (value ++ String.ofList (List.replicate padding '='))

/-- `verify_clearance_proof`. It fails closed: what would raise inside is a refusal. -/
def verifyClearanceProof (std : Stdlib) (material : List (String × String))
    (proof : List (String × Json)) (registry : TowerKeyRegistry) : Bool :=
  isText (jsonGet proof "algorithm") actProofAlgorithm
  && isText (jsonGet proof "canonicalization") actProofCanonicalization
  && ((material.lookup "contract_version").any fun version =>
    version ∈ supportedContractVersions)
  && (match jsonGet proof "fields" with
    | .null => true
    | fields => (jsonTuple fields).any fun items => areTexts items actProofFieldOrder)
  && (match jsonGet proof "extensions_digest" with
    | .null => true
    | digest => (material.lookup "extensions_digest").any (isText digest))
  && (match jsonGet proof "key_id", jsonGet proof "signature" with
    | .str keyId, .str signature =>
        match registry.publicKeyFor keyId with
        | none => false
        | some publicKey =>
            match buildClearanceProofMessage material, decodeB64url std signature with
            | .ok message, some decoded => std.ed25519Verify publicKey message decoded
            | _, _ => false
    | _, _ => false)

/-- A verified proof names a registered key, under which its signature verifies over the message
of the material. -/
theorem verifyClearanceProof_signed {std : Stdlib} {material : List (String × String)}
    {proof : List (String × Json)} {registry : TowerKeyRegistry}
    (verified : verifyClearanceProof std material proof registry = true) :
    ∃ keyId signature publicKey message decoded,
      jsonGet proof "key_id" = .str keyId ∧ jsonGet proof "signature" = .str signature ∧
      registry.publicKeyFor keyId = some publicKey ∧
      buildClearanceProofMessage material = .ok message ∧
      decodeB64url std signature = some decoded ∧
      std.ed25519Verify publicKey message decoded = true := by
  simp only [verifyClearanceProof, Bool.and_eq_true] at verified
  obtain ⟨-, signed⟩ := verified
  split at signed
  · next keyId signature keyEq signatureEq =>
      split at signed
      · cases signed
      · next publicKey registered =>
          split at signed
          · next message decoded messageEq decodedEq =>
              exact ⟨keyId, signature, publicKey, message, decoded, keyEq, signatureEq, registered,
                messageEq, decodedEq, signed⟩
          · cases signed
  · cases signed

/-! ## The verifier -/

/-- `ClearanceProofVerifier`: the seam a response's proof is checked through, and whether it is the
test-only `MockACTProofVerifier`. -/
structure ClearanceProofVerifier where
  isMock : Bool
  verifyProof : ClearanceRequest → ClearanceResponse → Except PyExc Bool

/-- `MockACTProofVerifier`: accepts the marker that mock responses carry. -/
def mockACTProofVerifier : ClearanceProofVerifier :=
  ⟨true, fun _ response => .ok (response.proof.any fun proof =>
    !proof.isEmpty && isText (jsonGet proof "mock_act_proof") "verified")⟩

/-- `ACTClearanceProofVerifier`: verifies the proof over the strings the response preserved. -/
def actClearanceProofVerifier (std : Stdlib) (registry : TowerKeyRegistry) :
    ClearanceProofVerifier :=
  ⟨false, fun _ response => .ok
    (match response.proof, response.boundMaterial with
    | some proof, some material =>
        !proof.isEmpty && !material.isEmpty && verifyClearanceProof std material proof registry
    | _, _ => false)⟩

/-- `ClearanceVerificationResult`. -/
structure ClearanceVerificationResult where
  valid : Bool
  status : ClearanceStatus
  reason : String
  towerId : Json
  requestId : String

/-- `ACTClearanceVerifier`: the tower a client trusts and how it checks proofs. -/
structure ACTClearanceVerifier where
  towerId : String
  proofVerifier : ClearanceProofVerifier
  testMode : Bool

namespace ACTClearanceVerifier

/-- A refusal of a response. -/
def refusal (response : ClearanceResponse) (status : ClearanceStatus) (reason : String) :
    ClearanceVerificationResult :=
  ⟨false, status, reason, response.towerId, response.requestId⟩

/-- The compared fields of a response beside the request's, in the order they are compared. A risk
family is compared where the tower echoed one of the aircraft's labels. -/
def checks (request : ClearanceRequest) (response : ClearanceResponse) :
    List (String × String × String) :=
  [("request_id", response.requestId, request.requestId),
    ("session_id", response.sessionId, request.sessionId),
    ("target", response.target, request.target),
    ("provider", response.provider, request.provider),
    ("capability", response.capability, request.capability),
    ("params_fingerprint", response.paramsFingerprint, request.paramsFingerprint),
    ("short_code", response.shortCode, request.shortCode),
    ("audit_correlation_id", response.auditCorrelationId, request.auditCorrelationId)]
  ++ if response.riskFamily ∈ aircraftRiskFamilies then
    [("risk_family", response.riskFamily.value, request.riskSummary.riskFamily.value)]
  else []

/-- `ACTClearanceVerifier.verify`. -/
def verify (std : Stdlib) (verifier : ACTClearanceVerifier) (request : ClearanceRequest)
    (response : ClearanceResponse) (now : Datetime) :
    Except PyExc ClearanceVerificationResult :=
  if response.status ≠ .cleared then
    .ok (refusal response response.status
      (if response.reason = "" then "clearance is not cleared" else response.reason))
  else if ¬ isText response.towerId verifier.towerId then
    .ok (refusal response .verificationFailed "tower identity mismatch")
  else match firstMismatch (checks request response) with
  | some mismatch => .ok (refusal response .verificationFailed (mismatch ++ " mismatch"))
  | none =>
    match response.expiresAt with
    | none => .ok (refusal response .verificationFailed "clearance expiry is required")
    | some expiresAt => do
      let nowUtc ← now.astimezoneUtc std
      let expiryUtc ← expiresAt.astimezoneUtc std
      if ← Datetime.ge nowUtc expiryUtc then
        return refusal response .expired "clearance expired"
      if response.proof = none then
        return refusal response .verificationFailed "ACT clearance proof is required"
      if ¬ verifier.testMode ∧ verifier.proofVerifier.isMock then
        return refusal response .verificationFailed "mock ACT proof verifier is test-only"
      if ¬ (← verifier.proofVerifier.verifyProof request response) then
        return refusal response .verificationFailed "ACT clearance proof verification failed"
      return ⟨true, .cleared, "ACT clearance verified", response.towerId, response.requestId⟩

/-- The expiry of a response lies after a time, both taken in UTC. -/
def UnexpiredAt (std : Stdlib) (response : ClearanceResponse) (now : Datetime) : Prop :=
  ∃ expiresAt nowUtc expiryUtc, response.expiresAt = some expiresAt ∧
    now.astimezoneUtc std = .ok nowUtc ∧ expiresAt.astimezoneUtc std = .ok expiryUtc ∧
    Datetime.lt nowUtc expiryUtc = .ok true

/-- What a response has to meet: a clearance of the trusted tower for exactly this request, an
expiry that lies ahead, and a proof that its verifier accepts, which is no mock outside of tests. -/
structure Accepts (std : Stdlib) (verifier : ACTClearanceVerifier) (request : ClearanceRequest)
    (response : ClearanceResponse) (now : Datetime) : Prop where
  cleared : response.status = .cleared
  tower : response.towerId = .str verifier.towerId
  bound : ∀ entry ∈ checks request response, entry.2.1 = entry.2.2
  unexpired : UnexpiredAt std response now
  proofPresent : response.proof ≠ none
  notMock : ¬ (¬ verifier.testMode = true ∧ verifier.proofVerifier.isMock = true)
  proofVerified : verifier.proofVerifier.verifyProof request response = .ok true

/-- A response names the fields of a request. -/
structure Matches (request : ClearanceRequest) (response : ClearanceResponse) : Prop where
  requestId : response.requestId = request.requestId
  sessionId : response.sessionId = request.sessionId
  target : response.target = request.target
  provider : response.provider = request.provider
  capability : response.capability = request.capability
  paramsFingerprint : response.paramsFingerprint = request.paramsFingerprint
  shortCode : response.shortCode = request.shortCode
  auditCorrelationId : response.auditCorrelationId = request.auditCorrelationId

variable {std : Stdlib} {verifier : ACTClearanceVerifier} {request : ClearanceRequest}
  {response : ClearanceResponse} {now : Datetime}

/-- An accepted response matches its request. -/
theorem Accepts.matches (accepts : verifier.Accepts std request response now) :
    Matches request response := by
  have bound := accepts.bound
  simp only [checks, List.forall_mem_append, List.forall_mem_cons, List.not_mem_nil,
    false_implies, forall_const, and_true] at bound
  obtain ⟨⟨requestId, sessionId, target, provider, capability, paramsFingerprint, shortCode,
    auditCorrelationId⟩, -⟩ := bound
  exact ⟨requestId, sessionId, target, provider, capability, paramsFingerprint, shortCode,
    auditCorrelationId⟩

/-- A valid result is reached through every check. -/
theorem accepts_of_verify {result : ClearanceVerificationResult}
    (verified : verifier.verify std request response now = .ok result)
    (valid : result.valid = true) : verifier.Accepts std request response now := by
  unfold verify at verified
  split at verified
  · cases verified
    cases valid
  next cleared =>
  split at verified
  · cases verified
    cases valid
  next tower =>
  cases mismatch : firstMismatch (checks request response) with
  | some name =>
      rw [mismatch] at verified
      cases verified
      cases valid
  | none =>
  cases expiry : response.expiresAt with
  | none =>
      rw [mismatch, expiry] at verified
      cases verified
      cases valid
  | some expiresAt =>
      rw [mismatch, expiry] at verified
      obtain ⟨nowUtc, nowEq, verified⟩ := except_bind_eq_ok.mp verified
      obtain ⟨expiryUtc, expiryEq, verified⟩ := except_bind_eq_ok.mp verified
      obtain ⟨late, order, verified⟩ := except_bind_eq_ok.mp verified
      cases late with
      | true =>
          cases verified
          cases valid
      | false =>
          simp only [Bool.false_eq_true, if_false] at verified
          split at verified
          · cases verified
            cases valid
          next proofPresent =>
          split at verified
          · cases verified
            cases valid
          next notMock =>
          obtain ⟨accepted, proof, verified⟩ := except_bind_eq_ok.mp verified
          cases accepted with
          | false =>
              cases verified
              cases valid
          | true =>
              exact
                { cleared := not_not.mp cleared
                  tower := isText_iff.mp (not_not.mp tower)
                  bound := firstMismatch_eq_none.mp mismatch
                  unexpired := ⟨expiresAt, nowUtc, expiryUtc, expiry, nowEq, expiryEq,
                    Datetime.ge_eq_false.mp order⟩
                  proofPresent
                  notMock
                  proofVerified := proof }

/-- Where every check is met, the result is valid. -/
theorem Accepts.verify_eq (accepts : verifier.Accepts std request response now) :
    verifier.verify std request response now
      = .ok ⟨true, .cleared, "ACT clearance verified", response.towerId, response.requestId⟩ := by
  obtain ⟨expiresAt, nowUtc, expiryUtc, expiry, nowEq, expiryEq, order⟩ := accepts.unexpired
  have tower := isText_iff.mpr accepts.tower
  have mismatch := firstMismatch_eq_none.mpr accepts.bound
  have early := Datetime.ge_eq_false.mpr order
  simp only [verify, accepts.cleared, tower, mismatch, expiry, nowEq, expiryEq, early,
    accepts.proofPresent, accepts.notMock, accepts.proofVerified, ne_eq, not_true, if_false,
    except_ok_bind, except_pure, Bool.false_eq_true]

/-- The expiry of an accepted response has its place in UTC: the verifier compared it there. -/
theorem Accepts.expiryInUtc (accepts : verifier.Accepts std request response now) :
    ∃ written, response.expiryInUtc std = .ok written := by
  obtain ⟨expiresAt, nowUtc, expiryUtc, expiry, -, expiryEq, -⟩ := accepts.unexpired
  refine ⟨some expiryUtc, ?_⟩
  rw [ClearanceResponse.expiryInUtc, expiry]
  exact except_bind_eq_ok.mpr ⟨expiryUtc, expiryEq, rfl⟩

/-- **Acceptance**: the verifier's result is valid exactly when every check is met. -/
theorem verify_valid_iff :
    (∃ result, verifier.verify std request response now = .ok result ∧ result.valid = true) ↔
      verifier.Accepts std request response now := by
  constructor
  · rintro ⟨result, verified, valid⟩
    exact accepts_of_verify verified valid
  · exact fun accepts => ⟨_, accepts.verify_eq, rfl⟩

end ACTClearanceVerifier

end AgenticKVM
