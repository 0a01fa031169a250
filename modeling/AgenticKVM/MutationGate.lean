import AgenticKVM.ClearanceBinding
import AgenticKVM.Redaction

/-! # Mutation handles

The verified handles that gate every mutating transport (`providers/mutation_gate.py`). A handle is
issued for a response the verifier accepts and is consumed from a ledger by the one call it is spent
on. `requireVerifiedMutationClearance_eq_ok` lists what a call has to meet, and
`handle_binds_parameters` says which parameters a handle can be spent on. -/

namespace AgenticKVM

open Lib (Json except_bind_eq_ok except_ok_bind)

/-- `ProviderMutationBlockedError`. -/
def mutationBlocked (message : String) : PyExc := .other "ProviderMutationBlockedError" message

/-- `_REFUSED_CAPABILITY_PREFIXES`. -/
def refusedCapabilityPrefixes : List String := ["observe."]

/-- `_REFUSED_CAPABILITY_IDS`. -/
def refusedCapabilityIds : List String := ["provider.status"]

/-! ## Handles -/

/-- Who constructs a handle: the holder of the module's issuance token, or anybody else. -/
inductive Issuer
  | issuerToken
  | other
deriving DecidableEq

/-- The fields of a handle. -/
structure MutationClearanceFields where
  requestId : String
  capability : String
  target : String
  provider : String
  paramsFingerprint : String
  riskFamily : String
  expiresAt : Datetime
  towerId : Json
  issuedAt : Datetime
  issuer : Issuer

/-- The fields a handle must have. -/
def MutationClearanceFields.required (fields : MutationClearanceFields) : List String :=
  [fields.requestId, fields.capability, fields.target, fields.provider, fields.paramsFingerprint,
    fields.riskFamily]

/-- `VerifiedMutationClearance`: a handle, which only the issuer constructs. -/
structure VerifiedMutationClearance extends MutationClearanceFields where
  issued : issuer = .issuerToken
  complete : ∀ value ∈ toMutationClearanceFields.required, value ≠ ""
  aware : expiresAt.aware = true ∧ issuedAt.aware = true

/-- `VerifiedMutationClearance.__post_init__`. -/
def MutationClearanceFields.postInit (fields : MutationClearanceFields) :
    Except PyExc VerifiedMutationClearance :=
  if issued : fields.issuer = .issuerToken then
    if complete : ∀ value ∈ fields.required, value ≠ "" then
      if aware : fields.expiresAt.aware = true ∧ fields.issuedAt.aware = true then
        .ok ⟨fields, issued, complete, aware⟩
      else .error (mutationBlocked "mutation clearance timestamps must be timezone-aware")
    else .error (mutationBlocked "mutation clearance handle is missing required bound fields")
  else .error (mutationBlocked
    "mutation clearance handles can only be issued through verified clearance issuance")

/-- A constructed handle has the fields it was given. -/
theorem MutationClearanceFields.postInit_ok {fields : MutationClearanceFields}
    {handle : VerifiedMutationClearance} (built : fields.postInit = .ok handle) :
    handle.toMutationClearanceFields = fields := by
  unfold postInit at built
  split_ifs at built
  cases built
  rfl

/-- The fields of a handle make that handle. -/
theorem VerifiedMutationClearance.postInit_eq (handle : VerifiedMutationClearance) :
    handle.postInit = .ok handle := by
  rw [MutationClearanceFields.postInit, dif_pos handle.issued, dif_pos handle.complete,
    dif_pos handle.aware]

/-- What is passed as a clearance: a handle, or an object that is none. -/
inductive ClearanceObject
  | handle (clearance : VerifiedMutationClearance)
  | other

/-! ## The ledger -/

/-- `MutationClearanceLedger`: the ids of the consumed handles. -/
structure MutationClearanceLedger where
  consumed : List String

variable (std : Stdlib)

/-- `now.astimezone(UTC) >= expires_at.astimezone(UTC)`. -/
def expiredAt (expiresAt now : Datetime) : Except PyExc Bool := do
  let nowUtc ← now.astimezoneUtc std
  let expiryUtc ← expiresAt.astimezoneUtc std
  Datetime.ge nowUtc expiryUtc

/-- `MutationClearanceLedger.consume`. -/
def MutationClearanceLedger.consume (ledger : MutationClearanceLedger)
    (clearance : ClearanceObject) (now : Option Datetime) :
    Except PyExc MutationClearanceLedger :=
  match clearance, now with
  | .other, _ => .error (mutationBlocked
      "mutating operations require a verified mutation clearance handle")
  | .handle _, none => .error (mutationBlocked
      "mutation clearance consumption requires the current time")
  | .handle handle, some now => do
      let expired ← expiredAt std handle.expiresAt now
      raiseIf (expired = true) (mutationBlocked "mutation clearance expired")
      raiseIf (handle.requestId ∈ ledger.consumed)
        (mutationBlocked "mutation clearance replay refused; handles are single-use")
      return ⟨ledger.consumed ++ [handle.requestId]⟩

/-! ## Issuance -/

/-- The fingerprint a handle is bound to: the one of the parameters it is issued with or, without
any, the one of the response. -/
def boundParamsFingerprint (response : ClearanceResponse) :
    Option Params → Except PyExc String
  | some parameters => fingerprintParameters std parameters
  | none => .ok response.paramsFingerprint

/-- `issue_verified_mutation_clearance`. -/
def issueVerifiedMutationClearance (request : Option ClearanceRequest)
    (response : Option ClearanceResponse) (verifier : Option ACTClearanceVerifier)
    (now : Datetime) (parameters : Option Params) : Except PyExc VerifiedMutationClearance :=
  match request, response, verifier with
  | some request, some response, some verifier => do
      let verification ← verifier.verify std request response now
      raiseIf (verification.valid = false) (mutationBlocked
        ("mutating transport refused clearance: " ++
          if verification.reason = "" then "clearance verification failed"
          else verification.reason))
      raiseIf (response.proof = none)
        (mutationBlocked "mutating transport refused clearance: ACT proof is required")
      match response.expiresAt with
      | none => .error (mutationBlocked "mutating transport refused clearance: expiry is required")
      | some expiresAt => do
          raiseIf (refusedCapabilityPrefixes.any (startsWith response.capability) ∨
              response.capability ∈ refusedCapabilityIds)
            (mutationBlocked "mutation clearance cannot be issued for observe capabilities")
          let paramsFingerprint ← boundParamsFingerprint std response parameters
          let issuedAt ← now.astimezoneUtc std
          MutationClearanceFields.postInit
            { requestId := response.requestId
              capability := response.capability
              target := response.target
              provider := response.provider
              paramsFingerprint
              riskFamily := response.riskFamily.value
              expiresAt
              towerId := response.towerId
              issuedAt
              issuer := .issuerToken }
  | some _, some _, none => .error (mutationBlocked
      "mutation clearance issuance requires a configured ACT clearance verifier")
  | _, _, _ => .error (mutationBlocked
      "mutation clearance issuance requires the clearance request and response")

/-! ## Actuation -/

/-- What a mutating call is about to do. -/
structure MutationBinding where
  capability : String
  parameters : Params
  target : String
  provider : String

/-- `require_verified_mutation_clearance`: the accepted handle, and the ledger that has consumed
it. -/
def requireVerifiedMutationClearance (clearance : ClearanceObject) (binding : MutationBinding)
    (now : Datetime) (ledger : MutationClearanceLedger) :
    Except PyExc (VerifiedMutationClearance × MutationClearanceLedger) :=
  match clearance with
  | .other => .error (mutationBlocked
      "mutating operations require a verified mutation clearance handle")
  | .handle handle => do
      raiseIf (handle.capability ≠ binding.capability)
        (mutationBlocked "mutation clearance capability mismatch")
      raiseIf (handle.target ≠ binding.target)
        (mutationBlocked "mutation clearance target mismatch")
      raiseIf (handle.provider ≠ binding.provider)
        (mutationBlocked "mutation clearance provider mismatch")
      let fingerprint ← fingerprintParameters std binding.parameters
      raiseIf (fingerprint ≠ handle.paramsFingerprint)
        (mutationBlocked "mutation clearance params fingerprint mismatch")
      let expired ← expiredAt std handle.expiresAt now
      raiseIf (expired = true) (mutationBlocked "mutation clearance expired")
      let ledger ← ledger.consume std (.handle handle) (some now)
      return (handle, ledger)

/-- **What a call has to meet**: a handle for exactly this action, whose expiry lies ahead and which
the ledger has not consumed. -/
structure Permits (handle : VerifiedMutationClearance) (binding : MutationBinding)
    (now : Datetime) (ledger : MutationClearanceLedger) : Prop where
  capability : handle.capability = binding.capability
  target : handle.target = binding.target
  provider : handle.provider = binding.provider
  fingerprint : fingerprintParameters std binding.parameters = .ok handle.paramsFingerprint
  unexpired : expiredAt std handle.expiresAt now = .ok false
  unused : handle.requestId ∉ ledger.consumed

variable {std}

/-- The ledger consumes a handle that has not expired and that it has not consumed. -/
theorem MutationClearanceLedger.consume_eq_ok {ledger after : MutationClearanceLedger}
    {handle : VerifiedMutationClearance} {now : Datetime} :
    ledger.consume std (.handle handle) (some now) = .ok after ↔
      expiredAt std handle.expiresAt now = .ok false ∧ handle.requestId ∉ ledger.consumed ∧
        after = ⟨ledger.consumed ++ [handle.requestId]⟩ := by
  constructor
  · intro consumed
    obtain ⟨expired, clock, consumed⟩ := except_bind_eq_ok.mp consumed
    obtain ⟨_, ahead, consumed⟩ := except_bind_eq_ok.mp consumed
    obtain ⟨_, unused, consumed⟩ := except_bind_eq_ok.mp consumed
    cases consumed
    rw [raiseIf_eq_ok, Bool.not_eq_true] at ahead
    rw [raiseIf_eq_ok] at unused
    rw [ahead] at clock
    exact ⟨clock, unused, rfl⟩
  · rintro ⟨clock, unused, rfl⟩
    rw [consume, clock, except_ok_bind, raiseIf_of_not Bool.false_ne_true, except_ok_bind,
      raiseIf_of_not unused, except_ok_bind]
    rfl

/-- **The gate**: a call goes through exactly with a handle that permits it, which is then
consumed. -/
theorem requireVerifiedMutationClearance_eq_ok {clearance : ClearanceObject}
    {binding : MutationBinding} {now : Datetime} {ledger after : MutationClearanceLedger}
    {handle : VerifiedMutationClearance} :
    requireVerifiedMutationClearance std clearance binding now ledger = .ok (handle, after) ↔
      clearance = .handle handle ∧ Permits std handle binding now ledger ∧
        after = ⟨ledger.consumed ++ [handle.requestId]⟩ := by
  constructor
  · intro passed
    cases clearance with
    | other => cases passed
    | handle presented =>
        obtain ⟨_, capability, passed⟩ := except_bind_eq_ok.mp passed
        obtain ⟨_, target, passed⟩ := except_bind_eq_ok.mp passed
        obtain ⟨_, provider, passed⟩ := except_bind_eq_ok.mp passed
        obtain ⟨fingerprint, hashed, passed⟩ := except_bind_eq_ok.mp passed
        obtain ⟨_, parity, passed⟩ := except_bind_eq_ok.mp passed
        obtain ⟨expired, clock, passed⟩ := except_bind_eq_ok.mp passed
        obtain ⟨_, ahead, passed⟩ := except_bind_eq_ok.mp passed
        obtain ⟨spent, consumed, passed⟩ := except_bind_eq_ok.mp passed
        cases passed
        rw [raiseIf_eq_ok, not_not] at capability target provider parity
        obtain ⟨unexpired, unused, rfl⟩ := MutationClearanceLedger.consume_eq_ok.mp consumed
        exact ⟨rfl, ⟨capability, target, provider, parity ▸ hashed, unexpired, unused⟩, rfl⟩
  · rintro ⟨rfl, permits, rfl⟩
    have consumed := MutationClearanceLedger.consume_eq_ok.mpr
      ⟨permits.unexpired, permits.unused, rfl⟩
    rw [requireVerifiedMutationClearance, raiseIf_of_not (not_not.mpr permits.capability),
      except_ok_bind, raiseIf_of_not (not_not.mpr permits.target), except_ok_bind,
      raiseIf_of_not (not_not.mpr permits.provider), except_ok_bind, permits.fingerprint,
      except_ok_bind, raiseIf_of_not (not_not.mpr rfl), except_ok_bind, permits.unexpired,
      except_ok_bind, raiseIf_of_not Bool.false_ne_true, except_ok_bind, consumed, except_ok_bind]
    rfl

/-- A handle is issued for a response that its verifier accepts for the request, with the
fingerprint of the parameters it is issued with or else the one of the response. -/
theorem issueVerifiedMutationClearance_ok {request : ClearanceRequest}
    {response : ClearanceResponse} {verifier : Option ACTClearanceVerifier} {now : Datetime}
    {parameters : Option Params} {handle : VerifiedMutationClearance}
    (issued : issueVerifiedMutationClearance std (some request) (some response) verifier now
      parameters = .ok handle) :
    (∃ verifier, ACTClearanceVerifier.Accepts std verifier request response now) ∧
      boundParamsFingerprint std response parameters = .ok handle.paramsFingerprint := by
  cases verifier with
  | none => cases issued
  | some verifier =>
      obtain ⟨verification, verified, issued⟩ := except_bind_eq_ok.mp issued
      obtain ⟨_, valid, issued⟩ := except_bind_eq_ok.mp issued
      obtain ⟨_, -, issued⟩ := except_bind_eq_ok.mp issued
      rw [raiseIf_eq_ok, Bool.not_eq_false] at valid
      have accepts := ACTClearanceVerifier.accepts_of_verify verified valid
      cases expiry : response.expiresAt with
      | none =>
          rw [expiry] at issued
          cases issued
      | some expiresAt =>
          rw [expiry] at issued
          obtain ⟨_, -, issued⟩ := except_bind_eq_ok.mp issued
          obtain ⟨fingerprint, bound, issued⟩ := except_bind_eq_ok.mp issued
          obtain ⟨_, -, issued⟩ := except_bind_eq_ok.mp issued
          have fields := MutationClearanceFields.postInit_ok issued
          refine ⟨⟨verifier, accepts⟩, ?_⟩
          rw [fields]
          exact bound

/-! ## Bound parameters -/

/-- Parameters that stand for the same JSON value. -/
def SameJson (p q : Params) : Prop :=
  ∃ v w, normalize (.dict p) = .ok v ∧ normalize (.dict q) = .ok w ∧ Json.norm v = Json.norm w

/-- Under a hash without collisions, parameters with one fingerprint stand for one JSON value. -/
theorem sameJson_of_fingerprint (injective : Function.Injective std.sha256) {p q : Params}
    {fingerprint : String} (left : fingerprintParameters std p = .ok fingerprint)
    (right : fingerprintParameters std q = .ok fingerprint) : SameJson p q := by
  have read (r : Params) (hashed : fingerprintParameters std r = .ok fingerprint) :
      ∃ v, normalize (.dict r) = .ok v ∧ std.sha256 (Json.dumps v) = fingerprint := by
    obtain ⟨text, canonical, hashed⟩ := except_bind_eq_ok.mp hashed
    obtain ⟨v, normal, canonical⟩ := except_bind_eq_ok.mp canonical
    cases canonical
    cases hashed
    exact ⟨v, normal, rfl⟩
  obtain ⟨v, normal, hash⟩ := read p left
  obtain ⟨w, normal', hash'⟩ := read q right
  have text : Json.dumps v = Json.dumps w := injective (hash.trans hash'.symm)
  exact ⟨v, w, normal, normal', (Json.dumps_eq_iff v w).mp text⟩

/-- **Bound parameters**: in the local fingerprint mode a handle issued for a response that was
verified for a request passes the gate for one JSON value only: the parameters it was issued with
or, where it was issued without any, the parameters the request was built from. -/
theorem handle_binds_parameters (injective : Function.Injective std.sha256)
    {inputs : ClearanceInputs} {id : String} {request : ClearanceRequest}
    {response : ClearanceResponse} {verifier : Option ACTClearanceVerifier}
    {issuedAt now : Datetime} {parameters : Option Params} {handle : VerifiedMutationClearance}
    {binding : MutationBinding} {ledger : MutationClearanceLedger}
    {passed : VerifiedMutationClearance × MutationClearanceLedger}
    (localMode : inputs.actParity = false)
    (built : buildClearanceRequest std inputs id = .ok request)
    (issued : issueVerifiedMutationClearance std (some request) (some response) verifier issuedAt
      parameters = .ok handle)
    (required : requireVerifiedMutationClearance std (.handle handle) binding now ledger
      = .ok passed) :
    SameJson binding.parameters (parameters.getD inputs.parameters) := by
  obtain ⟨⟨trusted, accepts⟩, bound⟩ := issueVerifiedMutationClearance_ok issued
  obtain ⟨same, permits, -⟩ := requireVerifiedMutationClearance_eq_ok.mp required
  cases same
  refine sameJson_of_fingerprint injective permits.fingerprint ?_
  cases parameters with
  | some parameters => exact bound
  | none =>
      have approved := fingerprint_of_accepts built accepts
      rw [ClearanceInputs.fingerprint, localMode, if_neg Bool.false_ne_true] at approved
      rw [boundParamsFingerprint, Except.ok.injEq] at bound
      rw [← bound]
      exact approved

namespace Deployment

/-- The handle that is issued for the mock approval with a bound fingerprint. -/
def mutationHandle (paramsFingerprint : String) (present : paramsFingerprint ≠ "") :
    VerifiedMutationClearance where
  requestId := "req-1"
  capability := "secrets.raw_reveal"
  target := "vm-1"
  provider := "mock"
  paramsFingerprint := paramsFingerprint
  riskFamily := "high_risk"
  expiresAt := clockAt 15
  towerId := .str "act-local"
  issuedAt := clockAt 0
  issuer := .issuerToken
  issued := rfl
  complete := by simp [MutationClearanceFields.required, present]
  aware := ⟨rfl, rfl⟩

/-- It is issued with whatever parameters the caller names. -/
theorem mutationHandle_issued {parameters : Option Params} {paramsFingerprint : String}
    (present : paramsFingerprint ≠ "")
    (bound : boundParamsFingerprint fieldLibrary mockResponse parameters = .ok paramsFingerprint) :
    issueVerifiedMutationClearance fieldLibrary (some localRequest) (some mockResponse)
      (some mockVerifier) (clockAt 0) parameters
      = .ok (mutationHandle paramsFingerprint present) := by
  have proved : mockResponse.proof ≠ none := mockAccepts.proofPresent
  have mutating : ¬ (refusedCapabilityPrefixes.any (startsWith mockResponse.capability) = true ∨
      mockResponse.capability ∈ refusedCapabilityIds) := by decide
  have clock : (clockAt 0).astimezoneUtc fieldLibrary = .ok (clockAt 0) := by decide
  simp only [issueVerifiedMutationClearance, mockAccepts.verify_eq, except_ok_bind,
    raiseIf_of_not (by decide : ¬ true = false), raiseIf_of_not proved,
    show mockResponse.expiresAt = some (clockAt 15) from rfl, raiseIf_of_not mutating, bound, clock]
  exact (mutationHandle paramsFingerprint present).postInit_eq

/-- What the handle is spent on, with parameters. -/
def revealBinding (parameters : Params) : MutationBinding :=
  ⟨"secrets.raw_reveal", parameters, "vm-1", "mock"⟩

/-- It passes the gate for parameters that have its fingerprint. -/
theorem mutationHandle_required {parameters : Params} {paramsFingerprint : String}
    (present : paramsFingerprint ≠ "")
    (bound : fingerprintParameters fieldLibrary parameters = .ok paramsFingerprint) :
    requireVerifiedMutationClearance fieldLibrary
      (.handle (mutationHandle paramsFingerprint present)) (revealBinding parameters) (clockAt 5) ⟨[]⟩
      = .ok (mutationHandle paramsFingerprint present, ⟨["req-1"]⟩) := by
  have ahead : expiredAt fieldLibrary (clockAt 15) (clockAt 5) = .ok false := by decide
  exact requireVerifiedMutationClearance_eq_ok.mpr
    ⟨rfl, ⟨rfl, rfl, rfl, bound, ahead, List.not_mem_nil⟩, rfl⟩

end Deployment

open Deployment in
/-- The handle issued without parameters is spent on the parameters that were approved, in another
order. -/
theorem handle_binds_parameters_approved :
    SameJson (revealBinding (PyValue.ofEntries fieldParametersAgain)).parameters
      (Option.getD none (localInputs fieldParameters).parameters) :=
  have present : fieldFingerprint ≠ "" := by decide
  handle_binds_parameters fieldHashes_injective rfl (localBuilt rfl)
    (mutationHandle_issued present rfl)
    (mutationHandle_required present (fieldFingerprint_of_dumps dumps_fieldParametersAgain))

open Deployment in
/-- Issued with other parameters than the approved ones, a handle in the local mode passes the gate
for those: the operator approved the reveal of a password, and the call names another field. -/
theorem not_handle_binds_approved_parameters :
    Function.Injective fieldLibrary.sha256 ∧ (localInputs fieldParameters).actParity = false ∧
    ∃ request response verifier parameters handle binding passed,
      buildClearanceRequest fieldLibrary (localInputs fieldParameters) "req-1" = .ok request ∧
      issueVerifiedMutationClearance fieldLibrary (some request) (some response)
        (some verifier) (clockAt 0) (some parameters) = .ok handle ∧
      requireVerifiedMutationClearance fieldLibrary (.handle handle) binding
        (clockAt 5) ⟨[]⟩ = .ok passed ∧
      ¬ SameJson binding.parameters (localInputs fieldParameters).parameters := by
  have bound : fingerprintParameters fieldLibrary (PyValue.ofEntries loginParameters)
      = .ok loginFingerprint := by
    rw [fingerprintParameters_ofEntries, sha256_loginParameters]
  have present : loginFingerprint ≠ "" := by decide
  refine ⟨fieldHashes_injective, rfl, _, _, _, _, _, _, _, localBuilt rfl,
    mutationHandle_issued present bound, mutationHandle_required present bound, ?_⟩
  rintro ⟨v, w, left, right, same⟩
  cases left
  cases right
  simp [Json.norm, Json.normEntries, List.insertionSort] at same

end AgenticKVM
