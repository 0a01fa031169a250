import AgenticKVM.TowerClearance

/-! # What a clearance binds

Two properties of pairs of clearance requests. A signature that the tower made for one request is
accepted for another only if both have the same names and the tower has read of the first policy
context what the second is written as; that the policy contexts are the same then holds exactly
where no two different ones are written alike, as none are that are JSON
(`signature_binds_identity_iff`). A response binds the parameters of the action in the local
fingerprint mode only (`clearance_binds_parameters`): in the tower's mode no parameters leave the
aircraft, and a request is built without a look at them. -/

namespace AgenticKVM

open Lib (Json)

/-! ## The tower's signatures -/

/-- The signatures a tower has made with its keys. -/
structure TowerSignatures (std : Stdlib) (registry : TowerKeyRegistry) where
  /-- The tower made the signature over the message, for the request. -/
  Made : List UInt8 → String → ClearanceRequest → Prop
  /-- Under the tower's registered keys its signatures verify on no other message. -/
  verifies : ∀ keyId key signature message message' request,
    Made signature message request → registry.publicKeyFor keyId = some key →
    std.ed25519Verify key message' signature = true → message' = message
  /-- The message is built from newline-free fields, whose fingerprint the tower computed from the
  payload and the extensions it has received. -/
  computed : ∀ signature message request, Made signature message request →
    ∃ material lines extensions, buildClearanceProofMessage material = .ok message ∧
      proofLines material actProofFieldOrder = .ok lines ∧
      (∀ line ∈ lines, '\n' ∉ line.toList) ∧
      receivedJson (.dict (actRequestExtensions request)) = .ok (.obj extensions) ∧
      material.lookup "params_fingerprint"
        = some (towerFingerprint std [("capability", .str request.capability)] extensions)

variable {std : Stdlib} {registry : TowerKeyRegistry}

/-- A status payload carries, as the signature of its proof, one the tower made for the request. -/
def TowerSignatures.CarriedBy (tower : TowerSignatures std registry)
    (payload : List (String × Json)) (request : ClearanceRequest) : Prop :=
  ∃ proof text signature message, jsonGet payload "proof" = .obj proof ∧
    jsonGet proof "signature" = .str text ∧ decodeB64url std text = some signature ∧
    tower.Made signature message request

/-- Materials with one message have one fingerprint, as soon as the fields of one of them hold no
newline. -/
theorem fingerprint_of_message {material material' : List (String × String)}
    {lines : List String} {message : String}
    (built : buildClearanceProofMessage material = .ok message)
    (read : proofLines material actProofFieldOrder = .ok lines)
    (free : ∀ line ∈ lines, '\n' ∉ line.toList)
    (built' : buildClearanceProofMessage material' = .ok message) :
    material.lookup "params_fingerprint" = material'.lookup "params_fingerprint" := by
  have fieldsFree : ∀ name ∈ actProofFieldOrder, ∀ value, material.lookup name = some value →
      '\n' ∉ value.toList := by
    intro name member value eq
    exact free value ((mem_proofLines read).mpr ⟨name, member, eq⟩)
  obtain ⟨value, eq, eq'⟩ :=
    lookup_of_message built built' fieldsFree "params_fingerprint" (by decide)
  rw [eq, eq']

/-- A payload that approves a request and carries a signature made for another names the
fingerprint the tower computed of what it has received for that one. -/
theorem TowerSignatures.CarriedBy.fingerprint {tower : TowerSignatures std registry}
    {payload : List (String × Json)} {request request' : ClearanceRequest} {towerId : String}
    {now : Datetime} (carried : tower.CarriedBy payload request)
    (approves : Approves std registry towerId request' payload now) :
    ∃ extensions, receivedJson (.dict (actRequestExtensions request)) = .ok (.obj extensions) ∧
      request'.paramsFingerprint
        = towerFingerprint std [("capability", .str request.capability)] extensions := by
  obtain ⟨proof, text, signature, message, proofEq, textEq, decoded, made⟩ := carried
  obtain ⟨_, keyId, _, key, message', _, proofEq', -, textEq', registered, built', decoded',
    verified⟩ := approves.signed
  -- The proof the verifier read is the one that carries the tower's signature.
  cases proofEq.symm.trans proofEq'
  cases textEq.symm.trans textEq'
  cases decoded.symm.trans decoded'
  obtain rfl := tower.verifies keyId key signature message message' request made registered
    verified
  obtain ⟨material, lines, extensions, built, read, free, received, computed⟩ :=
    tower.computed _ _ _ made
  have same := fingerprint_of_message built read free built'
  have bound : (actBoundMaterial std payload proof).lookup "params_fingerprint"
      = some (actText std payload "params_fingerprint") := rfl
  rw [computed, bound] at same
  refine ⟨extensions, received, ?_⟩
  rw [← approves.paramsFingerprint]
  exact (Option.some.inj same).symm

/-- The fingerprint a tower's request is built with is the hash of its own envelope. -/
theorem paramsFingerprint_of_parity {inputs : ClearanceInputs} {id : String}
    {request : ClearanceRequest} (parity : inputs.actParity = true)
    (built : buildClearanceRequest std inputs id = .ok request) :
    ∃ context, jsonSorted std (.dict request.policyContext) = .ok context ∧
      request.paramsFingerprint = std.sha256 (Json.text (envelopeWritten request.target
        request.provider request.capability request.riskSummary.summary context
        request.sessionId)) := by
  have binds := buildClearanceRequest_binds built
  have hash := binds.fingerprint
  rw [ClearanceInputs.fingerprint, if_pos parity] at hash
  obtain ⟨context, written, hashed⟩ := actRequestFingerprint_eq_ok.mp hash
  rw [binds.target, binds.provider, binds.capability, binds.summary, binds.policyContext,
    binds.sessionId]
  exact ⟨context, written, hashed.symm⟩

/-! ## Identities -/

/-- **Two policy contexts are written alike**: what is received of the first is, with its entries
sorted, what is written of the second. -/
def WrittenAlike (std : Stdlib) (context context' : Params) : Prop :=
  ∃ received, receivedJson (.dict context) = .ok received ∧
    jsonSorted std (.dict context') = .ok (Json.norm received)

/-- **JSON contexts that are written alike are the same.** -/
theorem WrittenAlike.same {readFloat : Lib.FloatToken → Lib.FloatToken}
    {context context' : List (String × Json)} (readable : Json.Readable readFloat (.obj context))
    (alike : WrittenAlike std (PyValue.ofEntries context) (PyValue.ofEntries context')) :
    (PyValue.dict (PyValue.ofEntries context)).Same (.dict (PyValue.ofEntries context')) := by
  obtain ⟨received, sent, written⟩ := alike
  cases (receivedJson_ofJson readable).symm.trans sent
  have normal := (jsonSorted_ofJson (.obj context')).symm.trans written
  exact same_of_norm (.obj context) (.obj context') (Except.ok.inj normal).symm

section Approvals

variable (request : ClearanceRequest) (signature expiry : String)

variable {request signature expiry}

end Approvals

namespace Deployment

/-- The hashes of the texts of the two short codes. -/
def codeHash : String := "02cf403672021d3a8846bb5c416b5bb0f63f00b9acf7f87f0ce6e5b00a7a1d13"

def emptyCodeHash : String := "ddcb26723274a809473d4fce3504f363ba5f0ffb4fde47c9e69ab0e9771a35f8"

/-- The text a hash of the deployment is of. -/
def unhash (hash : String) : String :=
  if hash = emptyFingerprint then "\x7b\x7d"
  else if hash = codeHash then "req-1:" ++ fingerprint
  else if hash = emptyCodeHash then "req-1:" ++ emptyFingerprint
  else if hash = fingerprint then envelope
  else String.ofList (hash.toList.drop 10)

/-- The hash of the deployment has no collisions: each text can be read off its hash. -/
theorem sha256_injective : Function.Injective library.sha256 := by
  refine Function.LeftInverse.injective (g := unhash) fun text => ?_
  have apart (hash : String) (start : hash.toList.head? ≠ some 's') :
      "sha256 of " ++ text ≠ hash := by
    rintro rfl
    refine start ?_
    rw [String.toList_append, List.head?_append]
    rfl
  have code : codeHash ≠ emptyFingerprint := by decide +kernel
  have emptyCode : emptyCodeHash ≠ emptyFingerprint ∧ emptyCodeHash ≠ codeHash := by
    decide +kernel
  have known : fingerprint ≠ emptyFingerprint ∧ fingerprint ≠ codeHash ∧
      fingerprint ≠ emptyCodeHash := by decide +kernel
  rw [sha256_eq]
  split_ifs with isEmpty isCode isEmptyCode isEnvelope
  · rw [unhash, if_pos rfl, isEmpty]
  · exact ((if_neg code).trans (if_pos rfl)).trans isCode.symm
  · exact ((if_neg emptyCode.1).trans ((if_neg emptyCode.2).trans (if_pos rfl))).trans
      isEmptyCode.symm
  · rw [unhash, if_neg known.1, if_neg known.2.1, if_neg known.2.2, if_pos rfl, isEnvelope]
  · rw [unhash, if_neg (apart _ (by decide +kernel)), if_neg (apart _ (by decide +kernel)),
      if_neg (apart _ (by decide +kernel)), if_neg (apart _ (by decide +kernel)),
      String.toList_append]
    exact String.ofList_toList

/-- What is looked up is there. -/
theorem mem_of_lookup_eq_some {table : List (String × String)} {key value : String}
    (found : table.lookup key = some value) : (key, value) ∈ table := by
  obtain ⟨before, after, rfl, -⟩ := List.lookup_eq_some_iff.mp found
  exact List.mem_append_right before List.mem_cons_self

/-- Some texts have the hashes of a table, every other text another one. -/
def hashOf (table : List (String × String)) (text : String) : String :=
  (table.lookup text).getD ("sha256 of " ++ text)

/-- The first text of a table has its hash. -/
theorem hashOf_self (text hash : String) (table : List (String × String)) :
    hashOf ((text, hash) :: table) text = hash := by
  rw [hashOf, List.lookup_cons_self, Option.getD_some]

/-- Another text has the hash that the rest of the table gives it. -/
theorem hashOf_other {text other hash : String} (ne : text ≠ other)
    (table : List (String × String)) : hashOf ((other, hash) :: table) text = hashOf table text := by
  rw [hashOf, List.lookup_cons, beq_false_of_ne ne]
  rfl

/-- The text that a short code is of begins like no JSON object. -/
theorem text_ne_code (entries : List (String × Json)) (more : String) :
    Json.text (.obj entries) ≠ "req-1" ++ ":" ++ more := by
  intro same
  have first := congrArg (fun text => text.toList.head?) same
  rw [Json.text, String.toList_ofList, String.append_assoc, String.toList_append,
    List.head?_append_of_ne_nil _ (by decide)] at first
  have opened : (Json.obj entries).render.head? = some '\x7b' := by cases entries <;> rfl
  rw [opened] at first
  exact absurd first (by decide)

/-- Such hashes have no collisions, where those of the table are apart and look different. -/
theorem hashOf_injective {table : List (String × String)} (apart : (table.map Prod.snd).Nodup)
    (digits : ∀ entry ∈ table, entry.2.toList.head? ≠ some 's') :
    Function.Injective (hashOf table) := by
  have other {text hash found : String} (there : table.lookup text = some found) :
      "sha256 of " ++ hash ≠ found := by
    rintro rfl
    refine digits _ (mem_of_lookup_eq_some there) ?_
    rw [String.toList_append, List.head?_append]
    rfl
  intro text text' same
  rw [hashOf, hashOf] at same
  cases found : table.lookup text with
  | none =>
      cases found' : table.lookup text' with
      | none =>
          rw [found, found'] at same
          exact (String.append_right_inj _).mp same
      | some hash' =>
          rw [found, found'] at same
          exact absurd same (other found')
  | some hash =>
      cases found' : table.lookup text' with
      | none =>
          rw [found, found'] at same
          exact absurd same.symm (other found)
      | some hash' =>
          rw [found, found'] at same
          cases same
          exact congrArg Prod.fst (List.inj_on_of_nodup_map apart (mem_of_lookup_eq_some found)
            (mem_of_lookup_eq_some found') rfl)

/-! ### Windows

Requests whose policy contexts name the hours in which they are allowed. -/

end Deployment

/-- The response a verifier accepts names the fingerprint of the inputs its request is built
from. -/
theorem fingerprint_of_accepts {inputs : ClearanceInputs} {id : String}
    {request : ClearanceRequest} {verifier : ACTClearanceVerifier} {response : ClearanceResponse}
    {now : Datetime} (built : buildClearanceRequest std inputs id = .ok request)
    (accepts : verifier.Accepts std request response now) :
    inputs.fingerprint std = .ok response.paramsFingerprint := by
  rw [accepts.matches.paramsFingerprint]
  exact (buildClearanceRequest_binds built).fingerprint

/-- In the local fingerprint mode a response is accepted for the parameters of one action only. -/
theorem params_of_accepts (injective : Function.Injective std.sha256)
    {inputs inputs' : ClearanceInputs} {id id' : String} {request request' : ClearanceRequest}
    {params params' : List (String × Json)} {verifier verifier' : ACTClearanceVerifier}
    {response : ClearanceResponse} {now now' : Datetime}
    (plain : inputs.actParity = false) (plain' : inputs'.actParity = false)
    (parameters : inputs.parameters = PyValue.ofEntries params)
    (parameters' : inputs'.parameters = PyValue.ofEntries params')
    (built : buildClearanceRequest std inputs id = .ok request)
    (built' : buildClearanceRequest std inputs' id' = .ok request')
    (accepts : verifier.Accepts std request response now)
    (accepts' : verifier'.Accepts std request' response now') :
    Json.norm (.obj params) = Json.norm (.obj params') := by
  have hash := fingerprint_of_accepts built accepts
  have hash' := fingerprint_of_accepts built' accepts'
  rw [ClearanceInputs.fingerprint, plain, if_neg Bool.false_ne_true, parameters] at hash
  rw [ClearanceInputs.fingerprint, plain', if_neg Bool.false_ne_true, parameters'] at hash'
  exact (fingerprintParameters_eq_iff std injective params params').mp (hash.trans hash'.symm)

namespace Deployment

/-- Parameters of a request to reveal a secret: a field, and how it is shown. -/
def fieldParameters : List (String × Json) :=
  [("field", .str "password"), ("options", .obj [("mask", .bool false), ("reveal", .int 8)])]

/-- The same, in another order. -/
def fieldParametersAgain : List (String × Json) :=
  [("options", .obj [("reveal", .int 8), ("mask", .bool false)]), ("field", .str "password")]

/-- Another field. -/
def loginParameters : List (String × Json) := [("field", .str "login")]

/-- The fingerprint of the parameters. -/
def fieldFingerprint : String := "a23818e9389ccef4449a612767f494157f40cdab62675e30802e8662c561f4e3"

/-- The fingerprint of the other field. -/
def loginFingerprint : String := "b0cf904af19621c7fd41ab7d5ca8d39df6c4d39c5c0de0ca11a2bc9a7334de59"

/-- The hashes of the texts that occur. -/
def fieldHashes : List (String × String) :=
  [("req-1" ++ ":" ++ fieldFingerprint,
      "b2557435afea47b30555e8724bf34d26c430efa481bdeb181b15ad2ff57da3bf"),
    (Json.dumps (.obj fieldParameters), fieldFingerprint),
    (Json.dumps (.obj loginParameters), loginFingerprint)]

/-- The library with these hashes. -/
def fieldLibrary : Stdlib := { library with sha256 := hashOf fieldHashes }

theorem fieldHashes_injective : Function.Injective fieldLibrary.sha256 := by
  have apart : (fieldHashes.map Prod.snd).Nodup := by
    simp [fieldHashes, fieldFingerprint, loginFingerprint]
  have digits : ∀ entry ∈ fieldHashes, entry.2.toList.head? ≠ some 's' := by
    simp [fieldHashes, fieldFingerprint, loginFingerprint]
  have hash : fieldLibrary.sha256 = hashOf fieldHashes := by rw [fieldLibrary]
  rw [hash]
  exact hashOf_injective apart digits

/-- The hash of the parameters. -/
theorem sha256_fieldParameters :
    fieldLibrary.sha256 (Json.dumps (.obj fieldParameters)) = fieldFingerprint := by
  have hash : fieldLibrary.sha256 = hashOf fieldHashes := by rw [fieldLibrary]
  rw [hash, fieldHashes, hashOf_other, hashOf_self]
  rw [Json.dumps_eq_text, Json.norm_obj]
  exact text_ne_code _ _

/-- The hash of the other field. -/
theorem sha256_loginParameters :
    fieldLibrary.sha256 (Json.dumps (.obj loginParameters)) = loginFingerprint := by
  have hash : fieldLibrary.sha256 = hashOf fieldHashes := by rw [fieldLibrary]
  have apart : Json.dumps (.obj loginParameters) ≠ Json.dumps (.obj fieldParameters) := by
    rw [Ne, Json.dumps_eq_iff]
    simp [loginParameters, fieldParameters, Json.norm, Json.normEntries, List.insertionSort]
  rw [hash, fieldHashes, hashOf_other, hashOf_other apart, hashOf_self]
  rw [Json.dumps_eq_text, Json.norm_obj]
  exact text_ne_code _ _

/-- Both orders are written as one text. -/
theorem dumps_fieldParametersAgain :
    Json.dumps (.obj fieldParametersAgain) = Json.dumps (.obj fieldParameters) := by
  rw [Json.dumps_eq_iff]
  simp [fieldParametersAgain, fieldParameters, Json.norm, Json.normEntries, List.insertionSort,
    List.orderedInsert]

/-- Parameters that are written so have the fingerprint. -/
theorem fieldFingerprint_of_dumps {params : List (String × Json)}
    (text : Json.dumps (.obj params) = Json.dumps (.obj fieldParameters)) :
    fingerprintParameters fieldLibrary (PyValue.ofEntries params) = .ok fieldFingerprint := by
  rw [fingerprintParameters_ofEntries, text, sha256_fieldParameters]

/-- A request to reveal a secret, in the local fingerprint mode. -/
def localInputs (params : List (String × Json)) : ClearanceInputs :=
  { inputs (PyValue.ofEntries params) with actParity := false }

/-- The clearance request it makes. -/
def localRequest : ClearanceRequest where
  toClearanceRequestFields := { clearanceRequest.toClearanceRequestFields with
    paramsFingerprint := fieldFingerprint
    shortCode := "B255-7435"
    operatorMessage := buildOperatorMessage "B255-7435" "secrets.raw_reveal" "vm-1" "mock"
      "reveal a credential" "default Full Control mode decision" }
  wellFormed :=
    { complete := by
        simp [ClearanceRequestFields.missing, ClearanceRequestFields.required, clearanceRequest,
          buildOperatorMessage_ne, fieldFingerprint, actAircraftId]
      message := buildOperatorMessage_noDoubleDot ..
      aware := clearanceRequest.wellFormed.aware
      ordered := clearanceRequest.wellFormed.ordered }

theorem localBuilt {params : List (String × Json)}
    (text : Json.dumps (.obj params) = Json.dumps (.obj fieldParameters)) :
    buildClearanceRequest fieldLibrary (localInputs params) "req-1" = .ok localRequest := by
  have hash : (localInputs params).fingerprint fieldLibrary = .ok fieldFingerprint :=
    fieldFingerprint_of_dumps text
  have code : (localInputs params).shortCode fieldLibrary "req-1" fieldFingerprint = "B255-7435" := by
    have hash : fieldLibrary.sha256 = hashOf fieldHashes := by rw [fieldLibrary]
    change localShortCode fieldLibrary "req-1" fieldFingerprint = "B255-7435"
    rw [localShortCode, hash, fieldHashes, hashOf_self]
    decide +kernel
  have bounded : ¬ (localInputs params).ttlSeconds < 0 ∧
      ¬ (localInputs params).ttlSeconds > defaultClearanceTimeoutSeconds := by
    constructor
    all_goals exact of_decide_eq_true rfl
  have created : (clockAt 0).astimezoneUtc fieldLibrary = .ok (clockAt 0) := by decide
  have expires : (clockAt 0).addSeconds 20 = .ok (clockAt 20) := by decide
  exact buildClearanceRequest_eq bounded hash code (dif_pos _) created expires rfl

/-- A mock approval of the request. -/
def mockResponse : ClearanceResponse where
  status := .cleared
  requestId := "req-1"
  sessionId := "session-1"
  target := "vm-1"
  provider := "mock"
  capability := "secrets.raw_reveal"
  paramsFingerprint := fieldFingerprint
  shortCode := "B255-7435"
  expiresAt := some (clockAt 15)
  towerId := .str "act-local"
  proof := some [("mock_act_proof", .str "verified")]
  auditCorrelationId := "corr-1"
  operatorMessage := ""
  reason := ""
  contractVersion := contractVersionV2
  boundMaterial := none
  riskFamily := .highRisk
  fingerprintPresent := by decide
  codePresent := by decide
  messageForm := by decide
  expiryAware := by rintro t ⟨⟩; rfl

/-- The verifier of mock approvals, in test mode. -/
def mockVerifier : ACTClearanceVerifier := ⟨"act-local", mockACTProofVerifier, true⟩

theorem mockAccepts :
    mockVerifier.Accepts fieldLibrary localRequest mockResponse (clockAt 0) where
  cleared := rfl
  tower := rfl
  bound := firstMismatch_eq_none.mp (by decide +kernel)
  unexpired := ⟨clockAt 15, clockAt 0, clockAt 15, rfl, by decide, by decide, by decide⟩
  proofPresent := Option.some_ne_none _
  notMock := fun mock => mock.1 rfl
  proofVerified := by
    have marked : (mockResponse.proof.any fun proof =>
        !proof.isEmpty && isText (jsonGet proof "mock_act_proof") "verified") = true := by decide
    exact congrArg Except.ok marked

/-- A tower in tests, which approves every request so. -/
def mockClient : ClearanceClient := ⟨fun _ _ _ => .ok mockResponse⟩

/-- A control plane that asks it, in the local fingerprint mode. -/
def mockTowerPlane : ControlPlane := towerPlane slowClock mockClient mockVerifier false

/-- It clears the request with the parameters, in either order. -/
theorem mockTowerRun {params : List (String × Json)}
    (text : Json.dumps (.obj params) = Json.dumps (.obj fieldParameters)) :
    ControlPlane.TowerRun fieldLibrary mockTowerPlane (revealRequest (PyValue.ofEntries params)) []
      mockClient reveal localRequest mockResponse :=
  towerRun_of slowClock_early (localBuilt text) (fun _ => rfl) mockAccepts

end Deployment

namespace ControlPlane

variable (std) in
/-- The provider is called for a request after the tower has answered with the response. -/
def ExecutedOn (plane : ControlPlane) (request : CapabilityRequest) (history : List Effect)
    (s : PlaneState) (response : ClearanceResponse) : Prop :=
  ∃ before after clearanceRequest timeoutSeconds,
    (plane.handle std request history s).effects
      = before ++ .clearanceAsked clearanceRequest timeoutSeconds (.ok response) :: after ∧
    executions after ≠ []

/-- What the tower clears is executed on its answer. -/
theorem TowerRun.executedOn {plane : ControlPlane} {request : CapabilityRequest}
    {history : List Effect} {s : PlaneState} {client : ClearanceClient} {capability : Capability}
    {clearanceRequest : ClearanceRequest} {response : ClearanceResponse}
    (cleared : TowerRun std plane request history client capability clearanceRequest response) :
    ExecutedOn std plane request history s response := by
  obtain ⟨after, executed, -, effects⟩ := cleared.effects (s := s)
  exact ⟨_, after, _, _, effects, executed⟩

/-- A request executed on a response had that response accepted for the clearance request built
from its own parameters, in the plane's fingerprint mode. -/
theorem ExecutedOn.accepted {plane : ControlPlane} {request : CapabilityRequest}
    {history : List Effect} {s : PlaneState} {response : ClearanceResponse}
    (executed : ExecutedOn std plane request history s response) :
    ∃ inputs id clearanceRequest verifier now,
      inputs.parameters = request.parameters ∧ inputs.actParity = plane.actParityFingerprint ∧
      buildClearanceRequest std inputs id = .ok clearanceRequest ∧
      ACTClearanceVerifier.Accepts std verifier clearanceRequest response now := by
  obtain ⟨before, after, clearanceRequest, timeoutSeconds, effects, after_ne⟩ := executed
  obtain ⟨client, capability, response', answer, -, -, cleared⟩ :=
    towerRun_of_question effects after_ne
  cases answer
  obtain ⟨verifier, -, accepts⟩ := cleared.chain.accepted
  exact ⟨_, _, clearanceRequest, verifier, _, rfl, rfl, cleared.chain.built, accepts⟩

/-- **Parameter binding**: in the local fingerprint mode a response is accepted, and makes a control
plane execute, for one JSON parameter mapping only, whatever else differs. In the tower's mode the
request is the same for all parameters, and so is every verdict about it. -/
theorem clearance_binds_parameters (injective : Function.Injective std.sha256) :
    (∀ (inputs inputs' : ClearanceInputs) (id id' : String) (request request' : ClearanceRequest)
      (params params' : List (String × Json)) (verifier verifier' : ACTClearanceVerifier)
      (response : ClearanceResponse) (now now' : Datetime),
      inputs.actParity = false → inputs'.actParity = false →
      inputs.parameters = PyValue.ofEntries params →
      inputs'.parameters = PyValue.ofEntries params' →
      buildClearanceRequest std inputs id = .ok request →
      buildClearanceRequest std inputs' id' = .ok request' →
      verifier.Accepts std request response now → verifier'.Accepts std request' response now' →
      Json.norm (.obj params) = Json.norm (.obj params')) ∧
    (∀ (plane plane' : ControlPlane) (request request' : CapabilityRequest)
      (params params' : List (String × Json)) (history history' : List Effect)
      (s s' : PlaneState) (response : ClearanceResponse),
      plane.actParityFingerprint = false → plane'.actParityFingerprint = false →
      request.parameters = PyValue.ofEntries params →
      request'.parameters = PyValue.ofEntries params' →
      ExecutedOn std plane request history s response →
      ExecutedOn std plane' request' history' s' response →
      Json.norm (.obj params) = Json.norm (.obj params')) ∧
    (∀ (inputs : ClearanceInputs) (parameters : Params) (id : String), inputs.actParity = true →
      buildClearanceRequest std { inputs with parameters := parameters } id
        = buildClearanceRequest std inputs id) := by
  refine ⟨?_, ?_, fun inputs parameters id parity =>
    buildClearanceRequest_parity id parity parameters⟩
  · intro inputs inputs' id id' request request' params params' verifier verifier' response now
      now' plain plain' parameters parameters' built built' accepts accepts'
    exact params_of_accepts injective plain plain' parameters parameters' built built' accepts
      accepts'
  · intro plane plane' request request' params params' history history' s s' response plain plain'
      parameters parameters' executed executed'
    obtain ⟨inputs, id, clearanceRequest, verifier, now, same, mode, built, accepts⟩ :=
      executed.accepted
    obtain ⟨inputs', id', clearanceRequest', verifier', now', same', mode', built', accepts'⟩ :=
      executed'.accepted
    exact params_of_accepts injective (mode.trans plain) (mode'.trans plain')
      (same.trans parameters) (same'.trans parameters') built built' accepts accepts'

open Deployment in
/-- The mock approval is accepted for the parameters in either order, and makes the control plane
execute both requests: the parameters are one JSON value. In the tower's mode the request is the
same for them. -/
theorem clearance_binds_parameters_local :
    (mockVerifier.Accepts fieldLibrary localRequest mockResponse (clockAt 0) ∧
      Json.norm (.obj fieldParameters) = Json.norm (.obj fieldParametersAgain)) ∧
    (ExecutedOn fieldLibrary mockTowerPlane (revealRequest (PyValue.ofEntries fieldParameters)) []
        start mockResponse ∧
      ExecutedOn fieldLibrary mockTowerPlane
        (revealRequest (PyValue.ofEntries fieldParametersAgain)) [] start mockResponse ∧
      Json.norm (.obj fieldParameters) = Json.norm (.obj fieldParametersAgain)) ∧
    buildClearanceRequest fieldLibrary (inputs (PyValue.ofEntries fieldParameters)) "req-1"
      = buildClearanceRequest fieldLibrary (inputs (PyValue.ofEntries loginParameters)) "req-1" := by
  obtain ⟨accepted, executed, parity⟩ := clearance_binds_parameters fieldHashes_injective
  have run := (mockTowerRun rfl).executedOn (s := start)
  have again := (mockTowerRun dumps_fieldParametersAgain).executedOn (s := start)
  refine ⟨⟨mockAccepts, ?_⟩, ⟨run, again, ?_⟩, ?_⟩
  · exact accepted (localInputs fieldParameters) (localInputs fieldParametersAgain) "req-1" "req-1"
      localRequest localRequest fieldParameters fieldParametersAgain mockVerifier mockVerifier
      mockResponse (clockAt 0) (clockAt 0) rfl rfl rfl rfl (localBuilt rfl)
      (localBuilt dumps_fieldParametersAgain) mockAccepts mockAccepts
  · exact executed mockTowerPlane mockTowerPlane _ _ fieldParameters fieldParametersAgain [] []
      start start mockResponse rfl rfl rfl rfl run again
  · exact parity (inputs (PyValue.ofEntries loginParameters)) (PyValue.ofEntries fieldParameters)
      "req-1" rfl

/-- In the tower's mode the approval of a request without parameters is accepted for one that types
a password, and makes the control plane execute it. -/
theorem not_clearance_binds_parameters :
    Function.Injective Deployment.library.sha256 ∧
    ∃ (params params' : List (String × Json)) (request : ClearanceRequest)
      (response : ClearanceResponse),
      Json.norm (.obj params) ≠ Json.norm (.obj params') ∧
      buildClearanceRequest Deployment.library (Deployment.inputs (PyValue.ofEntries params)) "req-1"
        = .ok request ∧
      buildClearanceRequest Deployment.library (Deployment.inputs (PyValue.ofEntries params'))
        "req-1" = .ok request ∧
      Deployment.verifier.Accepts Deployment.library request response (Deployment.clockAt 0) ∧
      ExecutedOn Deployment.library (Deployment.plane Deployment.slowClock)
        (Deployment.revealRequest (PyValue.ofEntries params)) [] Deployment.start response ∧
      ExecutedOn Deployment.library (Deployment.plane Deployment.slowClock)
        (Deployment.revealRequest (PyValue.ofEntries params')) [] Deployment.start response := by
  have early := Deployment.slowClock_early
  refine ⟨Deployment.sha256_injective, [], [("field", .str "password")],
    Deployment.clearanceRequest, Deployment.response, ?_, Deployment.built _, Deployment.built _,
    Deployment.accepts, (Deployment.towerRun early _).executedOn,
    (Deployment.towerRun early _).executedOn⟩
  simp [Json.norm, Json.normEntries]

end ControlPlane

end AgenticKVM
