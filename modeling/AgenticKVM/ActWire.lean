import AgenticKVM.ClearanceBinding
import AgenticKVM.Lib.JsonLookup
import AgenticKVM.Lib.JsonWriter

/-! # The fingerprint on the wire

Three functions build the envelope that the tower hashes: the request builder, which predicts its
fingerprint, the extensions' own module, and the client, which puts it into the body it posts. The
tower reads the body and hashes the two members it finds there (`bodyFingerprint`). What it
computes is what the request was built with, whatever a serialiser between the two does to the order
of entries (`wireFingerprint_predicted`). -/

namespace AgenticKVM

open Lib (Json FloatToken)

variable {std : Stdlib} {readFloat : FloatToken → FloatToken}

/-- The fingerprint of a decoded body: of the members the tower hashes, where both are objects. -/
def bodyFingerprint (std : Stdlib) (body : List (String × Json)) : Option String :=
  match body.lookup "payload_redacted", body.lookup "extensions" with
  | some (.obj payload), some (.obj extensions) =>
      some (towerFingerprint std payload extensions)
  | _, _ => none

/-! ## Serialisation -/

/-- The tower's fingerprint does not depend on the order of entries. -/
theorem towerFingerprint_congr {payload payload' extensions extensions' : List (String × Json)}
    (samePayload : Json.norm (.obj payload) = Json.norm (.obj payload'))
    (sameExtensions : Json.norm (.obj extensions) = Json.norm (.obj extensions')) :
    towerFingerprint std payload extensions = towerFingerprint std payload' extensions' := by
  refine congrArg std.sha256 ((Json.dumps_eq_iff _ _).mpr ?_)
  simp only [Json.norm_obj, Json.normEntries] at samePayload sameExtensions ⊢
  rw [samePayload, sameExtensions]

/-- Where two objects are the same up to the order of entries, an object found under a key of one
is found under the key of the other. -/
theorem lookup_obj_of_norm {entries others : List (String × Json)}
    (same : Json.norm (.obj entries) = Json.norm (.obj others))
    (distinct : (others.map Prod.fst).Nodup) {key : String} {value : List (String × Json)}
    (found : others.lookup key = some (.obj value)) :
    ∃ value', entries.lookup key = some (.obj value')
      ∧ Json.norm (.obj value') = Json.norm (.obj value) := by
  have keys : (entries.map Prod.fst).Perm (others.map Prod.fst) := by
    have reread : Json.reread entries = Json.reread others := Json.obj.inj same
    have perm := (Json.reread_keys_perm entries).symm
    rw [reread] at perm
    exact perm.trans (Json.reread_keys_perm others)
  have values := (Json.norm_obj_eq_iff (keys.nodup_iff.mpr distinct) distinct).mp same key
  rw [found, Option.map_some] at values
  obtain ⟨v, lookup, normal⟩ := Option.map_eq_some_iff.mp values
  -- a value in the normal form of an object is an object
  cases v with
  | obj value' => exact ⟨value', lookup, normal⟩
  | _ => cases normal

/-- A body that differs in the order of entries only has the same fingerprint. -/
theorem bodyFingerprint_of_norm {body other : List (String × Json)} {fingerprint : String}
    (same : Json.norm (.obj body) = Json.norm (.obj other))
    (distinct : (other.map Prod.fst).Nodup)
    (hash : bodyFingerprint std other = some fingerprint) :
    bodyFingerprint std body = some fingerprint := by
  unfold bodyFingerprint at hash
  split at hash
  · next payload extensions foundPayload foundExtensions =>
    obtain ⟨payload', found, samePayload⟩ := lookup_obj_of_norm same distinct foundPayload
    obtain ⟨extensions', found', sameExtensions⟩ := lookup_obj_of_norm same distinct foundExtensions
    rw [bodyFingerprint, found, found']
    dsimp only
    rw [towerFingerprint_congr samePayload sameExtensions]
    exact hash
  · cases hash

/-! ## The client's body -/

section Payload

variable (request : ClearanceRequest) (context : List (String × Json)) (agentId : String)
  (expiresInSeconds : Int)

/-- The body as it is read, for a policy context that is JSON. -/
def nativePayload : List (String × Json) :=
  let riskFamily := request.riskSummary.riskFamily.value
  [("requested_tool", .str request.capability),
    ("capability", .str request.capability),
    ("risk_level", .str (if riskFamily = "high_risk" then "high" else "low")),
    ("risk_family", .str (actWireRiskFamily riskFamily)),
    ("summary", .str request.riskSummary.summary),
    ("payload_redacted", .obj [("capability", .str request.capability)]),
    ("agent_id", .str agentId),
    ("session_id", .str request.sessionId),
    ("expires_in_seconds", .int expiresInSeconds),
    ("operator_message", .str request.operatorMessage),
    ("short_code", .str request.shortCode),
    ("audit_correlation_id", .str request.auditCorrelationId),
    ("action_id", .str request.requestId),
    ("extensions", .obj (envelopeReceived request.target request.provider request.capability
      request.riskSummary.summary (.obj context) request.sessionId))]

variable {request context} in
/-- The body that is posted is JSON where the policy context is. -/
theorem clearanceRequestToActPayload_native
    (native : request.policyContext = PyValue.ofEntries context) :
    clearanceRequestToActPayload request agentId expiresInSeconds
      = PyValue.ofEntries (nativePayload request context agentId expiresInSeconds) := by
  rw [clearanceRequestToActPayload, actRequestExtensions, actAgentickvmExtensions, native]
  rfl

/-- The body has no key twice. -/
theorem nativePayload_keys :
    ((nativePayload request context agentId expiresInSeconds).map Prod.fst).Nodup := by
  show ["requested_tool", "capability", "risk_level", "risk_family", "summary", "payload_redacted",
    "agent_id", "session_id", "expires_in_seconds", "operator_message", "short_code",
    "audit_correlation_id", "action_id", "extensions"].Nodup
  decide

/-- The tower's fingerprint of the body: the hash of the envelope, with the policy context in its
normal form. -/
theorem bodyFingerprint_payload :
    bodyFingerprint std (nativePayload request context agentId expiresInSeconds)
      = some (std.sha256 (Json.text (envelopeWritten request.target request.provider
          request.capability request.riskSummary.summary (Json.norm (.obj context))
          request.sessionId))) :=
  congrArg some (towerFingerprint_envelope _)

/-- The body is as readable as the policy context inside it. -/
theorem readable_nativePayload (readable : Json.Readable readFloat (.obj context)) :
    Json.Readable readFloat (.obj (nativePayload request context agentId expiresInSeconds)) := by
  refine ⟨nativePayload_keys request context agentId expiresInSeconds, ?_⟩
  rw [Json.readableEntries_iff]
  intro entry member
  simp only [nativePayload, List.mem_cons, List.not_mem_nil, or_false] at member
  rcases member with rfl | rfl | rfl | rfl | rfl | rfl | rfl | rfl | rfl | rfl | rfl | rfl | rfl
    | rfl
  case inr.inr.inr.inr.inr.inl => exact ⟨List.nodup_singleton _, trivial, trivial⟩
  case inr.inr.inr.inr.inr.inr.inr.inr.inr.inr.inr.inr.inr =>
    have keys : (["target", "provider", "capability", "session_id", "risk_summary",
      "policy_context"] : List String).Nodup := by decide
    exact ⟨List.nodup_singleton _,
      ⟨keys, trivial, trivial, trivial, trivial, trivial, readable, trivial⟩, trivial⟩
  all_goals exact trivial

end Payload

/-- **The predicted fingerprint is the one on the wire**: the body of a request that was built in
the tower's fingerprint mode, with a policy context that is JSON, is decoded as it was sent, and
from it, as from every body with the same entries in another order, the tower computes the request's
fingerprint. The short code follows from the request's id and this fingerprint. -/
theorem wireFingerprint_predicted {inputs : ClearanceInputs} {id : String}
    {request : ClearanceRequest} {context : List (String × Json)}
    (parity : inputs.actParity = true)
    (built : buildClearanceRequest std inputs id = .ok request)
    (isContext : inputs.policyContext = PyValue.ofEntries context)
    (native : Json.Readable readFloat (.obj context)) (agentId : String)
    (expiresInSeconds : Int) :
    ∃ payload, clearanceRequestToActPayload request agentId expiresInSeconds
        = PyValue.ofEntries payload
      ∧ Json.loads readFloat (Json.plainDumps (.obj payload)) = some (.obj payload)
      ∧ (∀ body, Json.norm (.obj body) = Json.norm (.obj payload) →
          bodyFingerprint std body = some request.paramsFingerprint)
      ∧ actShortCode std request.requestId request.paramsFingerprint = request.shortCode := by
  have binds := buildClearanceRequest_binds built
  have carried : request.policyContext = PyValue.ofEntries context := by
    rw [binds.policyContext, isContext]
  refine ⟨_, clearanceRequestToActPayload_native agentId expiresInSeconds carried,
    Json.loads_plainDumps (readable_nativePayload request context agentId expiresInSeconds native),
    ?_, ?_⟩
  · intro body same
    refine bodyFingerprint_of_norm same
      (nativePayload_keys request context agentId expiresInSeconds) ?_
    obtain ⟨written, writes, predicted⟩ := paramsFingerprint_of_parity parity built
    rw [carried] at writes
    cases (jsonSorted_ofJson (.obj context)).symm.trans writes
    rw [bodyFingerprint_payload, predicted]
  · rw [binds.shortCode, ClearanceInputs.shortCode, if_pos parity, binds.requestId]

namespace Deployment

/-- The request of the deployment meets it. -/
theorem wireFingerprint_predicted_deployment :
    ∃ payload, clearanceRequestToActPayload clearanceRequest actAircraftAgentId 50
        = PyValue.ofEntries payload
      ∧ Json.loads id (Json.plainDumps (.obj payload)) = some (.obj payload)
      ∧ (∀ body, Json.norm (.obj body) = Json.norm (.obj payload) →
          bodyFingerprint library body = some clearanceRequest.paramsFingerprint)
      ∧ actShortCode library clearanceRequest.requestId clearanceRequest.paramsFingerprint
          = clearanceRequest.shortCode :=
  @wireFingerprint_predicted _ _ _ _ _ [("decision", .str "ask_each_time")] rfl (built []) rfl
    ⟨List.nodup_singleton _, trivial, trivial⟩ actAircraftAgentId 50

end Deployment

end AgenticKVM
