import AgenticKVM.JsonTexts

/-! # Parameter fingerprints

Three fingerprints are in use. `fingerprintParameters` (`fingerprints.py`) binds signed grants and
clearances to the parameters and refuses what is not JSON-safe; `actionFingerprint`
(`approvals.fingerprint_parameters`) binds locally stored grants and coerces instead of refusing;
`actParamsFingerprint` (`act_fingerprint.py`) predicts what the tower computes from the redacted
payload and the extensions it is sent. -/

namespace AgenticKVM

open Lib (Json)

variable (std : Stdlib)

/-! ## Approval-bound parameters -/

mutual

/-- `fingerprints._normalize`: the JSON value a parameter stands for. -/
def normalize : PyValue → Except PyExc Json
  | .none => .ok .null
  | .bool b => .ok (.bool b)
  | .int i => .ok (.int i)
  | .float x => .ok (.float x)
  | .str s => .ok (.str s)
  | .bytes _ =>
      .error (.valueError "raw bytes cannot be fingerprinted for approval payloads")
  | .dict entries => do return .obj (← normalizeEntries entries)
  | .list items | .tuple items => do return .list (← normalizeItems items)
  | .set _ => .error (.valueError "unsupported approval parameter value: set")
  | .object typeName _ =>
      .error (.valueError ("unsupported approval parameter value: " ++ typeName))

def normalizeItems : List PyValue → Except PyExc (List Json)
  | [] => .ok []
  | item :: rest => do
      let item ← normalize item
      return item :: (← normalizeItems rest)

/-- The entries of a mapping, whose keys must be strings. -/
def normalizeEntries : List (PyValue × PyValue) → Except PyExc (List (String × Json))
  | [] => .ok []
  | (.str key, item) :: rest => do
      let item ← normalize item
      return (key, item) :: (← normalizeEntries rest)
  | _ :: _ => .error (.valueError "approval parameter keys must be strings")

end

mutual

/-- A JSON value stands for itself. -/
theorem normalize_ofJson (v : Json) : normalize (PyValue.ofJson v) = .ok v := by
  cases v with
  | null | bool b | int i | float x | str s => rfl
  | list items =>
      rw [PyValue.ofJson, normalize, normalizeItems_ofItems items]
      rfl
  | obj entries =>
      rw [PyValue.ofJson, normalize, normalizeEntries_ofEntries entries]
      rfl

theorem normalizeItems_ofItems (items : List Json) :
    normalizeItems (PyValue.ofItems items) = .ok items := by
  match items with
  | [] => rfl
  | v :: rest =>
      rw [PyValue.ofItems, normalizeItems, normalize_ofJson v, normalizeItems_ofItems rest]
      rfl

theorem normalizeEntries_ofEntries (entries : List (String × Json)) :
    normalizeEntries (PyValue.ofEntries entries) = .ok entries := by
  match entries with
  | [] => rfl
  | (key, v) :: rest =>
      rw [PyValue.ofEntries, normalizeEntries, normalize_ofJson v,
        normalizeEntries_ofEntries rest]
      rfl

end

/-- `fingerprints.canonical_json`. -/
def canonicalJson (value : PyValue) : Except PyExc String := do
  return Json.dumps (← normalize value)

/-- `fingerprints.fingerprint_parameters`. -/
def fingerprintParameters (parameters : Params) : Except PyExc String := do
  return std.sha256 (← canonicalJson (.dict parameters))

/-- The fingerprint of JSON parameters is the hash of their canonical text. -/
theorem fingerprintParameters_ofEntries (entries : List (String × Json)) :
    fingerprintParameters std (PyValue.ofEntries entries)
      = .ok (std.sha256 (Json.dumps (.obj entries))) := by
  have value : normalize (.dict (PyValue.ofEntries entries)) = .ok (.obj entries) :=
    normalize_ofJson (.obj entries)
  simp only [fingerprintParameters, canonicalJson, value]
  rfl

/-- **Parameter binding**: under a hash without collisions, JSON parameters have one fingerprint
exactly when they differ in the order of entries only. -/
theorem fingerprintParameters_eq_iff (injective : Function.Injective std.sha256)
    (p q : List (String × Json)) :
    fingerprintParameters std (PyValue.ofEntries p)
        = fingerprintParameters std (PyValue.ofEntries q)
      ↔ Json.norm (.obj p) = Json.norm (.obj q) := by
  rw [fingerprintParameters_ofEntries, fingerprintParameters_ofEntries, Except.ok.injEq,
    injective.eq_iff, Json.dumps_eq_iff]

/-! ## Stored action grants -/

mutual

/-- `approvals._canonical_json_value`: keys become strings, sets sorted lists. -/
def canonicalJsonValue : PyValue → Except PyExc PyValue
  | .dict entries => do return .dict (← canonicalJsonEntries [] entries)
  | .list items | .tuple items => do return .list (← canonicalJsonItems items)
  | .set items => do return .list (← std.sorted (← canonicalJsonItems items))
  | value => .ok value

def canonicalJsonItems : List PyValue → Except PyExc (List PyValue)
  | [] => .ok []
  | item :: rest => do
      let item ← canonicalJsonValue item
      return item :: (← canonicalJsonItems rest)

/-- The entries of a mapping: of two keys with one `str`, the later entry's value stays. -/
def canonicalJsonEntries (done : List (String × PyValue)) :
    List (PyValue × PyValue) → Except PyExc (List (PyValue × PyValue))
  | [] => .ok (done.map fun entry => (.str entry.1, entry.2))
  | (key, item) :: rest => do
      let item ← canonicalJsonValue item
      canonicalJsonEntries (dictSet done (pyStr std key) item) rest

end

/-- `approvals.fingerprint_parameters`. -/
def actionFingerprint (parameters : Params) : Except PyExc String := do
  let value ← canonicalJsonValue std (.dict parameters)
  return std.sha256 (Json.dumps (jsonDefaultStr std value))

/-! ## The tower's fingerprint -/

/-- `act_canonical_json`. -/
def actCanonicalJson (value : PyValue) : Except PyExc String :=
  (jsonSorted std value).map Json.text

/-- `act_content_hash`. -/
def actContentHash (value : PyValue) : Except PyExc String :=
  (actCanonicalJson std value).map std.sha256

/-- `act_params_fingerprint`. -/
def actParamsFingerprint (payloadRedacted extensions : Params) : Except PyExc String :=
  actContentHash std (.dict (strEntries
    [("payload_redacted", .dict payloadRedacted), ("extensions", .dict extensions)]))

/-- `act_short_code`: the first ten digits of a hash, in upper case. -/
def actShortCode (approvalId paramsFingerprint : String) : String :=
  (String.ofList ((std.sha256 (approvalId ++ ":" ++ paramsFingerprint)).toList.take 10)).toUpper

/-- `act_agentickvm_extensions`: the envelope with the aircraft's identity binding. -/
def actAgentickvmExtensions (target provider capability riskSummary : String)
    (policyContext : Params) (sessionId : String) : Params :=
  strEntries [("agentickvm", .dict (strEntries
    [("target", .str target), ("provider", .str provider), ("capability", .str capability),
      ("session_id", .str sessionId), ("risk_summary", .str riskSummary),
      ("policy_context", .dict policyContext)]))]

/-- The tower's fingerprint of a capability's redacted payload and its extensions, as both the
request builder and the client predict it. -/
def actRequestFingerprint (target provider capability riskSummary : String)
    (policyContext : Params) (sessionId : String) : Except PyExc String :=
  actParamsFingerprint std (strEntries [("capability", .str capability)])
    (actAgentickvmExtensions target provider capability riskSummary policyContext sessionId)

/-- The tower's own computation: the hash of the payload and the extensions it has received. -/
def towerFingerprint (payloadRedacted extensions : List (String × Json)) : String :=
  std.sha256 (Json.dumps
    (.obj [("payload_redacted", .obj payloadRedacted), ("extensions", .obj extensions)]))

/-- The envelope as it is received, with this policy context. -/
def envelopeReceived (target provider capability riskSummary : String) (policyContext : Json)
    (sessionId : String) : List (String × Json) :=
  [("agentickvm", .obj
    [("target", .str target), ("provider", .str provider), ("capability", .str capability),
      ("session_id", .str sessionId), ("risk_summary", .str riskSummary),
      ("policy_context", policyContext)])]

/-- What is hashed of a request, with its policy context as it is written. -/
def envelopeWritten (target provider capability riskSummary : String) (policyContext : Json)
    (sessionId : String) : Json :=
  .obj [("extensions", .obj [("agentickvm", .obj
      [("capability", .str capability), ("policy_context", policyContext),
        ("provider", .str provider), ("risk_summary", .str riskSummary),
        ("session_id", .str sessionId), ("target", .str target)])]),
    ("payload_redacted", .obj [("capability", .str capability)])]

variable {std}
variable {target provider capability riskSummary sessionId : String} {policyContext : Params}

/-- The two hashed members are written in their order. -/
theorem jsonSorted_hashed (payload extensions : Params) :
    jsonSorted std (.dict (strEntries
        [("payload_redacted", .dict payload), ("extensions", .dict extensions)]))
      = (do
        let extensions ← jsonSorted std (.dict extensions)
        let payload ← jsonSorted std (.dict payload)
        return .obj [("extensions", extensions), ("payload_redacted", payload)]) := by
  have sorted : List.insertionSort (fun e f => e.1 ≤ f.1)
      [("payload_redacted", PyValue.dict payload), ("extensions", .dict extensions)]
      = [("extensions", .dict extensions), ("payload_redacted", .dict payload)] := by
    simp [List.insertionSort, List.orderedInsert]
  rw [jsonSorted_strEntries, sorted, List.mapM_cons, List.mapM_cons, List.mapM_nil]
  cases jsonSorted std (.dict extensions) with
  | error e => rfl
  | ok e => cases jsonSorted std (.dict payload) <;> rfl

/-- The envelope is written with its policy context, and raises where that does. -/
theorem jsonSorted_envelope :
    jsonSorted std (.dict (actAgentickvmExtensions target provider capability riskSummary
        policyContext sessionId))
      = (jsonSorted std (.dict policyContext)).map fun context =>
        .obj [("agentickvm", .obj
          [("capability", .str capability), ("policy_context", context),
            ("provider", .str provider), ("risk_summary", .str riskSummary),
            ("session_id", .str sessionId), ("target", .str target)])] := by
  have sorted : List.insertionSort (fun e f => e.1 ≤ f.1)
      [("target", PyValue.str target), ("provider", .str provider),
        ("capability", .str capability), ("session_id", .str sessionId),
        ("risk_summary", .str riskSummary), ("policy_context", .dict policyContext)]
      = [("capability", .str capability), ("policy_context", .dict policyContext),
        ("provider", .str provider), ("risk_summary", .str riskSummary),
        ("session_id", .str sessionId), ("target", .str target)] := by
    simp [List.insertionSort, List.orderedInsert]
  have inner := @jsonSorted_strEntries std [("target", PyValue.str target),
    ("provider", .str provider), ("capability", .str capability), ("session_id", .str sessionId),
    ("risk_summary", .str riskSummary), ("policy_context", .dict policyContext)]
  rw [sorted] at inner
  rw [actAgentickvmExtensions, jsonSorted_strEntries, List.insertionSort_cons,
    List.insertionSort_nil, List.orderedInsert_nil, List.mapM_cons, List.mapM_nil, inner]
  simp only [List.mapM_cons, List.mapM_nil]
  cases jsonSorted std (.dict policyContext) <;> rfl

/-- **The predicted fingerprint** is the hash of the envelope with the policy context as it is
written: the rest of the envelope is JSON. -/
theorem actRequestFingerprint_eq_ok {hash : String} :
    actRequestFingerprint std target provider capability riskSummary policyContext sessionId
        = .ok hash
      ↔ ∃ context, jsonSorted std (.dict policyContext) = .ok context
        ∧ std.sha256 (Json.text
          (envelopeWritten target provider capability riskSummary context sessionId)) = hash := by
  have payload : jsonSorted std (.dict (strEntries [("capability", .str capability)]))
      = .ok (.obj [("capability", .str capability)]) := rfl
  rw [actRequestFingerprint, actParamsFingerprint, actContentHash, actCanonicalJson,
    jsonSorted_hashed, jsonSorted_envelope, payload]
  cases jsonSorted std (.dict policyContext) with
  | error e =>
      constructor
      · intro built
        cases built
      · rintro ⟨_, written, -⟩
        cases written
  | ok context =>
      constructor
      · rintro ⟨⟩
        exact ⟨context, rfl, rfl⟩
      · rintro ⟨_, ⟨⟩, rfl⟩
        rfl

/-- The received envelope is written in its normal form. -/
theorem towerFingerprint_envelope (context : Json) :
    towerFingerprint std [("capability", .str capability)]
        (envelopeReceived target provider capability riskSummary context sessionId)
      = std.sha256 (Json.text (envelopeWritten target provider capability riskSummary
          (Json.norm context) sessionId)) := by
  refine congrArg std.sha256 (congrArg Json.text ?_)
  simp [envelopeReceived, envelopeWritten, Json.norm, Json.normEntries, List.insertionSort,
    List.orderedInsert]

end AgenticKVM
