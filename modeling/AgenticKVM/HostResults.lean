import AgenticKVM.HostCalls
import AgenticKVM.LocalApprovals

/-! # Results on their way to the host

The result of a tool request is written as JSON and read back at the adapter, redacted at the host, and
written and read back once more, before an approval request is read off it. The texts of an approval
request come through, except for the target, which is under no structural key: where it looks like a
secret, the host is shown the mark in its place (`fromHostResult_waits`). -/

namespace AgenticKVM

open Lib (Json FloatToken Prog except_bind_eq_ok except_ok_bind except_pure)

/-! ## What is shown of a record -/

section Shown

variable (lib : AuditLibrary)

/-- A record as it was read back, redacted, and read back again. -/
def shownRecord (fullCapture : Bool) (record : Record) : Record :=
  Json.reread (redactJsonEntries lib fullCapture (Json.reread record))

variable {lib} {record : Record} {fullCapture : Bool} {key : String}

/-- A key is found with what redaction leaves of its value. -/
theorem lookup_shownRecord (distinct : (record.map Prod.fst).Nodup) (key : String) :
    (shownRecord lib fullCapture record).lookup key
      = (record.lookup key).map fun v =>
        Json.norm (redactJson lib key fullCapture (Json.norm v)) := by
  have distinct' : ((redactJsonEntries lib fullCapture (Json.reread record)).map Prod.fst).Nodup := by
    rw [redactJsonEntries_keys, (Json.reread_keys_perm record).nodup_iff]
    exact distinct
  rw [shownRecord, Json.lookup_reread distinct', lookup_redactJsonEntries,
    Json.lookup_reread distinct, Option.map_map, Option.map_map]
  rfl

/-- A text is shown as redaction leaves it. -/
theorem lookup_shownRecord_str (distinct : (record.map Prod.fst).Nodup)
    (plain : PlainKey lib.toStdlib key) {text : String} (found : record.lookup key = some (.str text)) :
    (shownRecord lib fullCapture record).lookup key = some (.str (shownText lib key text)) := by
  rw [lookup_shownRecord distinct, found, Option.map_some, Json.norm, redactJson_str plain, Json.norm]

/-- An object is shown entry by entry. -/
theorem lookup_shownRecord_obj (distinct : (record.map Prod.fst).Nodup)
    (plain : PlainKey lib.toStdlib key) {inner : Record}
    (found : record.lookup key = some (.obj inner)) :
    ∃ fullCapture', (shownRecord lib fullCapture record).lookup key
      = some (.obj (shownRecord lib fullCapture' inner)) := by
  refine ⟨mappingFullCapture lib.toStdlib (PyValue.ofEntries (Json.reread inner)) fullCapture, ?_⟩
  rw [lookup_shownRecord distinct, found, Option.map_some, Json.norm_obj_reread,
    redactJson_obj plain, Json.norm_obj_reread]
  rfl

/-- A list of texts is shown text by text. -/
theorem lookup_shownRecord_strings (distinct : (record.map Prod.fst).Nodup)
    (plain : PlainKey lib.toStdlib key) {texts : List String}
    (found : record.lookup key = some (.list (texts.map .str))) :
    (shownRecord lib fullCapture record).lookup key
      = some (.list ((texts.map (shownText lib key)).map .str)) := by
  rw [lookup_shownRecord distinct, found, Option.map_some, Json.norm_strings,
    redactJson_strings plain, Json.norm_strings]

theorem readable_shownRecord {readFloat : FloatToken → FloatToken}
    (readable : Json.Readable readFloat (.obj record)) :
    Json.Readable readFloat (.obj (shownRecord lib fullCapture record)) := by
  have inner := Json.readable_reread.mpr readable
  refine Json.readable_reread.mpr ⟨?_, readable_redactJsonEntries inner.2 fullCapture⟩
  rw [redactJsonEntries_keys]
  exact inner.1

end Shown

/-! ## Results as JSON -/

/-- A text or `null`, as a JSON value. -/
theorem ofJson_jsonOptional (text : Option String) :
    PyValue.ofJson (jsonOptional text) = optionalStr text := by
  cases text <;> rfl

theorem readable_jsonOptional {readFloat : FloatToken → FloatToken} (text : Option String) :
    Json.Readable readFloat (jsonOptional text) := by
  cases text <;> trivial

section Records

variable (lib : AuditLibrary)

/-- `ApprovalRequest.to_dict` of an approval request without limits, as JSON. -/
def ApprovalRequest.record (approval : ApprovalRequest) : Record :=
  [("id", .str approval.id), ("created_at", .str (lib.isoformat approval.createdAt)),
    ("expires_at", .str (lib.isoformat approval.expiresAt)),
    ("session_id", .str approval.sessionId),
    ("requester", .obj [("type", .str approval.requester.type.value),
      ("id", .str approval.requester.id)]),
    ("capability", .obj [("id", .str approval.capability.id),
      ("family", .str approval.capability.family), ("action", .str approval.capability.action)]),
    ("target_scope", .obj [("targets", .list (approval.targetIds.map .str)),
      ("allow_real_hardware", .bool false)]),
    ("policy_decision", .str approval.policyDecision.value),
    ("operator_message", .str approval.operatorMessage),
    ("material_risks", .list (approval.materialRisks.map .str)),
    ("proposed_audit_event_id", .str approval.proposedAuditEventId)]
  ++ (approval.providerId.toList.map fun id => ("provider_id", .str id))

/-- The data of a result that waits for an operator, as JSON. -/
def pendingRecord (approval : ApprovalRequest) (preview : Record)
    (fingerprint policyDecision : String) : Record :=
  [("approval_request", .obj (approval.record lib)), ("params_preview", .obj preview),
    ("params_fingerprint", .str fingerprint), ("policy_decision", .str policyDecision)]

/-- The dictionary of a result, at the router and at the host, as JSON. -/
def resultRecord (status toolName : String) (capability : Option String)
    (target provider reason : String) (data : Record) (risks redactions : List String)
    (id : Option String) : Record :=
  [("status", .str status), ("tool_name", .str toolName), ("capability", jsonOptional capability),
    ("target", .str target), ("provider", .str provider), ("reason", .str reason),
    ("data", .obj data), ("risks", .list (risks.map .str)),
    ("redactions", .list (redactions.map .str))]
  ++ (id.toList.map fun id => ("approval_request_id", .str id))

/-- `MCPToolResult.to_dict` of a result with these data, as JSON. -/
def MCPToolResult.record (result : MCPToolResult) (data : Record) : Record :=
  resultRecord result.status.value result.toolName result.capability result.target result.provider
    result.reason data result.risks result.redactions result.approvalRequestId

/-- `HostToolResult.to_dict` of a result with these data, as JSON. -/
def HostToolResult.record (result : HostToolResult) (data : Record) : Record :=
  resultRecord result.status.value result.toolName result.capability result.target result.provider
    result.reason data result.risks (sortedSet result.redactions) result.approvalRequestId

variable {lib} {readFloat : FloatToken → FloatToken}

theorem ApprovalRequest.toDict_eq_record {approval : ApprovalRequest} (unlimited : approval.limits = []) :
    approval.toDict lib = PyValue.ofEntries (approval.record lib) := by
  rw [ApprovalRequest.toDict, unlimited, ApprovalRequest.record]
  cases approval.providerId
  all_goals
    simp only [strEntries, strDict, Actor.toDict, CapabilityRef.toDict, ofEntries_eq_map,
      PyValue.ofJson, ← ofJson_strings, List.map_cons, List.map_nil, List.isEmpty_nil, if_true,
      Option.toList_none, Option.toList_some, List.append_nil, List.cons_append, List.nil_append]

/-- The keys of an approval request are distinct. -/
theorem ApprovalRequest.record_keys (approval : ApprovalRequest) :
    ((approval.record lib).map Prod.fst).Nodup := by
  rw [ApprovalRequest.record]
  cases approval.providerId with
  | none =>
      change ["id", "created_at", "expires_at", "session_id", "requester", "capability",
        "target_scope", "policy_decision", "operator_message", "material_risks",
        "proposed_audit_event_id"].Nodup
      decide
  | some id =>
      change ["id", "created_at", "expires_at", "session_id", "requester", "capability",
        "target_scope", "policy_decision", "operator_message", "material_risks",
        "proposed_audit_event_id", "provider_id"].Nodup
      decide

theorem ApprovalRequest.readable_record (approval : ApprovalRequest) :
    Json.Readable readFloat (.obj (approval.record lib)) := by
  refine ⟨approval.record_keys, (Json.readableEntries_iff _).mpr fun entry member => ?_⟩
  rw [ApprovalRequest.record] at member
  have strings (texts : List String) : Json.Readable readFloat (.list (texts.map .str)) :=
    Json.readable_strings texts
  rcases List.mem_append.mp member with fixed | provider
  · simp only [List.mem_cons, List.not_mem_nil, or_false] at fixed
    rcases fixed with rfl | rfl | rfl | rfl | rfl | rfl | rfl | rfl | rfl | rfl | rfl
    · trivial
    · trivial
    · trivial
    · trivial
    · exact ⟨show ["type", "id"].Nodup by decide, trivial, trivial, trivial⟩
    · exact ⟨show ["id", "family", "action"].Nodup by decide, trivial, trivial, trivial, trivial⟩
    · exact ⟨show ["targets", "allow_real_hardware"].Nodup by decide, strings _, trivial, trivial⟩
    · trivial
    · trivial
    · exact strings _
    · trivial
  · obtain ⟨id, -, rfl⟩ := List.mem_map.mp provider
    trivial

/-- The keys of the data of a result that waits are distinct. -/
theorem pendingRecord_keys (approval : ApprovalRequest) (preview : Record)
    (fingerprint policyDecision : String) :
    ((pendingRecord lib approval preview fingerprint policyDecision).map Prod.fst).Nodup := by
  change ["approval_request", "params_preview", "params_fingerprint", "policy_decision"].Nodup
  decide

theorem readable_pendingRecord (approval : ApprovalRequest) {preview : Record}
    (readable : Json.Readable readFloat (.obj preview)) (fingerprint policyDecision : String) :
    Json.Readable readFloat
      (.obj (pendingRecord lib approval preview fingerprint policyDecision)) :=
  ⟨pendingRecord_keys _ _ _ _, approval.readable_record, readable, trivial, trivial, trivial⟩

theorem MCPToolResult.toDict_eq_record {result : MCPToolResult} {data : Record}
    (same : result.data = PyValue.ofEntries data) :
    PyValue.dict result.toDict = PyValue.ofJson (.obj (result.record data)) := by
  rw [MCPToolResult.toDict, MCPToolResult.record, resultRecord, same]
  cases result.approvalRequestId
  all_goals
    simp only [strEntries, ofEntries_eq_map, PyValue.ofJson, ← ofJson_strings, ofJson_jsonOptional,
      List.map_cons, List.map_nil, Option.toList_none, Option.toList_some, List.append_nil,
      List.cons_append, List.nil_append]

section ResultRecords

variable {status toolName target provider reason : String} {capability id : Option String}
  {data : Record} {risks redactions : List String}

theorem resultRecord_keys :
    ((resultRecord status toolName capability target provider reason data risks redactions id).map
      Prod.fst).Nodup := by
  rw [resultRecord]
  cases id with
  | none =>
      change ["status", "tool_name", "capability", "target", "provider", "reason", "data", "risks",
        "redactions"].Nodup
      decide
  | some id =>
      change ["status", "tool_name", "capability", "target", "provider", "reason", "data", "risks",
        "redactions", "approval_request_id"].Nodup
      decide

theorem readable_resultRecord (readable : Json.Readable readFloat (.obj data)) :
    Json.Readable readFloat (.obj (resultRecord status toolName capability target provider reason
      data risks redactions id)) := by
  refine ⟨resultRecord_keys, (Json.readableEntries_iff _).mpr fun entry member => ?_⟩
  rw [resultRecord] at member
  rcases List.mem_append.mp member with fixed | identified
  · simp only [List.mem_cons, List.not_mem_nil, or_false] at fixed
    rcases fixed with rfl | rfl | rfl | rfl | rfl | rfl | rfl | rfl | rfl
    exacts [trivial, trivial, readable_jsonOptional _, trivial, trivial, trivial, readable,
      Json.readable_strings _, Json.readable_strings _]
  · obtain ⟨id, -, rfl⟩ := List.mem_map.mp identified
    trivial

/-- A result as it is read back. -/
theorem lookup_resultRecord (key : String) :
    (Json.reread (resultRecord status toolName capability target provider reason data risks
        redactions id)).lookup key
      = ((resultRecord status toolName capability target provider reason data risks redactions
          id).lookup key).map Json.norm :=
  Json.lookup_reread resultRecord_keys key

/-- The request id of a result as it is read back. -/
theorem get_resultRecord_id :
    textOrNone (Record.get (Json.reread (resultRecord status toolName capability target provider
      reason data risks redactions id)) "approval_request_id") = id := by
  rw [Record.get, lookup_resultRecord]
  cases id <;> rfl

end ResultRecords

/-! ## The host's result -/

/-- `HostToolResult.to_dict` of a result with JSON data. -/
theorem HostToolResult.toDict_eq_ok {result : HostToolResult} {data : Record}
    (same : result.data = PyValue.ofEntries data)
    (readable : Json.Readable lib.readFloat (.obj data)) :
    result.toDict lib = .ok (Json.reread (result.record data)) := by
  refine jsonSafeEntriesOf_json ?_ (readable_resultRecord readable)
  rw [same, HostToolResult.record, resultRecord]
  cases result.approvalRequestId
  all_goals
    simp only [strDict, ofEntries_eq_map, PyValue.ofJson, ← ofJson_strings, ofJson_jsonOptional,
      List.map_cons, List.map_nil, Option.toList_none, Option.toList_some, List.append_nil,
      List.cons_append, List.nil_append]

/-- What the host reads off the adapter's result. -/
theorem fromAdapterResult_record {result : MCPToolResult} {data : Record} :
    HostToolResult.fromAdapterResult lib (Json.reread (result.record data))
      = .ok (HostToolResult.init lib
          { status := HostResultStatus.ofJson (.str result.status.value)
            toolName := result.toolName
            capability := result.capability
            target := result.target
            provider := result.provider
            reason := result.reason
            data := PyValue.ofEntries (Json.reread data)
            approvalRequestId := result.approvalRequestId
            risks := result.risks
            redactions := result.redactions }) := by
  have found {key : String} {v : Json} (stored : (result.record data).lookup key = some v) :
      (Json.reread (result.record data)).lookup key = some (Json.norm v) := by
    rw [MCPToolResult.record, lookup_resultRecord]
    exact congrArg (Option.map Json.norm) stored
  have get {key : String} {v : Json} (stored : (result.record data).lookup key = some v) :
      Record.get (Json.reread (result.record data)) key = Json.norm v := by
    rw [Record.get, found stored]
    rfl
  have mapping : queueMapping (Json.reread (result.record data)) "data" "host data"
      = .ok (Json.reread data) := by
    rw [queueMapping, @found "data" (.obj data) rfl, Json.norm_obj_reread]
  have risks : queueTexts lib.toStdlib (Json.reread (result.record data)) "risks"
      = .ok result.risks :=
    queueTexts_list ((@found "risks" _ rfl).trans (congrArg some (Json.norm_strings _)))
  have redactions : queueTexts lib.toStdlib (Json.reread (result.record data)) "redactions"
      = .ok result.redactions :=
    queueTexts_list ((@found "redactions" _ rfl).trans (congrArg some (Json.norm_strings _)))
  have capability : textOrNone (Record.get (Json.reread (result.record data)) "capability")
      = result.capability := by
    rw [@get "capability" (jsonOptional result.capability) rfl]
    cases result.capability <;> rfl
  have id : textOrNone (Record.get (Json.reread (result.record data)) "approval_request_id")
      = result.approvalRequestId := get_resultRecord_id
  rw [HostToolResult.fromAdapterResult, mapping, except_ok_bind, risks, except_ok_bind, redactions,
    except_ok_bind, capability, id, @get "status" (.str result.status.value) rfl,
    @get "tool_name" (.str result.toolName) rfl, @get "target" (.str result.target) rfl,
    @get "provider" (.str result.provider) rfl, @get "reason" (.str result.reason) rfl]
  rfl

/-- **A result at the host**: its data are redacted once more. -/
theorem hostPayload_record {result : MCPToolResult} {data : Record}
    (readable : Json.Readable lib.readFloat (.obj data)) :
    ∃ reason redactions fullCapture,
      ConfigRuntime.hostPayload lib (Json.reread (result.record data))
        = .ok (Json.reread (resultRecord (HostResultStatus.ofJson (.str result.status.value)).value
            result.toolName result.capability result.target result.provider reason
            (redactJsonEntries lib fullCapture (Json.reread data)) result.risks redactions
            result.approvalRequestId)) := by
  have shown : Json.Readable lib.readFloat (.obj (redactedRecord lib (Json.reread data))) :=
    readable_redactedRecord (Json.readable_reread.mpr readable)
  rw [ConfigRuntime.hostPayload, fromAdapterResult_record, except_ok_bind]
  exact ⟨_, _, _, HostToolResult.toDict_eq_ok
    (redactMapping_record (Json.readable_reread.mpr readable)) shown⟩

end Records

/-! ## The approval request of a result -/

/-- What the standard library promises of the ISO texts of times in UTC: they are of digits and
separators, and have fewer digits than a hexadecimal secret. -/
structure StampLaws (lib : AuditLibrary) : Prop where
  chars : ∀ t : Datetime, t.Valid → t.utcoffset = some 0 →
    (lib.isoformat t).toList.all isStampChar = true
  digits : ∀ t : Datetime, t.Valid → t.utcoffset = some 0 →
    (lib.isoformat t).toList.countP Char.isDigit < 32

section Reading

variable {lib : AuditLibrary} {record : Record} {fullCapture : Bool} {key : String}

/-- A text is read off what is shown of a record. -/
theorem queueText_shownRecord (distinct : (record.map Prod.fst).Nodup)
    (plain : PlainKey lib.toStdlib key) {text : String}
    (found : record.lookup key = some (.str text)) (present : text ≠ "") :
    queueText (shownRecord lib fullCapture record) key = .ok (shownText lib key text) := by
  refine queueText_eq_ok.mpr ⟨?_, shownText_ne present⟩
  rw [Record.get, lookup_shownRecord_str distinct plain found]
  rfl

/-- An object is read off what is shown of a record, and is what is shown of the object. -/
theorem queueMapping_shownRecord (distinct : (record.map Prod.fst).Nodup)
    (plain : PlainKey lib.toStdlib key) {inner : Record}
    (found : record.lookup key = some (.obj inner)) (noun : String) :
    ∃ fullCapture', queueMapping (shownRecord lib fullCapture record) key noun
      = .ok (shownRecord lib fullCapture' inner) := by
  obtain ⟨fullCapture', shown⟩ := @lookup_shownRecord_obj lib record fullCapture key distinct plain
    inner found
  exact ⟨fullCapture', by rw [queueMapping, shown]⟩

/-- The text of a decision to ask looks like no secret. -/
theorem harmless_of_asks (laws : TextLaws lib) {decision : PolicyDecision}
    (asks : decision.asks = true) : containsSecretPattern lib decision.value = false := by
  cases decision with
  | askEachTime | askOncePerSession => exact harmless_of_name laws (by decide) (by decide)
  | deny | allow | allowWithLimits => cases asks

/-- The message to an operator is no empty text. -/
theorem approvalMessage_ne (requester : Actor) (capability : Capability) (targetIds : List String)
    (intendedEffect : String) (decision : PolicyDecision) :
    approvalMessage requester capability targetIds intendedEffect decision ≠ "" := by
  intro empty
  have length := congrArg String.length empty
  simp [approvalMessage, String.length_append] at length

/-- What the host shows of an approval request: everything as it is, but for the target, which is
shown as redaction leaves it. -/
structure HostApprovalRequest.Shows (lib : AuditLibrary) (shown : HostApprovalRequest)
    (approval : ApprovalRequest) (target providerId paramsFingerprint : String) : Prop where
  id : shown.id = approval.id
  sessionId : shown.sessionId = approval.sessionId
  target : shown.target = shownText lib "targets" target
  provider : shown.provider = providerId
  capability : shown.capability = approval.capability.id
  paramsFingerprint : shown.paramsFingerprint = paramsFingerprint
  expiresAt : shown.expiresAt = approval.expiresAt
  policyDecision : shown.policyDecision = approval.policyDecision.value
  preview : ∃ record, shown.paramsPreview = PyValue.ofEntries record
    ∧ Json.Readable lib.readFloat (.obj record)

end Reading

section Waiting

variable {lib : AuditLibrary} {approval : ApprovalRequest} {request : CapabilityRequest}
  {capability : Capability} {decision : PolicyDecisionResult} {providerId id fingerprint : String}
  {now : Datetime} {preview : Record}

/-- Some time after a time in UTC is a time in UTC. -/
theorem addSeconds_utc {t : Datetime} (utc : now.utcoffset = some 0) {seconds : Int}
    (later : now.addSeconds seconds = .ok t) : t.Valid ∧ t.utcoffset = some 0 := by
  unfold Datetime.addSeconds Datetime.ofWall at later
  split_ifs at later with within
  rw [← Except.ok.inj later]
  refine ⟨⟨within.1, within.2, fun offset same => ?_⟩, utc⟩
  change offset ∈ now.utcoffset at same
  rw [utc] at same
  cases same
  exact ⟨by decide, by decide⟩

/-- An approval request is shown where its bound texts are there. -/
theorem HostApprovalRequest.init_eq_ok {request : HostApprovalRequest} (identified : request.id ≠ "")
    (inSession : request.sessionId ≠ "") (targeted : request.target ≠ "")
    (served : request.provider ≠ "") (capable : request.capability ≠ "")
    (printed : request.paramsFingerprint ≠ "") :
    HostApprovalRequest.init lib request = .ok
      { request with
        paramsPreview := (redactMapping lib request.paramsPreview none).1
        redactions := request.redactions
          ++ pathsBelow "params_preview" (redactMapping lib request.paramsPreview none).2 } := by
  simp only [HostApprovalRequest.init, raiseIf_of_not identified, raiseIf_of_not inSession,
    raiseIf_of_not targeted, raiseIf_of_not served, raiseIf_of_not capable, raiseIf_of_not printed,
    except_ok_bind, except_pure]

/-- A text under a structural key is shown as it is. -/
theorem TextLaws.shownText_token (texts : TextLaws lib) {key : String} (name : isName key = true)
    (token : (key ∈ structuralTokenKeys || endsWith key "_id" || endsWith key "_hash"
      || endsWith key "_fingerprint") = true) (text : String) : shownText lib key text = text :=
  shownText_structural (texts.structuralKey name token)

/-- **A text of an approval request** is read off what is shown of the request. -/
theorem ApprovalRequest.queueText_shown (texts : TextLaws lib) (fullCapture : Bool)
    {key text : String} (name : isName key = true)
    (other : key ∉ credentialFieldKeys ++ rawArtifactKeys ++ hidTextKeys ++ ["redactions"])
    (stored : (approval.record lib).lookup key = some (.str text)) (present : text ≠ "") :
    queueText (shownRecord lib fullCapture (approval.record lib)) key
      = .ok (shownText lib key text) :=
  queueText_shownRecord approval.record_keys (texts.plainKey name other) stored present

namespace ApprovalRequest.Describes

variable (describes : approval.Describes request capability decision providerId id now)
  (texts : TextLaws lib) (fullCapture : Bool)

include describes texts

/-- The identifiers of an approval request are read as they are. -/
theorem shown_identifiers (identified : id ≠ "") (inSession : request.sessionId ≠ "")
    (served : providerId ≠ "") :
    queueText (shownRecord lib fullCapture (approval.record lib)) "id" = .ok approval.id
      ∧ queueText (shownRecord lib fullCapture (approval.record lib)) "session_id"
        = .ok approval.sessionId
      ∧ queueText (shownRecord lib fullCapture (approval.record lib)) "provider_id"
        = .ok providerId := by
  have stored : (approval.record lib).lookup "provider_id" = some (.str providerId) := by
    rw [ApprovalRequest.record, describes.providerId]
    rfl
  refine ⟨?_, ?_, ?_⟩
  · rw [approval.queueText_shown texts fullCapture (by decide) (by decide) rfl
      (describes.id ▸ identified), texts.shownText_token (by decide) (by decide)]
  · rw [approval.queueText_shown texts fullCapture (by decide) (by decide) rfl
      (describes.sessionId ▸ inSession), texts.shownText_token (by decide) (by decide)]
  · rw [approval.queueText_shown texts fullCapture (by decide) (by decide) stored served,
      texts.shownText_token (by decide) (by decide)]

/-- Its decision to ask, and its message, are read. -/
theorem shown_decision (asks : decision.decision.asks = true) :
    queueText (shownRecord lib fullCapture (approval.record lib)) "policy_decision"
        = .ok approval.policyDecision.value
      ∧ queueText (shownRecord lib fullCapture (approval.record lib)) "operator_message"
        = .ok (shownText lib "operator_message" approval.operatorMessage) := by
  constructor
  · rw [approval.queueText_shown texts fullCapture (by decide) (by decide) rfl
      (by cases approval.policyDecision <;> decide),
      shownText_harmless (harmless_of_asks texts (describes.policyDecision ▸ asks))]
  · exact approval.queueText_shown texts fullCapture (by decide) (by decide) rfl
      (describes.operatorMessage ▸ approvalMessage_ne _ _ _ _ _)

/-- The target of its scope is read as redaction leaves it. -/
theorem shown_target (noun : String) :
    ∃ scope, queueMapping (shownRecord lib fullCapture (approval.record lib)) "target_scope" noun
        = .ok scope
      ∧ firstScopeTarget lib scope = .ok (shownText lib "targets" request.targetId) := by
  obtain ⟨inner, scopeRead⟩ := @queueMapping_shownRecord lib (approval.record lib) fullCapture
    "target_scope" approval.record_keys (texts.plainKey (by decide) (by decide)) _ rfl noun
  refine ⟨_, scopeRead, ?_⟩
  have keys : ([("targets", Json.list (approval.targetIds.map .str)),
      ("allow_real_hardware", .bool false)].map Prod.fst).Nodup :=
    show ["targets", "allow_real_hardware"].Nodup by decide
  rw [firstScopeTarget, Record.get, @lookup_shownRecord_strings lib _ inner "targets" keys
    (texts.plainKey (by decide) (by decide)) approval.targetIds rfl, describes.targetIds]
  rfl

/-- The id of its capability is read as it is. -/
theorem shown_capability (noun : String) :
    ∃ capabilityRead,
      queueMapping (shownRecord lib fullCapture (approval.record lib)) "capability" noun
          = .ok capabilityRead
        ∧ queueText capabilityRead "id" = .ok approval.capability.id := by
  obtain ⟨inner, read⟩ := @queueMapping_shownRecord lib (approval.record lib) fullCapture
    "capability" approval.record_keys (texts.plainKey (by decide) (by decide)) _ rfl noun
  refine ⟨_, read, ?_⟩
  have present : approval.capability.id ≠ "" := by
    rw [describes.capabilityRef]
    exact capability.id_ne_empty
  have keys : ([("id", Json.str approval.capability.id),
      ("family", .str approval.capability.family),
      ("action", .str approval.capability.action)].map Prod.fst).Nodup :=
    show ["id", "family", "action"].Nodup by decide
  rw [@queueText_shownRecord lib _ inner "id" keys (texts.plainKey (by decide) (by decide)) _ rfl
    present, texts.shownText_token (by decide) (by decide)]

/-- Its expiry is read as it is: the digits of a time look like no secret. -/
theorem shown_expiry (iso : IsoLaws lib) (stamps : StampLaws lib) (utc : now.utcoffset = some 0) :
    queueDatetime lib.toStdlib
        (Record.get (shownRecord lib fullCapture (approval.record lib)) "expires_at")
      = .ok (some approval.expiresAt) := by
  obtain ⟨valid, offset⟩ := addSeconds_utc utc describes.expiresAt
  have aware : approval.expiresAt.aware = true := by
    rw [Datetime.aware, offset]
    rfl
  rw [Record.get, lookup_shownRecord_str approval.record_keys
      (texts.plainKey (by decide) (by decide)) rfl,
    shownText_harmless (harmless_of_stamp (stamps.chars _ valid offset)
      (stamps.digits _ valid offset))]
  exact queueDatetime_isoformat iso ⟨valid, aware⟩

end ApprovalRequest.Describes

/-- What the host reads first off a result that waits: its status, its data, and its redactions. -/
theorem waitingResult_read {toolName target provider reason : String}
    {capabilityId requestId : Option String} {data : Record} {risks redactions : List String}
    (noun : String) :
    let result := Json.reread (resultRecord "approval_required" toolName capabilityId target provider
      reason data risks redactions requestId)
    isLink (Record.get result "status") (some "approval_required") = true
      ∧ queueMapping result "data" noun = .ok (Json.reread data)
      ∧ queueTexts lib.toStdlib result "redactions" = .ok redactions := by
  intro result
  have found {key : String} {v : Json}
      (stored : (resultRecord "approval_required" toolName capabilityId target provider reason data
        risks redactions requestId).lookup key = some v) : result.lookup key = some (Json.norm v) :=
    (lookup_resultRecord key).trans (congrArg (Option.map Json.norm) stored)
  refine ⟨isLink_iff.mpr ?_, ?_, ?_⟩
  · rw [Record.get, @found "status" (.str "approval_required") rfl]
    rfl
  · rw [queueMapping, @found "data" (.obj data) rfl, Json.norm_obj_reread]
  · exact queueTexts_list ((@found "redactions" _ rfl).trans (congrArg some (Json.norm_strings _)))

/-- **The approval request of a result that waits** is read off it, whatever redaction has made of its
texts: only the target is under no structural key. -/
theorem fromHostResult_waits (texts : TextLaws lib) (iso : IsoLaws lib) (stamps : StampLaws lib)
    (describes : approval.Describes request capability decision providerId id now)
    (asks : decision.decision.asks = true) (utc : now.utcoffset = some 0)
    (identified : id ≠ "") (inSession : request.sessionId ≠ "") (targeted : request.targetId ≠ "")
    (served : providerId ≠ "") (printed : fingerprint ≠ "")
    (readable : Json.Readable lib.readFloat (.obj preview))
    {toolName target provider reason policyDecision : String} {capabilityId requestId : Option String}
    {risks redactions : List String} {fullCapture : Bool} (params : Params)
    (correlationId : Option String) (later : Datetime) :
    ∃ shown, HostApprovalRequest.fromHostResult lib
        (Json.reread (resultRecord "approval_required" toolName capabilityId target provider reason
          (redactJsonEntries lib fullCapture
            (Json.reread (pendingRecord lib approval preview fingerprint policyDecision)))
          risks redactions requestId))
        params correlationId later = .ok shown
      ∧ shown.Shows lib approval request.targetId providerId fingerprint := by
  set pending := pendingRecord lib approval preview fingerprint policyDecision
  set data := redactJsonEntries lib fullCapture (Json.reread pending)
  have plain {key : String} (name : isName key = true)
      (other : key ∉ credentialFieldKeys ++ rawArtifactKeys ++ hidTextKeys ++ ["redactions"]) :
      PlainKey lib.toStdlib key := texts.plainKey name other
  have keys : (pending.map Prod.fst).Nodup := pendingRecord_keys _ _ _ _
  obtain ⟨waits, dataRead, redactionsRead⟩ := @waitingResult_read lib toolName target provider reason
    capabilityId requestId data risks redactions "approval result data"
  -- what is pending: the approval request, the preview of the parameters, and their fingerprint
  obtain ⟨f, approvalRead⟩ := @queueMapping_shownRecord lib pending fullCapture "approval_request"
    keys (plain (by decide) (by decide)) (approval.record lib) rfl "approval_request"
  obtain ⟨g, previewRead⟩ := @queueMapping_shownRecord lib pending fullCapture "params_preview"
    keys (plain (by decide) (by decide)) preview rfl "params_preview"
  have printRead : fingerprintOr lib params
      (Record.get (shownRecord lib fullCapture pending) "params_fingerprint") = .ok fingerprint := by
    rw [Record.get, lookup_shownRecord_str keys (plain (by decide) (by decide)) rfl,
      texts.shownText_token (by decide) (by decide)]
    exact if_neg printed
  -- and the parts of the approval request
  obtain ⟨scope, scopeRead, targetRead⟩ := describes.shown_target texts f "target_scope"
  obtain ⟨inner, capabilityRead, capabilityIdRead⟩ := describes.shown_capability texts f "capability"
  obtain ⟨idRead, sessionRead, providerRead⟩ :=
    describes.shown_identifiers texts f identified inSession served
  obtain ⟨decisionRead, messageRead⟩ := describes.shown_decision texts f asks
  have expiresRead := describes.shown_expiry texts f iso stamps utc
  have risksRead : queueTexts lib.toStdlib (shownRecord lib f (approval.record lib)) "material_risks"
      = .ok _ :=
    queueTexts_list (lookup_shownRecord_strings approval.record_keys
      (plain (by decide) (by decide)) rfl)
  have asked : ¬ isLink (Record.get (Json.reread (resultRecord "approval_required" toolName
      capabilityId target provider reason data risks redactions requestId)) "status")
      (some "approval_required") = false := by
    rw [waits]
    exact Bool.noConfusion
  rw [HostApprovalRequest.fromHostResult, raiseIf_of_not asked, except_ok_bind, dataRead,
    except_ok_bind, show Json.reread data = shownRecord lib fullCapture pending from rfl,
    approvalRead, except_ok_bind, scopeRead, except_ok_bind, targetRead,
    except_ok_bind, capabilityRead, except_ok_bind, idRead, except_ok_bind, sessionRead,
    except_ok_bind, providerRead, except_ok_bind, capabilityIdRead, except_ok_bind, printRead,
    except_ok_bind, expiresRead, except_ok_bind, decisionRead, except_ok_bind, messageRead,
    except_ok_bind, risksRead, except_ok_bind, previewRead, except_ok_bind, redactionsRead,
    except_ok_bind]
  have previewReadable : Json.Readable lib.readFloat (.obj (shownRecord lib g preview)) :=
    readable_shownRecord readable
  refine ⟨_, HostApprovalRequest.init_eq_ok (describes.id ▸ identified)
    (describes.sessionId ▸ inSession) (shownText_ne targeted) served ?_ printed, rfl, rfl, rfl, rfl,
    rfl, rfl, rfl, rfl, redactedRecord lib (shownRecord lib g preview),
    redactMapping_record previewReadable, readable_redactedRecord previewReadable⟩
  rw [describes.capabilityRef]
  exact capability.id_ne_empty

end Waiting

/-! ## What the host writes of approvals -/

section Writing

variable {lib : AuditLibrary}

variable (lib) in
/-- `HostApprovalRequest.to_dict` of an approval request with this preview, as JSON. -/
def HostApprovalRequest.record (request : HostApprovalRequest) (preview : Record) : Record :=
  [("id", .str request.id), ("session_id", .str request.sessionId),
    ("target", .str request.target), ("provider", .str request.provider),
    ("capability", .str request.capability),
    ("params_fingerprint", .str request.paramsFingerprint),
    ("expires_at", .str (lib.isoformat request.expiresAt)),
    ("policy_decision", .str request.policyDecision),
    ("operator_message", .str (redactHostText lib.toStdlib request.operatorMessage)),
    ("material_risks", .list (request.materialRisks.map .str)),
    ("params_preview", .obj preview),
    ("scope_options", .list (["one_time", "session"].map .str)),
    ("correlation_id", jsonOptional request.correlationId),
    ("redactions", .list ((sortedSet request.redactions).map .str))]

/-- Its keys are distinct. -/
theorem HostApprovalRequest.record_keys (request : HostApprovalRequest) (preview : Record) :
    ((request.record lib preview).map Prod.fst).Nodup := by
  change ["id", "session_id", "target", "provider", "capability", "params_fingerprint",
    "expires_at", "policy_decision", "operator_message", "material_risks", "params_preview",
    "scope_options", "correlation_id", "redactions"].Nodup
  decide

theorem HostApprovalRequest.readable_record (request : HostApprovalRequest) {preview : Record}
    {readFloat : FloatToken → FloatToken} (readable : Json.Readable readFloat (.obj preview)) :
    Json.Readable readFloat (.obj (request.record lib preview)) :=
  ⟨request.record_keys preview, trivial, trivial, trivial, trivial, trivial, trivial, trivial, trivial,
    trivial, Json.readable_strings _, readable, Json.readable_strings _, readable_jsonOptional _,
    Json.readable_strings _, trivial⟩

/-- **An approval request with a JSON preview** is written and read back. -/
theorem HostApprovalRequest.toDict_eq_ok {request : HostApprovalRequest} {preview : Record}
    (same : request.paramsPreview = PyValue.ofEntries preview)
    (readable : Json.Readable lib.readFloat (.obj preview)) :
    request.toDict lib = .ok (Json.reread (request.record lib preview)) := by
  refine jsonSafeEntriesOf_json ?_ (request.readable_record readable)
  rw [same]
  simp only [HostApprovalRequest.record, strDict, ofEntries_eq_map, PyValue.ofJson, ← ofJson_strings,
    ofJson_jsonOptional, List.map_cons, List.map_nil]

variable (lib) in
/-- `HostApprovalResponse.to_dict`, as JSON. -/
def HostApprovalResponse.record (response : HostApprovalResponse) : Record :=
  [("request_id", .str response.requestId), ("decision", .str response.decision.value),
    ("operator_id", .str response.operatorId), ("scope", .str response.scope.value),
    ("reason", .str response.reason), ("decided_at", .str (lib.isoformat response.decidedAt)),
    ("session_id", jsonOptional response.sessionId), ("target", jsonOptional response.target),
    ("provider", jsonOptional response.provider),
    ("capability", jsonOptional response.capability),
    ("params_fingerprint", jsonOptional response.paramsFingerprint)]

theorem HostApprovalResponse.readable_record (response : HostApprovalResponse)
    {readFloat : FloatToken → FloatToken} :
    Json.Readable readFloat (.obj (response.record lib)) := by
  refine ⟨?_, trivial, trivial, trivial, trivial, trivial, trivial, readable_jsonOptional _,
    readable_jsonOptional _, readable_jsonOptional _, readable_jsonOptional _,
    readable_jsonOptional _, trivial⟩
  change ["request_id", "decision", "operator_id", "scope", "reason", "decided_at", "session_id",
    "target", "provider", "capability", "params_fingerprint"].Nodup
  decide

/-- A response can always be written. -/
theorem HostApprovalResponse.toDict_eq_ok (response : HostApprovalResponse) :
    response.toDict lib = .ok (Json.reread (response.record lib)) := by
  refine jsonSafeEntriesOf_json ?_ response.readable_record
  simp only [HostApprovalResponse.record, strDict, ofEntries_eq_map, PyValue.ofJson,
    ofJson_jsonOptional, List.map_cons, List.map_nil]

end Writing

end AgenticKVM
