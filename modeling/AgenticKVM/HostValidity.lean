import AgenticKVM.HostDecisions
import AgenticKVM.ResultValidation

/-! # Whether the host's results pass its own validation

What the host returns of a call shows the call's parameters where it waits for an operator, and the
data of the provider's answer where it was executed. It passes the validation of host results where
what it shows is shielded, and so does everything the host returns later of the call
(`host_results_pass`). A parameter whose name has a sensitive word in it, but is no key that redaction
knows, is shown with its value, and the result does not pass (`not_host_results_pass`). -/

namespace AgenticKVM

open Lib (Json FloatToken Prog Outcome except_bind_eq_ok except_check_eq_ok except_ok_bind)

/-! ## Payloads -/

section Payloads

variable {lib : AuditLibrary}

variable (lib) in
/-- What a program returns passes the validation of host results. -/
def Passes (result : Except PyExc Record) : Prop :=
  ∀ payload, result = .ok payload → validateHostResult lib.toStdlib payload = .ok ()

theorem passes_ok {payload : Record} (valid : validateHostResult lib.toStdlib payload = .ok ()) :
    Passes lib (.ok payload) := by
  intro other returned
  rw [← Except.ok.inj returned]
  exact valid

variable (lib) in
/-- **A tool's payload with safe keys**, before its approval request is added. -/
structure ToolPayload (payload : Record) (status : HostResultStatus) : Prop where
  readable : Json.Readable lib.readFloat (.obj payload)
  safe : SafeKeys lib.toStdlib payload
  stated : payload.get "status" = .str status.value
  texts : ∀ field ∈ ["reason", "tool_name", "target", "provider"],
    isStr (payload.get field) = true
  coded : status = .providerError → validateProviderError payload = .ok ()

/-- A payload that waits for no operator passes. -/
theorem ToolPayload.passes {payload : Record} {status : HostResultStatus}
    (shown : ToolPayload lib payload status) (decided : status ≠ .approvalRequired) :
    validateHostResult lib.toStdlib payload = .ok () := by
  refine (validateHostResult_tool _ shown.stated).mpr
    ⟨shown.safe, shown.texts "reason" (by decide), fun _ field member => ?_,
      fun waits => absurd waits decided, shown.coded⟩
  exact shown.texts field (List.mem_cons_of_mem _ member)

variable (lib) in
/-- An approval request the host may show: its bound texts are there, and the keys of its preview are
safe. -/
structure HostApprovalRequest.Presentable (approval : HostApprovalRequest) : Prop where
  id : approval.id ≠ ""
  sessionId : approval.sessionId ≠ ""
  target : approval.target ≠ ""
  provider : approval.provider ≠ ""
  capability : approval.capability ≠ ""
  paramsFingerprint : approval.paramsFingerprint ≠ ""
  preview : ∃ record, approval.paramsPreview = PyValue.ofEntries record
    ∧ Json.Readable lib.readFloat (.obj record) ∧ keysSafeEntries lib.toStdlib record

/-- What is written of it has safe keys. -/
theorem HostApprovalRequest.safeKeys_record (laws : TextLaws lib) (approval : HostApprovalRequest)
    {preview : Record} (safe : keysSafeEntries lib.toStdlib preview) :
    SafeKeys lib.toStdlib (Json.reread (approval.record lib preview)) := by
  refine safeKeys_reread laws ?_ fun entry member => ?_
  · change plainNames ["id", "session_id", "target", "provider", "capability", "params_fingerprint",
      "expires_at", "policy_decision", "operator_message", "material_risks", "params_preview",
      "scope_options", "correlation_id", "redactions"] = true
    decide +kernel
  · simp only [HostApprovalRequest.record, List.mem_cons, List.not_mem_nil, or_false] at member
    rcases member with rfl | rfl | rfl | rfl | rfl | rfl | rfl | rfl | rfl | rfl | rfl | rfl | rfl
      | rfl
    · trivial
    · trivial
    · trivial
    · trivial
    · trivial
    · trivial
    · trivial
    · trivial
    · trivial
    · exact keysSafe_strings _
    · exact safe
    · exact keysSafe_strings _
    · exact keysSafe_jsonOptional _
    · exact keysSafe_strings _

theorem isFilled_str {text : String} (present : text ≠ "") : isFilled (.str text) = true :=
  decide_eq_true present

/-- It has the texts the validation asks for. -/
theorem HostApprovalRequest.Presentable.required {approval : HostApprovalRequest}
    (presentable : approval.Presentable lib) (preview : Record) :
    requireApprovalTexts (Json.reread (approval.record lib preview))
      ["id", "session_id", "target", "provider", "capability", "params_fingerprint"] = .ok () := by
  have text {key text : String} (stored : (approval.record lib preview).lookup key = some (.str text))
      (present : text ≠ "") :
      isFilled (Record.get (Json.reread (approval.record lib preview)) key) = true := by
    rw [Record.get, Json.lookup_reread (approval.record_keys preview), stored]
    exact isFilled_str present
  rw [requireApprovalTexts_eq_ok]
  intro field member
  simp only [List.mem_cons, List.not_mem_nil, or_false] at member
  rcases member with rfl | rfl | rfl | rfl | rfl | rfl
  · exact text rfl presentable.id
  · exact text rfl presentable.sessionId
  · exact text rfl presentable.target
  · exact text rfl presentable.provider
  · exact text rfl presentable.capability
  · exact text rfl presentable.paramsFingerprint

theorem get_dictSet_ne {payload : Record} {key other : String} {v : Json} (ne : other ≠ key) :
    Record.get (dictSet payload key v) other = Record.get payload other := by
  rw [Record.get, Record.get, lookup_dictSet_ne ne]

/-- A payload that waits passes with an approval request that has what is asked for. -/
theorem ToolPayload.passes_with (laws : TextLaws lib) {payload : Record}
    (shown : ToolPayload lib payload .approvalRequired) {written : Record}
    (safe : SafeKeys lib.toStdlib written)
    (required : requireApprovalTexts written
      ["id", "session_id", "target", "provider", "capability", "params_fingerprint"] = .ok ()) :
    validateHostResult lib.toStdlib (dictSet payload "approval_request" (.obj written)) = .ok () := by
  have plain : isSensitiveKey lib.toStdlib "approval_request" = false :=
    laws.insensitive (show plainNames ["approval_request"] = true by decide +kernel)
      List.mem_cons_self
  have fields : ∀ field ∈ ["reason", "tool_name", "target", "provider"], field ≠ "approval_request" := by
    decide
  refine (validateHostResult_tool .approvalRequired ?_).mpr
    ⟨shown.safe.dictSet plain safe.entries, ?_, fun _ field member => ?_, fun _ => ?_,
      fun failed => (nomatch failed)⟩
  · rw [get_dictSet_ne (by decide), shown.stated]
  · rw [get_dictSet_ne (by decide)]
    exact shown.texts "reason" (by decide)
  · rw [get_dictSet_ne (fields field (List.mem_cons_of_mem _ member))]
    exact shown.texts field (List.mem_cons_of_mem _ member)
  · rw [validateApprovalRequest, Record.get, lookup_dictSet_self]
    exact required

/-- It is written with safe keys and the texts the validation asks for. -/
theorem HostApprovalRequest.Presentable.written (laws : TextLaws lib) {approval : HostApprovalRequest}
    (presentable : approval.Presentable lib) :
    ∃ written, approval.toDict lib = .ok written ∧ SafeKeys lib.toStdlib written ∧
      requireApprovalTexts written
        ["id", "session_id", "target", "provider", "capability", "params_fingerprint"] = .ok () := by
  obtain ⟨preview, same, readable, safe⟩ := presentable.preview
  exact ⟨_, HostApprovalRequest.toDict_eq_ok same readable, approval.safeKeys_record laws safe,
    presentable.required preview⟩

/-- **A payload that waits passes with its approval request.** -/
theorem ToolPayload.passes_waiting (laws : TextLaws lib) {payload : Record}
    (shown : ToolPayload lib payload .approvalRequired) {approval : HostApprovalRequest}
    (presentable : approval.Presentable lib) :
    Passes lib ((approval.toDict lib).map fun written =>
      dictSet payload "approval_request" (.obj written)) := by
  obtain ⟨written, same, safe, required⟩ := presentable.written laws
  rw [same]
  exact passes_ok (shown.passes_with laws safe required)

/-- What the host returns for an error passes. -/
theorem passes_hostError (laws : TextLaws lib) (reason : String) (toolName : Option String) :
    Passes lib (hostError lib reason toolName) := by
  set record : Record := [("status", .str HostResultStatus.validationError.value),
    ("reason", .str (redactHostText lib.toStdlib reason)), ("details", .obj []),
    ("redactions", .list [])] ++ (toolName.toList.map fun name => ("tool_name", Json.str name))
  have names : plainNames (record.map Prod.fst) = true ∧ (record.map Prod.fst).Nodup := by
    cases toolName with
    | none =>
        change plainNames ["status", "reason", "details", "redactions"] = true
          ∧ ["status", "reason", "details", "redactions"].Nodup
        decide +kernel
    | some name =>
        change plainNames ["status", "reason", "details", "redactions", "tool_name"] = true
          ∧ ["status", "reason", "details", "redactions", "tool_name"].Nodup
        decide +kernel
  have readable : Json.Readable lib.readFloat (.obj record) := by
    refine ⟨names.2, ?_⟩
    cases toolName
    · exact ⟨trivial, trivial, ⟨List.nodup_nil, trivial⟩, trivial, trivial⟩
    · exact ⟨trivial, trivial, ⟨List.nodup_nil, trivial⟩, trivial, trivial, trivial⟩
  have written : hostError lib reason toolName = .ok (Json.reread record) := by
    refine jsonSafeEntriesOf_json ?_ readable
    cases toolName <;> rfl
  have text {key text : String} (stored : record.lookup key = some (.str text)) :
      Record.get (Json.reread record) key = .str text := by
    rw [Record.get, Json.lookup_reread names.2, stored]
    rfl
  intro payload returned
  rw [written] at returned
  rw [← Except.ok.inj returned]
  refine (validateHostResult_tool .validationError (text rfl)).mpr
    ⟨?_, ?_, fun other => absurd other (by decide), fun other => (by cases other),
      fun other => (by cases other)⟩
  · refine safeKeys_reread laws names.1 fun entry member => ?_
    rcases List.mem_append.mp member with fixed | named
    · simp only [List.mem_cons, List.not_mem_nil, or_false] at fixed
      rcases fixed with rfl | rfl | rfl | rfl
      all_goals trivial
    · obtain ⟨name, -, rfl⟩ := List.mem_map.mp named
      trivial
  · rw [text rfl]
    rfl

/-- The keys of a result are safe where those of its data are. -/
theorem safeKeys_resultRecord_iff (laws : TextLaws lib) {status toolName target provider reason : String}
    {capability id : Option String} {data : Record} {risks redactions : List String} :
    SafeKeys lib.toStdlib (Json.reread (resultRecord status toolName capability target provider reason
        data risks redactions id))
      ↔ keysSafeEntries lib.toStdlib data := by
  constructor
  · intro safe
    have found := @lookup_resultRecord status toolName target provider reason capability id data risks
      redactions "data"
    have below := keysSafe_lookup safe.entries (found.trans rfl)
    exact (keysSafe_norm_iff (.obj data)).mp below
  · intro safe
    refine safeKeys_reread laws ?_ fun entry member => ?_
    · cases id with
      | none =>
          change plainNames ["status", "tool_name", "capability", "target", "provider", "reason", "data",
            "risks", "redactions"] = true
          decide +kernel
      | some id =>
          change plainNames ["status", "tool_name", "capability", "target", "provider", "reason", "data",
            "risks", "redactions", "approval_request_id"] = true
          decide +kernel
    · rw [resultRecord] at member
      rcases List.mem_append.mp member with fixed | identified
      · simp only [List.mem_cons, List.not_mem_nil, or_false] at fixed
        rcases fixed with rfl | rfl | rfl | rfl | rfl | rfl | rfl | rfl | rfl
        exacts [trivial, trivial, keysSafe_jsonOptional _, trivial, trivial, trivial, safe,
          keysSafe_strings _, keysSafe_strings _]
      · obtain ⟨id, -, rfl⟩ := List.mem_map.mp identified
        trivial

/-- The data of a result have a provider's error code. -/
def ErrorCoded (data : Record) : Prop :=
  ∃ inner code, data.lookup "provider_result" = some (.obj inner)
    ∧ inner.lookup "error_code" = some (.str code)

/-- **The host's payload of a result** has safe keys exactly where the data of the result are
shielded. -/
theorem hostPayload_shown (laws : TextLaws lib) {result : MCPToolResult} {data : Record}
    (readable : Json.Readable lib.readFloat (.obj data))
    (coded : result.status = .providerError → ErrorCoded data) :
    ∃ payload, ConfigRuntime.hostPayload lib (Json.reread (result.record data)) = .ok payload ∧
      (SafeKeys lib.toStdlib payload ↔ shieldedEntries lib data) ∧
      (SafeKeys lib.toStdlib payload →
        ToolPayload lib payload (HostResultStatus.ofJson (.str result.status.value))) := by
  obtain ⟨reason, redactions, fullCapture, written⟩ := @hostPayload_record lib result data readable
  set status := HostResultStatus.ofJson (.str result.status.value) with shown
  set left := redactJsonEntries lib fullCapture (Json.reread data)
  have leftReadable : Json.Readable lib.readFloat (.obj left) := by
    refine ⟨?_, readable_redactJsonEntries (Json.readable_reread.mpr readable).2 fullCapture⟩
    rw [redactJsonEntries_keys]
    exact (Json.readable_reread.mpr readable).1
  have get {key : String} {v : Json} (stored : (resultRecord status.value result.toolName
      result.capability result.target result.provider reason left result.risks redactions
      result.approvalRequestId).lookup key = some v) :
      Record.get (Json.reread (resultRecord status.value result.toolName result.capability result.target
        result.provider reason left result.risks redactions result.approvalRequestId)) key
        = Json.norm v := by
    rw [Record.get, lookup_resultRecord, stored]
    rfl
  refine ⟨_, written, ?_, fun safe => ⟨Json.readable_reread.mpr (readable_resultRecord leftReadable),
    safe, @get "status" (.str status.value) rfl, ?_, ?_⟩⟩
  · rw [safeKeys_resultRecord_iff laws, keysSafeEntries_redactJson_iff, shieldedEntries_reread_iff]
  · intro field member
    simp only [List.mem_cons, List.not_mem_nil, or_false] at member
    rcases member with rfl | rfl | rfl | rfl
    all_goals
      rw [get rfl]
      rfl
  · intro failed
    have providerError : result.status = .providerError := by
      rw [shown] at failed
      revert failed
      cases result.status <;> decide
    obtain ⟨inner, code, found, named⟩ := coded providerError
    obtain ⟨fullCapture', providerShown⟩ := @lookup_shownRecord_obj lib data fullCapture
      "provider_result" readable.1 (laws.plainKey (by decide) (by decide)) inner found
    have innerReadable : Json.Readable lib.readFloat (.obj inner) := readable.lookup found
    have codeShown := @lookup_shownRecord_str lib inner fullCapture' "error_code" innerReadable.1
      (laws.plainKey (by decide) (by decide)) code named
    rw [validateProviderError, providerResultOf, @get "data" (.obj left) rfl, Json.norm_obj_reread]
    dsimp only
    rw [Record.get, show Json.reread left = shownRecord lib fullCapture data from rfl, providerShown]
    dsimp only [Option.getD_some]
    rw [Record.get, codeShown]
    rfl

/-- What the host shows of the data of a result has safe keys exactly where they are shielded. -/
theorem keysSafe_hostPayload_iff {result : MCPToolResult} {data payload : Record}
    (readable : Json.Readable lib.readFloat (.obj data))
    (shown : ConfigRuntime.hostPayload lib (Json.reread (result.record data)) = .ok payload) :
    KeysSafe lib.toStdlib (payload.get "data") ↔ shieldedEntries lib data := by
  obtain ⟨reason, redactions, fullCapture, written⟩ := @hostPayload_record lib result data readable
  rw [written] at shown
  rw [← Except.ok.inj shown, Record.get, lookup_resultRecord]
  change KeysSafe lib.toStdlib (Json.norm (.obj (redactJsonEntries lib fullCapture (Json.reread data))))
    ↔ _
  rw [keysSafe_norm_iff, KeysSafe, keysSafeEntries_redactJson_iff, shieldedEntries_reread_iff]

end Payloads

/-! ## The envelope of a provider's answer -/

section Envelopes

variable (lib : AuditLibrary) (answer : ProviderActionResult)

/-- `ProviderActionResult.normalized` of an answer with these data, as JSON. -/
def ProviderActionResult.record (data : Record) : Record :=
  [("status", .str (if answer.ok then "ok" else "error")),
    ("provider_id", .str answer.providerId),
    ("provider_type", .str (givenOr answer.providerType answer.providerId)),
    ("target", .str answer.targetId), ("capability", .str answer.capability),
    ("data", redactJson lib "" false (.obj data)),
    ("warnings", .list (answer.warnings.map .str)), ("redacted", .bool answer.redacted),
    ("error_code", jsonOptional answer.errorCode),
    ("error_message", redactJson lib "" false (.str (answer.errorMessage.getD ""))),
    ("retryable", .bool answer.retryable),
    ("performed_on_hardware", .bool answer.performedOnHardware)]
  ++ (answer.timestamp.toList.map fun timestamp => ("timestamp", .str timestamp))

variable {lib answer} {data : Record}

theorem ProviderActionResult.normalized_eq_record (same : answer.data = PyValue.ofEntries data)
    (readable : Json.Readable lib.readFloat (.obj data)) :
    answer.normalized lib = PyValue.ofEntries (answer.record lib data) := by
  have redacted : (redactValue lib "" "" false (.dict answer.data)).value
      = PyValue.ofJson (redactJson lib "" false (.obj data)) := by
    rw [same]
    exact redactValue_ofJson (.obj data) readable "" "" false
  have message (text : String) : (redactValue lib "" "" false (.str text)).value
      = PyValue.ofJson (redactJson lib "" false (.str text)) :=
    @redactValue_ofJson lib lib.readFloat (.str text) trivial "" "" false
  rw [ProviderActionResult.normalized, redacted, message, ProviderActionResult.record]
  cases answer.timestamp
  all_goals
    simp only [strEntries, ofEntries_eq_map, PyValue.ofJson, ← ofJson_strings, ofJson_jsonOptional,
      List.map_cons, List.map_nil, Option.toList_none, Option.toList_some, List.append_nil,
      List.cons_append, List.nil_append]

/-- The keys of an envelope are distinct names without a sensitive word. -/
theorem ProviderActionResult.record_keys :
    plainNames ((answer.record lib data).map Prod.fst) = true
      ∧ ((answer.record lib data).map Prod.fst).Nodup := by
  rw [ProviderActionResult.record]
  cases answer.timestamp with
  | none =>
      change plainNames ["status", "provider_id", "provider_type", "target", "capability", "data",
          "warnings", "redacted", "error_code", "error_message", "retryable",
          "performed_on_hardware"] = true
        ∧ ["status", "provider_id", "provider_type", "target", "capability", "data", "warnings",
          "redacted", "error_code", "error_message", "retryable", "performed_on_hardware"].Nodup
      decide +kernel
  | some timestamp =>
      change plainNames ["status", "provider_id", "provider_type", "target", "capability", "data",
          "warnings", "redacted", "error_code", "error_message", "retryable",
          "performed_on_hardware", "timestamp"] = true
        ∧ ["status", "provider_id", "provider_type", "target", "capability", "data", "warnings",
          "redacted", "error_code", "error_message", "retryable", "performed_on_hardware",
          "timestamp"].Nodup
      decide +kernel

/-- What holds of its texts, its flags and its redacted parts holds of every entry. -/
theorem ProviderActionResult.forall_record {P : Json → Prop} (texts : ∀ text, P (.str text))
    (flags : ∀ flag, P (.bool flag)) (lists : ∀ items : List String, P (.list (items.map .str)))
    (null : P .null) (left : P (redactJson lib "" false (.obj data)))
    (message : ∀ text, P (redactJson lib "" false (.str text))) :
    ∀ entry ∈ answer.record lib data, P entry.2 := by
  intro entry member
  rw [ProviderActionResult.record] at member
  rcases List.mem_append.mp member with fixed | timed
  · simp only [List.mem_cons, List.not_mem_nil, or_false] at fixed
    rcases fixed with rfl | rfl | rfl | rfl | rfl | rfl | rfl | rfl | rfl | rfl | rfl | rfl
    · exact texts _
    · exact texts _
    · exact texts _
    · exact texts _
    · exact texts _
    · exact left
    · exact lists _
    · exact flags _
    · dsimp only
      cases answer.errorCode
      exacts [null, texts _]
    · exact message _
    · exact flags _
    · exact flags _
  · obtain ⟨timestamp, -, rfl⟩ := List.mem_map.mp timed
    exact texts _

theorem ProviderActionResult.readable_record (readable : Json.Readable lib.readFloat (.obj data)) :
    Json.Readable lib.readFloat (.obj (answer.record lib data)) := by
  refine ⟨ProviderActionResult.record_keys.2, (Json.readableEntries_iff _).mpr ?_⟩
  refine ProviderActionResult.forall_record (fun _ => trivial) (fun _ => trivial)
    (fun items => Json.readable_strings items) trivial (readable_redactJson readable "" false)
    fun text => ?_
  exact @readable_redactJson lib lib.readFloat (.str text) trivial "" false

/-- The keys of an envelope are safe where the data are shielded. -/
theorem ProviderActionResult.keysSafe_record (laws : TextLaws lib)
    (shielded : shieldedEntries lib data) :
    keysSafeEntries lib.toStdlib (answer.record lib data) := by
  rw [keysSafe_of_names laws ProviderActionResult.record_keys.1]
  exact ProviderActionResult.forall_record (fun _ => trivial) (fun _ => trivial) keysSafe_strings
    trivial ((keysSafe_redactJson_iff "" false _).mpr (.inr shielded))
    fun text => (keysSafe_redactJson_iff "" false (.str text)).mpr trivial

end Envelopes

/-! ## What is shown of a call -/

/-- **Providers answer with JSON**. -/
structure JsonProviders (lib : AuditLibrary) (environment : RuntimeEnvironment) : Prop where
  data : ∀ history adapter request answer, environment.execute history adapter request = .ok answer →
    ∃ data, answer.data = PyValue.ofEntries data ∧ Json.Readable lib.readFloat (.obj data)

/-- **An answer the host may show**: its data are shielded, and an error has a code. -/
structure ProviderActionResult.Showable (lib : AuditLibrary) (answer : ProviderActionResult) :
    Prop where
  shielded : ∀ data, answer.data = PyValue.ofEntries data → shieldedEntries lib data
  coded : answer.ok = false → answer.errorCode.isSome

section Outcomes

variable {lib : AuditLibrary}

/-- What a provider answered is shown in its envelope. -/
theorem providerOutcome_data (laws : TextLaws lib) {environment : RuntimeEnvironment}
    (providers : JsonProviders lib environment) {history : List RuntimeEffect}
    {adapter : ProviderAdapter} {asked : ProviderActionRequest} {answer : ProviderActionResult}
    (answered : environment.execute history adapter asked = .ok answer)
    (showable : answer.Showable lib) {outcome : ControlPlaneResult}
    (provided : outcome.providerResult = some answer) (request : MCPToolRequest)
    (capabilityId providerId : String) (status : MCPResultStatus) :
    ∃ data, (providerOutcome lib request capabilityId providerId status outcome).data = PyValue.ofEntries data ∧ Json.Readable lib.readFloat (.obj data) ∧
      shieldedEntries lib data ∧ (answer.ok = false → ErrorCoded data) := by
  obtain ⟨given, same, readable⟩ := providers.data _ _ _ _ answered
  set inner := answer.record lib given
  have innerReadable : Json.Readable lib.readFloat (.obj inner) :=
    ProviderActionResult.readable_record readable
  have outerReadable : Json.Readable lib.readFloat (.obj [("provider_result", .obj inner)]) :=
    ⟨List.nodup_singleton _, innerReadable, trivial⟩
  have plain {key : String} (name : isName key = true)
      (other : key ∉ credentialFieldKeys ++ rawArtifactKeys ++ hidTextKeys ++ ["redactions"]) :
      PlainKey lib.toStdlib key := laws.plainKey name other
  refine ⟨redactedRecord lib [("provider_result", .obj inner)], ?_,
    readable_redactedRecord outerReadable, ?_, fun failed => ?_⟩
  · have envelopeShown : (outcome.providerResult.map (ProviderActionResult.normalized lib)).getD []
        = PyValue.ofEntries inner := by
      rw [provided, Option.map_some, Option.getD_some]
      exact ProviderActionResult.normalized_eq_record same readable
    have entries : strEntries [("provider_result",
          PyValue.dict ((outcome.providerResult.map (ProviderActionResult.normalized lib)).getD []))]
        = PyValue.ofEntries [("provider_result", .obj inner)] := by
      rw [envelopeShown]
      rfl
    rw [providerOutcome, entries]
    exact redactMapping_record outerReadable
  · have names : plainNames ([("provider_result", Json.obj inner)].map Prod.fst) = true := by
      change plainNames ["provider_result"] = true
      decide +kernel
    rw [redactedRecord, shieldedEntries_redactJson_iff, shielded_of_names laws names,
      List.forall_mem_singleton]
    exact .inr (shieldedEntries_of_keysSafe inner
      (ProviderActionResult.keysSafe_record laws (showable.shielded given same)))
  · obtain ⟨code, named⟩ := Option.isSome_iff_exists.mp (showable.coded failed)
    have stored : inner.lookup "error_code" = some (.str code) := by
      change some (jsonOptional answer.errorCode) = _
      rw [named]
      rfl
    set fullCapture := mappingFullCapture lib.toStdlib
      (PyValue.ofEntries [("provider_result", .obj inner)]) false
    refine ⟨redactJsonEntries lib (mappingFullCapture lib.toStdlib (PyValue.ofEntries inner)
      fullCapture) inner, shownText lib "error_code" code, ?_, ?_⟩
    · rw [redactedRecord, lookup_redactJsonEntries, List.lookup_cons_self, Option.map_some,
        redactJson_obj (plain (by decide) (by decide))]
    · rw [lookup_redactJsonEntries, stored, Option.map_some,
        redactJson_str (plain (by decide) (by decide))]

/-- What is written of an approval request is shielded. -/
theorem ApprovalRequest.shielded_record (laws : TextLaws lib) (approval : ApprovalRequest) :
    shieldedEntries lib (approval.record lib) := by
  have safe {record : Record} (names : plainNames (record.map Prod.fst) = true)
      (below : ∀ entry ∈ record, KeysSafe lib.toStdlib entry.2) :
      keysSafeEntries lib.toStdlib record := (keysSafe_of_names laws names).mpr below
  refine shieldedEntries_of_keysSafe _ (safe ?_ fun entry member => ?_)
  · rw [ApprovalRequest.record]
    cases approval.providerId with
    | none =>
        change plainNames ["id", "created_at", "expires_at", "session_id", "requester", "capability",
          "target_scope", "policy_decision", "operator_message", "material_risks",
          "proposed_audit_event_id"] = true
        decide +kernel
    | some id =>
        change plainNames ["id", "created_at", "expires_at", "session_id", "requester", "capability",
          "target_scope", "policy_decision", "operator_message", "material_risks",
          "proposed_audit_event_id", "provider_id"] = true
        decide +kernel
  · rw [ApprovalRequest.record] at member
    rcases List.mem_append.mp member with fixed | served
    · simp only [List.mem_cons, List.not_mem_nil, or_false] at fixed
      rcases fixed with rfl | rfl | rfl | rfl | rfl | rfl | rfl | rfl | rfl | rfl | rfl
      · trivial
      · trivial
      · trivial
      · trivial
      · refine safe (show plainNames ["type", "id"] = true by decide +kernel) ?_
        simp only [List.forall_mem_cons, List.not_mem_nil, false_implies, implies_true, and_true]
        exact ⟨trivial, trivial⟩
      · refine safe (show plainNames ["id", "family", "action"] = true by decide +kernel) ?_
        simp only [List.forall_mem_cons, List.not_mem_nil, false_implies, implies_true, and_true]
        exact ⟨trivial, trivial, trivial⟩
      · refine safe (show plainNames ["targets", "allow_real_hardware"] = true by decide +kernel) ?_
        simp only [List.forall_mem_cons, List.not_mem_nil, false_implies, implies_true, and_true]
        exact ⟨keysSafe_strings _, trivial⟩
      · trivial
      · trivial
      · exact keysSafe_strings _
      · trivial
    · obtain ⟨id, -, rfl⟩ := List.mem_map.mp served
      trivial

/-- **The data of a result that waits** are shielded exactly where its preview is. -/
theorem shielded_pendingRecord_iff (laws : TextLaws lib) (approval : ApprovalRequest)
    (preview : Record) (fingerprint policyDecision : String) :
    shieldedEntries lib (pendingRecord lib approval preview fingerprint policyDecision)
      ↔ shieldedEntries lib preview := by
  have names : plainNames ((pendingRecord lib approval preview fingerprint policyDecision).map
      Prod.fst) = true := by
    change plainNames ["approval_request", "params_preview", "params_fingerprint",
      "policy_decision"] = true
    decide +kernel
  have plain : isSecretKey lib.toStdlib "params_preview" = false :=
    (laws.plainKey (by decide) (by decide)).secret
  rw [shielded_of_names laws names, pendingRecord]
  simp only [List.forall_mem_cons, List.not_mem_nil, false_implies, implies_true, and_true]
  constructor
  · rintro ⟨-, secret | shown, -⟩
    · rw [plain] at secret
      cases secret
    · exact shown
  · exact fun shown => ⟨.inr (approval.shielded_record laws), .inr shown, trivial, trivial⟩

end Outcomes

/-! ## Approval requests read off a payload -/

section Reading

variable {lib : AuditLibrary}

/-- A mapping of a payload with safe keys has safe keys. -/
theorem safe_of_queueMapping {payload inner : Record} {key noun : String}
    (readable : Json.Readable lib.readFloat (.obj payload)) (safe : SafeKeys lib.toStdlib payload)
    (read : queueMapping payload key noun = .ok inner) :
    Json.Readable lib.readFloat (.obj inner) ∧ SafeKeys lib.toStdlib inner := by
  unfold queueMapping at read
  split at read
  · cases read
    exact ⟨⟨List.nodup_nil, trivial⟩, ⟨trivial⟩⟩
  · next found =>
    cases read
    exact ⟨readable.lookup found, ⟨keysSafe_lookup safe.entries found⟩⟩
  · cases read

/-- An approval request that is made has its bound texts. -/
theorem HostApprovalRequest.presentable_of_init {request approval : HostApprovalRequest}
    {preview : Record} (same : request.paramsPreview = PyValue.ofEntries preview)
    (readable : Json.Readable lib.readFloat (.obj preview)) (safe : SafeKeys lib.toStdlib preview)
    (made : HostApprovalRequest.init lib request = .ok approval) : approval.Presentable lib := by
  unfold HostApprovalRequest.init at made
  simp only [except_check_eq_ok, raiseIf_eq_ok] at made
  obtain ⟨identified, inSession, targeted, served, capable, printed, made⟩ := made
  cases made
  refine ⟨identified, inSession, targeted, served, capable, printed, redactedRecord lib preview, ?_,
    readable_redactedRecord readable, keysSafe_redactedRecord safe.entries⟩
  rw [same]
  exact redactMapping_record readable

/-- **An approval request that is read off a payload with safe keys** may be shown. -/
theorem presentable_of_fromHostResult {payload : Record}
    (readable : Json.Readable lib.readFloat (.obj payload)) (safe : SafeKeys lib.toStdlib payload)
    {params : Params} {correlationId : Option String} {now : Datetime}
    {approval : HostApprovalRequest}
    (asked : HostApprovalRequest.fromHostResult lib payload params correlationId now = .ok approval) :
    approval.Presentable lib := by
  rw [HostApprovalRequest.fromHostResult] at asked
  obtain ⟨_, -, made⟩ := except_bind_eq_ok.mp asked
  obtain ⟨data, dataRead, made⟩ := except_bind_eq_ok.mp made
  -- from the data's approval request to its risks
  iterate 13 obtain ⟨_, -, made⟩ := except_bind_eq_ok.mp made
  obtain ⟨preview, previewRead, made⟩ := except_bind_eq_ok.mp made
  obtain ⟨_, -, made⟩ := except_bind_eq_ok.mp made
  obtain ⟨dataReadable, dataSafe⟩ := safe_of_queueMapping readable safe dataRead
  obtain ⟨previewReadable, previewSafe⟩ := safe_of_queueMapping dataReadable dataSafe previewRead
  exact HostApprovalRequest.presentable_of_init rfl previewReadable previewSafe made

end Reading

/-! ## Calls -/

namespace ConfigRuntime

section Calls

variable (lib : AuditLibrary) (runtime : ConfigRuntime) (call : HostToolCall)
  (history : List RuntimeEffect) (s : HostState)

/-- A call waits for an operator: the policy asks, and the store has no grant for it. -/
def Waits : Prop :=
  ∃ route capability fingerprint, Asked runtime call route capability ∧
    actionFingerprint lib.toStdlib call.params = .ok fingerprint ∧
    s.store.findActionGrant (callBinding call route fingerprint)
      (runtime.callTime call route history) = .ok none

/-- **What a call shows may be shown**: its parameters are shielded where it waits for an operator, and
so is what the providers answered it. -/
structure Presents (effects : List RuntimeEffect) : Prop where
  waiting : runtime.Waits lib call history s → ∀ params, call.params = PyValue.ofEntries params →
    shieldedEntries lib params
  answers : ∀ adapter request answer,
    .handled adapter (.executed request (.ok answer)) ∈ effects → answer.Showable lib

/-- A call with JSON parameters. -/
def JsonCall : Prop :=
  ∃ params, call.params = PyValue.ofEntries params ∧ Json.Readable lib.readFloat (.obj params)

variable {lib runtime call history s}

/-- The data of what a call comes to are shielded where what it shows may be shown. -/
theorem Comes.shown (laws : TextLaws lib) {mode : ControlMode}
    (builtIn : runtime.policy = modePreset mode none)
    (providers : JsonProviders lib runtime.environment) (json : JsonCall lib call)
    (presents : runtime.Presents lib call history s (runtime.callBody lib call history s).effects)
    {result : MCPToolResult} (comes : Comes lib runtime call history s result) :
    ∃ data, result.data = PyValue.ofEntries data ∧ Json.Readable lib.readFloat (.obj data) ∧
      shieldedEntries lib data ∧ (result.status = .providerError → ErrorCoded data) := by
  cases comes with
  | plain empty refused =>
      refine ⟨[], empty, ⟨List.nodup_nil, trivial⟩, trivial, fun failed => ?_⟩
      rw [failed] at refused
      exact absurd refused (by decide)
  | @provided route outcome answer routed reports =>
      obtain ⟨before, request, answered, member⟩ := reports.answered
      have left := (@callBody_leaves lib runtime call route history routed s).1
      have showable : answer.Showable lib := by
        refine presents.answers route.adapter request answer ?_
        rw [left]
        exact List.mem_map_of_mem member
      obtain ⟨data, same, readable, shielded, coded⟩ := providerOutcome_data laws providers
        answered showable reports.provided call
        route.tool.capabilityId route.target.providerId (if answer.ok then .ok else .providerError)
      refine ⟨data, same, readable, shielded, fun failed => coded ?_⟩
      cases ok : answer.ok with
      | false => rfl
      | true =>
          rw [ok] at failed
          cases failed
  | @waits route capability fingerprint approval decision result asked printed open_ decided limits
      answered =>
      obtain ⟨params, same, readable⟩ := json
      have unlimited : approval.limits = [] := by
        rw [limits, decided]
        exact decisionOf_limits builtIn route history _
      obtain ⟨other, answered', status, -, data⟩ := @answer_waits lib call route params
        fingerprint decision approval same readable printed unlimited
      rw [answered] at answered'
      cases answered'
      refine ⟨_, data, readable_pendingRecord approval (readable_redactedRecord readable) _ _, ?_,
        fun failed => ?_⟩
      · rw [shielded_pendingRecord_iff laws, redactedRecord, shieldedEntries_redactJson_iff]
        exact presents.waiting ⟨route, capability, fingerprint, asked, printed, open_⟩ params same
      · rw [status] at failed
        cases failed

/-- What the host keeps as pending may be shown. -/
def Kept (lib : AuditLibrary) (pending : List (String × PendingApproval)) : Prop :=
  ∀ entry ∈ pending, JsonCall lib entry.2.call ∧ entry.2.approval.Presentable lib

/-- Keeping one more approval that may be shown. -/
theorem Kept.dictSet {pending : List (String × PendingApproval)} (kept : Kept lib pending)
    (json : JsonCall lib call) {approval : HostApprovalRequest}
    (presentable : approval.Presentable lib) (id : String) :
    Kept lib (AgenticKVM.dictSet pending id ⟨call, approval⟩) := by
  intro entry member
  rw [AgenticKVM.dictSet] at member
  split_ifs at member
  · obtain ⟨old, inside, same⟩ := List.mem_map.mp member
    split_ifs at same
    · rw [← same]
      exact ⟨json, presentable⟩
    · rw [← same]
      exact kept old inside
  · rcases List.mem_append.mp member with inside | added
    · exact kept entry inside
    · rw [List.mem_singleton.mp added]
      exact ⟨json, presentable⟩

/-- **Showing a payload with safe keys**: what is returned passes, and what is kept may be shown. -/
theorem showResult_passes (laws : TextLaws lib) (json : JsonCall lib call) {record payload : Record}
    {status : HostResultStatus} (shown : hostPayload lib record = .ok payload)
    (tool : ToolPayload lib payload status) (kept : Kept lib s.pending) :
    Passes lib (runtime.showResult lib call record history s).result
      ∧ Kept lib (runtime.showResult lib call record history s).state.pending := by
  by_cases waits : status = .approvalRequired
  · subst waits
    have stated : payload.get "status" = .str "approval_required" := tool.stated
    cases asked : HostApprovalRequest.fromHostResult lib payload call.params call.correlationId
        (runtime.environment.now history) with
    | error e =>
        rw [showResult_unread shown stated asked]
        exact ⟨fun _ returned => (nomatch returned), kept⟩
    | ok approval =>
        have presentable := presentable_of_fromHostResult tool.readable tool.safe asked
        rw [showResult_waits shown stated asked]
        exact ⟨tool.passes_waiting laws presentable, kept.dictSet json presentable approval.id⟩
  · have decided : payload.get "status" ≠ .str "approval_required" := by
      rw [tool.stated]
      intro same
      revert waits
      cases status
      all_goals first
        | exact absurd (Json.str.inj same) (by decide)
        | exact fun other => absurd rfl other
    rw [showResult_plain shown decided]
    exact ⟨passes_ok (tool.passes waits), kept⟩

end Calls

end ConfigRuntime

end AgenticKVM
