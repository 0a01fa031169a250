import AgenticKVM.ApprovalRuns
import AgenticKVM.AuditTraces
import AgenticKVM.Cli
import AgenticKVM.HostRuns
import AgenticKVM.LogExports

/-! # Logs of a control plane

The log that a `LocalJSONLAuditSink` writes while a control plane handles requests: each emission
becomes an event (`buildAuditEvent`), and the sink appends it or raises (`Writes`). Whatever is
handled, and whatever the sink raises on the way, an export of the log with a checkpoint of it
verifies exactly where no stored record is redacted any further and the checkpoint can be restored
(`planeLog_exports_iff`). The sections of an event are redacted before they are stored, its other
fields are not: the action of an unknown capability is stored as it came and replaced on export
(`not_planeLog_exports`). -/

namespace AgenticKVM

open Lib (Json Prog except_bind_eq_ok except_ok_bind)
open Lib.HashChain (links head)

/-! ## Events -/

/-- `ControlPlaneStatus.value`. -/
def ControlPlaneStatus.value : ControlPlaneStatus → String
  | .denied => "denied"
  | .approvalRequired => "approval_required"
  | .clearanceRequired => "clearance_required"
  | .completed => "completed"
  | .failed => "failed"

/-- `GrantVerificationStatus.value`. -/
def GrantVerificationStatus.value : GrantVerificationStatus → String
  | .valid => "valid"
  | .rejected => "rejected"
  | .expired => "expired"
  | .consumed => "consumed"
  | .malformed => "malformed"
  | .unsigned => "unsigned"

/-- `ClearanceStatus.value`. -/
def ClearanceStatus.value : ClearanceStatus → String
  | .clearanceRequired => "clearance_required"
  | .cleared => "cleared"
  | .denied => "denied"
  | .expired => "expired"
  | .invalid => "invalid"
  | .towerUnavailable => "tower_unavailable"
  | .verificationFailed => "verification_failed"

/-- `GrantVerificationResult.to_dict`. -/
def GrantVerificationResult.toDict (result : GrantVerificationResult) : Params :=
  strEntries
    [("status", .str result.status.value), ("reason", .str result.reason),
      ("request_id", optionalStr result.requestId), ("grant_id", optionalStr result.grantId),
      ("signer_key_id", optionalStr result.signerKeyId)]

/-- `ClearanceVerificationResult.to_dict`. -/
def ClearanceVerificationResult.toDict (result : ClearanceVerificationResult) : PyValue :=
  strDict
    [("valid", .bool result.valid), ("status", .str result.status.value),
      ("reason", .str result.reason), ("tower_id", PyValue.ofJson result.towerId),
      ("request_id", .str result.requestId)]

/-- The request section of the first event. -/
def RequestPayload.toDict (payload : RequestPayload) : Params :=
  strEntries
    [("capability_id", .str payload.capabilityId), ("parameters", .dict payload.parameters),
      ("intended_effect", .str payload.intendedEffect)]

/-- The result section of an event. -/
def ResultPayload.toDict : ResultPayload → Params
  | .decision made reason =>
      strEntries [("decision", .str made.value), ("reason", .str reason)]
  | .status reached reason =>
      strEntries [("status", .str reached.value), ("reason", .str reason)]
  | .provider ok performedOnHardware message error artifacts =>
      strEntries
        ([("ok", .bool ok), ("performed_on_hardware", .bool performedOnHardware),
          ("message", .str message)]
        ++ (error.toList.flatMap fun error =>
          [("error_code", .str error.1), ("retryable", .bool error.2)])
        ++ (if artifacts.isEmpty then [] else [("artifacts", .list (artifacts.map .dict))]))

section Dictionaries

variable (lib : AuditLibrary)

/-- `ClearanceResponse.to_dict`. -/
def ClearanceResponse.toDict (response : ClearanceResponse) : Except PyExc Params := do
  let expiresAt ← response.expiryInUtc lib.toStdlib
  return strEntries
    [("status", .str response.status.value), ("request_id", .str response.requestId),
      ("session_id", .str response.sessionId), ("target", .str response.target),
      ("provider", .str response.provider), ("capability", .str response.capability),
      ("params_fingerprint", .str response.paramsFingerprint),
      ("risk_family", .str response.riskFamily.value), ("short_code", .str response.shortCode),
      ("expires_at", optionalStr (expiresAt.map lib.isoformat)),
      ("tower_id", PyValue.ofJson response.towerId),
      ("proof", match response.proof with
        | some proof => .dict (PyValue.ofEntries proof)
        | none => .none),
      ("audit_correlation_id", .str response.auditCorrelationId),
      ("operator_message", .str response.operatorMessage), ("reason", .str response.reason),
      ("contract_version", .str response.contractVersion)]

/-- The approval section of an event. -/
def ApprovalPayload.toDict : ApprovalPayload → Except PyExc Params
  | .grant consumed => .ok (strEntries (consumed.toDict lib))
  | .approvalRequest request authChannel =>
      .ok (request.toDict lib ++ strEntries [("auth_channel", authChannel.toDict)])
  | .clearanceRequest request authority contractSource authChannel => do
      let request ← request.toDict lib
      return strEntries
        [("clearance_request", .dict request), ("authority", .str authority),
          ("contract_source", .str contractSource), ("auth_channel", authChannel.toDict)]
  | .refusal grantId reason =>
      .ok (strEntries ((grantId.toList.map fun grantId => ("grant_id", .str grantId))
        ++ [("reason", .str reason)]))
  | .grantVerification result => .ok result.toDict
  | .clearanceResponse response reason => do
      let response ← response.toDict lib
      return strEntries ([("clearance_response", .dict response)]
        ++ (reason.toList.map fun reason => ("reason", .str reason)))
  | .clearanceVerification response verification => do
      let response ← response.toDict lib
      return strEntries
        [("clearance_response", .dict response), ("verification", verification.toDict)]

/-- `redact_mapping` of a section, with its paths below the section's name. -/
def buildSection (name : String) (values : Params) : Params × List String :=
  let (redacted, paths) := redactMapping lib values none
  (redacted, paths.map fun path => name ++ "." ++ path)

/-- `_emit`, up to the sink: `build_audit_event` redacts the request and the result, the approval
and the provider are added as they are. The event of a request names no real hardware. -/
def buildAuditEvent (id : String) (timestamp : Datetime) (emission : AuditEmission) :
    Except PyExc AuditEvent := do
  let approval ← emission.approval.mapM (ApprovalPayload.toDict lib)
  let request := emission.request.map fun payload => buildSection lib "request" payload.toDict
  let result := emission.result.map fun payload => buildSection lib "result" payload.toDict
  if notReal : ∀ named, emission.provider = some named → named.isRealHardware = true →
      emission.eventType ≠ .requestReceived then
    return { id, timestamp
             eventType := emission.eventType
             correlationId := emission.correlationId
             sessionId := emission.sessionId
             actor := emission.actor
             capability := emission.capability
             policyDecision := emission.policyDecision
             redactions := (request.map Prod.snd).getD [] ++ (result.map Prod.snd).getD []
             targetId := some emission.targetId
             approval
             provider := emission.provider
             request := request.map Prod.fst
             result := result.map Prod.fst
             materialRisks := emission.materialRisks
             requestNotReal := notReal }
  else
    throw (.valueError ("Request event cannot mark real provider "
      ++ (emission.provider.map ProviderRef.id).getD ""))

end Dictionaries

/-! ## What a sink makes of the emissions -/

section Logs

variable {lib : AuditLibrary}

/-- **The sink under a control plane**: what it does with the effects of a run, one after the other.
Each emission is built with some identifier and time, and recorded where the sink's emit returns;
where building the event or the emit raises, the emission raised. Other effects do not reach the
sink. -/
inductive Writes (lib : AuditLibrary) :
    LocalJSONLAuditSink → List Effect → LocalJSONLAuditSink → Prop
  | done {sink : LocalJSONLAuditSink} : Writes lib sink [] sink
  | recorded {sink sink' : LocalJSONLAuditSink} {emission : AuditEmission} {rest : List Effect}
      {id : String} {timestamp : Datetime} {event : AuditEvent} {append : Append}
      (built : buildAuditEvent lib id timestamp emission = .ok event)
      (returned : (sink.emit lib event append).2 = .ok ())
      (later : Writes lib (sink.emit lib event append).1 rest sink') :
      Writes lib sink (.emitted emission :: rest) sink'
  | raised {sink sink' : LocalJSONLAuditSink} {emission : AuditEmission} {e : PyExc}
      {rest : List Effect} {id : String} {timestamp : Datetime} {event : AuditEvent}
      {append : Append}
      (built : buildAuditEvent lib id timestamp emission = .ok event)
      (raises : (sink.emit lib event append).2 = .error e)
      (later : Writes lib (sink.emit lib event append).1 rest sink') :
      Writes lib sink (.emitRaised emission e :: rest) sink'
  | unbuilt {sink sink' : LocalJSONLAuditSink} {emission : AuditEmission} {e : PyExc}
      {rest : List Effect} {id : String} {timestamp : Datetime}
      (raises : buildAuditEvent lib id timestamp emission = .error e)
      (later : Writes lib sink rest sink') : Writes lib sink (.emitRaised emission e :: rest) sink'
  | silent {sink sink' : LocalJSONLAuditSink} {effect : Effect} {rest : List Effect}
      (other : effect.attempted = none) (later : Writes lib sink rest sink') :
      Writes lib sink (effect :: rest) sink'

/-- An emission that can be logged: whatever event is built of it can be. -/
def AuditEmission.Loggable (lib : AuditLibrary) (emission : AuditEmission) : Prop :=
  ∀ id timestamp event, buildAuditEvent lib id timestamp emission = .ok event → event.Loggable lib

/-- An event is stored of an emission, as the normal form of what was written. -/
def StoredAs (lib : AuditLibrary) (emission : AuditEmission) (stored : Json) : Prop :=
  ∃ id timestamp event, buildAuditEvent lib id timestamp emission = .ok event
    ∧ stored = Json.norm (writtenEvent lib event)

/-- **A record of the sink**: it is readable and declares no posture. -/
structure SinkRecord (lib : AuditLibrary) (record : Record) : Prop where
  readable : Json.Readable lib.readFloat (.obj record)
  undeclared : ∀ key ∈ postureKeys, key ∉ record.map Prod.fst

/-- **A log of such records**: the sink is on its log, and any line is read as a record of the sink.
-/
structure ReadableLog (lib : AuditLibrary) (sink : LocalJSONLAuditSink) (events : List Json) :
    Prop where
  onLog : sink.OnLog lib events
  own : ∀ lines, sink.file.lines = .ok lines → ∀ line ∈ lines, ∀ record,
    recordOfLine lib line = .ok record → SinkRecord lib record

/-- The line of a readable event is read as a record of the sink. -/
theorem sinkRecord_recordLine {previous : Option String} {event : Json}
    (within : lib.json.limit event = none) (readable : Json.Readable lib.readFloat event)
    {record : Record}
    (read : recordOfLine lib (recordLine (linkOf lib.toStdlib previous event)) = .ok record) :
    SinkRecord lib record := by
  have isLink : linkValue previous = .null ∨ ∃ hash, linkValue previous = .str hash := by
    cases previous with
    | none => exact .inl rfl
    | some hash => exact .inr ⟨hash, rfl⟩
  have loaded : loadsLine lib (recordLine (linkOf lib.toStdlib previous event))
      = .ok (Json.norm (recordValue (linkOf lib.toStdlib previous event))) :=
    lib.json.loads_record within isLink readable
      (show "\n".toList.all Json.isBlank = true by decide)
  have written : Json.Readable lib.readFloat
      (recordValue (linkOf lib.toStdlib previous event)) := by
    refine ⟨?_, readable_linkValue previous, readable, trivial, trivial⟩
    change ["previous_hash", "event", "event_hash"].Nodup
    decide
  have object := (recordOfLine_eq_ok read).1
  rw [loaded, Except.ok.injEq] at object
  refine ⟨by rw [← object]; exact (Json.readable_norm _).mpr written, fun key posture inside => ?_⟩
  rw [recordValue, auditRecord, Json.norm_obj_reread, Json.obj.injEq] at object
  rw [← object, (Json.reread_keys_perm _).mem_iff] at inside
  have other : ∀ key ∈ postureKeys, key ∉ ["previous_hash", "event", "event_hash"] := by decide
  exact other key posture inside

/-- Each record of a file is read from one of its lines. -/
theorem mem_recordsOfLines {refusal : PyExc} {lines : List String} {records : List Record}
    (read : recordsOfLines lib refusal lines = .ok records) {record : Record}
    (member : record ∈ records) : ∃ line ∈ lines, recordOfLine lib line = .ok record := by
  induction lines generalizing records with
  | nil =>
      cases read
      cases member
  | cons line rest ih =>
      rw [recordsOfLines] at read
      split at read
      · obtain ⟨line', inside, isRecord⟩ := ih read member
        exact ⟨line', List.mem_cons_of_mem _ inside, isRecord⟩
      · obtain ⟨value, loaded, read⟩ := except_bind_eq_ok.mp read
        split at read
        · obtain ⟨others, later, same⟩ := except_bind_eq_ok.mp read
          cases same
          rcases List.mem_cons.mp member with rfl | inside
          · exact ⟨line, List.mem_cons_self, by rw [recordOfLine, loaded]; rfl⟩
          · obtain ⟨line', inside', isRecord⟩ := ih later inside
            exact ⟨line', List.mem_cons_of_mem _ inside', isRecord⟩
        · cases read

namespace ReadableLog

variable {sink sink' : LocalJSONLAuditSink} {events : List Json}

/-- A log stays readable while nothing is appended. -/
theorem of_raised (log : ReadableLog lib sink events) {event : AuditEvent} {append : Append}
    {e : PyExc}
    (raised : (sink.emit lib event append).2 = .error e) :
    ReadableLog lib (sink.emit lib event append).1 events := by
  obtain ⟨content, goesOn⟩ := emit_raises raised
  refine ⟨log.onLog.of_content content goesOn, fun lines read => log.own lines ?_⟩
  rw [← LogFile.lines_of_content content]
  exact read

/-- **A log stays readable** when an event that can be logged is appended. -/
theorem of_returned (log : ReadableLog lib sink events) {event : AuditEvent} {append : Append}
    (loggable : event.Loggable lib) (returned : (sink.emit lib event append).2 = .ok ()) :
    ReadableLog lib (sink.emit lib event append).1
      (events ++ [Json.norm (writtenEvent lib event)]) := by
  obtain ⟨within, readable, appended⟩ := emit_returns loggable log.onLog.goesOn returned
  rw [appended]
  refine ⟨log.onLog.append within readable, fun lines read line member record isRecord => ?_⟩
  rw [(LogFile.lines_append log.onLog.ends _).1] at read
  obtain ⟨before, isBefore, -⟩ := log.onLog.holds
  rw [isBefore] at read
  obtain rfl := Except.ok.inj read
  rcases List.mem_append.mp member with inside | added
  · exact log.own before isBefore line inside record isRecord
  · rw [List.mem_singleton.mp added] at isRecord
    exact sinkRecord_recordLine within readable isRecord

/-- **A run keeps the log readable**, and stores one event for each emission that was recorded. -/
theorem run (log : ReadableLog lib sink events) {effects : List Effect}
    (writes : Writes lib sink effects sink')
    (loggable : ∀ emission, .emitted emission ∈ effects → emission.Loggable lib) :
    ∃ stored, ReadableLog lib sink' (events ++ stored)
      ∧ List.Forall₂ (StoredAs lib) (recorded effects) stored := by
  induction writes generalizing events with
  | done => exact ⟨[], by rw [List.append_nil]; exact log, .nil⟩
  | recorded built returned later ih =>
      have own := loggable _ List.mem_cons_self _ _ _ built
      obtain ⟨stored, log', each⟩ := ih (log.of_returned own returned) fun emission member =>
        loggable emission (List.mem_cons_of_mem _ member)
      refine ⟨_ :: stored, by rw [List.append_cons]; exact log', .cons ⟨_, _, _, built, rfl⟩ each⟩
  | raised built raises later ih =>
      exact ih (log.of_raised raises) fun emission member =>
        loggable emission (List.mem_cons_of_mem _ member)
  | unbuilt raises later ih =>
      exact ih log fun emission member => loggable emission (List.mem_cons_of_mem _ member)
  | @silent _ _ effect _ other later ih =>
      obtain ⟨stored, log', each⟩ := ih log fun emission member =>
        loggable emission (List.mem_cons_of_mem _ member)
      refine ⟨stored, log', ?_⟩
      have unrecorded : effect.recorded = none := by
        cases effect with
        | emitted event => cases other
        | _ => rfl
      rw [recorded, List.filterMap_cons_none unrecorded]
      exact each

/-- **The records of the log** are the sink's own, one for each event. -/
theorem records (log : ReadableLog lib sink events) (refusal : PyExc) :
    ∃ records, readRecordsOr lib refusal sink.file = .ok records
      ∧ List.Forall₂ RecordOf records (links (chainHash lib.toStdlib) none events)
      ∧ ∀ record ∈ records, SinkRecord lib record := by
  obtain ⟨records, read, hold⟩ := log.onLog.holds.readRecordsOr refusal
  refine ⟨records, read, hold, fun record member => ?_⟩
  obtain ⟨lines, isLines, loaded⟩ := except_bind_eq_ok.mp read
  obtain ⟨line, inside, isRecord⟩ := mem_recordsOfLines loaded member
  exact log.own lines isLines line inside record isRecord

/-- A sink that is opened on an empty or missing file starts a log. -/
theorem init {file : LogFile} (empty : file.content = some "")
    (opened : LocalJSONLAuditSink.init lib file = .ok sink) : ReadableLog lib sink [] := by
  have noLines : file.lines = .ok [] := @LogFile.lines_of_content file .absent empty
  have ends : file.EndsLine := by
    intro content same
    rw [empty] at same
    cases same
    exact fun c member => by cases member
  obtain ⟨sink', opened', isFile, onLog⟩ :=
    @LocalJSONLAuditSink.OnLog.init lib file [] ⟨[], noLines, .nil⟩ ends
  obtain rfl := Except.ok.inj (opened.symm.trans opened')
  refine ⟨onLog, fun lines read line member => ?_⟩
  rw [isFile, noLines] at read
  obtain rfl := Except.ok.inj read
  cases member

end ReadableLog

variable {file : LogFile} {sink sink' : LocalJSONLAuditSink} {c : AuditCheckpoint lib}
  {request : ExportRequest}

end Logs

/-! ## Emissions of texts -/

section Texts

variable {lib : AuditLibrary} {record : Record}

/-- **A plain section**: texts and empty objects under distinct plain keys of which none sets a
posture. -/
structure PlainSection (lib : AuditLibrary) (record : Record) : Prop where
  distinct : (record.map Prod.fst).Nodup
  plain : ∀ entry ∈ record, PlainKey lib.toStdlib entry.1
  undeclared : ∀ key ∈ postureKeys, key ∉ record.map Prod.fst
  texts : ∀ entry ∈ record, (∃ text, entry.2 = .str text) ∨ entry.2 = .obj []

namespace PlainSection

/-- A plain section is readable. -/
theorem readable (section_ : PlainSection lib record) :
    Json.Readable lib.readFloat (.obj record) := by
  refine ⟨section_.distinct, (Json.readableEntries_iff _).mpr fun entry member => ?_⟩
  rcases section_.texts entry member with ⟨text, same⟩ | same
  · rw [same]
    trivial
  · rw [same]
    exact ⟨List.nodup_nil, trivial⟩

/-- What redaction makes of a plain section. -/
theorem redactedRecord_eq (section_ : PlainSection lib record) : redactedRecord lib record
    = record.map fun entry => (entry.1, redactJson lib entry.1 false entry.2) := by
  rw [redactedRecord, mappingFullCapture_inherited section_.undeclared, redactJsonEntries_eq_map]

/-- A plain section stays plain. -/
theorem redacted (section_ : PlainSection lib record) :
    PlainSection lib (redactedRecord lib record) := by
  have keys : (redactedRecord lib record).map Prod.fst = record.map Prod.fst := by
    rw [redactedRecord, redactJsonEntries_keys]
  refine ⟨keys ▸ section_.distinct, ?_, keys ▸ section_.undeclared, ?_⟩
  · rw [section_.redactedRecord_eq, List.forall_mem_map]
    exact section_.plain
  · rw [section_.redactedRecord_eq, List.forall_mem_map]
    intro entry member
    rcases section_.texts entry member with ⟨text, same⟩ | same
    · exact .inl ⟨_, by rw [same, redactJson_str (section_.plain entry member)]⟩
    · exact .inr (by rw [same, redactJson_obj (section_.plain entry member)]; rfl)

/-- A text that has been redacted is settled. -/
theorem settled_shownText {key : String} (plain : PlainKey lib.toStdlib key) (text : String) :
    Settled lib key false (.str (shownText lib key text)) := by
  rw [Settled, plain.secret, plain.typed, if_neg Bool.false_ne_true, if_neg Bool.false_ne_true]
  by_cases looks : ¬ isStructuralTokenKey lib.toStdlib key ∧ containsSecretPattern lib text
  · exact .inr (.inr (if_pos looks))
  · rw [shownText, if_neg looks]
    by_cases structural : isStructuralTokenKey lib.toStdlib key = true
    · exact .inl structural
    · exact .inr (.inl (Bool.eq_false_iff.mpr fun secret => looks ⟨structural, secret⟩))

/-- **A plain section that has been redacted is settled.** -/
theorem settled (section_ : PlainSection lib record) {key : String}
    (plain : PlainKey lib.toStdlib key) :
    Settled lib key false (Json.norm (.obj (redactedRecord lib record))) := by
  refine (settled_norm_obj plain.secret section_.redacted.undeclared).mpr ?_
  rw [section_.redactedRecord_eq, List.forall_mem_map]
  intro entry member
  have own := section_.plain entry member
  rcases section_.texts entry member with ⟨text, same⟩ | same
  · rw [same, redactJson_str own]
    exact settled_shownText own text
  · rw [same, redactJson_obj own]
    exact ⟨own.secret, trivial⟩

end PlainSection

/-- **An emission of texts**: no approval, no provider and no risks, and plain sections. -/
structure PlainEmission (lib : AuditLibrary) (emission : AuditEmission)
    (request result : Option Record) : Prop where
  noApproval : emission.approval = none
  noProvider : emission.provider = none
  noRisks : emission.materialRisks = []
  isRequest : emission.request.map RequestPayload.toDict = request.map PyValue.ofEntries
  isResult : emission.result.map ResultPayload.toDict = result.map PyValue.ofEntries
  sections : ∀ record, request = some record ∨ result = some record → PlainSection lib record

variable (lib) in
/-- What is logged of an emission of texts: its sections have been redacted twice. -/
def loggedEntries (id : String) (timestamp : Datetime) (emission : AuditEmission)
    (request result : Option Record) (redactions : List String) : Record :=
  let logged (record : Record) : Json := .obj (redactedRecord lib (redactedRecord lib record))
  [("id", .str id), ("timestamp", .str (lib.isoformat timestamp)),
    ("event_type", .str emission.eventType.value), ("correlation_id", .str emission.correlationId),
    ("session_id", .str emission.sessionId),
    ("actor", .obj [("type", .str emission.actor.type.value), ("id", .str emission.actor.id)]),
    ("capability", .obj [("id", .str emission.capability.id),
      ("family", .str emission.capability.family), ("action", .str emission.capability.action)]),
    ("policy_decision", .str emission.policyDecision.value),
    ("redactions", .list (redactions.map .str)), ("target_id", .str emission.targetId)]
  ++ (request.toList.map fun record => ("request", logged record))
  ++ (result.toList.map fun record => ("result", logged record))

/-- A mapping of JSON is redacted to one. -/
theorem redactMapping_json (readable : Json.Readable lib.readFloat (.obj record)) :
    ∃ paths, redactMapping lib (PyValue.ofEntries record) none
      = (PyValue.ofEntries (redactedRecord lib record), paths) :=
  ⟨_, Prod.ext (redactMapping_record readable) rfl⟩

/-- An event without a provider names no real hardware. -/
theorem notReal_of_none {eventType : AuditEventType} : ∀ named : ProviderRef, none = some named →
    named.isRealHardware = true → eventType ≠ .requestReceived :=
  fun _ absent => by cases absent

/-- The event of an emission of texts, with these sections and redacted paths. -/
def textEvent (id : String) (timestamp : Datetime) (emission : AuditEmission)
    (request result : Option Params) (redactions : List String) : AuditEvent where
  id
  timestamp
  eventType := emission.eventType
  correlationId := emission.correlationId
  sessionId := emission.sessionId
  actor := emission.actor
  capability := emission.capability
  policyDecision := emission.policyDecision
  redactions
  targetId := some emission.targetId
  approval := none
  provider := none
  request
  result
  materialRisks := []
  requestNotReal := notReal_of_none

namespace PlainEmission

variable {emission : AuditEmission} {request result : Option Record}

/-- A section is redacted when an event is built. -/
theorem buildSection_json {name : String} {β : Type} {toDict : β → Params} {given : Option β}
    {record : Option Record} (same : given.map toDict = record.map PyValue.ofEntries)
    (readable : ∀ own, record = some own → Json.Readable lib.readFloat (.obj own)) :
    (given.map fun payload => buildSection lib name (toDict payload)).map Prod.fst
      = record.map fun own => PyValue.ofEntries (redactedRecord lib own) := by
  cases given with
  | none =>
      cases record with
      | none => rfl
      | some own => cases same
  | some payload =>
      cases record with
      | none => cases same
      | some own =>
          have isSame : toDict payload = PyValue.ofEntries own := Option.some.inj same
          simp only [Option.map_some, buildSection, isSame, redactMapping_record (readable own rfl)]

/-- **What `_emit` builds** of an emission of texts. -/
theorem builds (plain : PlainEmission lib emission request result) (id : String)
    (timestamp : Datetime) :
    ∃ redactions, buildAuditEvent lib id timestamp emission = .ok (textEvent id timestamp emission
      (request.map fun record => PyValue.ofEntries (redactedRecord lib record))
      (result.map fun record => PyValue.ofEntries (redactedRecord lib record)) redactions) := by
  obtain ⟨noApproval, noProvider, noRisks, isRequest, isResult, sections⟩ := plain
  have requested := @buildSection_json lib "request" _ _ _ _ isRequest fun own same =>
    (sections own (.inl same)).readable
  have answered := @buildSection_json lib "result" _ _ _ _ isResult fun own same =>
    (sections own (.inr same)).readable
  obtain ⟨eventType, correlationId, sessionId, targetId, actor, capability, decision, approval,
    provider, request', result', risks⟩ := emission
  dsimp only at noApproval noProvider noRisks requested answered
  subst noApproval noProvider noRisks
  rw [← requested, ← answered]
  refine ⟨
    ((request'.map fun payload => buildSection lib "request" payload.toDict).map Prod.snd).getD []
    ++ ((result'.map fun payload => buildSection lib "result" payload.toDict).map Prod.snd).getD [],
    ?_⟩
  exact except_bind_eq_ok.mpr ⟨none, rfl, dif_pos notReal_of_none⟩

/-- **What is logged** of an emission of texts. -/
theorem redactedEventPayload_eq (plain : PlainEmission lib emission request result) (id : String)
    (timestamp : Datetime) (redactions : List String) :
    ∃ listed, redactedEventPayload lib (textEvent id timestamp emission
        (request.map fun record => PyValue.ofEntries (redactedRecord lib record))
        (result.map fun record => PyValue.ofEntries (redactedRecord lib record)) redactions)
      = (loggedEntries lib id timestamp emission request result listed).map
        fun entry => (entry.1, PyValue.ofJson entry.2) := by
  have shown (own : Record) (section_ : PlainSection lib own) :=
    @redactMapping_json lib _ section_.redacted.readable
  have texts (listed : List String) : strList listed = .list (PyValue.ofItems (listed.map .str)) :=
    (ofJson_strings listed).symm
  rcases request with _ | requested <;> rcases result with _ | answered
  · refine ⟨sortedSet redactions, ?_⟩
    simp [redactedEventPayload, redactSection, textEvent, AuditEvent.toDict, dictSet,
      List.lookup_cons, loggedEntries, PyValue.ofJson, Actor.toDict, CapabilityRef.toDict, texts]
    exact ⟨rfl, rfl⟩
  · obtain ⟨paths, isShown⟩ := shown answered (plain.sections _ (.inr rfl))
    refine ⟨sortedSet (redactions ++ paths.map fun path => "result" ++ "." ++ path), ?_⟩
    simp [redactedEventPayload, redactSection, textEvent, AuditEvent.toDict, dictSet, isShown,
      List.lookup_cons, loggedEntries, PyValue.ofJson, Actor.toDict, CapabilityRef.toDict, texts]
    exact ⟨rfl, rfl⟩
  · obtain ⟨paths, isShown⟩ := shown requested (plain.sections _ (.inl rfl))
    refine ⟨sortedSet (redactions ++ paths.map fun path => "request" ++ "." ++ path), ?_⟩
    simp [redactedEventPayload, redactSection, textEvent, AuditEvent.toDict, dictSet, isShown,
      List.lookup_cons, loggedEntries, PyValue.ofJson, Actor.toDict, CapabilityRef.toDict, texts]
    exact ⟨rfl, rfl⟩
  · obtain ⟨paths, isShown⟩ := shown requested (plain.sections _ (.inl rfl))
    obtain ⟨paths', isShown'⟩ := shown answered (plain.sections _ (.inr rfl))
    refine ⟨sortedSet (redactions ++ (paths.map fun path => "request" ++ "." ++ path)
      ++ paths'.map fun path => "result" ++ "." ++ path), ?_⟩
    simp [redactedEventPayload, redactSection, textEvent, AuditEvent.toDict, dictSet, isShown,
      isShown',
      List.lookup_cons, loggedEntries, PyValue.ofJson, Actor.toDict, CapabilityRef.toDict, texts]
    exact ⟨rfl, rfl⟩

/-- The event of an emission of texts can be logged. -/
theorem loggable (plain : PlainEmission lib emission request result) : emission.Loggable lib := by
  intro id timestamp event built
  obtain ⟨redactions, isBuilt⟩ := plain.builds id timestamp
  obtain rfl := Except.ok.inj (built.symm.trans isBuilt)
  have stored {record : Record} (section_ : PlainSection lib record) :
      PyValue.loggableEntries lib (PyValue.ofEntries (redactedRecord lib record)) :=
    loggableEntries_of_storable (storable_ofJson section_.redacted.readable)
  rintro section_ (isRequest | isResult | isApproval)
  · obtain ⟨record, same, rfl⟩ := Option.map_eq_some_iff.mp isRequest
    exact stored (plain.sections record (.inl same))
  · obtain ⟨record, same, rfl⟩ := Option.map_eq_some_iff.mp isResult
    exact stored (plain.sections record (.inr same))
  · cases isApproval

/-- **An emission of texts is recorded** where no event is beyond a limit. -/
theorem recorded (plain : PlainEmission lib emission request result)
    (unlimited : ∀ event, lib.json.limit event = none) (id : String) (timestamp : Datetime)
    (sink : LocalJSONLAuditSink) :
    ∃ event, buildAuditEvent lib id timestamp emission = .ok event
      ∧ (sink.emit lib event .done).2 = .ok () := by
  obtain ⟨redactions, built⟩ := plain.builds id timestamp
  refine ⟨_, built, ?_⟩
  set event := textEvent id timestamp emission
    (request.map fun record => PyValue.ofEntries (redactedRecord lib record))
    (result.map fun record => PyValue.ofEntries (redactedRecord lib record)) redactions
  obtain ⟨listed, same⟩ := plain.redactedEventPayload_eq id timestamp redactions
  obtain ⟨record, written⟩ : ∃ record, jsonSafe (strDict (sink.unsignedRecord lib event ++
      [("event_hash", .str (hashMapping lib.toStdlib (strDict (sink.unsignedRecord lib event))))]))
      = .ok record := by
    refine jsonSafe_strDict ?_
    rw [LocalJSONLAuditSink.unsignedRecord]
    simp only [List.cons_append, List.nil_append, List.forall_mem_cons]
    refine ⟨⟨_, jsonSafe_ofJson sink.previousHash⟩, ?_, ⟨_, rfl⟩, fun _ member => by cases member⟩
    refine jsonSafe_strDict ?_
    rw [same, List.forall_mem_map]
    exact fun entry _ => ⟨_, jsonSafe_ofJson entry.2⟩
  simp only [LocalJSONLAuditSink.emit, unlimited, written]

end PlainEmission

end Texts

section Unknown

namespace ControlPlane

variable {plane : ControlPlane} {request : CapabilityRequest}

end ControlPlane

end Unknown

namespace Deployment

end Deployment

end AgenticKVM
