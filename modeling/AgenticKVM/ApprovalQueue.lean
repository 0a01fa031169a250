import AgenticKVM.ApprovalCache
import AgenticKVM.MutationTransports

/-! # The local approval queue

The operator's queue of approval requests (`approval_transport.py`): a file of records that every
operation reads, changes and writes again. A record's binding never changes, its status only moves
forward, and no record is lost or duplicated, in every run whose requests name their first target
(`queue_run`). A request whose first target is the empty text is written and never read again. -/

namespace AgenticKVM

open Lib (Json except_bind_eq_ok except_ok_bind except_pure)

/-! ## Records -/

/-- `LocalApprovalStatus`. -/
inductive LocalApprovalStatus
  | pending
  | approved
  | denied
  | expired
  | consumed
deriving DecidableEq

/-- `LocalApprovalStatus.value`. -/
def LocalApprovalStatus.value : LocalApprovalStatus → String
  | .pending => "pending"
  | .approved => "approved"
  | .denied => "denied"
  | .expired => "expired"
  | .consumed => "consumed"

/-- `LocalApprovalStatus(value)`. -/
def LocalApprovalStatus.ofValue : String → Except PyExc LocalApprovalStatus
  | "pending" => .ok .pending
  | "approved" => .ok .approved
  | "denied" => .ok .denied
  | "expired" => .ok .expired
  | "consumed" => .ok .consumed
  | value => .error (.valueError ("'" ++ value ++ "' is not a valid LocalApprovalStatus"))

/-- `ApprovalGrantScope.value`. -/
def ApprovalGrantScope.value : ApprovalGrantScope → String
  | .oneTime => "one_time"
  | .session => "session"

/-- `ApprovalGrantScope(value)`. -/
def ApprovalGrantScope.ofValue : String → Except PyExc ApprovalGrantScope
  | "one_time" => .ok .oneTime
  | "session" => .ok .session
  | value => .error (.valueError ("'" ++ value ++ "' is not a valid ApprovalGrantScope"))

/-- `LocalApprovalRecord`: a record of the queue. -/
structure LocalApprovalRecord where
  id : String
  status : LocalApprovalStatus
  createdAt : Datetime
  expiresAt : Datetime
  sessionId : String
  targetId : String
  providerId : String
  capabilityId : String
  paramsFingerprint : String
  policyDecision : String
  operatorMessage : String
  materialRisks : List String
  request : Params
  scope : Option ApprovalGrantScope
  operatorId : Option String
  responseId : Option String
  reason : Option String
  decidedAt : Option Datetime
  consumedAt : Option Datetime
  redactions : List String

section Records

variable (lib : AuditLibrary)

/-- `LocalApprovalRecord.__post_init__`: the request is redacted. -/
def LocalApprovalRecord.init (record : LocalApprovalRecord) : LocalApprovalRecord :=
  let (safeRequest, redactions) := redactMapping lib record.request none
  { record with
    request := safeRequest
    redactions := record.redactions ++ redactions.map fun path => "request." ++ path }

/-- `_redact_text` of the transport. -/
def redactOperatorText (std : Stdlib) (value : String) : String :=
  if ["password", "secret", "token", "api_key", "private_key", "bearer"].any
      (containsText (std.lower value)) then redactedMark
  else value

/-- `_required_str` of the transport. -/
def queueText (values : Record) (key : String) : Except PyExc String :=
  requiredStr (fun message => .valueError ("approval " ++ message)) values key

/-- `_optional_str` of the transport. -/
def optionalQueueText : Json → Except PyExc (Option String)
  | .null => .ok none
  | .str s => .ok (some s)
  | _ => .error (.valueError "approval optional string fields must be strings")

/-- `_mapping(values.get(key, {}), name)`. -/
def queueMapping (values : Record) (key name : String) : Except PyExc Record :=
  match values.lookup key with
  | none => .ok []
  | some (.obj entries) => .ok entries
  | some _ => .error (.valueError (name ++ " must be an object"))

/-- `tuple(str(item) for item in values.get(key, ()))`. -/
def queueTexts (std : Stdlib) (values : Record) (key : String) : Except PyExc (List String) :=
  match values.lookup key with
  | none => .ok []
  | some (.list items) => .ok (items.map (jsonStr std))
  | some (.str s) => .ok (s.toList.map fun c => String.ofList [c])
  | some (.obj entries) => .ok (entries.map Prod.fst)
  | some value => .error (.typeError
      ("'" ++ (PyValue.ofJson value).typeName ++ "' object is not iterable"))

/-- `_datetime_from_value` of the transport: a time without a zone is in UTC. -/
def queueDatetime (std : Stdlib) : Json → Except PyExc (Option Datetime)
  | .null => .ok none
  | .str s =>
      if s = "" then
        .error (.valueError "approval datetime fields must be ISO datetime strings")
      else match std.fromisoformat s with
        | some t => .ok (some (if t.aware then t else { t with utcoffset := some 0 }))
        | none => .error (.valueError ("Invalid isoformat string: " ++ s))
  | _ => .error (.valueError "approval datetime fields must be ISO datetime strings")

/-- A time that has to be there. -/
def presentDatetime (missing : String) : Option Datetime → Except PyExc Datetime
  | some t => .ok t
  | none => .error (.valueError missing)

/-- `_required_datetime`. -/
def requiredDatetime (std : Stdlib) (values : Record) (key : String) : Except PyExc Datetime := do
  presentDatetime ("approval " ++ key ++ " is required") (← queueDatetime std (values.get key))

/-- The first of the targets of a target scope, which has to be a text. -/
def firstTarget (targetScope : Record) : Except PyExc String :=
  match targetScope.get "targets" with
  | .list (.str target :: _) => .ok target
  | _ => .error (.valueError "approval request target scope is missing")

/-- The fingerprint of a result, which has to be a text that is not empty. -/
def resultFingerprint (data : Record) : Except PyExc String :=
  match data.get "params_fingerprint" with
  | .str s =>
      if s = "" then .error (.valueError "approval params fingerprint is required") else .ok s
  | _ => .error (.valueError "approval params fingerprint is required")

/-- `LocalApprovalRecord.from_mcp_result`. -/
def LocalApprovalRecord.fromMcpResult (result : Record) (now : Datetime) :
    Except PyExc LocalApprovalRecord := do
  raiseIf (isLink (result.get "status") (some "approval_required") = false)
    (.valueError "result does not require approval")
  let data ← queueMapping result "data" "approval result data"
  let approval ← queueMapping data "approval_request" "approval_request"
  let targetScope ← queueMapping approval "target_scope" "target_scope"
  let targetId ← firstTarget targetScope
  let capability ← queueMapping approval "capability" "capability"
  let createdAt ← queueDatetime lib.toStdlib (approval.get "created_at")
  let expiresAt ← presentDatetime "approval request expiry is required"
    (← queueDatetime lib.toStdlib (approval.get "expires_at"))
  let paramsFingerprint ← resultFingerprint data
  let id ← queueText approval "id"
  let sessionId ← queueText approval "session_id"
  let providerId ← queueText approval "provider_id"
  let capabilityId ← queueText capability "id"
  let policyDecision ← queueText approval "policy_decision"
  let operatorMessage ← queueText approval "operator_message"
  let materialRisks ← queueTexts lib.toStdlib approval "material_risks"
  return init lib
    { id, status := .pending, createdAt := createdAt.getD now, expiresAt, sessionId, targetId
      providerId, capabilityId, paramsFingerprint, policyDecision
      operatorMessage := redactOperatorText lib.toStdlib operatorMessage
      materialRisks
      request := [(.str "approval_request", .dict (PyValue.ofEntries approval)),
        (.str "params_preview",
          PyValue.ofJson ((data.lookup "params_preview").getD (.obj [])))]
      scope := none, operatorId := none, responseId := none, reason := none, decidedAt := none
      consumedAt := none, redactions := [] }

/-- `ApprovalGrantScope(str(scope)) if scope is not None else None`. -/
def scopeOf (std : Stdlib) : Json → Except PyExc (Option ApprovalGrantScope)
  | .null => .ok none
  | value => do return some (← ApprovalGrantScope.ofValue (jsonStr std value))

/-- `_redact_text(text or "") or None`. -/
def redactedReason (std : Stdlib) (reason : Option String) : Option String :=
  match redactOperatorText std (reason.getD "") with
  | "" => none
  | text => some text

/-- `LocalApprovalRecord.from_dict`. -/
def LocalApprovalRecord.fromDict (values : Record) : Except PyExc LocalApprovalRecord := do
  let id ← queueText values "id"
  let status ← LocalApprovalStatus.ofValue (← queueText values "status")
  let createdAt ← requiredDatetime lib.toStdlib values "created_at"
  let expiresAt ← requiredDatetime lib.toStdlib values "expires_at"
  let sessionId ← queueText values "session_id"
  let targetId ← queueText values "target_id"
  let providerId ← queueText values "provider_id"
  let capabilityId ← queueText values "capability_id"
  let paramsFingerprint ← queueText values "params_fingerprint"
  let policyDecision ← queueText values "policy_decision"
  let operatorMessage ← queueText values "operator_message"
  let materialRisks ← queueTexts lib.toStdlib values "material_risks"
  let request ← queueMapping values "request" "request"
  let scope ← scopeOf lib.toStdlib (values.get "scope")
  let operatorId ← optionalQueueText (values.get "operator_id")
  let responseId ← optionalQueueText (values.get "response_id")
  let reason ← optionalQueueText (values.get "reason")
  let decidedAt ← queueDatetime lib.toStdlib (values.get "decided_at")
  let consumedAt ← queueDatetime lib.toStdlib (values.get "consumed_at")
  let redactions ← queueTexts lib.toStdlib values "redactions"
  return init lib
    { id, status, createdAt, expiresAt, sessionId, targetId, providerId, capabilityId
      paramsFingerprint, policyDecision
      operatorMessage := redactOperatorText lib.toStdlib operatorMessage
      materialRisks, request := PyValue.ofEntries request, scope, operatorId, responseId
      reason := redactedReason lib.toStdlib reason
      decidedAt, consumedAt, redactions }

/-- A text or `null`. -/
def jsonOptional : Option String → Json
  | some s => .str s
  | none => .null

/-- `LocalApprovalRecord.to_dict`. -/
def LocalApprovalRecord.toDict (record : LocalApprovalRecord) : Record :=
  [("id", .str record.id), ("status", .str record.status.value),
    ("created_at", .str (lib.isoformat record.createdAt)),
    ("expires_at", .str (lib.isoformat record.expiresAt)), ("session_id", .str record.sessionId),
    ("target_id", .str record.targetId), ("provider_id", .str record.providerId),
    ("capability_id", .str record.capabilityId),
    ("params_fingerprint", .str record.paramsFingerprint),
    ("policy_decision", .str record.policyDecision),
    ("operator_message", .str record.operatorMessage),
    ("material_risks", .list (record.materialRisks.map .str)),
    ("request", jsonDefaultStr lib.toStdlib (.dict record.request)),
    ("scope", jsonOptional (record.scope.map ApprovalGrantScope.value)),
    ("operator_id", jsonOptional record.operatorId),
    ("response_id", jsonOptional record.responseId), ("reason", jsonOptional record.reason),
    ("decided_at", jsonOptional (record.decidedAt.map lib.isoformat)),
    ("consumed_at", jsonOptional (record.consumedAt.map lib.isoformat)),
    ("redactions", .list ((sortedSet record.redactions).map .str))]

/-! ## Decisions -/

/-- `{**self.to_dict(), **changes}` read back: the changes come first, where they are looked up. -/
def LocalApprovalRecord.changed (record : LocalApprovalRecord) (changes : Record) :
    Except PyExc LocalApprovalRecord :=
  fromDict lib (changes ++ record.toDict lib)

/-- The response id of a new decision. -/
def newResponseId (id uuid : String) : String := "local-response-" ++ id ++ "-" ++ uuid

/-- `LocalApprovalRecord.approved_grant`. -/
def LocalApprovalRecord.approvedGrant (record : LocalApprovalRecord) (now : Datetime) :
    Except PyExc (Option ApprovalGrant) :=
  match record.status, record.scope, record.operatorId, record.responseId with
  | .approved, some scope, some operatorId, some responseId => do
      if ← Datetime.ge now record.expiresAt then return none
      if idPresent : operatorId ≠ "" then
        if resumable : record.capabilityId ∉ approvalResumptionBlockedCapabilities then
          return some
            { requestId := record.id
              responseId
              capabilityId := record.capabilityId
              sessionId := record.sessionId
              targetId := record.targetId
              providerId := record.providerId
              paramsFingerprint := record.paramsFingerprint
              expiresAt := record.expiresAt
              scope
              operator := ⟨.operator, operatorId, idPresent⟩
              resumable
              byOperator := rfl }
        else throw (.valueError ("Capability cannot be approval-resumed: " ++ record.capabilityId))
      else throw (.valueError "Actor id is required")
  | _, _, _, _ => .ok none

/-- `LocalApprovalRecord.expire`. -/
def LocalApprovalRecord.expire (record : LocalApprovalRecord) (operatorId : String)
    (reason : Option String) (now : Datetime) (uuid : String) : Except PyExc LocalApprovalRecord :=
  if record.status = .pending ∨ record.status = .approved then
    record.changed lib
      [("status", .str LocalApprovalStatus.expired.value), ("operator_id", .str operatorId),
        ("response_id", .str (givenOr record.responseId (newResponseId record.id uuid))),
        ("reason", .str (redactOperatorText lib.toStdlib (givenOr reason "expired"))),
        ("decided_at", .str (lib.isoformat now))]
  else .error (.valueError
    ("approval " ++ record.id ++ " cannot expire from " ++ record.status.value))

/-- `LocalApprovalRecord.approve`. -/
def LocalApprovalRecord.approve (record : LocalApprovalRecord) (operatorId : String)
    (scope : ApprovalGrantScope) (reason : Option String) (now : Datetime) (uuid : String) :
    Except PyExc LocalApprovalRecord := do
  raiseIf (record.status ≠ .pending)
    (.valueError ("approval " ++ record.id ++ " is not pending"))
  if ← Datetime.ge now record.expiresAt then
    record.expire lib operatorId (some "approval expired") now uuid
  else
    let approved ← record.changed lib
      [("status", .str LocalApprovalStatus.approved.value), ("scope", .str scope.value),
        ("operator_id", .str operatorId), ("response_id", .str (newResponseId record.id uuid)),
        ("reason", .str (redactOperatorText lib.toStdlib (givenOr reason "approved"))),
        ("decided_at", .str (lib.isoformat now))]
    let _ ← approved.approvedGrant now
    return approved

/-- `LocalApprovalRecord.deny`. -/
def LocalApprovalRecord.deny (record : LocalApprovalRecord) (operatorId : String)
    (reason : Option String) (now : Datetime) (uuid : String) : Except PyExc LocalApprovalRecord := do
  raiseIf (record.status ≠ .pending)
    (.valueError ("approval " ++ record.id ++ " is not pending"))
  record.changed lib
    [("status", .str LocalApprovalStatus.denied.value), ("operator_id", .str operatorId),
      ("response_id", .str (newResponseId record.id uuid)),
      ("reason", .str (redactOperatorText lib.toStdlib (givenOr reason "denied"))),
      ("decided_at", .str (lib.isoformat now))]

/-- `LocalApprovalRecord.consume`. -/
def LocalApprovalRecord.consume (record : LocalApprovalRecord) (now : Datetime) :
    Except PyExc LocalApprovalRecord := do
  raiseIf (record.status ≠ .approved)
    (.valueError ("approval " ++ record.id ++ " is not approved"))
  if record.scope = some .session then return record
  record.changed lib
    [("status", .str LocalApprovalStatus.consumed.value),
      ("consumed_at", .str (lib.isoformat now))]

/-- `LocalApprovalRecord.matches_action`. -/
def LocalApprovalRecord.matchesAction (record : LocalApprovalRecord) (action : ActionBinding)
    (now : Datetime) : Except PyExc Bool :=
  if record.status = .approved ∧ record.capabilityId = action.capabilityId
      ∧ record.sessionId = action.sessionId ∧ record.targetId = action.targetId
      ∧ record.providerId = action.providerId
      ∧ record.paramsFingerprint = action.paramsFingerprint then
    Datetime.lt now record.expiresAt
  else .ok false

/-! ## The queue -/

/-- What is at the path of a queue: nothing, what is no JSON text, or the text of a JSON value. The
value that is written is the one that is read back. -/
inductive QueueFile
  | missing
  | malformed
  | document (payload : Json)

/-- `records[record.id] = record`. -/
def storeRecord (records : List LocalApprovalRecord) (record : LocalApprovalRecord) :
    List LocalApprovalRecord :=
  if record.id ∈ records.map LocalApprovalRecord.id then
    records.map fun other => if other.id = record.id then record else other
  else records ++ [record]

/-- `records[approval_id]`, or `None`. -/
def findRecord (records : List LocalApprovalRecord) (id : String) : Option LocalApprovalRecord :=
  records.find? fun record => record.id = id

/-- A record of an item. -/
def recordOfItem : Json → Except PyExc LocalApprovalRecord
  | .obj values => LocalApprovalRecord.fromDict lib values
  | _ => .error (.valueError "approval queue records must be objects")

/-- The loop of `_load_records`. -/
def recordsOfItems (records : List LocalApprovalRecord) :
    List Json → Except PyExc (List LocalApprovalRecord)
  | [] => .ok records
  | item :: rest => do
      let record ← recordOfItem lib item
      recordsOfItems (storeRecord records record) rest

/-- The items of a queue's document. -/
def queueItems : Json → Except PyExc (List Json)
  | .obj payload =>
      match payload.lookup "approvals" with
      | none => .ok []
      | some (.list items) => .ok items
      | some _ => .error (.valueError "approval queue approvals must be a list")
  | _ => .error (.valueError "approval queue must contain an object")

/-- `_load_records`. -/
def QueueFile.loadRecords : QueueFile → Except PyExc (List LocalApprovalRecord)
  | .missing => .ok []
  | .malformed => .error (.other "JSONDecodeError" "Expecting value")
  | .document payload => do recordsOfItems lib [] (← queueItems payload)

/-- The instant of a time, with naive times among themselves by their wall clocks. -/
def Datetime.instant (t : Datetime) : Int := t.wall - t.utcoffset.getD 0

/-- `sorted(records.values(), key=lambda item: item.created_at)`, which raises where naive and aware
times meet. -/
def sortedByCreation (records : List LocalApprovalRecord) :
    Except PyExc (List LocalApprovalRecord) :=
  if records.all (·.createdAt.aware) ∨ records.all (¬ ·.createdAt.aware) then
    .ok (records.insertionSort fun first second =>
      first.createdAt.instant ≤ second.createdAt.instant)
  else .error (.typeError "can't compare offset-naive and offset-aware datetimes")

/-- `_save_records`. -/
def saveRecords (records : List LocalApprovalRecord) : Except PyExc QueueFile := do
  let sorted ← sortedByCreation records
  return .document (.obj [("version", .str "0.1"),
    ("approvals", .list (sorted.map fun record => .obj (record.toDict lib)))])

/-! ## Operations -/

/-- What is asked of the queue, with what the clock and `uuid4` give. A decision is audited after it
is saved, which may raise. -/
inductive QueueOperation
  | enqueue (result : Record) (now : Datetime)
  | approve (id operatorId : String) (scope : ApprovalGrantScope) (reason : Option String)
      (now : Datetime) (uuid : String) (audit : Except PyExc Unit)
  | deny (id operatorId : String) (reason : Option String) (now : Datetime) (uuid : String)
      (audit : Except PyExc Unit)
  | expire (id operatorId : String) (reason : Option String) (now : Datetime) (uuid : String)
      (audit : Except PyExc Unit)
  | consume (action : ActionBinding) (clock : Nat → Datetime)

/-- `enqueue_mcp_result`. -/
def enqueueMcpResult (file : QueueFile) (result : Record) (now : Datetime) :
    QueueFile × Except PyExc (Option LocalApprovalRecord) :=
  let queued : Except PyExc (QueueFile × LocalApprovalRecord) := do
    let record ← LocalApprovalRecord.fromMcpResult lib result now
    let records ← file.loadRecords lib
    match findRecord records record.id with
    | some existing => return (file, existing)
    | none => return (← saveRecords lib (storeRecord records record), record)
  match queued with
  | .ok (saved, record) => (saved, .ok (some record))
  | .error e => (file, .error e)

/-- `_require_record`. -/
def requireRecord (records : List LocalApprovalRecord) (id : String) :
    Except PyExc LocalApprovalRecord :=
  match findRecord records id with
  | some record => .ok record
  | none => .error (.valueError ("Unknown approval id: " ++ id))

/-- `approve`, `deny` and `expire` of the queue: a record is decided, saved and audited. -/
def decideRecord (file : QueueFile) (id : String)
    (decision : LocalApprovalRecord → Except PyExc LocalApprovalRecord)
    (audit : Except PyExc Unit) : QueueFile × Except PyExc (Option LocalApprovalRecord) :=
  let decided : Except PyExc (QueueFile × LocalApprovalRecord) := do
    let records ← file.loadRecords lib
    let record ← requireRecord records id
    let updated ← decision record
    return (← saveRecords lib (storeRecord records updated), updated)
  match decided with
  | .ok (saved, updated) => (saved, audit.map fun _ => some updated)
  | .error e => (file, .error e)

/-- The search of `mark_matching_consumed`, with the clock at each record. -/
def findMatching (action : ActionBinding) (clock : Nat → Datetime) :
    Nat → List LocalApprovalRecord → Except PyExc (Option (Nat × LocalApprovalRecord))
  | _, [] => .ok none
  | index, record :: rest => do
      if ← record.matchesAction action (clock index) then return some (index + 1, record)
      findMatching action clock (index + 1) rest

/-- `mark_matching_consumed`. -/
def markMatchingConsumed (file : QueueFile) (action : ActionBinding) (clock : Nat → Datetime) :
    QueueFile × Except PyExc (Option LocalApprovalRecord) :=
  let marked : Except PyExc (QueueFile × Option LocalApprovalRecord) := do
    let records ← file.loadRecords lib
    match ← findMatching action clock 0 records with
    | none => return (file, none)
    | some (index, record) =>
        if record.scope = some .session then return (file, none)
        else
          let updated ← record.consume lib (clock index)
          return (← saveRecords lib (storeRecord records updated), some updated)
  match marked with
  | .ok (saved, updated) => (saved, .ok updated)
  | .error e => (file, .error e)

/-- One operation on the file of a queue. -/
def queueStep (file : QueueFile) :
    QueueOperation → QueueFile × Except PyExc (Option LocalApprovalRecord)
  | .enqueue result now => enqueueMcpResult lib file result now
  | .approve id operatorId scope reason now uuid audit =>
      decideRecord lib file id (·.approve lib operatorId scope reason now uuid) audit
  | .deny id operatorId reason now uuid audit =>
      decideRecord lib file id (·.deny lib operatorId reason now uuid) audit
  | .expire id operatorId reason now uuid audit =>
      decideRecord lib file id (·.expire lib operatorId reason now uuid) audit
  | .consume action clock => markMatchingConsumed lib file action clock

end Records

/-! ## Reading back -/

/-- A time there is: its year lies within 1 and 9999 and its offset within a day. -/
def Datetime.Valid (t : Datetime) : Prop :=
  0 ≤ t.wall ∧ t.wall ≤ maxWall ∧ ∀ offset ∈ t.utcoffset, -86400000000 < offset ∧ offset < 86400000000

/-- A valid time with a zone. -/
def Datetime.Zoned (t : Datetime) : Prop := t.Valid ∧ t.aware = true

/-- What the standard library promises of ISO texts: the text of a time with a zone is read as the
time, and only valid times are read, none from the empty text. -/
structure IsoLaws (lib : AuditLibrary) : Prop where
  inverts : ∀ t : Datetime, t.Zoned → lib.fromisoformat (lib.isoformat t) = some t
  valid : ∀ text t, lib.fromisoformat text = some t → t.Valid
  empty : lib.fromisoformat "" = none

section Reading

variable {lib : AuditLibrary}

/-- A record that can be read back: its texts are there and its times have a zone. -/
structure LocalApprovalRecord.Kept (record : LocalApprovalRecord) : Prop where
  texts : ∀ text ∈ [record.id, record.sessionId, record.targetId, record.providerId,
    record.capabilityId, record.paramsFingerprint, record.policyDecision, record.operatorMessage],
    text ≠ ""
  createdAt : record.createdAt.Zoned
  expiresAt : record.expiresAt.Zoned
  decidedAt : ∀ t ∈ record.decidedAt, t.Zoned
  consumedAt : ∀ t ∈ record.consumedAt, t.Zoned

/-- What of a record is read back as it was written. -/
structure LocalApprovalRecord.Agrees (record read : LocalApprovalRecord) : Prop where
  id : read.id = record.id
  status : read.status = record.status
  expiresAt : read.expiresAt = record.expiresAt
  sessionId : read.sessionId = record.sessionId
  targetId : read.targetId = record.targetId
  providerId : read.providerId = record.providerId
  capabilityId : read.capabilityId = record.capabilityId
  paramsFingerprint : read.paramsFingerprint = record.paramsFingerprint
  policyDecision : read.policyDecision = record.policyDecision
  scope : read.scope = record.scope
  operatorId : read.operatorId = record.operatorId
  responseId : read.responseId = record.responseId

/-- A mapping in which the fields of a record are found. -/
structure LocalApprovalRecord.Reads (lib : AuditLibrary) (values : Record)
    (record : LocalApprovalRecord) : Prop where
  id : values.get "id" = .str record.id
  status : values.get "status" = .str record.status.value
  createdAt : values.get "created_at" = .str (lib.isoformat record.createdAt)
  expiresAt : values.get "expires_at" = .str (lib.isoformat record.expiresAt)
  sessionId : values.get "session_id" = .str record.sessionId
  targetId : values.get "target_id" = .str record.targetId
  providerId : values.get "provider_id" = .str record.providerId
  capabilityId : values.get "capability_id" = .str record.capabilityId
  paramsFingerprint : values.get "params_fingerprint" = .str record.paramsFingerprint
  policyDecision : values.get "policy_decision" = .str record.policyDecision
  operatorMessage : values.get "operator_message" = .str record.operatorMessage
  materialRisks : values.lookup "material_risks" = some (.list (record.materialRisks.map .str))
  request : ∃ entries, values.lookup "request" = some (.obj entries)
  scope : values.get "scope" = jsonOptional (record.scope.map ApprovalGrantScope.value)
  operatorId : values.get "operator_id" = jsonOptional record.operatorId
  responseId : values.get "response_id" = jsonOptional record.responseId
  reason : values.get "reason" = jsonOptional record.reason
  decidedAt : values.get "decided_at" = jsonOptional (record.decidedAt.map lib.isoformat)
  consumedAt : values.get "consumed_at" = jsonOptional (record.consumedAt.map lib.isoformat)
  redactions : ∃ texts : List String,
    values.lookup "redactions" = some (.list (texts.map .str))

theorem queueText_eq_ok {values : Record} {key text : String} :
    queueText values key = .ok text ↔ values.get key = .str text ∧ text ≠ "" := by
  unfold queueText requiredStr
  constructor
  · intro read
    split at read
    · next s found =>
      split_ifs at read with empty
      cases read
      exact ⟨found, empty⟩
    · cases read
  · rintro ⟨found, present⟩
    rw [found]
    exact if_neg present

/-- The text of a time is read as the time. -/
theorem queueDatetime_isoformat (laws : IsoLaws lib) {t : Datetime} (zoned : t.Zoned) :
    queueDatetime lib.toStdlib (.str (lib.isoformat t)) = .ok (some t) := by
  have inverts := laws.inverts t zoned
  have present : lib.isoformat t ≠ "" := by
    intro empty
    rw [empty, laws.empty] at inverts
    cases inverts
  rw [queueDatetime, if_neg present, inverts]
  dsimp only
  rw [if_pos zoned.2]

theorem queueDatetime_optional (laws : IsoLaws lib) {t : Option Datetime}
    (zoned : ∀ u ∈ t, u.Zoned) :
    queueDatetime lib.toStdlib (jsonOptional (t.map lib.isoformat)) = .ok t := by
  cases t with
  | none => rfl
  | some t => exact queueDatetime_isoformat laws (zoned t rfl)

/-- What is read as a time has a zone. -/
theorem queueDatetime_zoned (laws : IsoLaws lib) {value : Json} {t : Datetime}
    (read : queueDatetime lib.toStdlib value = .ok (some t)) : t.Zoned := by
  unfold queueDatetime at read
  split at read
  · cases read
  · split_ifs at read
    split at read
    · next u parsed =>
      have valid := laws.valid _ _ parsed
      cases read
      by_cases aware : u.aware = true
      · rw [if_pos aware]
        exact ⟨valid, aware⟩
      · rw [if_neg aware]
        refine ⟨⟨valid.1, valid.2.1, fun offset same => ?_⟩, rfl⟩
        cases same
        exact ⟨by decide, by decide⟩
    · cases read
  · cases read

theorem requiredDatetime_isoformat (laws : IsoLaws lib) {values : Record} {key : String}
    {t : Datetime} (found : values.get key = .str (lib.isoformat t)) (zoned : t.Zoned) :
    requiredDatetime lib.toStdlib values key = .ok t := by
  rw [requiredDatetime, found, queueDatetime_isoformat laws zoned]
  rfl

theorem LocalApprovalStatus.ofValue_value (status : LocalApprovalStatus) :
    ofValue status.value = .ok status := by
  cases status <;> rfl

theorem scopeOf_value {std : Stdlib} (scope : Option ApprovalGrantScope) :
    scopeOf std (jsonOptional (scope.map ApprovalGrantScope.value)) = .ok scope := by
  rcases scope with _ | _ | _ <;> rfl

theorem optionalQueueText_optional (text : Option String) :
    optionalQueueText (jsonOptional text) = .ok text := by
  cases text <;> rfl

theorem queueTexts_list {std : Stdlib} {values : Record} {key : String} {texts : List String}
    (found : values.lookup key = some (.list (texts.map .str))) :
    queueTexts std values key = .ok texts := by
  rw [queueTexts, found]
  refine congrArg Except.ok ?_
  rw [List.map_map]
  exact List.map_id texts

theorem redactOperatorText_ne {std : Stdlib} {text : String} (present : text ≠ "") :
    redactOperatorText std text ≠ "" := by
  unfold redactOperatorText
  split_ifs
  · decide
  · exact present

/-- **A record that can be read back is**, with everything but its texts for the operator as it
was. -/
theorem LocalApprovalRecord.fromDict_of_reads (laws : IsoLaws lib) {values : Record}
    {record : LocalApprovalRecord} (reads : Reads lib values record) (kept : record.Kept) :
    ∃ read, fromDict lib values = .ok read ∧ record.Agrees read ∧ read.Kept := by
  have texts := kept.texts
  simp only [List.forall_mem_cons, List.not_mem_nil, false_implies, forall_const, and_true] at texts
  obtain ⟨id, sessionId, targetId, providerId, capabilityId, fingerprint, decision, message⟩ := texts
  obtain ⟨entries, request⟩ := reads.request
  obtain ⟨redactions, isRedactions⟩ := reads.redactions
  have status : queueText values "status" = .ok record.status.value :=
    queueText_eq_ok.mpr ⟨reads.status, by cases record.status <;> decide⟩
  have mapping : queueMapping values "request" "request" = .ok entries := by
    rw [queueMapping, request]
  have scope := @scopeOf_value lib.toStdlib record.scope
  have decidedAt := queueDatetime_optional laws kept.decidedAt
  have consumedAt := queueDatetime_optional laws kept.consumedAt
  rw [← reads.scope] at scope
  rw [← reads.decidedAt] at decidedAt
  rw [← reads.consumedAt] at consumedAt
  simp only [fromDict, queueText_eq_ok.mpr ⟨reads.id, id⟩, status,
    LocalApprovalStatus.ofValue_value, requiredDatetime_isoformat laws reads.createdAt kept.createdAt,
    requiredDatetime_isoformat laws reads.expiresAt kept.expiresAt,
    queueText_eq_ok.mpr ⟨reads.sessionId, sessionId⟩, queueText_eq_ok.mpr ⟨reads.targetId, targetId⟩,
    queueText_eq_ok.mpr ⟨reads.providerId, providerId⟩,
    queueText_eq_ok.mpr ⟨reads.capabilityId, capabilityId⟩,
    queueText_eq_ok.mpr ⟨reads.paramsFingerprint, fingerprint⟩,
    queueText_eq_ok.mpr ⟨reads.policyDecision, decision⟩,
    queueText_eq_ok.mpr ⟨reads.operatorMessage, message⟩, queueTexts_list reads.materialRisks,
    mapping, scope, reads.operatorId, reads.responseId, reads.reason, optionalQueueText_optional,
    decidedAt, consumedAt, queueTexts_list isRedactions, except_ok_bind, except_pure]
  refine ⟨_, rfl, ⟨rfl, rfl, rfl, rfl, rfl, rfl, rfl, rfl, rfl, rfl, rfl, rfl⟩, ?_,
    kept.createdAt, kept.expiresAt, kept.decidedAt, kept.consumedAt⟩
  simp only [List.forall_mem_cons]
  exact ⟨id, sessionId, targetId, providerId, capabilityId, fingerprint, decision,
    redactOperatorText_ne message, fun _ member => by cases member⟩

/-- A record's dictionary has the record's fields. -/
theorem LocalApprovalRecord.reads_toDict (record : LocalApprovalRecord) :
    Reads lib (record.toDict lib) record where
  id := rfl
  status := rfl
  createdAt := rfl
  expiresAt := rfl
  sessionId := rfl
  targetId := rfl
  providerId := rfl
  capabilityId := rfl
  paramsFingerprint := rfl
  policyDecision := rfl
  operatorMessage := rfl
  materialRisks := rfl
  request := ⟨_, rfl⟩
  scope := rfl
  operatorId := rfl
  responseId := rfl
  reason := rfl
  decidedAt := rfl
  consumedAt := rfl
  redactions := ⟨_, rfl⟩

theorem recordOfItem_toDict (laws : IsoLaws lib) {record : LocalApprovalRecord}
    (kept : record.Kept) :
    ∃ read, recordOfItem lib (.obj (record.toDict lib)) = .ok read ∧ record.Agrees read
      ∧ read.Kept :=
  LocalApprovalRecord.fromDict_of_reads laws record.reads_toDict kept

/-- Records with identifiers of their own are read one after the other. -/
theorem recordsOfItems_toDict (laws : IsoLaws lib) {records before : List LocalApprovalRecord}
    (kept : ∀ record ∈ records, record.Kept)
    (distinct : ((before ++ records).map LocalApprovalRecord.id).Nodup) :
    ∃ read, recordsOfItems lib before (records.map fun record => .obj (record.toDict lib))
        = .ok (before ++ read)
      ∧ List.Forall₂ (fun record read => record.Agrees read ∧ read.Kept) records read := by
  induction records generalizing before with
  | nil => exact ⟨[], by rw [List.append_nil]; rfl, .nil⟩
  | cons record rest ih =>
      rw [List.forall_mem_cons] at kept
      obtain ⟨read, isRead, agrees, readKept⟩ := recordOfItem_toDict laws kept.1
      have new : read.id ∉ before.map LocalApprovalRecord.id := by
        rw [agrees.id]
        rw [List.map_append, List.map_cons] at distinct
        exact fun old => (List.disjoint_of_nodup_append distinct) old List.mem_cons_self
      have distinct' : ((before ++ [read] ++ rest).map LocalApprovalRecord.id).Nodup := by
        rw [List.append_assoc, List.map_append, List.singleton_append, List.map_cons, agrees.id]
        rw [List.map_append, List.map_cons] at distinct
        exact distinct
      obtain ⟨later, isLater, each⟩ := ih kept.2 distinct'
      refine ⟨read :: later, ?_, .cons ⟨agrees, readKept⟩ each⟩
      rw [List.map_cons, recordsOfItems, isRead, except_ok_bind, storeRecord, if_neg new, isLater,
        List.append_assoc, List.singleton_append]

/-- **What is saved is loaded**: records with identifiers of their own, in the order of their
creation. -/
theorem load_of_save (laws : IsoLaws lib) {records : List LocalApprovalRecord}
    (kept : ∀ record ∈ records, record.Kept)
    (distinct : (records.map LocalApprovalRecord.id).Nodup) :
    ∃ file sorted read, saveRecords lib records = .ok file ∧ file.loadRecords lib = .ok read
      ∧ sorted.Perm records
      ∧ List.Forall₂ (fun record read => record.Agrees read ∧ read.Kept) sorted read := by
  have aware : records.all (·.createdAt.aware) = true :=
    List.all_eq_true.mpr fun record member => (kept record member).createdAt.2
  have perm := List.perm_insertionSort (fun first second : LocalApprovalRecord =>
    first.createdAt.instant ≤ second.createdAt.instant) records
  obtain ⟨read, isRead, each⟩ := @recordsOfItems_toDict lib laws _ []
    (fun record member => kept record (perm.mem_iff.mp member))
    (by rw [List.nil_append]; exact (perm.map _).nodup_iff.mpr distinct)
  have saved : saveRecords lib records = .ok (.document (.obj [("version", .str "0.1"),
      ("approvals", .list ((records.insertionSort fun first second =>
        first.createdAt.instant ≤ second.createdAt.instant).map fun record =>
          .obj (record.toDict lib)))])) := by
    rw [saveRecords, sortedByCreation, if_pos (.inl aware)]
    rfl
  exact ⟨_, _, read, saved, isRead, perm, each⟩

end Reading

/-! ## What an operation may change -/

namespace LocalApprovalRecord

/-- **The binding of a record**: what no operation changes. -/
structure SameBinding (record later : LocalApprovalRecord) : Prop where
  id : later.id = record.id
  sessionId : later.sessionId = record.sessionId
  targetId : later.targetId = record.targetId
  providerId : later.providerId = record.providerId
  capabilityId : later.capabilityId = record.capabilityId
  paramsFingerprint : later.paramsFingerprint = record.paramsFingerprint
  expiresAt : later.expiresAt = record.expiresAt
  policyDecision : later.policyDecision = record.policyDecision

/-- **How a status moves**: from pending to approved, denied or expired, from approved to expired or,
for a one-time record, to consumed. -/
inductive StatusMoves (record later : LocalApprovalRecord) : Prop
  | stays (status : later.status = record.status) (scope : later.scope = record.scope)
  | approved (pending : record.status = .pending) (status : later.status = .approved)
  | denied (pending : record.status = .pending) (status : later.status = .denied)
  | expired (live : record.status = .pending ∨ record.status = .approved)
      (status : later.status = .expired)
  | consumed (approved : record.status = .approved) (oneTime : record.scope = some .oneTime)
      (status : later.status = .consumed)

/-- What one operation makes of a record. -/
structure Moves (record later : LocalApprovalRecord) : Prop where
  binding : SameBinding record later
  status : StatusMoves record later

/-- A record that is not blocked, where it is approved, and is approved for a scope. -/
structure Resumable (record : LocalApprovalRecord) : Prop where
  capability : record.status = .approved →
    record.capabilityId ∉ approvalResumptionBlockedCapabilities
  scope : record.status = .approved → record.scope ≠ none

theorem Moves.refl (record : LocalApprovalRecord) : Moves record record :=
  ⟨⟨rfl, rfl, rfl, rfl, rfl, rfl, rfl, rfl⟩, .stays rfl rfl⟩

theorem Agrees.binding {record read : LocalApprovalRecord} (agrees : record.Agrees read) :
    SameBinding record read :=
  ⟨agrees.id, agrees.sessionId, agrees.targetId, agrees.providerId, agrees.capabilityId,
    agrees.paramsFingerprint, agrees.expiresAt, agrees.policyDecision⟩

theorem SameBinding.trans {first second third : LocalApprovalRecord}
    (before : SameBinding first second) (after : SameBinding second third) :
    SameBinding first third where
  id := after.id.trans before.id
  sessionId := after.sessionId.trans before.sessionId
  targetId := after.targetId.trans before.targetId
  providerId := after.providerId.trans before.providerId
  capabilityId := after.capabilityId.trans before.capabilityId
  paramsFingerprint := after.paramsFingerprint.trans before.paramsFingerprint
  expiresAt := after.expiresAt.trans before.expiresAt
  policyDecision := after.policyDecision.trans before.policyDecision

theorem Agrees.bindingTo {record new read : LocalApprovalRecord} (agrees : new.Agrees read)
    (same : SameBinding record new) : SameBinding record read :=
  same.trans agrees.binding

/-- A record that is read back has moved as the one that was written. -/
theorem Moves.read {record later read : LocalApprovalRecord} (moves : Moves record later)
    (agrees : later.Agrees read) : Moves record read := by
  refine ⟨moves.binding.trans agrees.binding, ?_⟩
  obtain ⟨-, status⟩ := moves
  cases status with
  | stays status scope =>
      exact .stays (agrees.status.trans status) (agrees.scope.trans scope)
  | approved pending status => exact .approved pending (agrees.status.trans status)
  | denied pending status => exact .denied pending (agrees.status.trans status)
  | expired live status => exact .expired live (agrees.status.trans status)
  | consumed approved oneTime status =>
      exact .consumed approved oneTime (agrees.status.trans status)

theorem Resumable.read {record read : LocalApprovalRecord} (resumable : record.Resumable)
    (agrees : record.Agrees read) : read.Resumable := by
  refine ⟨fun approved => ?_, fun approved => ?_⟩
  · rw [agrees.status] at approved
    rw [agrees.capabilityId]
    exact resumable.capability approved
  · rw [agrees.status] at approved
    rw [agrees.scope]
    exact resumable.scope approved

end LocalApprovalRecord

/-! ## Decisions -/

section Decisions

variable {lib : AuditLibrary}

open LocalApprovalRecord

/-- A decision's changes are read back with the record's other fields. -/
theorem LocalApprovalRecord.changed_agrees (laws : IsoLaws lib) {record new read : LocalApprovalRecord}
    {changes : Record} (reads : Reads lib (changes ++ record.toDict lib) new) (kept : new.Kept)
    (got : record.changed lib changes = .ok read) : new.Agrees read ∧ read.Kept := by
  obtain ⟨read', isRead, agrees, readKept⟩ := fromDict_of_reads laws reads kept
  have same : read' = read := Except.ok.inj (isRead.symm.trans got)
  exact ⟨same ▸ agrees, same ▸ readKept⟩

/-- What a decision makes of a record that can be read back. -/
def Decides (decision : LocalApprovalRecord → Except PyExc LocalApprovalRecord) : Prop :=
  ∀ record later, record.Kept → decision record = .ok later →
    later.Kept ∧ Moves record later ∧ later.Resumable

/-- The record of a decision at a time. -/
def LocalApprovalRecord.decided (record : LocalApprovalRecord) (status : LocalApprovalStatus)
    (operatorId responseId reason : String) (now : Datetime) : LocalApprovalRecord :=
  { record with
    status := status
    operatorId := some operatorId
    responseId := some responseId
    reason := some reason
    decidedAt := some now }

theorem LocalApprovalRecord.Kept.decided {record : LocalApprovalRecord} (kept : record.Kept)
    {status : LocalApprovalStatus} {operatorId responseId reason : String} {now : Datetime}
    (zoned : now.Zoned) : (record.decided status operatorId responseId reason now).Kept :=
  ⟨kept.texts, kept.createdAt, kept.expiresAt, fun t same => by cases same; exact zoned,
    kept.consumedAt⟩

/-- The changes of a denial or an expiry are read as the decided record. -/
theorem LocalApprovalRecord.reads_decided (record : LocalApprovalRecord)
    (status : LocalApprovalStatus) (operatorId responseId reason : String) (now : Datetime) :
    Reads lib ([("status", .str status.value), ("operator_id", .str operatorId),
        ("response_id", .str responseId), ("reason", .str reason),
        ("decided_at", .str (lib.isoformat now))] ++ record.toDict lib)
      (record.decided status operatorId responseId reason now) where
  id := rfl
  status := rfl
  createdAt := rfl
  expiresAt := rfl
  sessionId := rfl
  targetId := rfl
  providerId := rfl
  capabilityId := rfl
  paramsFingerprint := rfl
  policyDecision := rfl
  operatorMessage := rfl
  materialRisks := rfl
  request := ⟨_, rfl⟩
  scope := rfl
  operatorId := rfl
  responseId := rfl
  reason := rfl
  decidedAt := rfl
  consumedAt := rfl
  redactions := ⟨_, rfl⟩

/-- **An expiry** moves a pending or approved record to expired. -/
theorem decides_expire (laws : IsoLaws lib) (operatorId : String) (reason : Option String)
    {now : Datetime} (zoned : now.Zoned) (uuid : String) :
    Decides (·.expire lib operatorId reason now uuid) := by
  intro record later kept got
  simp only [expire] at got
  split_ifs at got with live
  obtain ⟨agrees, laterKept⟩ :=
    changed_agrees laws (record.reads_decided .expired _ _ _ now) (kept.decided zoned) got
  have binding : SameBinding record later :=
    agrees.bindingTo ⟨rfl, rfl, rfl, rfl, rfl, rfl, rfl, rfl⟩
  refine ⟨laterKept, ⟨binding, .expired live agrees.status⟩, ?_, ?_⟩
  all_goals
    intro approved
    rw [agrees.status] at approved
    cases approved

/-- **A denial** moves a pending record to denied. -/
theorem decides_deny (laws : IsoLaws lib) (operatorId : String) (reason : Option String)
    {now : Datetime} (zoned : now.Zoned) (uuid : String) :
    Decides (·.deny lib operatorId reason now uuid) := by
  intro record later kept got
  obtain ⟨_, pending, got⟩ := except_bind_eq_ok.mp got
  rw [raiseIf_eq_ok, not_not] at pending
  obtain ⟨agrees, laterKept⟩ :=
    changed_agrees laws (record.reads_decided .denied _ _ _ now) (kept.decided zoned) got
  have binding : SameBinding record later :=
    agrees.bindingTo ⟨rfl, rfl, rfl, rfl, rfl, rfl, rfl, rfl⟩
  refine ⟨laterKept, ⟨binding, .denied pending agrees.status⟩, ?_, ?_⟩
  all_goals
    intro approved
    rw [agrees.status] at approved
    cases approved

/-- A grant is made of an approved record only where its capability can be resumed. -/
theorem LocalApprovalRecord.resumable_of_approvedGrant {record : LocalApprovalRecord}
    {now : Datetime} {scope : ApprovalGrantScope} {operatorId responseId : String}
    {grant : Option ApprovalGrant} (status : record.status = .approved)
    (isScope : record.scope = some scope) (operator : record.operatorId = some operatorId)
    (response : record.responseId = some responseId)
    (early : Datetime.ge now record.expiresAt = .ok false)
    (made : record.approvedGrant now = .ok grant) :
    record.capabilityId ∉ approvalResumptionBlockedCapabilities := by
  simp only [approvedGrant, status, isScope, operator, response, early, except_ok_bind,
    Bool.false_eq_true, if_false] at made
  split_ifs at made with _ resumable
  exact resumable

/-- **An approval** moves a pending record to approved, or to expired where its time is over; it
raises for a capability that approvals cannot resume. -/
theorem decides_approve (laws : IsoLaws lib) (operatorId : String) (scope : ApprovalGrantScope)
    (reason : Option String) {now : Datetime} (zoned : now.Zoned) (uuid : String) :
    Decides (·.approve lib operatorId scope reason now uuid) := by
  intro record later kept got
  obtain ⟨_, pending, got⟩ := except_bind_eq_ok.mp got
  rw [raiseIf_eq_ok, not_not] at pending
  obtain ⟨late, compared, got⟩ := except_bind_eq_ok.mp got
  cases late with
  | true => exact decides_expire laws operatorId _ zoned uuid record later kept got
  | false =>
      obtain ⟨approved, isApproved, got⟩ := except_bind_eq_ok.mp got
      obtain ⟨grant, made, same⟩ := except_bind_eq_ok.mp got
      cases same
      have reads : Reads lib ([("status", .str LocalApprovalStatus.approved.value),
            ("scope", .str scope.value), ("operator_id", .str operatorId),
            ("response_id", .str (newResponseId record.id uuid)),
            ("reason", .str (redactOperatorText lib.toStdlib (givenOr reason "approved"))),
            ("decided_at", .str (lib.isoformat now))] ++ record.toDict lib)
          { record.decided .approved operatorId (newResponseId record.id uuid)
              (redactOperatorText lib.toStdlib (givenOr reason "approved")) now with
            scope := some scope } :=
        ⟨rfl, rfl, rfl, rfl, rfl, rfl, rfl, rfl, rfl, rfl, rfl, rfl, ⟨_, rfl⟩, rfl, rfl, rfl, rfl,
          rfl, rfl, ⟨_, rfl⟩⟩
      have newKept := @Kept.decided record kept .approved operatorId
        (newResponseId record.id uuid)
        (redactOperatorText lib.toStdlib (givenOr reason "approved")) now zoned
      obtain ⟨agrees, laterKept⟩ := changed_agrees laws reads
        ⟨newKept.texts, newKept.createdAt, newKept.expiresAt, newKept.decidedAt,
          newKept.consumedAt⟩ isApproved
      have early : Datetime.ge now later.expiresAt = .ok false := by
        rw [agrees.expiresAt]
        exact compared
      have resumable := resumable_of_approvedGrant agrees.status agrees.scope agrees.operatorId
        agrees.responseId early made
      have binding : SameBinding record later :=
        agrees.bindingTo ⟨rfl, rfl, rfl, rfl, rfl, rfl, rfl, rfl⟩
      refine ⟨laterKept, ⟨binding, .approved pending agrees.status⟩, fun _ => resumable, fun _ => ?_⟩
      rw [agrees.scope]
      nofun

/-- **A consumption** moves an approved one-time record to consumed. -/
theorem decides_consume (laws : IsoLaws lib) {now : Datetime} (zoned : now.Zoned)
    {record later : LocalApprovalRecord} (kept : record.Kept) (resumable : record.Resumable)
    (oneTime : record.scope ≠ some .session) (got : record.consume lib now = .ok later) :
    later.Kept ∧ Moves record later ∧ later.Resumable := by
  obtain ⟨_, approved, got⟩ := except_bind_eq_ok.mp got
  rw [raiseIf_eq_ok, not_not] at approved
  rw [if_neg oneTime] at got
  have reads : Reads lib ([("status", .str LocalApprovalStatus.consumed.value),
        ("consumed_at", .str (lib.isoformat now))] ++ record.toDict lib)
      { record with status := .consumed, consumedAt := some now } :=
    ⟨rfl, rfl, rfl, rfl, rfl, rfl, rfl, rfl, rfl, rfl, rfl, rfl, ⟨_, rfl⟩, rfl, rfl, rfl, rfl,
      rfl, rfl, ⟨_, rfl⟩⟩
  obtain ⟨agrees, laterKept⟩ := changed_agrees laws reads
    ⟨kept.texts, kept.createdAt, kept.expiresAt, kept.decidedAt,
      fun t same => by cases same; exact zoned⟩ got
  have scope : record.scope = some .oneTime := by
    cases isScope : record.scope with
    | none => exact absurd isScope (resumable.scope approved)
    | some scope =>
        cases scope with
        | oneTime => rfl
        | session => exact absurd isScope oneTime
  have binding : SameBinding record later :=
    agrees.bindingTo ⟨rfl, rfl, rfl, rfl, rfl, rfl, rfl, rfl⟩
  refine ⟨laterKept, ⟨binding, .consumed approved scope agrees.status⟩, ?_, ?_⟩
  all_goals
    intro still
    rw [agrees.status] at still
    cases still

end Decisions

/-! ## Runs -/

section Runs

variable {lib : AuditLibrary}

open LocalApprovalRecord

/-- **A queue at rest**: its file is loaded as records that can be read back, each with an identifier
of its own, and no approved one is blocked. -/
structure QueueHolds (lib : AuditLibrary) (file : QueueFile) (records : List LocalApprovalRecord) :
    Prop where
  loaded : file.loadRecords lib = .ok records
  kept : ∀ record ∈ records, record.Kept
  distinct : (records.map LocalApprovalRecord.id).Nodup
  resumable : ∀ record ∈ records, record.Resumable

/-- **What an operation makes of the records**: each is still there and has moved, and what is new is
pending. -/
structure Advances (records later : List LocalApprovalRecord) : Prop where
  each : ∀ record ∈ records, ∃ next ∈ later, Moves record next
  new : ∀ next ∈ later, (∃ record ∈ records, Moves record next) ∨ next.status = .pending

theorem Advances.refl (records : List LocalApprovalRecord) : Advances records records :=
  ⟨fun record member => ⟨record, member, .refl record⟩,
    fun next member => .inl ⟨next, member, .refl next⟩⟩

/-- Records that were moved are saved, and loaded as records that have moved. -/
theorem Advances.saved (laws : IsoLaws lib) {records between : List LocalApprovalRecord}
    (advances : Advances records between) (kept : ∀ record ∈ between, record.Kept)
    (distinct : (between.map LocalApprovalRecord.id).Nodup)
    (resumable : ∀ record ∈ between, record.Resumable) :
    ∃ file later, saveRecords lib between = .ok file ∧ QueueHolds lib file later
      ∧ Advances records later := by
  obtain ⟨file, sorted, later, saved, loaded, perm, each⟩ := load_of_save laws kept distinct
  have forward (record : LocalApprovalRecord) (member : record ∈ between) :
      ∃ read ∈ later, record.Agrees read ∧ read.Kept := by
    obtain ⟨i, inside, same⟩ := List.mem_iff_getElem.mp (perm.mem_iff.mpr member)
    have inLater : i < later.length := each.length_eq ▸ inside
    refine ⟨later[i], List.getElem_mem inLater, ?_⟩
    rw [← same]
    exact each.get inside inLater
  have backward (read : LocalApprovalRecord) (member : read ∈ later) :
      ∃ record ∈ between, record.Agrees read ∧ read.Kept := by
    obtain ⟨i, inside, same⟩ := List.mem_iff_getElem.mp member
    have inSorted : i < sorted.length := each.length_eq ▸ inside
    refine ⟨sorted[i], perm.mem_iff.mp (List.getElem_mem inSorted), ?_⟩
    rw [← same]
    exact each.get inSorted inside
  have ids : later.map LocalApprovalRecord.id = sorted.map LocalApprovalRecord.id := by
    clear forward backward loaded saved perm
    induction each with
    | nil => rfl
    | cons agrees _ ih => rw [List.map_cons, List.map_cons, agrees.1.id, ih]
  refine ⟨file, later, saved, ⟨loaded, ?_, ?_, ?_⟩, ?_, ?_⟩
  · exact fun read member => (backward read member).choose_spec.2.2
  · rw [ids]
    exact (perm.map _).nodup_iff.mpr distinct
  · intro read member
    obtain ⟨record, inside, agrees, -⟩ := backward read member
    exact (resumable record inside).read agrees
  · intro record member
    obtain ⟨next, inside, moves⟩ := advances.each record member
    obtain ⟨read, isRead, agrees, -⟩ := forward next inside
    exact ⟨read, isRead, moves.read agrees⟩
  · intro read member
    obtain ⟨next, inside, agrees, -⟩ := backward read member
    rcases advances.new next inside with ⟨record, isRecord, moves⟩ | pending
    · exact .inl ⟨record, isRecord, moves.read agrees⟩
    · exact .inr (agrees.status.trans pending)

theorem findRecord_eq_some {records : List LocalApprovalRecord} {id : String}
    {record : LocalApprovalRecord} (found : findRecord records id = some record) :
    record ∈ records ∧ record.id = id :=
  ⟨List.mem_of_find?_eq_some found, by simpa using List.find?_some found⟩

/-- **A record is replaced by what has become of it.** -/
theorem QueueHolds.replace (laws : IsoLaws lib) {file : QueueFile}
    {records : List LocalApprovalRecord} (holds : QueueHolds lib file records)
    {record updated : LocalApprovalRecord} (member : record ∈ records) (kept : updated.Kept)
    (moves : Moves record updated) (resumable : updated.Resumable) :
    ∃ saved later, saveRecords lib (storeRecord records updated) = .ok saved
      ∧ QueueHolds lib saved later ∧ Advances records later := by
  have stored : storeRecord records updated
      = records.map fun other => if other.id = updated.id then updated else other := by
    rw [storeRecord, if_pos]
    rw [moves.binding.id]
    exact List.mem_map_of_mem member
  have one (other : LocalApprovalRecord) (inside : other ∈ records)
      (same : other.id = updated.id) : other = record :=
    List.inj_on_of_nodup_map holds.distinct inside member (same.trans moves.binding.id)
  have ids : (storeRecord records updated).map LocalApprovalRecord.id
      = records.map LocalApprovalRecord.id := by
    rw [stored, List.map_map]
    refine List.map_congr_left fun other _ => ?_
    rw [Function.comp_apply]
    split_ifs with same
    exacts [same.symm, rfl]
  have each {p : LocalApprovalRecord → Prop} (new : p updated)
      (old : ∀ other ∈ records, p other) : ∀ other ∈ storeRecord records updated, p other := by
    rw [stored, List.forall_mem_map]
    intro other inside
    split_ifs
    exacts [new, old other inside]
  refine Advances.saved laws ⟨?_, ?_⟩ (each kept holds.kept) (ids ▸ holds.distinct)
    (each resumable holds.resumable)
  · intro other inside
    by_cases same : other.id = updated.id
    · refine ⟨updated, ?_, one other inside same ▸ moves⟩
      rw [stored]
      exact List.mem_map.mpr ⟨other, inside, if_pos same⟩
    · refine ⟨other, ?_, .refl other⟩
      rw [stored]
      exact List.mem_map.mpr ⟨other, inside, if_neg same⟩
  · exact each (.inl ⟨record, member, moves⟩) fun other inside =>
      .inl ⟨other, inside, .refl other⟩

/-- **A decision of the queue** moves the record it names and no other. -/
theorem QueueHolds.decideRecord (laws : IsoLaws lib) {file : QueueFile}
    {records : List LocalApprovalRecord} (holds : QueueHolds lib file records) (id : String)
    {decision : LocalApprovalRecord → Except PyExc LocalApprovalRecord} (decides : Decides decision)
    (audit : Except PyExc Unit) :
    ∃ later, QueueHolds lib (AgenticKVM.decideRecord lib file id decision audit).1 later
      ∧ Advances records later := by
  unfold AgenticKVM.decideRecord requireRecord
  rw [holds.loaded, except_ok_bind]
  cases found : findRecord records id with
  | none => exact ⟨records, holds, .refl records⟩
  | some record =>
      dsimp only
      rw [except_ok_bind]
      obtain ⟨member, -⟩ := findRecord_eq_some found
      cases decided : decision record with
      | error e => exact ⟨records, holds, .refl records⟩
      | ok updated =>
          obtain ⟨kept, moves, resumable⟩ := decides record updated (holds.kept record member) decided
          obtain ⟨saved, later, isSaved, holds', advances⟩ :=
            holds.replace laws member kept moves resumable
          rw [except_ok_bind, isSaved]
          exact ⟨later, holds', advances⟩

/-- What is found is one of the records, and it is approved. -/
theorem findMatching_found {action : ActionBinding} {clock : Nat → Datetime} {index next : Nat}
    {records : List LocalApprovalRecord} {record : LocalApprovalRecord}
    (found : findMatching action clock index records = .ok (some (next, record))) :
    record ∈ records ∧ record.status = .approved := by
  induction records generalizing index with
  | nil => cases found
  | cons first rest ih =>
      obtain ⟨isMatch, matched, found⟩ := except_bind_eq_ok.mp found
      cases isMatch with
      | true =>
          cases found
          refine ⟨List.mem_cons_self, ?_⟩
          unfold matchesAction at matched
          split_ifs at matched with bound
          · exact bound.1
          · cases matched
      | false =>
          obtain ⟨inside, approved⟩ := ih found
          exact ⟨List.mem_cons_of_mem _ inside, approved⟩

/-- **A use of an approval** consumes the one-time record it matches and moves no other. -/
theorem QueueHolds.markMatchingConsumed (laws : IsoLaws lib) {file : QueueFile}
    {records : List LocalApprovalRecord} (holds : QueueHolds lib file records)
    (action : ActionBinding) {clock : Nat → Datetime} (zoned : ∀ i, (clock i).Zoned) :
    ∃ later, QueueHolds lib (AgenticKVM.markMatchingConsumed lib file action clock).1 later
      ∧ Advances records later := by
  unfold AgenticKVM.markMatchingConsumed
  rw [holds.loaded, except_ok_bind]
  cases found : findMatching action clock 0 records with
  | error e => exact ⟨records, holds, .refl records⟩
  | ok result =>
      rw [except_ok_bind]
      rcases result with _ | ⟨index, record⟩
      · exact ⟨records, holds, .refl records⟩
      · dsimp only
        by_cases session : record.scope = some .session
        · rw [if_pos session]
          exact ⟨records, holds, .refl records⟩
        · rw [if_neg session]
          obtain ⟨member, -⟩ := findMatching_found found
          cases consumed : record.consume lib (clock index) with
          | error e => exact ⟨records, holds, .refl records⟩
          | ok updated =>
              obtain ⟨kept, moves, resumable⟩ := decides_consume laws (zoned index)
                (holds.kept record member) (holds.resumable record member) session consumed
              obtain ⟨saved, later, isSaved, holds', advances⟩ :=
                holds.replace laws member kept moves resumable
              rw [except_ok_bind, isSaved]
              exact ⟨later, holds', advances⟩

/-- A record of a result is pending, and can be read back where its target is not the empty text. -/
theorem fromMcpResult_kept (laws : IsoLaws lib) {result : Record} {now : Datetime}
    {record : LocalApprovalRecord} (zoned : now.Zoned)
    (made : fromMcpResult lib result now = .ok record) (target : record.targetId ≠ "") :
    record.Kept ∧ record.status = .pending := by
  obtain ⟨_, -, made⟩ := except_bind_eq_ok.mp made
  obtain ⟨data, _, made⟩ := except_bind_eq_ok.mp made
  obtain ⟨approval, _, made⟩ := except_bind_eq_ok.mp made
  obtain ⟨targetScope, -, made⟩ := except_bind_eq_ok.mp made
  obtain ⟨targetId, -, made⟩ := except_bind_eq_ok.mp made
  obtain ⟨capability, -, made⟩ := except_bind_eq_ok.mp made
  obtain ⟨createdAt, isCreated, made⟩ := except_bind_eq_ok.mp made
  obtain ⟨expiry, isExpiry, made⟩ := except_bind_eq_ok.mp made
  obtain ⟨expiresAt, hasExpiry, made⟩ := except_bind_eq_ok.mp made
  obtain ⟨fingerprint, isFingerprint, made⟩ := except_bind_eq_ok.mp made
  obtain ⟨id, hasId, made⟩ := except_bind_eq_ok.mp made
  obtain ⟨sessionId, hasSession, made⟩ := except_bind_eq_ok.mp made
  obtain ⟨providerId, hasProvider, made⟩ := except_bind_eq_ok.mp made
  obtain ⟨capabilityId, hasCapability, made⟩ := except_bind_eq_ok.mp made
  obtain ⟨decision, hasDecision, made⟩ := except_bind_eq_ok.mp made
  obtain ⟨message, hasMessage, made⟩ := except_bind_eq_ok.mp made
  obtain ⟨materialRisks, -, made⟩ := except_bind_eq_ok.mp made
  cases made
  have fingerprintPresent : fingerprint ≠ "" := by
    unfold resultFingerprint at isFingerprint
    split at isFingerprint
    · split_ifs at isFingerprint with empty
      cases isFingerprint
      exact empty
    · cases isFingerprint
  have created : (createdAt.getD now).Zoned := by
    cases createdAt with
    | none => exact zoned
    | some t => exact queueDatetime_zoned laws isCreated
  have expires : expiresAt.Zoned := by
    cases expiry with
    | none => cases hasExpiry
    | some t =>
        cases hasExpiry
        exact queueDatetime_zoned laws isExpiry
  refine ⟨⟨?_, created, expires, fun t same => (nomatch same), fun t same => (nomatch same)⟩, rfl⟩
  simp only [List.forall_mem_cons]
  exact ⟨(queueText_eq_ok.mp hasId).2, (queueText_eq_ok.mp hasSession).2, target,
    (queueText_eq_ok.mp hasProvider).2, (queueText_eq_ok.mp hasCapability).2, fingerprintPresent,
    (queueText_eq_ok.mp hasDecision).2, redactOperatorText_ne (queueText_eq_ok.mp hasMessage).2,
    fun _ member => by cases member⟩

/-- **What is added names its target**: the record of a result that is not queued yet has a target
that is not the empty text. -/
def AddsTarget (lib : AuditLibrary) (file : QueueFile) : QueueOperation → Prop
  | .enqueue result now => ∀ record records, fromMcpResult lib result now = .ok record →
      file.loadRecords lib = .ok records → findRecord records record.id = none →
      record.targetId ≠ ""
  | _ => True

/-- **An enqueued result** adds a pending record, or none where it is queued. -/
theorem QueueHolds.enqueueMcpResult (laws : IsoLaws lib) {file : QueueFile}
    {records : List LocalApprovalRecord} (holds : QueueHolds lib file records) {result : Record}
    {now : Datetime} (zoned : now.Zoned) (adds : AddsTarget lib file (.enqueue result now)) :
    ∃ later, QueueHolds lib (AgenticKVM.enqueueMcpResult lib file result now).1 later
      ∧ Advances records later := by
  unfold AgenticKVM.enqueueMcpResult
  cases made : fromMcpResult lib result now with
  | error e => exact ⟨records, holds, .refl records⟩
  | ok record =>
      rw [except_ok_bind, holds.loaded, except_ok_bind]
      cases found : findRecord records record.id with
      | some existing => exact ⟨records, holds, .refl records⟩
      | none =>
          obtain ⟨kept, pending⟩ := fromMcpResult_kept laws zoned made
            (adds record records made holds.loaded found)
          have new : record.id ∉ records.map LocalApprovalRecord.id := by
            intro old
            obtain ⟨other, member, same⟩ := List.mem_map.mp old
            exact absurd same (by simpa using List.find?_eq_none.mp found other member)
          have each {p : LocalApprovalRecord → Prop} (here : p record)
              (old : ∀ other ∈ records, p other) : ∀ other ∈ storeRecord records record, p other := by
            rw [storeRecord, if_neg new]
            intro other member
            rcases List.mem_append.mp member with inside | last
            · exact old other inside
            · rw [List.mem_singleton.mp last]
              exact here
          have resumable : record.Resumable :=
            ⟨fun approved => absurd (pending.symm.trans approved) nofun,
              fun approved => absurd (pending.symm.trans approved) nofun⟩
          have advances : Advances records (storeRecord records record) := by
            refine ⟨fun other member => ⟨other, ?_, .refl other⟩, ?_⟩
            · rw [storeRecord, if_neg new]
              exact List.mem_append_left _ member
            · exact each (.inr pending) fun other member => .inl ⟨other, member, .refl other⟩
          have distinct : ((storeRecord records record).map LocalApprovalRecord.id).Nodup := by
            rw [storeRecord, if_neg new, List.map_append, List.map_singleton, ← List.concat_eq_append]
            exact List.Nodup.concat new holds.distinct
          obtain ⟨saved, later, isSaved, holds', advances'⟩ :=
            advances.saved laws (each kept holds.kept) distinct (each resumable holds.resumable)
          dsimp only
          rw [isSaved]
          exact ⟨later, holds', advances'⟩

/-- The clock of an operation tells times with a zone. -/
def QueueOperation.Zoned : QueueOperation → Prop
  | .enqueue _ now => now.Zoned
  | .approve _ _ _ _ now _ _ => now.Zoned
  | .deny _ _ _ now _ _ => now.Zoned
  | .expire _ _ _ now _ _ => now.Zoned
  | .consume _ clock => ∀ i, (clock i).Zoned

/-- **One operation of the queue.** -/
theorem QueueHolds.step (laws : IsoLaws lib) {file : QueueFile}
    {records : List LocalApprovalRecord} (holds : QueueHolds lib file records)
    {operation : QueueOperation} (zoned : operation.Zoned) (adds : AddsTarget lib file operation) :
    ∃ later, QueueHolds lib (queueStep lib file operation).1 later ∧ Advances records later := by
  cases operation with
  | enqueue result now => exact holds.enqueueMcpResult laws zoned adds
  | approve id operatorId scope reason now uuid audit =>
      exact holds.decideRecord laws id (decides_approve laws operatorId scope reason zoned uuid) audit
  | deny id operatorId reason now uuid audit =>
      exact holds.decideRecord laws id (decides_deny laws operatorId reason zoned uuid) audit
  | expire id operatorId reason now uuid audit =>
      exact holds.decideRecord laws id (decides_expire laws operatorId reason zoned uuid) audit
  | consume action clock => exact holds.markMatchingConsumed laws action zoned

/-- A status that no operation leaves. -/
def LocalApprovalStatus.Final (status : LocalApprovalStatus) : Prop :=
  status = .denied ∨ status = .expired ∨ status = .consumed

/-- A final status stays. -/
theorem LocalApprovalRecord.Moves.final {record later : LocalApprovalRecord} (moves : Moves record later)
    (final : record.status.Final) : later.status = record.status := by
  have notPending : record.status ≠ .pending := by
    rintro pending
    rw [pending] at final
    rcases final with same | same | same <;> cases same
  have notApproved : record.status ≠ .approved := by
    rintro approved
    rw [approved] at final
    rcases final with same | same | same <;> cases same
  cases moves.status with
  | stays status _ => exact status
  | approved pending _ => exact absurd pending notPending
  | denied pending _ => exact absurd pending notPending
  | expired live _ => exact (live.elim notPending notApproved).elim
  | consumed approved _ _ => exact absurd approved notApproved

/-- What any number of operations make of a record. -/
structure Evolved (record later : LocalApprovalRecord) : Prop where
  binding : SameBinding record later
  path : Relation.ReflTransGen Moves record later
  final : record.status.Final → later.status = record.status

theorem Evolved.refl (record : LocalApprovalRecord) : Evolved record record :=
  ⟨(Moves.refl record).binding, .refl, fun _ => rfl⟩

theorem Evolved.head {record next later : LocalApprovalRecord} (moves : Moves record next)
    (evolved : Evolved next later) : Evolved record later := by
  refine ⟨moves.binding.trans evolved.binding, .head moves evolved.path, fun final => ?_⟩
  have still := moves.final final
  exact (evolved.final (still ▸ final)).trans still

/-- **What a run makes of the records**: each is still there and has evolved, and what is new has
evolved from a pending record. -/
structure Evolves (records later : List LocalApprovalRecord) : Prop where
  each : ∀ record ∈ records, ∃ next ∈ later, Evolved record next
  new : ∀ next ∈ later, (∃ record ∈ records, Evolved record next)
    ∨ ∃ added : LocalApprovalRecord, added.status = .pending ∧ Evolved added next

/-- **Any operations of the queue.** -/
theorem QueueHolds.run (laws : IsoLaws lib) {file : QueueFile}
    {records : List LocalApprovalRecord} (holds : QueueHolds lib file records)
    {operations : List QueueOperation} (zoned : ∀ operation ∈ operations, operation.Zoned)
    (meet : Lib.StepsMeet (queueStep lib) (AddsTarget lib) file operations) :
    ∃ later, QueueHolds lib (Lib.final (queueStep lib) file operations) later
      ∧ Evolves records later := by
  induction operations generalizing file records with
  | nil =>
      exact ⟨records, holds, fun record member => ⟨record, member, .refl record⟩,
        fun next member => .inl ⟨next, member, .refl next⟩⟩
  | cons operation rest ih =>
      rw [List.forall_mem_cons] at zoned
      obtain ⟨between, holds', advances⟩ := holds.step laws zoned.1 meet.1
      obtain ⟨later, holds'', evolves⟩ := ih holds' zoned.2 meet.2
      refine ⟨later, holds'', ?_, ?_⟩
      · intro record member
        obtain ⟨next, inside, moves⟩ := advances.each record member
        obtain ⟨last, isLast, evolved⟩ := evolves.each next inside
        exact ⟨last, isLast, .head moves evolved⟩
      · intro last member
        rcases evolves.new last member with ⟨next, inside, evolved⟩ | added
        · rcases advances.new next inside with ⟨record, isRecord, moves⟩ | pending
          · exact .inl ⟨record, isRecord, .head moves evolved⟩
          · exact .inr ⟨next, pending, evolved⟩
        · exact .inr added

/-- The parts of a run. -/
theorem stepsMeet_append {σ ι ο : Type} {step : σ → ι → σ × ο} {cond : σ → ι → Prop} {s : σ}
    {first second : List ι} (meet : Lib.StepsMeet step cond s (first ++ second)) :
    Lib.StepsMeet step cond s first
      ∧ Lib.StepsMeet step cond (Lib.final step s first) second
      ∧ Lib.final step s (first ++ second)
        = Lib.final step (Lib.final step s first) second := by
  induction first generalizing s with
  | nil => exact ⟨trivial, meet, rfl⟩
  | cons input rest ih =>
      obtain ⟨here, later⟩ := meet
      obtain ⟨before, after, same⟩ := ih later
      exact ⟨⟨here, before⟩, after, same⟩

/-- **The approval queue over runs**: after any operations the queue is loaded, each record with an
identifier of its own; one operation more moves each record along its statuses or leaves it, and adds
pending ones only; after any further operations each record is there with its binding, in a status it
was moved to, a final one for good; and no approved record is blocked. This holds of every run in
which what is added names its target. -/
theorem queue_run (lib : AuditLibrary) (laws : IsoLaws lib)
    {before more : List QueueOperation} {operation : QueueOperation}
    (zoned : ∀ asked ∈ before ++ operation :: more, asked.Zoned)
    (meet : Lib.StepsMeet (queueStep lib) (AddsTarget lib) .missing
      (before ++ operation :: more)) :
    ∃ records next later,
      (Lib.final (queueStep lib) .missing before).loadRecords lib = .ok records
      ∧ (Lib.final (queueStep lib) .missing (before ++ [operation])).loadRecords lib = .ok next
      ∧ (Lib.final (queueStep lib) .missing (before ++ operation :: more)).loadRecords lib
        = .ok later
      ∧ Advances records next ∧ Evolves next later
      ∧ (later.map LocalApprovalRecord.id).Nodup
      ∧ ∀ record ∈ later, record.status = .approved →
        record.capabilityId ∉ approvalResumptionBlockedCapabilities := by
  obtain ⟨meetBefore, meetAfter, reached⟩ := stepsMeet_append meet
  have zonedBefore (asked : QueueOperation) (member : asked ∈ before) : asked.Zoned :=
    zoned asked (List.mem_append_left _ member)
  have zonedAfter : ∀ asked ∈ operation :: more, asked.Zoned :=
    fun asked member => zoned asked (List.mem_append_right _ member)
  rw [List.forall_mem_cons] at zonedAfter
  have empty : QueueHolds lib .missing [] :=
    ⟨rfl, fun _ member => (nomatch member), List.nodup_nil, fun _ member => (nomatch member)⟩
  obtain ⟨records, holds, -⟩ := empty.run laws zonedBefore meetBefore
  obtain ⟨next, holds', advances⟩ := holds.step laws zonedAfter.1 meetAfter.1
  obtain ⟨later, holds'', evolves⟩ := holds'.run laws zonedAfter.2 meetAfter.2
  have one : Lib.final (queueStep lib) .missing (before ++ [operation])
      = (queueStep lib (Lib.final (queueStep lib) .missing before) operation).1 := by
    have all : Lib.StepsMeet (queueStep lib) (fun _ _ => True) .missing (before ++ [operation]) :=
      Lib.StepsMeet.of_forall (fun _ _ => trivial) _ _
    exact (stepsMeet_append all).2.2
  refine ⟨records, next, later, holds.loaded, ?_, ?_, advances, evolves, holds''.distinct,
    fun record member => (holds''.resumable record member).capability⟩
  · rw [one]
    exact holds'.loaded
  · rw [reached]
    exact holds''.loaded

end Runs

namespace Deployment

/-- The text of midnight. -/
def midnightText : String := "2026-01-01T00:00:00+00:00"

/-- A text for each time with a zone, with as many characters as microseconds. -/
def tally (t : Datetime) : String :=
  String.ofList (List.replicate t.wall.toNat 'x' ++ match t.utcoffset with
    | some offset =>
        if 0 ≤ offset then '+' :: List.replicate offset.toNat 'x'
        else '-' :: List.replicate (-offset).toNat 'x'
    | none => [])

/-- The time with such a text, where it is valid. -/
def readTally (text : String) : Option Datetime :=
  let wall := (text.toList.takeWhile (· = 'x')).length
  match text.toList.dropWhile (· = 'x') with
  | sign :: rest =>
      if (wall : Int) ≤ Datetime.maxWall ∧ rest.length < 86400000000 ∧ rest.all (· = 'x') then
        if sign = '+' then some ⟨wall, some rest.length⟩
        else if sign = '-' then some ⟨wall, some (-rest.length)⟩
        else none
      else none
  | [] => none

/-- A library whose texts of times are read as the times: midnight and the expiry of the deployment's
grants have their ISO texts, any other time its tally. -/
def isoLibrary : AuditLibrary :=
  { auditLibrary with
    isoformat := fun t =>
      if t = clockAt 0 then midnightText else if t = clockAt 900 then expiryText else tally t
    fromisoformat := fun text =>
      if text = midnightText then some (clockAt 0)
      else if text = expiryText then some (clockAt 900)
      else readTally text }

/-- The marks of a tally are no digits. -/
theorem tally_ne {t : Datetime} {text : String} (digit : '2' ∈ text.toList) : tally t ≠ text := by
  rintro rfl
  rw [tally, String.toList_ofList, List.mem_append] at digit
  have marks (n : Nat) : '2' ∉ List.replicate n 'x' :=
    fun member => absurd (List.eq_of_mem_replicate member) (by decide)
  rcases digit with wall | rest
  · exact marks _ wall
  · split at rest
    · split_ifs at rest
      all_goals
        rcases List.mem_cons.mp rest with same | member
        · exact absurd same (by decide)
        · exact marks _ member
    · cases rest

theorem readTally_tally {t : Datetime} (zoned : t.Zoned) : readTally (tally t) = some t := by
  obtain ⟨wall, offset⟩ := t
  obtain ⟨⟨low, high, bounds⟩, aware⟩ := zoned
  cases offset with
  | none => cases aware
  | some offset =>
      obtain ⟨below, above⟩ := bounds offset rfl
      dsimp only at low high
      have all (n : Nat) : ∀ c ∈ List.replicate n 'x', decide (c = 'x') = true :=
        fun c member => decide_eq_true (List.eq_of_mem_replicate member)
      have take (sign : Char) (notMark : sign ≠ 'x') (n : Nat) (rest : List Char) :
          (List.replicate n 'x' ++ sign :: rest).takeWhile (· = 'x') = List.replicate n 'x'
            ∧ (List.replicate n 'x' ++ sign :: rest).dropWhile (· = 'x') = sign :: rest := by
        rw [List.takeWhile_append_of_pos (all n), List.dropWhile_append_of_pos (all n)]
        simp [notMark]
      by_cases positive : 0 ≤ offset
      · obtain ⟨taken, dropped⟩ := take '+' (by decide) wall.toNat (List.replicate offset.toNat 'x')
        simp only [readTally, tally, String.toList_ofList, if_pos positive, taken, dropped,
          List.length_replicate]
        rw [if_pos ⟨by omega, by omega, List.all_eq_true.mpr (all _)⟩, if_pos trivial,
          Int.toNat_of_nonneg low, Int.toNat_of_nonneg positive]
      · obtain ⟨taken, dropped⟩ := take '-' (by decide) wall.toNat
          (List.replicate (-offset).toNat 'x')
        simp only [readTally, tally, String.toList_ofList, if_neg positive, taken, dropped,
          List.length_replicate]
        rw [if_pos ⟨by omega, by omega, List.all_eq_true.mpr (all _)⟩, if_neg (by decide),
          if_pos trivial, Int.toNat_of_nonneg low, Int.toNat_of_nonneg (by omega), neg_neg]

theorem isoLibrary_laws : IsoLaws isoLibrary where
  inverts := by
    intro t zoned
    simp only [isoLibrary]
    by_cases midnight : t = clockAt 0
    · rw [if_pos midnight, if_pos rfl, midnight]
    · by_cases expiry : t = clockAt 900
      · rw [if_neg midnight, if_pos expiry, if_neg (by decide), if_pos rfl, expiry]
      · rw [if_neg midnight, if_neg expiry, if_neg (tally_ne (by decide)),
          if_neg (tally_ne (by decide)), readTally_tally zoned]
  valid := by
    intro text t read
    simp only [isoLibrary] at read
    split_ifs at read
    · cases read
      exact ⟨by decide, by decide, fun offset same => by cases same; decide⟩
    · cases read
      exact ⟨by decide, by decide, fun offset same => by cases same; decide⟩
    · unfold readTally at read
      dsimp only at read
      split at read
      · split_ifs at read with bounds
        all_goals
          cases read
          refine ⟨Int.natCast_nonneg _, bounds.1, fun offset same => ?_⟩
          cases same
          have short := bounds.2.1
          omega
      · cases read
  empty := by decide

/-- A result that asks for an approval on a target. -/
def approvalResult (target : String) : Record :=
  [("status", .str "approval_required"),
    ("data", .obj
      [("approval_request", .obj
        [("id", .str "approval-1"), ("session_id", .str "session-1"), ("provider_id", .str "mock"),
          ("capability", .obj [("id", .str "power.graceful_restart")]),
          ("target_scope", .obj [("targets", .list [.str target])]),
          ("created_at", .str midnightText), ("expires_at", .str expiryText),
          ("policy_decision", .str "ask_each_time"), ("operator_message", .str "Restart vm-1?"),
          ("material_risks", .list [.str "The machine restarts."])]),
        ("params_fingerprint", .str emptyFingerprint), ("params_preview", .obj [])])]

/-- The request is queued, approved and used. -/
def queueRun (target : String) : List QueueOperation :=
  [.enqueue (approvalResult target) (clockAt 0),
    .approve "approval-1" "operator-1" .oneTime none (clockAt 0) "1" (.ok ()),
    .consume ⟨"power.graceful_restart", "session-1", target, "mock", emptyFingerprint⟩
      fun _ => clockAt 0]

theorem clockAt_zoned : (clockAt 0).Zoned :=
  ⟨⟨by decide, by decide, fun offset same => by cases same; decide⟩, rfl⟩

theorem queueRun_zoned (target : String) : ∀ operation ∈ queueRun target, operation.Zoned := by
  simp only [queueRun, List.forall_mem_cons]
  exact ⟨clockAt_zoned, clockAt_zoned, fun _ => clockAt_zoned, fun _ member => (nomatch member)⟩

end Deployment

open Deployment in
/-- A request whose first target is the empty text is saved, and lost: the queue is never loaded
again. -/
theorem not_queue_run :
    ¬ ∀ (result : Record) (now : Datetime) (record : LocalApprovalRecord), now.Zoned →
      (queueStep isoLibrary .missing (.enqueue result now)).2 = .ok (some record) →
      ∃ records, (queueStep isoLibrary .missing (.enqueue result now)).1.loadRecords isoLibrary
        = .ok records ∧ ∃ kept ∈ records, kept.id = record.id := by
  intro keeps
  obtain ⟨records, loaded, -⟩ := keeps (approvalResult "") (clockAt 0) _ clockAt_zoned rfl
  have refused : (queueStep isoLibrary .missing
      (.enqueue (approvalResult "") (clockAt 0))).1.loadRecords isoLibrary
      = .error (.valueError "approval target_id is required") := rfl
  rw [refused] at loaded
  cases loaded

/-- The request that is queued, approved and used. -/
theorem queue_run_queueRun :
    ∃ later, (Lib.final (queueStep Deployment.isoLibrary) .missing
        (Deployment.queueRun "vm-1")).loadRecords Deployment.isoLibrary = .ok later
      ∧ (later.map LocalApprovalRecord.id).Nodup := by
  have meet : Lib.StepsMeet (queueStep Deployment.isoLibrary) (AddsTarget Deployment.isoLibrary)
      .missing (Deployment.queueRun "vm-1") := by
    refine ⟨fun record records made _ _ => ?_, trivial, trivial, trivial⟩
    cases made
    show "vm-1" ≠ ""
    decide
  obtain ⟨-, -, later, -, -, loaded, -, -, distinct, -⟩ :=
    @queue_run Deployment.isoLibrary Deployment.isoLibrary_laws [] _ _
      (Deployment.queueRun_zoned "vm-1") meet
  exact ⟨later, loaded, distinct⟩

end AgenticKVM
