import AgenticKVM.Lib.HashChain
import AgenticKVM.Lib.JsonReader
import AgenticKVM.Lib.Lines
import AgenticKVM.Lib.Runs
import AgenticKVM.Engine
import AgenticKVM.RedactionLaws

/-! # The audit log

The local JSONL log with its hash chain (`audit.py`): an event is redacted, chained to the hash of the
one before and appended as a line; the chain is verified over the lines as they are read back. -/

namespace AgenticKVM

open Lib (Json FloatToken)
open Lib.HashChain (Link links head)

/-! ## Events -/

/-- `AuditEventType.value`. -/
def AuditEventType.value : AuditEventType → String
  | .requestReceived => "request_received"
  | .capabilityResolved => "capability_resolved"
  | .capabilityUnknownDenied => "capability_unknown_denied"
  | .policyDecision => "policy_decision"
  | .approvalRequested => "approval_requested"
  | .approvalGranted => "approval_granted"
  | .approvalDenied => "approval_denied"
  | .approvalExpired => "approval_expired"
  | .approvalReused => "approval_reused"
  | .approvalVerified => "approval_verified"
  | .approvalRejected => "approval_rejected"
  | .approvalConsumed => "approval_consumed"
  | .providerExecutionStarted => "provider_execution_started"
  | .providerExecutionCompleted => "provider_execution_completed"
  | .providerExecutionFailed => "provider_execution_failed"
  | .resultReturned => "result_returned"

/-- `ActorType.value`. -/
def ActorType.value : ActorType → String
  | .agent => "agent"
  | .operator => "operator"
  | .service => "service"
  | .provider => "provider"
  | .test => "test"

/-- A mapping with strings as keys. -/
def strDict (entries : List (String × PyValue)) : PyValue :=
  .dict (entries.map fun entry => (.str entry.1, entry.2))

/-- `Actor.to_dict`. -/
def Actor.toDict (actor : Actor) : PyValue :=
  strDict [("type", .str actor.type.value), ("id", .str actor.id)]

/-- `CapabilityRef.to_dict`. -/
def CapabilityRef.toDict (capability : CapabilityRef) : PyValue :=
  strDict [("id", .str capability.id), ("family", .str capability.family),
    ("action", .str capability.action)]

/-- `ProviderRef.to_dict`. -/
def ProviderRef.toDict (provider : ProviderRef) : PyValue :=
  strDict [("id", .str provider.id), ("kind", .str provider.kind),
    ("is_real_hardware", .bool provider.isRealHardware)]

/-- `AuditEvent`: a structured audit event. The event of a request names no real hardware. -/
structure AuditEvent where
  id : String
  timestamp : Datetime
  eventType : AuditEventType
  correlationId : String
  sessionId : String
  actor : Actor
  capability : CapabilityRef
  policyDecision : PolicyDecision
  redactions : List String
  targetId : Option String
  approval : Option Params
  provider : Option ProviderRef
  request : Option Params
  result : Option Params
  materialRisks : List String
  requestNotReal : ∀ named, provider = some named → named.isRealHardware = true →
    eventType ≠ .requestReceived

theorem actor_named : "agent" ≠ "" := by decide

/-- An event that names no provider names no real hardware. -/
theorem requestNotReal_none : ∀ named : ProviderRef, none = some named →
    named.isRealHardware = true → AuditEventType.requestReceived ≠ .requestReceived :=
  fun _ absent => by cases absent

/-- A list of texts. -/
def strList (items : List String) : PyValue := .list (items.map .str)

section Payloads

variable (lib : AuditLibrary)

/-- `AuditEvent.to_dict`. -/
def AuditEvent.toDict (event : AuditEvent) : List (String × PyValue) :=
  [("id", .str event.id), ("timestamp", .str (lib.isoformat event.timestamp)),
    ("event_type", .str event.eventType.value), ("correlation_id", .str event.correlationId),
    ("session_id", .str event.sessionId), ("actor", event.actor.toDict),
    ("capability", event.capability.toDict), ("policy_decision", .str event.policyDecision.value),
    ("redactions", strList event.redactions)]
  ++ (event.targetId.toList.map fun targetId => ("target_id", .str targetId))
  ++ (event.approval.toList.map fun approval => ("approval", .dict approval))
  ++ (event.provider.toList.map fun provider => ("provider", provider.toDict))
  ++ (event.request.toList.map fun request => ("request", .dict request))
  ++ (event.result.toList.map fun result => ("result", .dict result))
  ++ (if event.materialRisks.isEmpty then []
    else [("material_risks", strList event.materialRisks)])

/-- One section of a payload redacted, with the paths of its replacements added. -/
def redactSection (state : List (String × PyValue) × List String) (name : String) :
    List (String × PyValue) × List String :=
  match state.1.lookup name with
  | some (.dict values) =>
      let (redacted, paths) := redactMapping lib values none
      (dictSet state.1 name (.dict redacted),
        state.2 ++ paths.map fun path => name ++ "." ++ path)
  | _ => state

/-- `sorted(set(items))`. -/
def sortedSet (items : List String) : List String := items.dedup.insertionSort (· ≤ ·)

/-- `_redacted_event_payload`. -/
def redactedEventPayload (event : AuditEvent) : List (String × PyValue) :=
  let (payload, redactions) :=
    ["request", "result", "approval"].foldl (redactSection lib)
      (event.toDict lib, event.redactions)
  dictSet payload "redactions" (strList (sortedSet redactions))

/-- `_hash_mapping`. -/
def hashMapping (std : Stdlib) (value : PyValue) : String :=
  std.sha256 (Json.dumps (jsonDefaultStr std value))

end Payloads

/-! ## The file -/

/-- What stands at the path of a log: nothing, bytes that are no text, or a text. -/
inductive LogFile
  | absent
  | undecodable
  | text (content : String)

namespace LogFile

/-- The characters in the file. -/
def content : LogFile → Option String
  | .absent => some ""
  | .undecodable => none
  | .text content => some content

/-- The lines of the file, with their line breaks. -/
def lines : LogFile → Except PyExc (List String)
  | .absent => .ok []
  | .undecodable => .error (.other "UnicodeDecodeError" "'utf-8' codec can't decode bytes")
  | .text content => .ok ((Lib.textLines content.toList).map String.ofList)

/-- The file ends a line: what is appended to it begins one. -/
def EndsLine (file : LogFile) : Prop := ∀ content ∈ file.content, Lib.EndsLine content.toList

/-- The file after it was opened for appending. -/
def opened : LogFile → LogFile
  | .absent => .text ""
  | file => file

/-- The file after a text was appended to it. -/
def append (file : LogFile) (more : String) : LogFile :=
  match file with
  | .absent => .text more
  | .undecodable => .undecodable
  | .text content => .text (content ++ more)

@[simp] theorem content_opened (file : LogFile) : file.opened.content = file.content := by
  cases file <;> rfl

end LogFile

/-! ## Records -/

/-- A record of the log: the entries of its object. -/
abbrev Record : Type := List (String × Json)

/-- `record.get(key)`. -/
def Record.get (record : Record) (key : String) : Json := (record.lookup key).getD .null

/-- A value is this hash, or `None` where there is none. -/
def isLink : Json → Option String → Bool
  | .null, none => true
  | .str s, some hash => s = hash
  | _, _ => false

/-- A hash, or `None` where there is none, as it is stored. -/
def linkValue : Option String → Json
  | none => .null
  | some hash => .str hash

theorem isLink_iff {value : Json} {hash : Option String} :
    isLink value hash = true ↔ value = linkValue hash := by
  cases value <;> cases hash <;> simp [isLink, linkValue]

section Chain

variable (lib : AuditLibrary)

/-- `json.loads(line)`. -/
def loadsLine (line : String) : Except PyExc Json := lib.json.loads line

/-- A line's record, of which `get` is read: nothing else than an object has it. -/
def recordOfLine (line : String) : Except PyExc Record := do
  match ← loadsLine lib line with
  | .obj entries => return entries
  | value => .error (.other "AttributeError"
      ("'" ++ (PyValue.ofJson value).typeName ++ "' object has no attribute 'get'"))

/-- The hash of a record with this previous hash and event. -/
def eventHash (std : Stdlib) (previous event : Json) : String :=
  std.sha256 (Json.dumps (.obj [("previous_hash", previous), ("event", event)]))

/-- The loop of `verify_audit_chain`. -/
def verifyLines : Option String → List String → Except PyExc Bool
  | _, [] => .ok true
  | previousHash, line :: rest => do
      let record ← recordOfLine lib line
      let expectedPrevious := record.get "previous_hash"
      if ¬ isLink expectedPrevious previousHash then return false
      let hash := eventHash lib.toStdlib expectedPrevious (record.get "event")
      if ¬ isLink (record.get "event_hash") (some hash) then return false
      verifyLines (some hash) rest

/-- `verify_audit_chain`. -/
def verifyAuditChain (file : LogFile) : Except PyExc Bool := do
  verifyLines lib none (← file.lines)

/-- The loop of `_last_event_hash`. -/
def lastHashOf : Json → List String → Except PyExc Json
  | last, [] => .ok last
  | last, line :: rest =>
      if strip line = "" then lastHashOf last rest
      else do
        let record ← recordOfLine lib line
        lastHashOf (record.get "event_hash") rest

/-- `_last_event_hash`. -/
def lastEventHash (file : LogFile) : Except PyExc Json := do
  lastHashOf lib .null (← file.lines)

/-- `AuditCheckpointError`. -/
def checkpointError (message : String) : PyExc := .other "AuditCheckpointError" message

/-- The loop of `_read_records`, which refuses what is no object. -/
def recordsOfLines (refusal : PyExc) : List String → Except PyExc (List Record)
  | [] => .ok []
  | line :: rest =>
      if strip line = "" then recordsOfLines refusal rest
      else do
        match ← loadsLine lib line with
        | .obj entries => return entries :: (← recordsOfLines refusal rest)
        | _ => .error refusal

/-- `_read_records`, as it stands in two modules that refuse with errors of their own. -/
def readRecordsOr (refusal : PyExc) (file : LogFile) : Except PyExc (List Record) := do
  recordsOfLines lib refusal (← file.lines)

/-- `_read_records` of `audit_checkpoint.py`. -/
def readRecords (file : LogFile) : Except PyExc (List Record) :=
  readRecordsOr lib (checkpointError "audit record must be an object") file

/-! ## The sink -/

/-- `LocalJSONLAuditSink`: the file at its path and the hash it goes on from. -/
structure LocalJSONLAuditSink where
  file : LogFile
  previousHash : Json

/-- `LocalJSONLAuditSink.__init__` at a file. -/
def LocalJSONLAuditSink.init (file : LogFile) : Except PyExc LocalJSONLAuditSink := do
  return ⟨file, ← lastEventHash lib file⟩

/-- What the file system does with a line: it appends it, or opening or writing raises and nothing
is appended. -/
inductive Append
  | done
  | openRaises (e : PyExc)
  | writeRaises (e : PyExc)

/-- The `unsigned_record` of an event. -/
def LocalJSONLAuditSink.unsignedRecord (sink : LocalJSONLAuditSink) (event : AuditEvent) :
    List (String × PyValue) :=
  [("previous_hash", PyValue.ofJson sink.previousHash),
    ("event", strDict (redactedEventPayload lib event))]

/-- What is hashed of an event, and written where `json.dumps` writes it. -/
def writtenEvent (event : AuditEvent) : Json :=
  jsonDefaultStr lib.toStdlib (strDict (redactedEventPayload lib event))

/-- `LocalJSONLAuditSink.emit`. -/
def LocalJSONLAuditSink.emit (sink : LocalJSONLAuditSink) (event : AuditEvent) (append : Append) :
    LocalJSONLAuditSink × Except PyExc Unit :=
  let eventHash := hashMapping lib.toStdlib (strDict (sink.unsignedRecord lib event))
  let record := strDict (sink.unsignedRecord lib event ++ [("event_hash", .str eventHash)])
  match lib.json.limit (writtenEvent lib event), append with
  -- an event beyond a limit is not even hashed
  | some e, _ => (sink, .error e)
  | none, .openRaises e => (sink, .error e)
  | none, _ =>
      -- the file is there from now on, also where the line cannot be written
      match jsonSafe record, append with
      | .error e, _ => ({ sink with file := sink.file.opened }, .error e)
      | .ok _, .writeRaises e => ({ sink with file := sink.file.opened }, .error e)
      | .ok record, _ =>
          (⟨sink.file.opened.append (Json.dumps record ++ "\n"), .str eventHash⟩, .ok ())

/-- What is done with a log: an event is emitted, or its file is opened by a new sink. -/
inductive SinkOperation
  | emit (event : AuditEvent) (append : Append)
  | reopen

/-- How an operation ends: the emit returned, the new sink is there, or one of the two raised. -/
inductive SinkOutcome
  | emitted
  | reopened
  | raised (e : PyExc)
deriving DecidableEq

/-- One operation on a log. -/
def LocalJSONLAuditSink.step (sink : LocalJSONLAuditSink) :
    SinkOperation → LocalJSONLAuditSink × SinkOutcome
  | .emit event append =>
      match sink.emit lib event append with
      | (sink, .ok ()) => (sink, .emitted)
      | (sink, .error e) => (sink, .raised e)
  | .reopen =>
      match init lib sink.file with
      | .ok reopened => (reopened, .reopened)
      | .error e => (sink, .raised e)

end Chain

end AgenticKVM
