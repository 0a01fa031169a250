import AgenticKVM.ApprovalQueue
import AgenticKVM.McpHost

/-! # The audit of queue decisions

An operator's decision on a queued approval (`approval_transport.py`) is saved first and audited
then. An event that cannot be built or is refused therefore leaves a decided record behind
(`decision_atomic_iff` says when no call does), and the type of the event is chosen by the caller,
although an approval that comes too late expires its record (`decision_event_truthful_iff`). -/

namespace AgenticKVM

open Lib (Json except_bind_eq_ok except_ok_bind except_pure)

/-! ## Decisions -/

/-- What an operator decides about a queued approval. -/
inductive QueueDecision
  | approve (operatorId : String) (scope : ApprovalGrantScope) (reason : Option String)
  | deny (operatorId : String) (reason : Option String)
  | expire (operatorId : String) (reason : Option String)

/-- The type of the event a decision is audited as. -/
def QueueDecision.eventType : QueueDecision → AuditEventType
  | approve .. => .approvalGranted
  | deny .. => .approvalDenied
  | expire .. => .approvalExpired

/-- How a write of the queue's file ends: it is written, or the write raises and leaves something. -/
inductive QueueWrite
  | whole
  | broken (left : QueueFile) (e : PyExc)

/-- What a decision leaves: the file, the events the sink recorded, and what is returned. -/
structure DecisionOutcome where
  file : QueueFile
  emitted : List SurfaceEvent
  result : Except PyExc LocalApprovalRecord

/-- An identifier that is given, or one that is there, is there. -/
theorem givenOr_ne {given : Option String} {other : String} (present : other ≠ "") :
    givenOr given other ≠ "" := by
  unfold givenOr
  split_ifs with absent
  · exact present
  · exact absent

/-- The event `_emit_decision_event` builds. -/
def decisionEvent (eventType : AuditEventType) (record : LocalApprovalRecord) :
    Except PyExc SurfaceEvent := do
  let capability ← ConfigRuntime.requireDefaultCapability record.capabilityId
  let policyDecision ← PolicyDecision.ofValue record.policyDecision
  return {
    eventType
    correlationId := "approval-transport:" ++ record.id
    sessionId := record.sessionId
    targetId := record.targetId
    actor := ⟨.operator, givenOr record.operatorId "unknown-operator", givenOr_ne (by decide)⟩
    capability := CapabilityRef.fromCapability capability
    policyDecision
    request := strEntries [("approval_request", .dict record.request)]
    result := strEntries [("status", .str record.status.value),
      ("scope", optionalStr (record.scope.map ApprovalGrantScope.value)),
      ("reason", optionalStr record.reason)]
    materialRisks := record.materialRisks }

/-- `_emit_decision_event`, with the sink of the queue, if it has one: the events it records, and
whether anything is raised. -/
def emitDecisionEvent (sink : Option (SurfaceEvent → Except PyExc Unit))
    (eventType : AuditEventType) (record : LocalApprovalRecord) :
    List SurfaceEvent × Except PyExc Unit :=
  match sink with
  | none => ([], .ok ())
  | some sink =>
      match decisionEvent eventType record with
      | .error e => ([], .error e)
      | .ok event =>
          match sink event with
          | .error e => ([], .error e)
          | .ok () => ([event], .ok ())

section Decisions

variable (lib : AuditLibrary)

/-- The record's own method of a decision. -/
def QueueDecision.decide (now : Datetime) (uuid : String) :
    QueueDecision → LocalApprovalRecord → Except PyExc LocalApprovalRecord
  | approve operatorId scope reason, record => record.approve lib operatorId scope reason now uuid
  | deny operatorId reason, record => record.deny lib operatorId reason now uuid
  | expire operatorId reason, record => record.expire lib operatorId reason now uuid

/-- What a decision comes to before the file is written: the new content, and the decided record. -/
def preparedDecision (file : QueueFile) (id : String) (decision : QueueDecision) (now : Datetime)
    (uuid : String) : Except PyExc (QueueFile × LocalApprovalRecord) := do
  let records ← file.loadRecords lib
  let record ← requireRecord records id
  let updated ← decision.decide lib now uuid record
  return (← saveRecords lib (storeRecord records updated), updated)

/-- A decision of the queue: the record is decided, the file is written, and the decision is
audited. -/
def decideAudited (sink : Option (SurfaceEvent → Except PyExc Unit)) (write : QueueWrite)
    (file : QueueFile) (id : String) (decision : QueueDecision) (now : Datetime) (uuid : String) :
    DecisionOutcome :=
  match preparedDecision lib file id decision now uuid with
  | .error e => ⟨file, [], .error e⟩
  | .ok (saved, updated) =>
      match write with
      | .broken left e => ⟨left, [], .error e⟩
      | .whole =>
          let audited := emitDecisionEvent sink decision.eventType updated
          ⟨saved, audited.1, audited.2.map fun _ => updated⟩

variable (sink : Option (SurfaceEvent → Except PyExc Unit)) (write : QueueWrite)
  (file : QueueFile) (id operatorId : String) (reason : Option String) (now : Datetime)
  (uuid : String)

/-- `LocalApprovalQueue.approve`. -/
def queueApprove (scope : ApprovalGrantScope) : DecisionOutcome :=
  decideAudited lib sink write file id (.approve operatorId scope reason) now uuid

/-- `LocalApprovalQueue.deny`. -/
def queueDeny : DecisionOutcome :=
  decideAudited lib sink write file id (.deny operatorId reason) now uuid

/-- `LocalApprovalQueue.expire`. -/
def queueExpire : DecisionOutcome :=
  decideAudited lib sink write file id (.expire operatorId reason) now uuid

/-- The operations of a queue are these decisions, where the file is written. -/
theorem decideRecord_eq (decision : QueueDecision) :
    ∃ audit, decideRecord lib file id (decision.decide lib now uuid) audit
      = ((decideAudited lib sink .whole file id decision now uuid).file,
        (decideAudited lib sink .whole file id decision now uuid).result.map some) := by
  unfold decideRecord decideAudited
  rw [show (do
      let records ← file.loadRecords lib
      let record ← requireRecord records id
      let updated ← decision.decide lib now uuid record
      return (← saveRecords lib (storeRecord records updated), updated))
    = preparedDecision lib file id decision now uuid from rfl]
  cases preparedDecision lib file id decision now uuid with
  | error e => exact ⟨.ok (), rfl⟩
  | ok prepared =>
      refine ⟨(emitDecisionEvent sink decision.eventType prepared.2).2, ?_⟩
      dsimp only
      cases (emitDecisionEvent sink decision.eventType prepared.2).2 <;> rfl

end Decisions

/-! ## What a record is read from -/

section Reading

variable {lib : AuditLibrary}

theorem LocalApprovalStatus.value_inj {status other : LocalApprovalStatus}
    (same : status.value = other.value) : status = other := by
  have read := LocalApprovalStatus.ofValue_value status
  rw [same, LocalApprovalStatus.ofValue_value] at read
  exact (Except.ok.inj read).symm

/-- A status is read from its own text. -/
theorem LocalApprovalStatus.value_of_ofValue {text : String} {status : LocalApprovalStatus}
    (read : ofValue text = .ok status) : text = status.value := by
  unfold ofValue at read
  split at read <;> cases read <;> rfl

/-- The fields of a mapping a record is read from. -/
structure LocalApprovalRecord.ReadFrom (std : Stdlib) (values : Record)
    (record : LocalApprovalRecord) : Prop where
  id : values.get "id" = .str record.id
  status : values.get "status" = .str record.status.value
  expiresAt : requiredDatetime std values "expires_at" = .ok record.expiresAt
  sessionId : values.get "session_id" = .str record.sessionId
  targetId : values.get "target_id" = .str record.targetId
  providerId : values.get "provider_id" = .str record.providerId
  capabilityId : values.get "capability_id" = .str record.capabilityId
  paramsFingerprint : values.get "params_fingerprint" = .str record.paramsFingerprint
  policyDecision : values.get "policy_decision" = .str record.policyDecision
  scope : scopeOf std (values.get "scope") = .ok record.scope
  operatorId : optionalQueueText (values.get "operator_id") = .ok record.operatorId
  responseId : optionalQueueText (values.get "response_id") = .ok record.responseId

/-- **What is read is in the mapping**, whatever the texts of times are. -/
theorem LocalApprovalRecord.readFrom_of_fromDict {values : Record} {record : LocalApprovalRecord}
    (got : fromDict lib values = .ok record) : ReadFrom lib.toStdlib values record := by
  obtain ⟨id, hasId, got⟩ := except_bind_eq_ok.mp got
  obtain ⟨statusText, hasStatus, got⟩ := except_bind_eq_ok.mp got
  obtain ⟨status, isStatus, got⟩ := except_bind_eq_ok.mp got
  obtain ⟨createdAt, -, got⟩ := except_bind_eq_ok.mp got
  obtain ⟨expiresAt, hasExpiry, got⟩ := except_bind_eq_ok.mp got
  obtain ⟨sessionId, hasSession, got⟩ := except_bind_eq_ok.mp got
  obtain ⟨targetId, hasTarget, got⟩ := except_bind_eq_ok.mp got
  obtain ⟨providerId, hasProvider, got⟩ := except_bind_eq_ok.mp got
  obtain ⟨capabilityId, hasCapability, got⟩ := except_bind_eq_ok.mp got
  obtain ⟨paramsFingerprint, hasFingerprint, got⟩ := except_bind_eq_ok.mp got
  obtain ⟨policyDecision, hasDecision, got⟩ := except_bind_eq_ok.mp got
  obtain ⟨operatorMessage, -, got⟩ := except_bind_eq_ok.mp got
  obtain ⟨materialRisks, -, got⟩ := except_bind_eq_ok.mp got
  obtain ⟨request, -, got⟩ := except_bind_eq_ok.mp got
  obtain ⟨scope, hasScope, got⟩ := except_bind_eq_ok.mp got
  obtain ⟨operatorId, hasOperator, got⟩ := except_bind_eq_ok.mp got
  obtain ⟨responseId, hasResponse, got⟩ := except_bind_eq_ok.mp got
  obtain ⟨reason, -, got⟩ := except_bind_eq_ok.mp got
  obtain ⟨decidedAt, -, got⟩ := except_bind_eq_ok.mp got
  obtain ⟨consumedAt, -, got⟩ := except_bind_eq_ok.mp got
  obtain ⟨redactions, -, got⟩ := except_bind_eq_ok.mp got
  cases got
  refine ⟨(queueText_eq_ok.mp hasId).1, ?_, hasExpiry, (queueText_eq_ok.mp hasSession).1,
    (queueText_eq_ok.mp hasTarget).1, (queueText_eq_ok.mp hasProvider).1,
    (queueText_eq_ok.mp hasCapability).1, (queueText_eq_ok.mp hasFingerprint).1,
    (queueText_eq_ok.mp hasDecision).1, hasScope, hasOperator, hasResponse⟩
  rw [(queueText_eq_ok.mp hasStatus).1, LocalApprovalStatus.value_of_ofValue isStatus]
  rfl

/-- What a decision writes over a record is what is read of it. -/
theorem LocalApprovalRecord.readFrom_changed {record later : LocalApprovalRecord}
    {changes : Record} (got : record.changed lib changes = .ok later) :
    ReadFrom lib.toStdlib (changes ++ record.toDict lib) later :=
  readFrom_of_fromDict got

/-- A text that is read under a key is the one there. -/
theorem LocalApprovalRecord.text_eq {values : Record} {key text other : String}
    (read : values.get key = .str text) (is : values.get key = .str other) : text = other :=
  Json.str.inj (read.symm.trans is)

/-- Each record that is loaded was loaded before, or is that of an item. -/
theorem recordsOfItems_mem {items : List Json} {before records : List LocalApprovalRecord}
    (got : recordsOfItems lib before items = .ok records) {record : LocalApprovalRecord}
    (member : record ∈ records) : record ∈ before ∨ ∃ values, .obj values ∈ items
      ∧ LocalApprovalRecord.fromDict lib values = .ok record := by
  induction items generalizing before with
  | nil =>
      cases got
      exact .inl member
  | cons item rest ih =>
      obtain ⟨first, read, got⟩ := except_bind_eq_ok.mp got
      rcases ih got with stored | ⟨values, inside, made⟩
      · have either : record ∈ before ∨ record = first := by
          unfold storeRecord at stored
          split_ifs at stored
          · obtain ⟨other, old, same⟩ := List.mem_map.mp stored
            split_ifs at same
            exacts [.inr same.symm, .inl (same ▸ old)]
          · rcases List.mem_append.mp stored with old | new
            exacts [.inl old, .inr (List.mem_singleton.mp new)]
        rcases either with old | rfl
        · exact .inl old
        · cases item with
          | obj values => exact .inr ⟨values, List.mem_cons_self, read⟩
          | _ => cases read
      · exact .inr ⟨values, List.mem_cons_of_mem _ inside, made⟩

/-- Each record of a loaded file is that of an item of its document. -/
theorem loadRecords_mem {file : QueueFile} {records : List LocalApprovalRecord}
    (loaded : file.loadRecords lib = .ok records) {record : LocalApprovalRecord}
    (member : record ∈ records) :
    ∃ payload items values, file = .document payload ∧ queueItems payload = .ok items
      ∧ .obj values ∈ items ∧ LocalApprovalRecord.fromDict lib values = .ok record := by
  cases file with
  | missing =>
      cases loaded
      cases member
  | malformed => cases loaded
  | document payload =>
      obtain ⟨items, found, got⟩ := except_bind_eq_ok.mp loaded
      rcases recordsOfItems_mem got member with none | ⟨values, inside, made⟩
      · cases none
      · exact ⟨payload, items, values, rfl, found, inside, made⟩

/-- What is saved is the records' dictionaries, in some order. -/
theorem saveRecords_eq_ok {records : List LocalApprovalRecord} {file : QueueFile}
    (saved : saveRecords lib records = .ok file) :
    ∃ payload, ∃ sorted : List LocalApprovalRecord, file = .document payload
      ∧ sorted.Perm records ∧ queueItems payload = .ok (sorted.map fun record => .obj (record.toDict lib)) := by
  obtain ⟨sorted, isSorted, same⟩ := except_bind_eq_ok.mp saved
  cases same
  unfold sortedByCreation at isSorted
  split_ifs at isSorted
  cases isSorted
  exact ⟨_, _, rfl, List.perm_insertionSort _ _, rfl⟩

/-- The document of a file has an item of an identifier and a status. -/
def QueueFile.HasStatus (file : QueueFile) (id : String) (status : LocalApprovalStatus) : Prop :=
  ∃ payload items values, file = .document payload ∧ queueItems payload = .ok items
    ∧ .obj values ∈ items ∧ Record.get values "id" = .str id
    ∧ Record.get values "status" = .str status.value

/-- **The status a record was saved with**: the one its items have, which are there. -/
def QueueFile.SavedAs (file : QueueFile) (id : String) (status : LocalApprovalStatus) : Prop :=
  ∀ other, file.HasStatus id other ↔ other = status

/-- A loaded record is there with its status. -/
theorem hasStatus_of_loaded {file : QueueFile} {records : List LocalApprovalRecord}
    (loaded : file.loadRecords lib = .ok records) {record : LocalApprovalRecord}
    (member : record ∈ records) : file.HasStatus record.id record.status := by
  obtain ⟨payload, items, values, isFile, isItems, inside, made⟩ := loadRecords_mem loaded member
  have reads := LocalApprovalRecord.readFrom_of_fromDict made
  exact ⟨payload, items, values, isFile, isItems, inside, reads.id, reads.status⟩

/-- What is saved is there with its status, and nothing else. -/
theorem hasStatus_saved {records : List LocalApprovalRecord} {file : QueueFile}
    (saved : saveRecords lib records = .ok file) {id : String} {status : LocalApprovalStatus} :
    file.HasStatus id status ↔ ∃ record ∈ records, record.id = id ∧ record.status = status := by
  obtain ⟨payload, sorted, rfl, perm, isItems⟩ := saveRecords_eq_ok saved
  constructor
  · rintro ⟨payload', items', values, same, isItems', inside, isId, isStatus⟩
    cases same
    cases isItems.symm.trans isItems'
    obtain ⟨record, member, same⟩ := List.mem_map.mp inside
    cases same
    exact ⟨record, perm.mem_iff.mp member, Json.str.inj isId,
      LocalApprovalStatus.value_inj (Json.str.inj isStatus)⟩
  · rintro ⟨record, member, rfl, rfl⟩
    exact ⟨payload, _, record.toDict lib, rfl, isItems,
      List.mem_map.mpr ⟨record, perm.mem_iff.mpr member, rfl⟩, rfl, rfl⟩

/-- Of the records that are stored, the one with the identifier of the new one is the new one. -/
theorem mem_storeRecord {records : List LocalApprovalRecord} {updated record : LocalApprovalRecord}
    (member : record ∈ storeRecord records updated) :
    record = updated ∨ record ∈ records ∧ record.id ≠ updated.id := by
  unfold storeRecord at member
  split_ifs at member with known
  · obtain ⟨other, old, same⟩ := List.mem_map.mp member
    split_ifs at same with isUpdated
    · exact .inl same.symm
    · cases same
      exact .inr ⟨old, isUpdated⟩
  · rcases List.mem_append.mp member with old | new
    · refine .inr ⟨old, fun same => known ?_⟩
      rw [← same]
      exact List.mem_map_of_mem old
    · exact .inl (List.mem_singleton.mp new)

theorem self_mem_storeRecord (records : List LocalApprovalRecord) (updated : LocalApprovalRecord) :
    updated ∈ storeRecord records updated := by
  unfold storeRecord
  split_ifs with known
  · obtain ⟨other, old, same⟩ := List.mem_map.mp known
    exact List.mem_map.mpr ⟨other, old, if_pos same⟩
  · exact List.mem_append_right _ List.mem_cons_self

end Reading

/-! ## What a decision makes of a record -/

/-- **How a decision moves a status**: an approval of a record whose time is over expires it. -/
inductive QueueDecision.Decides (now : Datetime) (record : LocalApprovalRecord) :
    QueueDecision → LocalApprovalStatus → Prop
  | approved {operatorId : String} {scope : ApprovalGrantScope} {reason : Option String}
      (pending : record.status = .pending) (early : Datetime.lt now record.expiresAt = .ok true) :
      Decides now record (.approve operatorId scope reason) .approved
  | late {operatorId : String} {scope : ApprovalGrantScope} {reason : Option String}
      (pending : record.status = .pending) (late : Datetime.lt now record.expiresAt = .ok false) :
      Decides now record (.approve operatorId scope reason) .expired
  | denied {operatorId : String} {reason : Option String} (pending : record.status = .pending) :
      Decides now record (.deny operatorId reason) .denied
  | expired {operatorId : String} {reason : Option String}
      (live : record.status = .pending ∨ record.status = .approved) :
      Decides now record (.expire operatorId reason) .expired

/-- A decision never leaves a record in its status. -/
theorem QueueDecision.Decides.ne {now : Datetime} {record : LocalApprovalRecord}
    {decision : QueueDecision} {status : LocalApprovalStatus}
    (decides : Decides now record decision status) : status ≠ record.status := by
  cases decides with
  | approved pending _ | late pending _ | denied pending => rw [pending]; decide
  | expired live =>
      rcases live with pending | approved
      · rw [pending]; decide
      · rw [approved]; decide

section Deciding

variable {lib : AuditLibrary} {record later : LocalApprovalRecord} {now : Datetime} {uuid : String}

/-- A change of the status is read, and the identifier stays. -/
theorem LocalApprovalRecord.changed_status {status : LocalApprovalStatus} {changes : Record}
    (kept : changes.lookup "id" = none)
    (got : record.changed lib (("status", .str status.value) :: changes) = .ok later) :
    later.id = record.id ∧ later.status = status := by
  have reads := readFrom_changed got
  constructor
  · refine text_eq reads.id ?_
    rw [Record.get, List.lookup_append, List.lookup_cons,
      show ("id" == "status") = false by decide]
    dsimp only
    rw [kept]
    rfl
  · exact LocalApprovalStatus.value_inj (text_eq reads.status rfl)

/-- **What a decision makes of a record.** -/
theorem QueueDecision.decide_decides {decision : QueueDecision}
    (got : decision.decide lib now uuid record = .ok later) :
    later.id = record.id ∧ Decides now record decision later.status := by
  have expires {operatorId : String} {reason : Option String}
      (got : record.expire lib operatorId reason now uuid = .ok later) :
      later.id = record.id ∧ later.status = .expired
        ∧ (record.status = .pending ∨ record.status = .approved) := by
    rw [LocalApprovalRecord.expire] at got
    split_ifs at got with live
    obtain ⟨sameId, status⟩ := LocalApprovalRecord.changed_status rfl got
    exact ⟨sameId, status, live⟩
  cases decision with
  | approve operatorId scope reason =>
      obtain ⟨_, pending, got⟩ := except_bind_eq_ok.mp got
      rw [raiseIf_eq_ok, not_not] at pending
      obtain ⟨isOver, compared, got⟩ := except_bind_eq_ok.mp got
      cases isOver with
      | true =>
          obtain ⟨sameId, status, -⟩ := expires got
          rw [status]
          exact ⟨sameId, .late pending (Datetime.ge_eq_true.mp compared)⟩
      | false =>
          obtain ⟨approved, isApproved, got⟩ := except_bind_eq_ok.mp got
          obtain ⟨grant, -, same⟩ := except_bind_eq_ok.mp got
          cases same
          obtain ⟨sameId, status⟩ := LocalApprovalRecord.changed_status rfl isApproved
          rw [status]
          exact ⟨sameId, .approved pending (Datetime.ge_eq_false.mp compared)⟩
  | deny operatorId reason =>
      obtain ⟨_, pending, got⟩ := except_bind_eq_ok.mp got
      rw [raiseIf_eq_ok, not_not] at pending
      obtain ⟨sameId, status⟩ := LocalApprovalRecord.changed_status rfl got
      rw [status]
      exact ⟨sameId, .denied pending⟩
  | expire operatorId reason =>
      obtain ⟨sameId, status, live⟩ := expires got
      rw [status]
      exact ⟨sameId, .expired live⟩

/-- What a decision comes to before the file is written. -/
theorem preparedDecision_eq_ok {file saved : QueueFile} {id : String} {decision : QueueDecision}
    {updated : LocalApprovalRecord}
    (prepared : preparedDecision lib file id decision now uuid = .ok (saved, updated)) :
    ∃ records record, file.loadRecords lib = .ok records ∧ record ∈ records ∧ record.id = id
      ∧ findRecord records id = some record ∧ decision.decide lib now uuid record = .ok updated
      ∧ saveRecords lib (storeRecord records updated) = .ok saved := by
  obtain ⟨records, loaded, prepared⟩ := except_bind_eq_ok.mp prepared
  obtain ⟨record, required, prepared⟩ := except_bind_eq_ok.mp prepared
  obtain ⟨decided, isDecided, prepared⟩ := except_bind_eq_ok.mp prepared
  obtain ⟨file', isSaved, same⟩ := except_bind_eq_ok.mp prepared
  cases same
  unfold requireRecord at required
  split at required
  · next found =>
    cases required
    obtain ⟨member, isId⟩ := findRecord_eq_some found
    exact ⟨records, record, loaded, member, isId, found, isDecided, isSaved⟩
  · cases required

/-- **A decided record is saved with its new status.** -/
theorem savedAs_prepared {file saved : QueueFile} {id : String} {decision : QueueDecision}
    {updated : LocalApprovalRecord}
    (prepared : preparedDecision lib file id decision now uuid = .ok (saved, updated)) :
    saved.SavedAs id updated.status := by
  obtain ⟨records, record, -, -, rfl, -, decided, isSaved⟩ := preparedDecision_eq_ok prepared
  obtain ⟨sameId, -⟩ := decision.decide_decides decided
  intro other
  rw [hasStatus_saved isSaved]
  constructor
  · rintro ⟨stored, member, isId, rfl⟩
    rcases mem_storeRecord member with rfl | ⟨-, different⟩
    · rfl
    · exact absurd (isId.trans sameId.symm) different
  · rintro rfl
    exact ⟨updated, self_mem_storeRecord records updated, sameId, rfl⟩

/-- A decision that is saved changes the file. -/
theorem saved_ne {file saved : QueueFile} {id : String} {decision : QueueDecision}
    {updated : LocalApprovalRecord}
    (prepared : preparedDecision lib file id decision now uuid = .ok (saved, updated)) :
    saved ≠ file := by
  rintro rfl
  obtain ⟨records, record, loaded, member, rfl, -, decided, -⟩ := preparedDecision_eq_ok prepared
  obtain ⟨-, decides⟩ := decision.decide_decides decided
  have before := hasStatus_of_loaded loaded member
  exact decides.ne ((savedAs_prepared prepared _).mp before).symm

end Deciding

/-! ## What the audit says -/

/-- The event type a decided status stands for. -/
def LocalApprovalStatus.eventType : LocalApprovalStatus → Option AuditEventType
  | approved => some .approvalGranted
  | denied => some .approvalDenied
  | expired => some .approvalExpired
  | pending | consumed => none

/-- **An event tells the truth**: its type is that of the one status the record was saved with. -/
def EventTruthful (event : SurfaceEvent) (file : QueueFile) (id : String) : Prop :=
  ∃ status, file.SavedAs id status ∧ status.eventType = some event.eventType

/-- A decision is no approval, or the time of the record it is about lies ahead. -/
def DecidedInTime (lib : AuditLibrary) (file : QueueFile) (id : String) (decision : QueueDecision)
    (now : Datetime) : Prop :=
  decision.eventType = .approvalGranted → ∀ records record, file.loadRecords lib = .ok records →
    findRecord records id = some record → Datetime.lt now record.expiresAt = .ok true

section Audit

variable {lib : AuditLibrary} {sink : Option (SurfaceEvent → Except PyExc Unit)}
  {write : QueueWrite} {file : QueueFile} {id : String} {decision : QueueDecision}
  {now : Datetime} {uuid : String}

/-- The event of a record has the type it is built with, and names the record. -/
theorem decisionEvent_eq_ok {eventType : AuditEventType} {record : LocalApprovalRecord}
    {event : SurfaceEvent} (built : decisionEvent eventType record = .ok event) :
    event.eventType = eventType ∧ event.correlationId = "approval-transport:" ++ record.id := by
  obtain ⟨capability, -, built⟩ := except_bind_eq_ok.mp built
  obtain ⟨policyDecision, -, same⟩ := except_bind_eq_ok.mp built
  cases same
  exact ⟨rfl, rfl⟩

/-- An event that is recorded is that of the decided record, which was written and is returned. -/
theorem mem_emitted {event : SurfaceEvent}
    (emitted : event ∈ (decideAudited lib sink write file id decision now uuid).emitted) :
    ∃ updated, preparedDecision lib file id decision now uuid
        = .ok ((decideAudited lib sink write file id decision now uuid).file, updated)
      ∧ decisionEvent decision.eventType updated = .ok event
      ∧ (decideAudited lib sink write file id decision now uuid).result = .ok updated := by
  unfold decideAudited at emitted ⊢
  cases prepared : preparedDecision lib file id decision now uuid with
  | error e =>
      rw [prepared] at emitted
      cases emitted
  | ok result =>
      obtain ⟨saved, updated⟩ := result
      rw [prepared] at emitted
      cases write with
      | broken left e => cases emitted
      | whole =>
          refine ⟨updated, rfl, ?_⟩
          dsimp only [emitDecisionEvent] at emitted ⊢
          cases sink with
          | none => cases emitted
          | some take =>
              dsimp only at emitted ⊢
              cases built : decisionEvent decision.eventType updated with
              | error e =>
                  rw [built] at emitted
                  cases emitted
              | ok made =>
                  rw [built] at emitted
                  dsimp only at emitted ⊢
                  cases taken : take made with
                  | error e =>
                      rw [taken] at emitted
                      cases emitted
                  | ok u =>
                      rw [taken] at emitted
                      rw [List.mem_singleton] at emitted
                      rw [emitted]
                      exact ⟨rfl, rfl⟩

/-- **The audit of a decision tells the truth exactly where an approval comes in time**: an approval
of a record whose time is over is saved as an expiry and audited as a grant. -/
theorem decision_event_truthful_iff (lib : AuditLibrary)
    {sink : Option (SurfaceEvent → Except PyExc Unit)} {write : QueueWrite} {file : QueueFile}
    {id : String} {decision : QueueDecision} {now : Datetime} {uuid : String} {event : SurfaceEvent}
    (emitted : event ∈ (decideAudited lib sink write file id decision now uuid).emitted) :
    EventTruthful event (decideAudited lib sink write file id decision now uuid).file id
      ↔ DecidedInTime lib file id decision now := by
  obtain ⟨updated, prepared, built, -⟩ := mem_emitted emitted
  have savedAs := savedAs_prepared prepared
  have truthful : EventTruthful event (decideAudited lib sink write file id decision now uuid).file id
      ↔ updated.status.eventType = some decision.eventType := by
    rw [EventTruthful, (decisionEvent_eq_ok built).1]
    constructor
    · rintro ⟨status, isStatus, same⟩
      rw [(isStatus updated.status).mp ((savedAs _).mpr rfl)]
      exact same
    · exact fun same => ⟨updated.status, savedAs, same⟩
  rw [truthful]
  obtain ⟨records, record, loaded, -, -, found, decided, -⟩ := preparedDecision_eq_ok prepared
  have inTime : DecidedInTime lib file id decision now
      ↔ (decision.eventType = .approvalGranted → Datetime.lt now record.expiresAt = .ok true) := by
    refine ⟨fun inTime granted => inTime granted records record loaded found,
      fun early granted records' record' loaded' found' => ?_⟩
    cases loaded.symm.trans loaded'
    cases found.symm.trans found'
    exact early granted
  rw [inTime]
  obtain ⟨-, decides⟩ := decision.decide_decides decided
  generalize updated.status = status at decides
  cases decides with
  | approved _ early => exact iff_of_true rfl fun _ => early
  | late _ late =>
      refine iff_of_false (fun same => by cases same) fun early => ?_
      rw [late] at early
      cases early rfl
  | denied _ => exact iff_of_true rfl fun granted => nomatch granted
  | expired _ => exact iff_of_true rfl fun granted => nomatch granted

/-! ## Whether a decision is atomic -/

/-- The audit of a decided record passes: the queue has no sink, or the record's capability is
registered, its policy decision is one, and the sink takes the event. -/
def AuditPasses (sink : Option (SurfaceEvent → Except PyExc Unit)) (eventType : AuditEventType)
    (record : LocalApprovalRecord) : Prop :=
  ∀ take ∈ sink, ∃ event, decisionEvent eventType record = .ok event ∧ take event = .ok ()

/-- Where a decision gets as far as the file, a write that breaks leaves the file as it was, and after
a write the audit passes. -/
def AuditedWhereSaved (lib : AuditLibrary) (sink : Option (SurfaceEvent → Except PyExc Unit))
    (write : QueueWrite) (file : QueueFile) (id : String) (decision : QueueDecision)
    (now : Datetime) (uuid : String) : Prop :=
  ∀ saved updated, preparedDecision lib file id decision now uuid = .ok (saved, updated) →
    match write with
    | .whole => AuditPasses sink decision.eventType updated
    | .broken left _ => left = file

/-- **A decision is atomic**: where it raises, the file is as it was, and where the queue has a sink no
record becomes approved without its event. -/
structure DecisionAtomic (sink : Option (SurfaceEvent → Except PyExc Unit)) (file : QueueFile)
    (outcome : DecisionOutcome) : Prop where
  unchanged : ∀ e, outcome.result = .error e → outcome.file = file
  audited : sink.isSome → ∀ id, outcome.file.HasStatus id .approved → ¬ file.HasStatus id .approved →
    ∃ event ∈ outcome.emitted, event.eventType = .approvalGranted
      ∧ event.correlationId = "approval-transport:" ++ id

/-- An audit that passes records the event and raises nothing; one that fails raises. -/
theorem emitDecisionEvent_passes {eventType : AuditEventType} {record : LocalApprovalRecord} :
    AuditPasses sink eventType record ↔ (emitDecisionEvent sink eventType record).2 = .ok () := by
  unfold AuditPasses emitDecisionEvent
  cases sink with
  | none => exact iff_of_true (fun _ absent => by cases absent) rfl
  | some take =>
      simp only [Option.mem_some_iff, forall_eq']
      cases built : decisionEvent eventType record with
      | error e => exact iff_of_false (fun ⟨_, same, _⟩ => by cases same) (fun same => by cases same)
      | ok event =>
          simp only [Except.ok.injEq, exists_eq_left']
          cases take event <;> simp

/-- What an audit that passes records. -/
theorem emitDecisionEvent_records {eventType : AuditEventType} {record : LocalApprovalRecord}
    (there : sink.isSome) (passes : AuditPasses sink eventType record) :
    ∃ event, (emitDecisionEvent sink eventType record).1 = [event]
      ∧ decisionEvent eventType record = .ok event := by
  obtain ⟨take, rfl⟩ := Option.isSome_iff_exists.mp there
  obtain ⟨event, built, taken⟩ := passes take rfl
  refine ⟨event, ?_, built⟩
  simp only [emitDecisionEvent, built, taken]

/-- **A decision of the queue is atomic exactly where its audit passes whenever it is saved.** The
file is written before the event is built, so that an unknown capability, a policy decision that
cannot be read and a sink that fails all leave the decided record behind. -/
theorem decision_atomic_iff (lib : AuditLibrary) (sink : Option (SurfaceEvent → Except PyExc Unit))
    (write : QueueWrite) (file : QueueFile) (id : String) (decision : QueueDecision)
    (now : Datetime) (uuid : String) :
    DecisionAtomic sink file (decideAudited lib sink write file id decision now uuid)
      ↔ AuditedWhereSaved lib sink write file id decision now uuid := by
  unfold AuditedWhereSaved decideAudited
  cases prepared : preparedDecision lib file id decision now uuid with
  | error e =>
      refine iff_of_true ⟨fun _ _ => rfl, fun _ id approved still => absurd approved still⟩ ?_
      intro saved updated same
      cases same
  | ok result =>
      obtain ⟨saved, updated⟩ := result
      simp only [Except.ok.injEq, Prod.mk.injEq]
      cases write with
      | broken left e =>
          dsimp only
          constructor
          · exact fun atomic _ _ _ => atomic.unchanged e rfl
          · intro kept
            have same : left = file := kept saved updated ⟨rfl, rfl⟩
            exact ⟨fun _ _ => same, fun _ id approved still => absurd (same ▸ approved) still⟩
      | whole =>
          dsimp only
          constructor
          · rintro atomic saved' updated' ⟨rfl, rfl⟩
            rw [emitDecisionEvent_passes]
            cases audited : (emitDecisionEvent sink decision.eventType updated).2 with
            | ok u => rfl
            | error e =>
                -- the file has been written
                have raised : (Except.error e : Except PyExc Unit).map (fun _ => updated)
                    = .error e := rfl
                exact absurd (atomic.unchanged e (by rw [audited, raised])) (saved_ne prepared)
          · intro passes
            have passes := passes saved updated ⟨rfl, rfl⟩
            refine ⟨fun e raised => ?_, fun there id approved still => ?_⟩
            · rw [emitDecisionEvent_passes.mp passes] at raised
              cases raised
            · obtain ⟨event, records, built⟩ := emitDecisionEvent_records there passes
              obtain ⟨eventType, correlation⟩ := decisionEvent_eq_ok built
              obtain ⟨loadedRecords, record, loaded, -, rfl, -, decided, isSaved⟩ :=
                preparedDecision_eq_ok prepared
              obtain ⟨sameId, decides⟩ := decision.decide_decides decided
              obtain ⟨stored, member, rfl, isApproved⟩ := (hasStatus_saved isSaved).mp approved
              rcases mem_storeRecord member with rfl | ⟨old, -⟩
              · refine ⟨event, by rw [records]; exact List.mem_cons_self, ?_, correlation⟩
                rw [eventType]
                rw [isApproved] at decides
                cases decides
                rfl
              · have before := hasStatus_of_loaded loaded old
                rw [isApproved] at before
                exact absurd before still

end Audit

namespace Deployment

/-- A queue in which one approval waits. -/
def waitingQueue : QueueFile :=
  (enqueueMcpResult isoLibrary .missing (approvalResult "vm-1") (clockAt 0)).1

/-- A sink that takes every event. -/
def takesAll : Option (SurfaceEvent → Except PyExc Unit) := some fun _ => .ok ()

/-- A sink that refuses every event. -/
def takesNone : Option (SurfaceEvent → Except PyExc Unit) :=
  some fun _ => .error (.other "OSError" "No space left on device")

/-- The approval is granted at a time. -/
def grantAt (sink : Option (SurfaceEvent → Except PyExc Unit)) (now : Datetime) : DecisionOutcome :=
  queueApprove isoLibrary sink .whole waitingQueue "approval-1" "operator-1" none now "1" .oneTime

/-- The event of a grant that comes as the approval expires. -/
theorem grantAt_late : ∃ event ∈ (grantAt takesAll (clockAt 900)).emitted,
    event.eventType = .approvalGranted := by
  have types : (grantAt takesAll (clockAt 900)).emitted.map SurfaceEvent.eventType
      = [.approvalGranted] := by decide +kernel
  obtain ⟨event, rest, emitted, isGranted, -⟩ := List.map_eq_cons_iff.mp types
  exact ⟨event, by rw [emitted]; exact List.mem_cons_self, isGranted⟩

end Deployment

open Deployment in
/-- An approval that comes as its record expires is saved as an expiry, and audited as a grant. -/
theorem not_decision_event_truthful :
    ¬ ∀ (sink : Option (SurfaceEvent → Except PyExc Unit)) (file : QueueFile) (id : String)
      (decision : QueueDecision) (now : Datetime) (uuid : String),
      ∀ event ∈ (decideAudited isoLibrary sink .whole file id decision now uuid).emitted,
        EventTruthful event (decideAudited isoLibrary sink .whole file id decision now uuid).file
          id := by
  intro truthful
  obtain ⟨event, emitted, granted⟩ := grantAt_late
  obtain ⟨updated, prepared, -, returned⟩ := mem_emitted emitted
  have status : (grantAt takesAll (clockAt 900)).result.toOption.map LocalApprovalRecord.status
      = some .expired := by decide +kernel
  have expired : updated.status = .expired := by
    have returned : (grantAt takesAll (clockAt 900)).result = .ok updated := returned
    rw [returned] at status
    exact Option.some.inj status
  obtain ⟨saved, isSaved, same⟩ := truthful _ _ _ _ _ _ event emitted
  have alone := (isSaved updated.status).mp ((savedAs_prepared prepared _).mpr rfl)
  rw [← alone, expired, granted] at same
  cases same

open Deployment in
/-- A grant in time is audited as one. -/
theorem decision_event_truthful_grant :
    ∃ event, EventTruthful event (grantAt takesAll (clockAt 0)).file "approval-1" := by
  have types : (grantAt takesAll (clockAt 0)).emitted.map SurfaceEvent.eventType
      = [.approvalGranted] := by decide +kernel
  obtain ⟨event, rest, emitted, -⟩ := List.map_eq_cons_iff.mp types
  have recorded : event ∈ (grantAt takesAll (clockAt 0)).emitted := by
    rw [emitted]
    exact List.mem_cons_self
  refine ⟨event, (decision_event_truthful_iff isoLibrary recorded).mpr fun _ records record loaded
    found => ?_⟩
  have early : (match waitingQueue.loadRecords isoLibrary with
      | .ok records => (findRecord records "approval-1").all fun record =>
          Datetime.lt (clockAt 0) record.expiresAt = .ok true
      | .error _ => false) = true := by decide +kernel
  rw [loaded] at early
  dsimp only at early
  rw [found] at early
  exact of_decide_eq_true early

open Deployment in
/-- A grant whose event the sink refuses raises, and the record is approved all the same. -/
theorem not_decision_atomic :
    ¬ ∀ (sink : Option (SurfaceEvent → Except PyExc Unit)) (file : QueueFile) (id : String)
      (decision : QueueDecision) (now : Datetime) (uuid : String),
      DecisionAtomic sink file (decideAudited isoLibrary sink .whole file id decision now uuid) := by
  intro atomic
  have raised : (grantAt takesNone (clockAt 0)).result.toOption.isNone = true := by decide +kernel
  cases prepared : preparedDecision isoLibrary waitingQueue "approval-1"
      (.approve "operator-1" .oneTime none) (clockAt 0) "1" with
  | error e =>
      have ready : (preparedDecision isoLibrary waitingQueue "approval-1"
        (.approve "operator-1" .oneTime none) (clockAt 0) "1").isOk = true := by decide +kernel
      rw [prepared] at ready
      cases ready
  | ok result =>
      obtain ⟨saved, updated⟩ := result
      have file : (grantAt takesNone (clockAt 0)).file = saved := by
        rw [grantAt, queueApprove, decideAudited, prepared]
      cases returned : (grantAt takesNone (clockAt 0)).result with
      | ok record =>
          rw [returned] at raised
          cases raised
      | error e =>
          have same := (atomic takesNone waitingQueue "approval-1"
            (.approve "operator-1" .oneTime none) (clockAt 0) "1").unchanged e returned
          exact saved_ne prepared (file.symm.trans same)

end AgenticKVM
