import AgenticKVM.AuditChain
import AgenticKVM.ClearanceBinding
import AgenticKVM.Lib.JsonPrefix

/-! # Checkpoints of an audit log

A checkpoint (`audit_checkpoint.py`) keeps the number of a log's events and the last hash outside the
log. Whatever log verifies against it begins with the checkpointed history, and what a sink appends
to a checkpointed log that ends a line verifies against it: both hold of a log exactly where it ends
a line (`checkpoint_tamperEvident_iff`). -/

namespace AgenticKVM

open Lib (Json)
open Lib.HashChain (Link links head)

/-- The name of an exception's type. -/
def PyExc.typeName : PyExc → String
  | .valueError _ => "ValueError"
  | .typeError _ => "TypeError"
  | .runtimeError _ => "RuntimeError"
  | .keyError _ => "KeyError"
  | .overflowError _ => "OverflowError"
  | .other name _ => name

/-! ## The checkpoint -/

/-- What passes for an `int`: a `bool` does. -/
inductive PyInt
  | int (i : Int)
  | bool (b : Bool)
deriving DecidableEq

namespace PyInt

/-- The number. -/
def value : PyInt → Int
  | .int i => i
  | .bool b => b.toNat

/-- The value as it was given. -/
def toValue : PyInt → PyValue
  | .int i => .int i
  | .bool b => .bool b

end PyInt

/-- The fields a checkpoint is made from. -/
structure CheckpointFields where
  checkpointId : String
  auditLogId : String
  lastEventIndex : PyInt
  eventCount : PyInt
  lastEventHash : Option String
  createdAt : Datetime
  previousCheckpointHash : Option String
  metadata : Params
  checkpointHash : Option String
  redactions : List String

/-- A text or `None`. -/
def optionalStr : Option String → PyValue
  | some s => .str s
  | none => .none

section Checkpoints

variable (lib : AuditLibrary)

/-- `_unsigned_payload`. -/
def CheckpointFields.unsignedPayload (fields : CheckpointFields) : List (String × PyValue) :=
  [("checkpoint_id", .str fields.checkpointId), ("audit_log_id", .str fields.auditLogId),
    ("last_event_index", fields.lastEventIndex.toValue),
    ("event_count", fields.eventCount.toValue),
    ("last_event_hash", optionalStr fields.lastEventHash),
    ("created_at", .str (lib.isoformat fields.createdAt)),
    ("previous_checkpoint_hash", optionalStr fields.previousCheckpointHash),
    ("metadata", .dict fields.metadata), ("redactions", strList (sortedSet fields.redactions))]

/-- The hash over a checkpoint's content. -/
def CheckpointFields.contentHash (fields : CheckpointFields) : String :=
  hashMapping lib.toStdlib (strDict (fields.unsignedPayload lib))

/-- `AuditCheckpoint`: the counts agree, a hash is there exactly for a log that is not empty, and the
checkpoint's own hash is that of its content. -/
structure AuditCheckpoint extends CheckpointFields where
  idPresent : checkpointId ≠ ""
  logIdPresent : auditLogId ≠ ""
  countNonneg : 0 ≤ eventCount.value
  indexMatches : lastEventIndex.value = eventCount.value - 1
  emptyHash : eventCount.value = 0 → lastEventHash = none
  hashPresent : 0 < eventCount.value → lastEventHash ≠ none ∧ lastEventHash ≠ some ""
  hashMatches : checkpointHash = some (toCheckpointFields.contentHash lib)

/-- The fields with their metadata redacted. -/
def CheckpointFields.redactedMetadata (given : CheckpointFields) : CheckpointFields :=
  let (safeMetadata, redactions) := redactMapping lib given.metadata none
  { given with
    metadata := safeMetadata
    redactions := given.redactions ++ redactions.map fun path => "metadata." ++ path }

/-- `AuditCheckpoint.__post_init__`. -/
def AuditCheckpoint.new (given : CheckpointFields) : Except PyExc (AuditCheckpoint lib) :=
  if idPresent : given.checkpointId = "" then .error (checkpointError "checkpoint_id is required")
  else if logIdPresent : given.auditLogId = "" then
    .error (checkpointError "audit_log_id is required")
  else if countNonneg : given.eventCount.value < 0 then
    .error (checkpointError "event_count cannot be negative")
  else if indexMatches : given.lastEventIndex.value ≠ given.eventCount.value - 1 then
    .error (checkpointError "last_event_index must match event_count")
  else if emptyHash : given.eventCount.value = 0 ∧ given.lastEventHash ≠ none then
    .error (checkpointError "empty checkpoint cannot have last_event_hash")
  else if hashPresent : 0 < given.eventCount.value
      ∧ (given.lastEventHash = none ∨ given.lastEventHash = some "") then
    .error (checkpointError "non-empty checkpoint requires last_event_hash")
  else
    let fields := given.redactedMetadata lib
    let expectedHash := fields.contentHash lib
    if given.checkpointHash = none ∨ given.checkpointHash = some expectedHash then
      .ok
        { fields with
          checkpointHash := some expectedHash
          idPresent := idPresent
          logIdPresent := logIdPresent
          countNonneg := not_lt.mp countNonneg
          indexMatches := not_not.mp indexMatches
          emptyHash := fun empty => by_contra fun hash => emptyHash ⟨empty, hash⟩
          hashPresent := fun positive => not_or.mp fun absent => hashPresent ⟨positive, absent⟩
          hashMatches := rfl }
    else .error (checkpointError "checkpoint_hash does not match content")

/-- What `create_audit_checkpoint` is asked for, with the identifier and the time it takes where it
is given none. -/
structure CheckpointRequest where
  auditLogId : String
  metadata : Params
  previousCheckpointHash : Option String
  checkpointId : Option String
  now : Option Datetime
  uuid : String
  utcnow : Datetime

/-- The identifier that was given, or a new one. -/
def givenOr (given : Option String) (uuid : String) : String :=
  if given.getD "" = "" then uuid else given.getD ""

/-- `records[-1].get("event_hash") if records else None`. -/
def lastHash (records : List Record) : Json :=
  match records.getLast? with
  | some record => record.get "event_hash"
  | none => .null

/-- `create_audit_checkpoint`. -/
def createAuditCheckpoint (file : LogFile) (request : CheckpointRequest) :
    Except PyExc (AuditCheckpoint lib) := do
  let records ← readRecords lib file
  if ¬ (← verifyAuditChain lib file) then
    throw (checkpointError "cannot checkpoint malformed audit chain")
  let lastEventHash ← match lastHash records with
    | .null => Except.ok none
    | .str hash => Except.ok (some hash)
    | _ => Except.error (checkpointError "last event hash must be a string")
  AuditCheckpoint.new lib
    { checkpointId := givenOr request.checkpointId request.uuid
      auditLogId := request.auditLogId
      lastEventIndex := .int (records.length - 1)
      eventCount := .int records.length
      lastEventHash := lastEventHash
      createdAt := request.now.getD request.utcnow
      previousCheckpointHash := request.previousCheckpointHash
      metadata := request.metadata
      checkpointHash := none
      redactions := [] }

/-! ## Verification -/

/-- `AuditCheckpointVerification`. -/
structure AuditCheckpointVerification where
  ok : Bool
  reason : String
  auditLogId : String
  checkpointId : String
  eventCount : Nat
  lastEventHash : Option String
  chainVerified : Bool
deriving DecidableEq

/-- `verify_audit_chain_records`. -/
def verifyAuditChainRecords (std : Stdlib) : Option String → List Record → Bool
  | _, [] => true
  | previousHash, record :: rest =>
      let expectedPrevious := record.get "previous_hash"
      let hash := eventHash std expectedPrevious (record.get "event")
      isLink expectedPrevious previousHash
        && isLink (record.get "event_hash") (some hash)
        && verifyAuditChainRecords std (some hash) rest

/-- `_last_event_hash` of records: the last hash, where it is a text. -/
def lastRecordHash (records : List Record) : Option String :=
  match lastHash records with
  | .str hash => some hash
  | _ => none

/-- `_verification`. -/
def verification (checkpoint : AuditCheckpoint lib) (records : List Record) (ok : Bool)
    (reason : String) : AuditCheckpointVerification where
  ok := ok
  reason := reason
  auditLogId := checkpoint.auditLogId
  checkpointId := checkpoint.checkpointId
  eventCount := records.length
  lastEventHash := lastRecordHash records
  chainVerified := verifyAuditChainRecords lib.toStdlib none records

/-- The body of `verify_audit_checkpoint`, which may raise. -/
def checkedCheckpoint (file : LogFile) (checkpoint : AuditCheckpoint lib) :
    Except PyExc AuditCheckpointVerification := do
  let records ← readRecords lib file
  let chainVerified ← verifyAuditChain lib file
  if ¬ chainVerified then return verification lib checkpoint records false "audit chain failed"
  if (records.length : Int) < checkpoint.eventCount.value then
    return verification lib checkpoint records false "audit log tail truncated"
  if checkpoint.eventCount.value = 0 then
    return verification lib checkpoint records true "checkpoint verified"
  match records[checkpoint.lastEventIndex.value.toNat]? with
  | none => throw (.other "IndexError" "list index out of range")
  | some record =>
      if isLink (record.get "event_hash") checkpoint.lastEventHash then
        return verification lib checkpoint records true "checkpoint verified"
      else return verification lib checkpoint records false "checkpoint event hash mismatch"

/-- `verify_audit_checkpoint` of a checkpoint: whatever is raised fails the verification. -/
def verifyAuditCheckpoint (file : LogFile) (checkpoint : AuditCheckpoint lib) :
    AuditCheckpointVerification :=
  match checkedCheckpoint lib file checkpoint with
  | .ok result => result
  | .error e =>
      { ok := false
        reason := "checkpoint verification failed: " ++ e.typeName
        auditLogId := checkpoint.auditLogId
        checkpointId := checkpoint.checkpointId
        eventCount := 0
        lastEventHash := none
        chainVerified := false }

end Checkpoints

/-! ## What verifies -/

section Verifies

variable {lib : AuditLibrary}

theorem linkValue_inj {a b : Option String} (same : linkValue a = linkValue b) : a = b := by
  cases a <;> cases b <;> cases same <;> rfl

/-- The record at an index holds the link there. -/
theorem recordOf_at {records : List Record} {chain : List (Link String Json)}
    (hold : List.Forall₂ RecordOf records chain) {i : Nat} {record : Record}
    (found : records[i]? = some record) : ∃ link, chain[i]? = some link ∧ RecordOf record link := by
  induction hold generalizing i with
  | nil => cases found
  | cons record _ ih =>
      cases i with
      | zero =>
          cases found
          exact ⟨_, rfl, record⟩
      | succ i => exact ih found

/-- The hash in a record is the one the history up to it ends with. -/
theorem hash_at {records : List Record} {events : List Json}
    (hold : List.Forall₂ RecordOf records (links (chainHash lib.toStdlib) none events)) {i : Nat}
    {record : Record} (found : records[i]? = some record) :
    record.get "event_hash"
      = linkValue (head (chainHash lib.toStdlib) none (events.take (i + 1))) := by
  obtain ⟨link, isLink, isRecord⟩ := recordOf_at hold found
  rw [Lib.HashChain.head_of_link isLink]
  exact isRecord.hash

/-- There are as many records as events. -/
theorem records_length {records : List Record} {events : List Json}
    (hold : List.Forall₂ RecordOf records (links (chainHash lib.toStdlib) none events)) :
    records.length = events.length := by
  rw [hold.length_eq, Lib.HashChain.links_length]

/-- The last hash of the records of a history is the one the history ends with. -/
theorem lastHash_of_links {records : List Record} {events : List Json}
    (hold : List.Forall₂ RecordOf records (links (chainHash lib.toStdlib) none events)) :
    lastHash records = linkValue (head (chainHash lib.toStdlib) none events) := by
  have length := records_length hold
  rw [lastHash, List.getLast?_eq_getElem?]
  split
  · next record found =>
    have inside : records.length - 1 < records.length := (List.getElem?_eq_some_iff.mp found).1
    rw [hash_at hold found, List.take_of_length_le (by omega)]
  · next absent =>
    have empty : events.length = 0 := by
      have outside := List.getElem?_eq_none_iff.mp absent
      omega
    rw [List.length_eq_zero_iff.mp empty]
    rfl

/-- **What verifies against a checkpoint**: the logs of which the first events, as many as were
checkpointed, end with the checkpointed hash. -/
theorem verifyAuditCheckpoint_iff {file : LogFile} {c : AuditCheckpoint lib} :
    (verifyAuditCheckpoint lib file c).ok = true ↔
      ∃ events, file.Holds lib (links (chainHash lib.toStdlib) none events)
        ∧ c.eventCount.value.toNat ≤ events.length
        ∧ head (chainHash lib.toStdlib) none (events.take c.eventCount.value.toNat)
          = c.lastEventHash := by
  have count := c.countNonneg
  have index := c.indexMatches
  have result {events : List Json}
      (holds : file.Holds lib (links (chainHash lib.toStdlib) none events)) :
      (verifyAuditCheckpoint lib file c).ok = true ↔
        c.eventCount.value.toNat ≤ events.length
        ∧ head (chainHash lib.toStdlib) none (events.take c.eventCount.value.toNat)
          = c.lastEventHash := by
    obtain ⟨records, read, hold⟩ := holds.readRecords
    have length := records_length hold
    have chain : verifyAuditChain lib file = .ok true := verifyAuditChain_iff.mpr ⟨events, holds⟩
    simp only [verifyAuditCheckpoint, checkedCheckpoint, read, chain, Lib.except_ok_bind,
      not_true_eq_false, if_false, Lib.except_pure]
    by_cases short : (records.length : Int) < c.eventCount.value
    · rw [if_pos short]
      refine iff_of_false (by simp [verification]) fun ⟨enough, _⟩ => ?_
      omega
    · rw [if_neg short]
      by_cases empty : c.eventCount.value = 0
      · rw [if_pos empty]
        refine iff_of_true rfl ⟨by omega, ?_⟩
        rw [empty, c.emptyHash empty]
        rfl
      · rw [if_neg empty]
        have inside : c.lastEventIndex.value.toNat < records.length := by omega
        have next : c.lastEventIndex.value.toNat + 1 = c.eventCount.value.toNat := by omega
        have found := List.getElem?_eq_getElem inside
        have hash := hash_at hold found
        rw [next] at hash
        rw [found]
        dsimp only
        rw [hash]
        by_cases same : isLink (linkValue (head (chainHash lib.toStdlib) none
            (events.take c.eventCount.value.toNat))) c.lastEventHash = true
        · rw [if_pos same]
          exact iff_of_true rfl ⟨by omega, linkValue_inj (isLink_iff.mp same)⟩
        · rw [if_neg same]
          refine iff_of_false (by simp [verification]) fun ⟨_, agrees⟩ => same ?_
          rw [agrees]
          exact isLink_iff.mpr rfl
  constructor
  · intro ok
    have verified : verifyAuditChain lib file = .ok true := by
      rw [verifyAuditCheckpoint] at ok
      cases checked : checkedCheckpoint lib file c with
      | error e =>
          rw [checked] at ok
          cases ok
      | ok result =>
          rw [checked] at ok
          obtain ⟨records, -, checked⟩ := Lib.except_bind_eq_ok.mp checked
          obtain ⟨chainVerified, chain, checked⟩ := Lib.except_bind_eq_ok.mp checked
          cases chainVerified with
          | true => exact chain
          | false =>
              cases checked
              cases ok
    obtain ⟨events, holds⟩ := verifyAuditChain_iff.mp verified
    exact ⟨events, holds, (result holds).mp ok⟩
  · rintro ⟨events, holds, extends_⟩
    exact (result holds).mpr extends_

/-- The fields of a new checkpoint: those it is given, with the metadata redacted and the hash of the
content. -/
theorem AuditCheckpoint.new_eq_ok {given : CheckpointFields} {c : AuditCheckpoint lib}
    (made : AuditCheckpoint.new lib given = .ok c) :
    c.toCheckpointFields =
      { given.redactedMetadata lib with
        checkpointHash := some ((given.redactedMetadata lib).contentHash lib) } := by
  rw [AuditCheckpoint.new] at made
  split_ifs at made
  dsimp only at made
  split_ifs at made
  cases made
  rfl

/-- **What a checkpoint is made of**: the number of a history's events and its last hash. -/
theorem createAuditCheckpoint_eq_ok {file : LogFile} {request : CheckpointRequest}
    {c : AuditCheckpoint lib} {events : List Json}
    (holds : file.Holds lib (links (chainHash lib.toStdlib) none events))
    (created : createAuditCheckpoint lib file request = .ok c) :
    c.eventCount.value = events.length
      ∧ c.lastEventHash = head (chainHash lib.toStdlib) none events := by
  obtain ⟨records, read, hold⟩ := holds.readRecords
  have length := records_length hold
  have chain : verifyAuditChain lib file = .ok true := verifyAuditChain_iff.mpr ⟨events, holds⟩
  have hash := lastHash_of_links hold
  simp only [createAuditCheckpoint, read, chain, Lib.except_ok_bind, hash, not_true_eq_false,
    if_false] at created
  cases last : head (chainHash lib.toStdlib) none events with
  | none | some hash =>
      rw [last] at created
      have fields := AuditCheckpoint.new_eq_ok created
      have count := congrArg CheckpointFields.eventCount fields
      have lastHash := congrArg CheckpointFields.lastEventHash fields
      refine ⟨?_, lastHash⟩
      rw [count]
      exact congrArg Int.ofNat length

/-- Different pairs of a previous hash and an event have different hashes. -/
theorem chainHash_inj {std : Stdlib} (injective : Function.Injective std.sha256)
    {p p' : Option String} {e e' : Json} (same : chainHash std p e = chainHash std p' e') :
    p = p' ∧ Json.norm e = Json.norm e' := by
  have order : ¬ "previous_hash" ≤ "event" := by decide
  have normLink (hash : Option String) : Json.norm (linkValue hash) = linkValue hash := by
    cases hash <;> rfl
  have values := (Json.dumps_eq_iff _ _).mp (injective same)
  simp only [Json.norm_obj, Json.normEntries_eq_map, List.map_cons, List.map_nil,
    List.insertionSort_cons, List.insertionSort_nil, List.orderedInsert_cons,
    List.orderedInsert_nil, order, if_false, normLink, Json.obj.injEq, List.cons.injEq,
    Prod.mk.injEq, true_and, and_true] at values
  exact ⟨linkValue_inj values.2, values.1⟩

/-- A mapping is written where its values are. -/
theorem jsonSafe_strDict {entries : List (String × PyValue)}
    (values : ∀ entry ∈ entries, ∃ j, jsonSafe entry.2 = .ok j) :
    ∃ j, jsonSafe (strDict entries) = .ok j := by
  have all : ∃ js, jsonSafeEntries (entries.map fun entry => (.str entry.1, entry.2)) = .ok js := by
    induction entries with
    | nil => exact ⟨[], rfl⟩
    | cons entry rest ih =>
        rw [List.forall_mem_cons] at values
        obtain ⟨first, here⟩ := values.1
        obtain ⟨js, later⟩ := ih values.2
        refine ⟨(entry.1, first) :: js, ?_⟩
        rw [List.map_cons, jsonSafeEntries, here, later]
        rfl
  obtain ⟨js, written⟩ := all
  exact ⟨.obj js, by rw [strDict, jsonSafe, written]; rfl⟩

end Verifies

namespace Deployment

/-- Checkpoint requests. -/
def checkpointRequest : CheckpointRequest where
  auditLogId := "audit-log"
  metadata := []
  previousCheckpointHash := none
  checkpointId := some "checkpoint"
  now := none
  uuid := "uuid"
  utcnow := clockAt 0

/-- No text of the deployment has an empty hash. -/
theorem sha256_ne_empty (text : String) : library.sha256 text ≠ "" := by
  rw [sha256_eq]
  split_ifs
  · decide
  · decide
  · decide
  · decide
  · intro empty
    have length := congrArg (fun s => s.toList.length) empty
    rw [String.toList_append, List.length_append] at length
    exact absurd length (by simp)

end Deployment

end AgenticKVM
