import AgenticKVM.AuditCheckpoint

/-! # The SQLite audit store

The second audit backend (`audit_sqlite.py`): the same redacted and chained records, one a row, with
their hashes once more in columns of their own. It is written separately from the JSONL backend:
where that one keeps the last hash in the sink, this one reads it from the last row. The two stores
agree on every sequence of events (`stores_agree`). -/

namespace AgenticKVM

open Lib (Json except_bind_eq_ok except_ok_bind except_pure)
open Lib.HashChain (Link links head lastOf)

/-! ## The table -/

/-- What a row of `audit_events` holds besides its `event_index`. Rows are listed by the index, and
neither the sink nor a verifier looks at it otherwise. -/
structure AuditRow where
  previousHash : Option String
  eventHash : String
  eventJson : String
deriving DecidableEq

/-- What stands at the path of a store: nothing, what is no audit database, or the table. -/
inductive SqliteFile
  | absent
  | unreadable (message : String)
  | table (rows : List AuditRow)

section Store

variable (lib : AuditLibrary)

/-- `sqlite3.Error`. -/
def sqliteError (message : String) : PyExc := .other "DatabaseError" message

/-- `str(exc)`. -/
def PyExc.text : PyExc → String
  | .valueError message | .typeError message | .runtimeError message | .keyError message
  | .overflowError message | .other _ message => message

/-- `SQLiteAuditSink.__init__`: the table is created where it is missing. -/
def SqliteFile.connect : SqliteFile → Except PyExc (List AuditRow)
  | .absent => .ok []
  | .unreadable message => .error (sqliteError message)
  | .table rows => .ok rows

/-- `_last_hash`: the hash of the last row. -/
def lastRowHash (rows : List AuditRow) : Option String := rows.getLast?.map AuditRow.eventHash

/-- The row of an event that goes on from a hash. -/
def auditRow (previousHash : Option String) (event : AuditEvent) : Except PyExc AuditRow :=
  match lib.json.limit (writtenEvent lib event) with
  | some e => .error e
  | none => do
      let unsignedRecord := [("previous_hash", PyValue.ofJson (linkValue previousHash)),
        ("event", strDict (redactedEventPayload lib event))]
      let eventHash := hashMapping lib.toStdlib (strDict unsignedRecord)
      let record ← jsonSafe (strDict (unsignedRecord ++ [("event_hash", .str eventHash)]))
      return ⟨previousHash, eventHash, Json.dumps record⟩

/-- What the database does with a row: it inserts it, or it raises and nothing is inserted. -/
inductive Insert
  | done
  | raises (e : PyExc)

/-- The end of `SQLiteAuditSink.emit`, with the hash it has read: the row is inserted. -/
def insertEvent (rows : List AuditRow) (previousHash : Option String) (event : AuditEvent)
    (insert : Insert) : List AuditRow × Except PyExc Unit :=
  match auditRow lib previousHash event, insert with
  | .error e, _ => (rows, .error e)
  | .ok _, .raises e => (rows, .error e)
  | .ok row, .done => (rows ++ [row], .ok ())

/-- `SQLiteAuditSink.emit`, undisturbed: the last hash is read and the row inserted. -/
def sqliteEmit (rows : List AuditRow) (event : AuditEvent) (insert : Insert) :
    List AuditRow × Except PyExc Unit :=
  insertEvent lib rows (lastRowHash rows) event insert

/-- `_sqlite_rows` of a table: the rows with their parsed records. -/
def parsedRows : List AuditRow → Except PyExc (List (AuditRow × Json))
  | [] => .ok []
  | row :: rest => do
      let record ← loadsLine lib row.eventJson
      return (row, record) :: (← parsedRows rest)

/-- `_sqlite_rows`, of a path where something is. -/
def SqliteFile.rows : SqliteFile → Except PyExc (List (AuditRow × Json))
  | .absent => .ok []
  | .unreadable message => .error (sqliteError message)
  | .table rows => parsedRows lib rows

/-- `record.get(key)` of a parsed record: nothing else than an object has it. -/
def recordGet (record : Json) (key : String) : Except PyExc Json :=
  match record with
  | .obj entries => .ok (Record.get entries key)
  | value => .error (.other "AttributeError"
      ("'" ++ (PyValue.ofJson value).typeName ++ "' object has no attribute 'get'"))

/-- `SQLiteAuditVerification`. -/
structure SQLiteAuditVerification where
  ok : Bool
  eventCount : Nat
  reason : String
deriving DecidableEq

/-- Whether a row and its record go on from a hash. -/
def goesOnFrom (previousHash : Option String) (row : AuditRow) (record : Json) :
    Except PyExc Bool :=
  if row.previousHash ≠ previousHash then .ok false
  else do return isLink (← recordGet record "previous_hash") previousHash

/-- Whether a row and its record have a hash. -/
def hasHash (hash : String) (row : AuditRow) (record : Json) : Except PyExc Bool :=
  if row.eventHash ≠ hash then .ok false
  else do return isLink (← recordGet record "event_hash") (some hash)

/-- The loop of `verify_sqlite_audit_chain`, after `index` rows. -/
def verifyRows (std : Stdlib) : Option String → Nat → List (AuditRow × Json) →
    Except PyExc SQLiteAuditVerification
  | _, index, [] => .ok ⟨true, index, ""⟩
  | previousHash, index, (row, record) :: rest => do
      if ¬ (← goesOnFrom previousHash row record) then
        return ⟨false, index, "previous hash mismatch"⟩
      let hash := eventHash std (linkValue previousHash) (← recordGet record "event")
      if ¬ (← hasHash hash row record) then return ⟨false, index, "event hash mismatch"⟩
      verifyRows std (some hash) (index + 1) rest

/-- What the handlers of the store catch: `sqlite3.Error` and `json.JSONDecodeError`. -/
def caughtByStore (e : PyExc) : Bool := e.typeName ∈ ["DatabaseError", "JSONDecodeError"]

/-- `verify_sqlite_audit_chain`: what the database or the parser raises is a failed verification. -/
def verifySqliteAuditChain (file : SqliteFile) : Except PyExc SQLiteAuditVerification :=
  match file.rows lib with
  | .error e => if caughtByStore e then .ok ⟨false, 0, e.text⟩ else .error e
  | .ok rows => verifyRows lib.toStdlib none 0 rows

/-- `SQLiteAuditError`. -/
def sqliteAuditError (message : String) : PyExc := .valueError message

/-- `rows[-1]["record"].get("event_hash") if rows else None`. -/
def lastRecordedHash (rows : List (AuditRow × Json)) : Except PyExc Json :=
  match rows.getLast? with
  | some (_, record) => recordGet record "event_hash"
  | none => .ok .null

/-- A last hash that is a text or `None`. -/
def textHash : Json → Except PyExc (Option String)
  | .null => .ok none
  | .str hash => .ok (some hash)
  | _ => .error (sqliteAuditError "last SQLite audit event hash must be a string")

/-- `create_sqlite_audit_checkpoint`. -/
def createSqliteAuditCheckpoint (file : SqliteFile) (request : CheckpointRequest) :
    Except PyExc (AuditCheckpoint lib) := do
  let verification ← verifySqliteAuditChain lib file
  if ¬ verification.ok then
    throw (sqliteAuditError
      ("cannot checkpoint malformed SQLite audit: " ++ verification.reason))
  let rows ← file.rows lib
  let lastEventHash ← textHash (← lastRecordedHash rows)
  AuditCheckpoint.new lib
    { checkpointId := givenOr request.checkpointId request.uuid
      auditLogId := request.auditLogId
      lastEventIndex := .int (rows.length - 1)
      eventCount := .int rows.length
      lastEventHash := lastEventHash
      createdAt := request.now.getD request.utcnow
      previousCheckpointHash := request.previousCheckpointHash
      metadata := request.metadata
      checkpointHash := none
      redactions := [] }

/-- `verify_sqlite_audit_chain_rows`. -/
def verifySqliteAuditChainRows (std : Stdlib) : Option String → List (AuditRow × Json) → Bool
  | _, [] => true
  | previousHash, (row, .obj record) :: rest =>
      decide (row.previousHash = previousHash)
        && isLink (Record.get record "previous_hash") previousHash
        && decide (row.eventHash
          = eventHash std (linkValue previousHash) (Record.get record "event"))
        && verifySqliteAuditChainRows std (some row.eventHash) rest
  | _, _ :: _ => false

/-- `_checkpoint_verification`. -/
def sqliteVerification (checkpoint : AuditCheckpoint lib) (rows : List (AuditRow × Json))
    (ok : Bool) (reason : String) : Except PyExc AuditCheckpointVerification := do
  let lastHash ← lastRecordedHash rows
  return {
    ok := ok
    reason := reason
    auditLogId := checkpoint.auditLogId
    checkpointId := checkpoint.checkpointId
    eventCount := rows.length
    lastEventHash := match lastHash with
      | .str hash => some hash
      | _ => none
    chainVerified := verifySqliteAuditChainRows lib.toStdlib none rows }

/-- The body of `verify_sqlite_audit_checkpoint`, which may raise. -/
def checkedSqliteCheckpoint (file : SqliteFile) (checkpoint : AuditCheckpoint lib) :
    Except PyExc AuditCheckpointVerification := do
  let verification ← verifySqliteAuditChain lib file
  let rows ← file.rows lib
  if ¬ verification.ok then sqliteVerification lib checkpoint rows false "audit chain failed"
  else if (rows.length : Int) < checkpoint.eventCount.value then
    sqliteVerification lib checkpoint rows false "audit log tail truncated"
  else if checkpoint.eventCount.value = 0 then
    sqliteVerification lib checkpoint rows true "checkpoint verified"
  else match rows[checkpoint.lastEventIndex.value.toNat]? with
  | none => throw (.other "IndexError" "list index out of range")
  | some (_, record) =>
      if isLink (← recordGet record "event_hash") checkpoint.lastEventHash then
        sqliteVerification lib checkpoint rows true "checkpoint verified"
      else sqliteVerification lib checkpoint rows false "checkpoint event hash mismatch"

/-- `verify_sqlite_audit_checkpoint` of a checkpoint: whatever is raised fails the verification. -/
def verifySqliteAuditCheckpoint (file : SqliteFile) (checkpoint : AuditCheckpoint lib) :
    AuditCheckpointVerification :=
  match checkedSqliteCheckpoint lib file checkpoint with
  | .ok result => result
  | .error e =>
      { ok := false
        reason := "checkpoint verification failed: " ++ e.typeName
        auditLogId := checkpoint.auditLogId
        checkpointId := checkpoint.checkpointId
        eventCount := 0
        lastEventHash := none
        chainVerified := false }

end Store

/-! ## Rows and links -/

section Holds

variable {lib : AuditLibrary}

/-- A row holds a link of the chain, in its columns and in its record. -/
structure RowOf (lib : AuditLibrary) (row : AuditRow) (link : Link String Json) : Prop where
  previous : row.previousHash = link.previous
  hash : row.eventHash = link.hash
  record : ∃ record, loadsLine lib row.eventJson = .ok (.obj record) ∧ RecordOf record link

/-- Rows that hold some links. -/
def RowsHold (lib : AuditLibrary) (rows : List AuditRow) (chain : List (Link String Json)) : Prop :=
  List.Forall₂ (RowOf lib) rows chain

/-- A row with its parsed record that holds a link. -/
structure ParsedOf (parsed : AuditRow × Json) (link : Link String Json) : Prop where
  previous : parsed.1.previousHash = link.previous
  hash : parsed.1.eventHash = link.hash
  record : ∃ record, parsed.2 = .obj record ∧ RecordOf record link

/-- Rows hold links exactly where their records are parsed and do. -/
theorem parsedRows_hold {rows : List AuditRow} {chain : List (Link String Json)}
    (hold : RowsHold lib rows chain) :
    ∃ parsed, parsedRows lib rows = .ok parsed ∧ List.Forall₂ ParsedOf parsed chain := by
  induction hold with
  | nil => exact ⟨[], rfl, .nil⟩
  | cons row _ ih =>
      obtain ⟨parsed, read, holds⟩ := ih
      obtain ⟨record, loaded, isRecord⟩ := row.record
      refine ⟨(_, .obj record) :: parsed, ?_, .cons ⟨row.previous, row.hash, record, rfl, isRecord⟩
        holds⟩
      rw [parsedRows, loaded, except_ok_bind, read]
      rfl

theorem rowsHold_of_parsedRows {rows : List AuditRow} {parsed : List (AuditRow × Json)}
    {chain : List (Link String Json)} (read : parsedRows lib rows = .ok parsed)
    (holds : List.Forall₂ ParsedOf parsed chain) : RowsHold lib rows chain := by
  induction rows generalizing parsed chain with
  | nil =>
      cases read
      cases holds
      exact .nil
  | cons row rest ih =>
      obtain ⟨record, loaded, read⟩ := except_bind_eq_ok.mp read
      obtain ⟨others, later, same⟩ := except_bind_eq_ok.mp read
      cases same
      cases holds with
      | cons first holds =>
          obtain ⟨entries, object, isRecord⟩ := first.record
          have object : record = .obj entries := object
          rw [object] at loaded
          exact .cons ⟨first.previous, first.hash, entries, loaded, isRecord⟩ (ih later holds)

theorem recordGet_eq_ok {record value : Json} {key : String} :
    recordGet record key = .ok value ↔
      ∃ entries, record = .obj entries ∧ Record.get entries key = value := by
  cases record <;> simp [recordGet]

/-- A row goes on from a hash in its column and in its record. -/
theorem goesOnFrom_eq_true {previous : Option String} {row : AuditRow} {record : Json} :
    goesOnFrom previous row record = .ok true ↔
      row.previousHash = previous ∧
        ∃ entries, record = .obj entries ∧
          Record.get entries "previous_hash" = linkValue previous := by
  unfold goesOnFrom
  by_cases same : row.previousHash = previous
  · rw [if_neg (not_not.mpr same), except_bind_eq_ok]
    simp only [except_pure, Except.ok.injEq, isLink_iff, recordGet_eq_ok]
    constructor
    · rintro ⟨value, ⟨entries, object, rfl⟩, linked⟩
      exact ⟨same, entries, object, linked⟩
    · rintro ⟨-, entries, object, linked⟩
      exact ⟨_, ⟨entries, object, rfl⟩, linked⟩
  · rw [if_pos same]
    simp [same]

/-- A row has a hash in its column and in its record. -/
theorem hasHash_eq_true {hash : String} {row : AuditRow} {record : Json} :
    hasHash hash row record = .ok true ↔
      row.eventHash = hash ∧
        ∃ entries, record = .obj entries ∧ Record.get entries "event_hash" = .str hash := by
  unfold hasHash
  by_cases same : row.eventHash = hash
  · rw [if_neg (not_not.mpr same), except_bind_eq_ok]
    simp only [except_pure, Except.ok.injEq, isLink_iff, recordGet_eq_ok]
    constructor
    · rintro ⟨value, ⟨entries, object, rfl⟩, linked⟩
      exact ⟨same, entries, object, linked⟩
    · rintro ⟨-, entries, object, linked⟩
      exact ⟨_, ⟨entries, object, rfl⟩, linked⟩
  · rw [if_pos same]
    simp [same]

/-- A row that holds a link is passed by the check. -/
theorem verifyRows_cons {row : AuditRow × Json} {rest : List (AuditRow × Json)}
    {previous : Option String} {event : Json} {index : Nat}
    (holds : ParsedOf row (linkOf lib.toStdlib previous event)) :
    verifyRows lib.toStdlib previous index (row :: rest)
      = verifyRows lib.toStdlib (some (chainHash lib.toStdlib previous event)) (index + 1) rest := by
  obtain ⟨row, record⟩ := row
  obtain ⟨entries, object, isRecord⟩ := holds.record
  have object : record = .obj entries := object
  subst object
  have goesOn : goesOnFrom previous row (.obj entries) = .ok true :=
    goesOnFrom_eq_true.mpr ⟨holds.previous, entries, rfl, isRecord.previous⟩
  have read : recordGet (.obj entries) "event" = .ok event :=
    recordGet_eq_ok.mpr ⟨entries, rfl, isRecord.event⟩
  have hashed : hasHash (eventHash lib.toStdlib (linkValue previous) event) row (.obj entries)
      = .ok true :=
    hasHash_eq_true.mpr ⟨holds.hash, entries, rfl, isRecord.hash⟩
  rw [verifyRows, goesOn, except_ok_bind, if_neg (not_not.mpr rfl), read, except_ok_bind]
  dsimp only
  rw [hashed, except_ok_bind, if_neg (not_not.mpr rfl)]
  rfl

/-- Rows that hold the links of events are verified, and all of them counted. -/
theorem verifyRows_of_hold {rows : List (AuditRow × Json)} {events : List Json}
    {previous : Option String} {index : Nat}
    (holds : List.Forall₂ ParsedOf rows (links (chainHash lib.toStdlib) previous events)) :
    verifyRows lib.toStdlib previous index rows = .ok ⟨true, index + events.length, ""⟩ := by
  induction events generalizing rows previous index with
  | nil =>
      cases holds
      rfl
  | cons event events ih =>
      cases holds with
      | cons first later =>
          rw [verifyRows_cons first, ih later, List.length_cons, Nat.add_right_comm, Nat.add_assoc]

/-- **What the row check accepts**: rows that hold the links some events make. -/
theorem verifyRows_iff {rows : List (AuditRow × Json)} {previous : Option String} {index : Nat} :
    (∃ result, verifyRows lib.toStdlib previous index rows = .ok result ∧ result.ok = true) ↔
      ∃ events, List.Forall₂ ParsedOf rows (links (chainHash lib.toStdlib) previous events) := by
  constructor
  · intro passed
    induction rows generalizing previous index with
    | nil => exact ⟨[], .nil⟩
    | cons row rest ih =>
        obtain ⟨row, record⟩ := row
        obtain ⟨result, verified, ok⟩ := passed
        obtain ⟨follows, goesOn, verified⟩ := except_bind_eq_ok.mp verified
        cases follows with
        | false =>
            cases verified
            cases ok
        | true =>
        rw [if_neg (not_not.mpr rfl)] at verified
        obtain ⟨event, read, verified⟩ := except_bind_eq_ok.mp verified
        obtain ⟨own, hashed, verified⟩ := except_bind_eq_ok.mp verified
        cases own with
        | false =>
            cases verified
            cases ok
        | true =>
        rw [if_neg (not_not.mpr rfl)] at verified
        obtain ⟨events, later⟩ := ih ⟨result, verified, ok⟩
        obtain ⟨column, entries, rfl, linked⟩ := goesOnFrom_eq_true.mp goesOn
        obtain ⟨hashColumn, entries', same, hashLinked⟩ := hasHash_eq_true.mp hashed
        cases same
        obtain ⟨_, same, isEvent⟩ := recordGet_eq_ok.mp read
        cases same
        exact ⟨event :: events, .cons ⟨column, hashColumn, entries, rfl, linked, isEvent,
          hashLinked⟩ later⟩
  · rintro ⟨events, holds⟩
    exact ⟨_, verifyRows_of_hold holds, rfl⟩

/-- A store is verified exactly where it is missing or its rows hold the links that some events
make. -/
theorem verifySqliteAuditChain_iff {rows : List AuditRow} :
    (∃ result, verifySqliteAuditChain lib (.table rows) = .ok result ∧ result.ok = true) ↔
      ∃ events, RowsHold lib rows (links (chainHash lib.toStdlib) none events) := by
  unfold verifySqliteAuditChain
  constructor
  · rintro ⟨result, verified, ok⟩
    cases read : (SqliteFile.table rows).rows lib with
    | error e =>
        rw [read] at verified
        dsimp only at verified
        split at verified
        · cases verified
          cases ok
        · cases verified
    | ok parsed =>
        rw [read] at verified
        obtain ⟨events, holds⟩ := verifyRows_iff.mp ⟨result, verified, ok⟩
        exact ⟨events, rowsHold_of_parsedRows read holds⟩
  · rintro ⟨events, holds⟩
    obtain ⟨parsed, read, holds⟩ := parsedRows_hold holds
    have read : (SqliteFile.table rows).rows lib = .ok parsed := read
    rw [read]
    exact verifyRows_iff.mpr ⟨events, holds⟩

/-! ## Checkpoints of a store -/

/-- There are as many rows as events. -/
theorem rows_length {rows : List (AuditRow × Json)} {events : List Json}
    (holds : List.Forall₂ ParsedOf rows (links (chainHash lib.toStdlib) none events)) :
    rows.length = events.length := by
  rw [holds.length_eq, Lib.HashChain.links_length]

/-- The hash in the record of a row is the one the history up to it ends with. -/
theorem recordGet_at {rows : List (AuditRow × Json)} {events : List Json}
    (holds : List.Forall₂ ParsedOf rows (links (chainHash lib.toStdlib) none events)) {i : Nat}
    (inside : i < events.length) :
    ∃ row record, rows[i]? = some (row, record) ∧ recordGet record "event_hash"
      = .ok (linkValue (head (chainHash lib.toStdlib) none (events.take (i + 1)))) := by
  have inRows : i < rows.length := by
    rw [rows_length holds]
    exact inside
  have inLinks : i < (links (chainHash lib.toStdlib) none events).length := by
    rw [Lib.HashChain.links_length]
    exact inside
  obtain ⟨entries, object, isRecord⟩ := (holds.get inRows inLinks).record
  refine ⟨_, _, List.getElem?_eq_getElem inRows, ?_⟩
  rw [Lib.HashChain.head_of_link (List.getElem?_eq_getElem inLinks)]
  exact recordGet_eq_ok.mpr ⟨entries, object, isRecord.hash⟩

/-- The last recorded hash of rows that hold the links of events is the one they end with. -/
theorem lastRecordedHash_of_hold {rows : List (AuditRow × Json)} {events : List Json}
    (holds : List.Forall₂ ParsedOf rows (links (chainHash lib.toStdlib) none events)) :
    lastRecordedHash rows = .ok (linkValue (head (chainHash lib.toStdlib) none events)) := by
  have length := rows_length holds
  by_cases empty : events = []
  · subst empty
    cases holds
    rfl
  · have positive := List.length_pos_iff.mpr empty
    obtain ⟨row, record, found, read⟩ :=
      recordGet_at holds (show events.length - 1 < events.length by omega)
    rw [List.take_of_length_le (by omega)] at read
    rw [lastRecordedHash, List.getLast?_eq_getElem?, length, found]
    exact read

/-- The result of checking a checkpoint against rows that hold the links of events. -/
theorem sqliteVerification_of_hold {c : AuditCheckpoint lib} {rows : List (AuditRow × Json)}
    {events : List Json} {ok : Bool} {reason : String}
    (holds : List.Forall₂ ParsedOf rows (links (chainHash lib.toStdlib) none events)) :
    ∃ result, sqliteVerification lib c rows ok reason = .ok result ∧ result.ok = ok := by
  rw [sqliteVerification, lastRecordedHash_of_hold holds, except_ok_bind]
  exact ⟨_, rfl, rfl⟩

/-- **What verifies against a checkpoint**: the stores of which the first events, as many as were
checkpointed, end with the checkpointed hash. -/
theorem verifySqliteAuditCheckpoint_of_hold {rows : List AuditRow} {c : AuditCheckpoint lib}
    {events : List Json} (holds : RowsHold lib rows (links (chainHash lib.toStdlib) none events))
    (enough : c.eventCount.value.toNat ≤ events.length)
    (same : head (chainHash lib.toStdlib) none (events.take c.eventCount.value.toNat)
      = c.lastEventHash) :
    (verifySqliteAuditCheckpoint lib (.table rows) c).ok = true := by
  have count := c.countNonneg
  have index := c.indexMatches
  obtain ⟨parsed, read, parsedHolds⟩ := parsedRows_hold holds
  have read : (SqliteFile.table rows).rows lib = .ok parsed := read
  have length := rows_length parsedHolds
  have verified : verifySqliteAuditChain lib (.table rows) = .ok ⟨true, 0 + events.length, ""⟩ := by
    rw [verifySqliteAuditChain, read]
    exact verifyRows_of_hold parsedHolds
  obtain ⟨result, checked, ok⟩ : ∃ result, checkedSqliteCheckpoint lib (.table rows) c = .ok result
      ∧ result.ok = true := by
    rw [checkedSqliteCheckpoint, verified, except_ok_bind, read, except_ok_bind,
      if_neg (not_not.mpr rfl), if_neg (by omega)]
    by_cases empty : c.eventCount.value = 0
    · rw [if_pos empty]
      exact sqliteVerification_of_hold parsedHolds
    · rw [if_neg empty]
      obtain ⟨row, record, found, hash⟩ := recordGet_at parsedHolds
        (show c.lastEventIndex.value.toNat < events.length by omega)
      have next : c.lastEventIndex.value.toNat + 1 = c.eventCount.value.toNat := by omega
      rw [next, same] at hash
      rw [found]
      dsimp only
      rw [hash, except_ok_bind, if_pos (isLink_iff.mpr rfl)]
      exact sqliteVerification_of_hold parsedHolds
  rw [verifySqliteAuditCheckpoint, checked]
  exact ok

/-- **What a checkpoint of a store is made of**: the number of its events and their last hash. -/
theorem createSqliteAuditCheckpoint_eq_ok {rows : List AuditRow} {request : CheckpointRequest}
    {c : AuditCheckpoint lib} {events : List Json}
    (holds : RowsHold lib rows (links (chainHash lib.toStdlib) none events))
    (created : createSqliteAuditCheckpoint lib (.table rows) request = .ok c) :
    c.eventCount.value = events.length
      ∧ c.lastEventHash = head (chainHash lib.toStdlib) none events := by
  obtain ⟨parsed, read, parsedHolds⟩ := parsedRows_hold holds
  have read : (SqliteFile.table rows).rows lib = .ok parsed := read
  have length := rows_length parsedHolds
  have verified : verifySqliteAuditChain lib (.table rows) = .ok ⟨true, 0 + events.length, ""⟩ := by
    rw [verifySqliteAuditChain, read]
    exact verifyRows_of_hold parsedHolds
  have isHash : textHash (linkValue (head (chainHash lib.toStdlib) none events))
      = .ok (head (chainHash lib.toStdlib) none events) := by
    cases head (chainHash lib.toStdlib) none events <;> rfl
  rw [createSqliteAuditCheckpoint, verified, except_ok_bind, if_neg (not_not.mpr rfl)] at created
  dsimp only at created
  rw [read, except_ok_bind, lastRecordedHash_of_hold parsedHolds,
    except_ok_bind, isHash, except_ok_bind] at created
  have fields := AuditCheckpoint.new_eq_ok created
  have count := congrArg CheckpointFields.eventCount fields
  have lastHash := congrArg CheckpointFields.lastEventHash fields
  refine ⟨?_, lastHash⟩
  rw [count]
  exact congrArg Int.ofNat length

end Holds

/-! ## Emits -/

section Emits

variable {lib : AuditLibrary}

/-- **The two sinks write one record**: what the JSONL sink appends is the text of the row. -/
theorem emit_done_eq {sink : LocalJSONLAuditSink} {previous : Option String}
    (goesOn : sink.previousHash = linkValue previous) (event : AuditEvent) :
    sink.emit lib event .done = match auditRow lib previous event with
      | .error e => ({ sink with
          file := if (lib.json.limit (writtenEvent lib event)).isSome then sink.file
            else sink.file.opened }, .error e)
      | .ok row => (⟨sink.file.opened.append (row.eventJson ++ "\n"), .str row.eventHash⟩, .ok ()) := by
  obtain ⟨file, previousHash⟩ := sink
  obtain rfl : previousHash = linkValue previous := goesOn
  simp only [LocalJSONLAuditSink.emit, LocalJSONLAuditSink.unsignedRecord, auditRow,
    List.cons_append, List.nil_append]
  cases lib.json.limit (writtenEvent lib event) with
  | some e => rfl
  | none =>
      generalize jsonSafe _ = written
      cases written <;> rfl

/-- **The row of a loggable event holds a link**, the one of its event in normal form. -/
theorem auditRow_holds {event : AuditEvent} {previous : Option String} {row : AuditRow}
    (loggable : event.Loggable lib) (made : auditRow lib previous event = .ok row) :
    lib.json.limit (writtenEvent lib event) = none
      ∧ Json.Readable lib.readFloat (writtenEvent lib event)
      ∧ row.eventJson
        = Json.dumps (recordValue (linkOf lib.toStdlib previous (writtenEvent lib event)))
      ∧ row.eventHash = chainHash lib.toStdlib previous (writtenEvent lib event)
      ∧ RowOf lib row (linkOf lib.toStdlib previous (Json.norm (writtenEvent lib event))) := by
  cases within : lib.json.limit (writtenEvent lib event) with
  | some e =>
      rw [auditRow, within] at made
      cases made
  | none =>
  rw [auditRow, within] at made
  obtain ⟨record, safe, made⟩ := except_bind_eq_ok.mp made
  cases made
  simp only [List.cons_append, List.nil_append, hashMapping_unsigned] at safe
  obtain ⟨rfl, readable⟩ :=
    jsonSafe_record lib.toStdlib (redactedEventPayload_storable loggable) safe
  have line := @lineOf_dumps lib previous _ within readable "" rfl
  rw [String.append_empty] at line
  obtain ⟨record, read, isRecord⟩ := line
  refine ⟨rfl, readable, rfl, hashMapping_unsigned _ _ _, rfl, ?_, record,
    (recordOfLine_eq_ok read).1, isRecord⟩
  exact (hashMapping_unsigned _ _ _).trans (chainHash_norm _ _ _).symm

/-- The last row has the hash of the last link. -/
theorem lastRowHash_of_hold {rows : List AuditRow} {chain : List (Link String Json)}
    (holds : RowsHold lib rows chain) : lastRowHash rows = lastOf none chain := by
  have hashes : rows.map AuditRow.eventHash = chain.map Link.hash := by
    induction holds with
    | nil => rfl
    | cons row _ ih => rw [List.map_cons, List.map_cons, row.hash, ih]
  rw [lastRowHash, Lib.HashChain.lastOf_none, ← List.getLast?_map, ← List.getLast?_map, hashes]

/-! ## The two stores -/

/-- A JSONL log and a SQLite table that hold the links of the same events. -/
structure SameLog (lib : AuditLibrary) (sink : LocalJSONLAuditSink) (rows : List AuditRow)
    (events : List Json) : Prop where
  onLog : sink.OnLog lib events
  rows : RowsHold lib rows (links (chainHash lib.toStdlib) none events)

/-- An emit of the JSONL sink that the file system does not disturb. -/
def jsonlStep (lib : AuditLibrary) (sink : LocalJSONLAuditSink) (event : AuditEvent) :
    LocalJSONLAuditSink × Except PyExc Unit :=
  sink.emit lib event .done

/-- An emit of the SQLite sink that the database does not disturb. -/
def sqliteStep (lib : AuditLibrary) (rows : List AuditRow) (event : AuditEvent) :
    List AuditRow × Except PyExc Unit :=
  sqliteEmit lib rows event .done

/-- **One emit keeps the stores the same**: both raise the same exception and hold what they held, or
both return and hold one event more. -/
theorem SameLog.step {sink : LocalJSONLAuditSink} {rows : List AuditRow} {events : List Json}
    (same : SameLog lib sink rows events) {event : AuditEvent}
    (loggable : event.Loggable lib) :
    (jsonlStep lib sink event).2 = (sqliteStep lib rows event).2
      ∧ ∃ more, SameLog lib (jsonlStep lib sink event).1 (sqliteStep lib rows event).1
        (events ++ more) := by
  have last : lastRowHash rows = head (chainHash lib.toStdlib) none events := by
    rw [lastRowHash_of_hold same.rows, Lib.HashChain.lastOf_links]
  rw [jsonlStep, sqliteStep, sqliteEmit, last, emit_done_eq same.onLog.goesOn]
  unfold insertEvent
  cases made : auditRow lib (head (chainHash lib.toStdlib) none events) event with
  | error e =>
      refine ⟨rfl, [], ?_⟩
      rw [List.append_nil]
      refine ⟨same.onLog.of_content ?_ rfl, same.rows⟩
      dsimp only
      split
      · rfl
      · exact LogFile.content_opened _
  | ok row =>
      obtain ⟨within, readable, json, hash, holds⟩ := auditRow_holds loggable made
      refine ⟨rfl, [Json.norm (writtenEvent lib event)], ?_, ?_⟩
      · dsimp only
        rw [json, hash]
        exact same.onLog.append within readable
      · rw [Lib.HashChain.links_append]
        exact List.rel_append same.rows (.cons holds .nil)

/-- **A run keeps the stores the same.** -/
theorem SameLog.run {sink : LocalJSONLAuditSink} {rows : List AuditRow} {events : List Json}
    (same : SameLog lib sink rows events) {emitted : List AuditEvent}
    (loggable : ∀ event ∈ emitted, event.Loggable lib) :
    Lib.outputs (jsonlStep lib) sink emitted = Lib.outputs (sqliteStep lib) rows emitted
      ∧ ∃ all, SameLog lib (Lib.final (jsonlStep lib) sink emitted)
        (Lib.final (sqliteStep lib) rows emitted) all := by
  induction emitted generalizing sink rows events with
  | nil => exact ⟨rfl, events, same⟩
  | cons event rest ih =>
      rw [List.forall_mem_cons] at loggable
      obtain ⟨outcome, more, next⟩ := same.step loggable.1
      obtain ⟨outcomes, all, reached⟩ := ih next loggable.2
      exact ⟨by rw [Lib.outputs, Lib.outputs, outcome, outcomes], all, reached⟩

/-- A record of the log and a row of the table with the same previous hash, event and hash, in the
columns as in the record of the row. -/
structure SameRecord (record : Record) (row : AuditRow × Json) : Prop where
  previousColumn : linkValue row.1.previousHash = record.get "previous_hash"
  hashColumn : .str row.1.eventHash = record.get "event_hash"
  stored : ∀ key ∈ ["previous_hash", "event", "event_hash"],
    recordGet row.2 key = .ok (record.get key)

/-- Records and rows that hold the same links are the same. -/
theorem sameRecords {records : List Record} {rows : List (AuditRow × Json)}
    {chain : List (Link String Json)} (areRecords : List.Forall₂ RecordOf records chain)
    (areRows : List.Forall₂ ParsedOf rows chain) : List.Forall₂ SameRecord records rows := by
  induction areRecords generalizing rows with
  | nil =>
      cases areRows
      exact .nil
  | cons record _ ih =>
      cases areRows with
      | cons row later =>
          obtain ⟨entries, object, inRow⟩ := row.record
          refine .cons ⟨?_, ?_, ?_⟩ (ih later)
          · rw [row.previous, record.previous]
          · rw [row.hash, record.hash]
          · rw [object]
            simp only [List.forall_mem_cons, recordGet, inRow.previous, inRow.event, inRow.hash,
              record.previous, record.event, record.hash]
            exact ⟨trivial, trivial, trivial, fun _ member => by cases member⟩

/-- **The two audit stores agree**: whatever events are emitted through a new sink of each, each
returns or raises the same exception in both, both stores are verified and hold the same records, and
a checkpoint that is created from one verifies against the other. -/
theorem stores_agree (lib : AuditLibrary) {emitted : List AuditEvent}
    (storable : ∀ event ∈ emitted, event.Storable lib.readFloat) :
    ∃ sink rows file table, LocalJSONLAuditSink.init lib .absent = .ok sink
      ∧ SqliteFile.absent.connect = .ok rows
      ∧ file = (Lib.final (jsonlStep lib) sink emitted).file
      ∧ table = .table (Lib.final (sqliteStep lib) rows emitted)
      ∧ Lib.outputs (jsonlStep lib) sink emitted = Lib.outputs (sqliteStep lib) rows emitted
      ∧ (∃ records parsed, readRecords lib file = .ok records ∧ table.rows lib = .ok parsed
        ∧ List.Forall₂ SameRecord records parsed
        ∧ verifyAuditChain lib file = .ok true
        ∧ verifySqliteAuditChain lib table = .ok ⟨true, records.length, ""⟩)
      ∧ (∀ request c, createAuditCheckpoint lib file request = .ok c →
        (verifySqliteAuditCheckpoint lib table c).ok = true)
      ∧ ∀ request c, createSqliteAuditCheckpoint lib table request = .ok c →
        (verifyAuditCheckpoint lib file c).ok = true := by
  have noEvents : LogFile.absent.Holds lib (links (chainHash lib.toStdlib) none []) :=
    ⟨[], rfl, .nil⟩
  have ends : LogFile.absent.EndsLine := by
    intro content same
    cases same
    exact fun c member => by cases member
  obtain ⟨sink, opened, -, onLog⟩ := LocalJSONLAuditSink.OnLog.init noEvents ends
  have fresh : SameLog lib sink [] [] := ⟨onLog, .nil⟩
  obtain ⟨outcomes, events, same⟩ := fresh.run fun event member => (storable event member).loggable
  refine ⟨sink, [], _, _, opened, rfl, rfl, rfl, outcomes, ?_, ?_, ?_⟩
  · obtain ⟨records, read, areRecords⟩ := same.onLog.holds.readRecords
    obtain ⟨parsed, readRows, areRows⟩ := parsedRows_hold same.rows
    refine ⟨records, parsed, read, readRows, sameRecords areRecords areRows,
      verifyAuditChain_iff.mpr ⟨events, same.onLog.holds⟩, ?_⟩
    have readRows : (SqliteFile.table _).rows lib = .ok parsed := readRows
    rw [verifySqliteAuditChain, readRows, records_length areRecords, ← Nat.zero_add events.length]
    exact verifyRows_of_hold areRows
  · intro request c created
    obtain ⟨count, hash⟩ := createAuditCheckpoint_eq_ok same.onLog.holds created
    refine verifySqliteAuditCheckpoint_of_hold same.rows ?_ ?_
    · rw [count, Int.toNat_natCast]
    · rw [count, Int.toNat_natCast, List.take_length, hash]
  · intro request c created
    obtain ⟨count, hash⟩ := createSqliteAuditCheckpoint_eq_ok same.rows created
    refine verifyAuditCheckpoint_iff.mpr ⟨events, same.onLog.holds, ?_, ?_⟩
    · rw [count, Int.toNat_natCast]
    · rw [count, Int.toNat_natCast, List.take_length, hash]

end Emits

namespace Deployment

/-- Events of which one holds a value that JSON cannot serialise. -/
def mixedEvents : List AuditEvent :=
  [requestEvent nativeParameters, requestEvent objectParameters, requestEvent nativeParameters]

theorem mixedEvents_storable : ∀ event ∈ mixedEvents, event.Storable auditLibrary.readFloat := by
  have native : .emit (requestEvent nativeParameters) .done ∈ mixedRun := List.mem_cons_self
  have object : .emit (requestEvent objectParameters) .done ∈ mixedRun :=
    List.mem_cons_of_mem _ List.mem_cons_self
  intro event member
  simp only [mixedEvents, List.mem_cons, List.not_mem_nil, or_false] at member
  rcases member with rfl | rfl | rfl
  exacts [mixedRun_storable _ _ native, mixedRun_storable _ _ object, mixedRun_storable _ _ native]

end Deployment

/-- Both stores of the mixed events are verified. -/
theorem stores_agree_mixedEvents :
    ∃ sink file rows table, LocalJSONLAuditSink.init Deployment.auditLibrary .absent = .ok sink
      ∧ file = (Lib.final (jsonlStep Deployment.auditLibrary) sink Deployment.mixedEvents).file
      ∧ table = .table (Lib.final (sqliteStep Deployment.auditLibrary) rows Deployment.mixedEvents)
      ∧ verifyAuditChain Deployment.auditLibrary file = .ok true
      ∧ ∃ count, verifySqliteAuditChain Deployment.auditLibrary table = .ok ⟨true, count, ""⟩ := by
  obtain ⟨sink, rows, file, table, opened, -, isFile, isTable, -, ⟨_, _, -, -, -, chain, rowChain⟩, -⟩ :=
    stores_agree Deployment.auditLibrary Deployment.mixedEvents_storable
  exact ⟨sink, file, rows, table, opened, isFile, isTable, chain, _, rowChain⟩

end AgenticKVM
