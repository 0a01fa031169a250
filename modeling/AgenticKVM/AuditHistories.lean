import AgenticKVM.AuditExport
import AgenticKVM.AuditWriters

/-! # Audit stores over their life

What an operator reads from the SQLite audit store: the recent events, one event by its number or by
its hash, and an export of all of them (`audit_sqlite.py`). The table numbers its rows, and gives no
number twice. So the store is a list of numbered events in the order in which their emits returned,
and every query answers what that list says (`sqliteQueries_run`). A store that was checkpointed
goes on, and it is still exported with its checkpoint (`exportSqliteAudit_run`). A store that is put
back to an earlier state and goes on otherwise is told from what it was by its checkpoints
(`checkpoint_fork_iff`). -/

namespace AgenticKVM

open Lib (Json except_ok_bind except_mapM_eq_ok)
open Lib.HashChain (Link links head)

/-! ## The table and its numbers -/

/-- The largest `event_index`: an `INTEGER PRIMARY KEY` has 64 bits. -/
def maxEventIndex : Nat := 9223372036854775807

/-- A row of `audit_events` with its `event_index`. -/
structure NumberedRow extends AuditRow where
  eventIndex : Nat

/-- **The table** `audit_events`: its rows by `event_index`, which `AUTOINCREMENT` counts up from
one. `sequence` is the last number that was given, to a row that is there or to one that is there no
longer. -/
structure AuditTable where
  rows : List NumberedRow
  sequence : Nat
  ordered : rows.Pairwise fun row later => row.eventIndex < later.eventIndex
  given : ∀ row ∈ rows, 1 ≤ row.eventIndex ∧ row.eventIndex ≤ sequence
  sequence_le : sequence ≤ maxEventIndex

namespace AuditTable

/-- The rows without their numbers: neither the sink nor a verifier looks at these. -/
def plain (table : AuditTable) : List AuditRow := table.rows.map NumberedRow.toAuditRow

/-- The numbers of the rows. -/
def numbers (table : AuditTable) : List Nat := table.rows.map NumberedRow.eventIndex

/-- No row has a number. -/
theorem given_nil : ∀ row ∈ ([] : List NumberedRow), 1 ≤ row.eventIndex ∧ row.eventIndex ≤ 0 := by
  intro row member
  cases member

/-- The table of `SQLiteAuditSink.__init__`. -/
def empty : AuditTable where
  rows := []
  sequence := 0
  ordered := .nil
  given := given_nil
  sequence_le := Nat.zero_le _

/-- The rows and one more, under the next number. -/
def followed (table : AuditTable) (row : AuditRow) : List NumberedRow :=
  table.rows ++ [⟨row, table.sequence + 1⟩]

/-- A row under the next number is the last one. -/
theorem followed_ordered (table : AuditTable) (row : AuditRow) :
    (table.followed row).Pairwise fun row later => row.eventIndex < later.eventIndex := by
  refine List.pairwise_append.mpr ⟨table.ordered, List.pairwise_singleton _ _, ?_⟩
  intro earlier member last isLast
  rw [List.mem_singleton.mp isLast]
  exact Nat.lt_succ_of_le (table.given earlier member).2

/-- The next number is given to the last row. -/
theorem followed_given (table : AuditTable) (row : AuditRow) :
    ∀ given ∈ table.followed row,
      1 ≤ given.eventIndex ∧ given.eventIndex ≤ table.sequence + 1 := by
  intro given member
  rcases List.mem_append.mp member with member | member
  · obtain ⟨positive, most⟩ := table.given given member
    exact ⟨positive, Nat.le_succ_of_le most⟩
  · rw [List.mem_singleton.mp member]
    exact ⟨Nat.succ_pos _, le_rfl⟩

/-- A row is inserted under the next number. -/
def insert (table : AuditTable) (row : AuditRow) (room : table.sequence < maxEventIndex) :
    AuditTable where
  rows := table.followed row
  sequence := table.sequence + 1
  ordered := table.followed_ordered row
  given := table.followed_given row
  sequence_le := room

@[simp] theorem insert_plain (table : AuditTable) (row : AuditRow)
    (room : table.sequence < maxEventIndex) :
    (table.insert row room).plain = table.plain ++ [row] := by
  simp [insert, followed, plain]

@[simp] theorem insert_numbers (table : AuditTable) (row : AuditRow)
    (room : table.sequence < maxEventIndex) :
    (table.insert row room).numbers = table.numbers ++ [table.sequence + 1] := by
  simp [insert, followed, numbers]

/-- The last rows are deleted, and their numbers are not given again. -/
def cut (table : AuditTable) (count : Nat) : AuditTable where
  rows := table.rows.take count
  sequence := table.sequence
  ordered := table.ordered.sublist (List.take_sublist _ _)
  given row member := table.given row (List.mem_of_mem_take member)
  sequence_le := table.sequence_le

@[simp] theorem cut_plain (table : AuditTable) (count : Nat) :
    (table.cut count).plain = table.plain.take count := by
  rw [plain, plain, cut, List.map_take]

/-- Increasing numbers of a range are no more than the range has. -/
theorem length_le_of_increasing {numbers : List Nat} {low high : Nat}
    (increasing : numbers.Pairwise (· < ·)) (within : ∀ n ∈ numbers, low ≤ n ∧ n ≤ high) :
    numbers.length ≤ high + 1 - low := by
  induction numbers generalizing low with
  | nil => exact Nat.zero_le _
  | cons n rest ih =>
      obtain ⟨least, increasing⟩ := List.pairwise_cons.mp increasing
      obtain ⟨here, within⟩ := List.forall_mem_cons.mp within
      have later := ih increasing fun m member => ⟨least m member, (within m member).2⟩
      rw [List.length_cons]
      omega

/-- **A table has no more rows than numbers.** -/
theorem length_le (table : AuditTable) : table.rows.length ≤ maxEventIndex := by
  have increasing : table.numbers.Pairwise (· < ·) := List.pairwise_map.mpr table.ordered
  have few := @length_le_of_increasing table.numbers 1 table.sequence increasing fun n member => by
    obtain ⟨row, isRow, rfl⟩ := List.mem_map.mp member
    exact table.given row isRow
  rw [Nat.add_sub_cancel, numbers, List.length_map] at few
  exact few.trans table.sequence_le

/-- `SQLiteAuditSink.emit`, undisturbed: a row that is refused takes no number, and where no number
is left each row is refused. -/
def emit (lib : AuditLibrary) (table : AuditTable) (event : AuditEvent) (insert : Insert) :
    AuditTable × Except PyExc Unit :=
  match auditRow lib (lastRowHash table.plain) event, insert with
  | .error e, _ => (table, .error e)
  | .ok _, .raises e => (table, .error e)
  | .ok row, .done =>
      if room : table.sequence < maxEventIndex then (table.insert row room, .ok ())
      else (table, .error (sqliteError "database or disk is full"))

section Emit

variable {lib : AuditLibrary} {table : AuditTable} {event : AuditEvent} {insert : Insert}

/-- **What an emit can do**: it raises and leaves the table, or it inserts the row of its event. -/
theorem emit_cases : (∃ e, table.emit lib event insert = (table, .error e))
    ∨ ∃ row room, auditRow lib (lastRowHash table.plain) event = .ok row
      ∧ table.emit lib event insert = (table.insert row room, .ok ()) := by
  unfold emit
  cases auditRow lib (lastRowHash table.plain) event with
  | error e => exact .inl ⟨e, rfl⟩
  | ok row =>
      cases insert with
      | raises e => exact .inl ⟨e, rfl⟩
      | done =>
          by_cases room : table.sequence < maxEventIndex
          · exact .inr ⟨row, room, rfl, dif_pos room⟩
          · exact .inl ⟨_, dif_neg room⟩

/-- **An emit without its numbers** is an emit of the sink on the plain rows, for some answer of the
database. -/
theorem emit_plain : ∃ answer, sqliteEmit lib table.plain event answer
    = ((table.emit lib event insert).1.plain, (table.emit lib event insert).2) := by
  unfold emit sqliteEmit insertEvent
  cases auditRow lib (lastRowHash table.plain) event with
  | error e => exact ⟨.done, rfl⟩
  | ok row =>
      cases insert with
      | raises e => exact ⟨.raises e, rfl⟩
      | done =>
          dsimp only
          by_cases room : table.sequence < maxEventIndex
          · rw [dif_pos room, insert_plain]
            exact ⟨.done, rfl⟩
          · rw [dif_neg room]
            exact ⟨.raises _, rfl⟩

end Emit

end AuditTable

/-- What stands at the path of a store, with the numbers of its rows. -/
inductive AuditStore
  | absent
  | unreadable (message : String)
  | table (content : AuditTable)

/-- The store as the verifiers read it: they select the rows by `event_index`, and leave it out. -/
def AuditStore.file : AuditStore → SqliteFile
  | .absent => .absent
  | .unreadable message => .unreadable message
  | .table content => .table content.plain

/-! ## The queries -/

section Queries

variable (lib : AuditLibrary)

/-- What `json.loads` and the database raise is reported with what was tried; nothing else is. -/
def reportedAs (tried : String) : PyExc → PyExc
  | .other "JSONDecodeError" message => sqliteAuditError (tried ++ message)
  | .other "DatabaseError" message => sqliteAuditError (tried ++ message)
  | e => e

/-- An integer as a parameter of a statement: SQLite has none of more than 64 bits. -/
def sqliteInteger (i : Int) : Except PyExc Unit :=
  if -9223372036854775808 ≤ i ∧ i ≤ 9223372036854775807 then .ok ()
  else .error (.overflowError "Python int too large to convert to SQLite INTEGER")

/-- The dictionary an event is shown as. -/
def eventEntry (row : NumberedRow) : Except PyExc Record := do
  let record ← loadsLine lib row.eventJson
  let eventHash ← recordGet record "event_hash"
  let event ← recordGet record "event"
  return [("event_index", .int row.eventIndex), ("event_hash", eventHash), ("event", event)]

/-- `list_sqlite_audit_events`: the last rows are read from the newest to the oldest, and shown from
the oldest to the newest. -/
def listSqliteAuditEvents (store : AuditStore) (limit : Int) : Except PyExc (List Record) :=
  let tried := "cannot list SQLite audit events: "
  if limit ≤ 0 then .error (sqliteAuditError "audit event limit must be positive")
  else match store with
  | .absent => .ok []
  | .unreadable message => .error (reportedAs tried (sqliteError message))
  | .table table => do
      sqliteInteger limit
      let entries ← ((table.rows.reverse.take limit.toNat).mapM (eventEntry lib)).mapError
        (reportedAs tried)
      return entries.reverse

/-- How an event is named. -/
inductive EventName
  | index (i : Int)
  | hash (text : String)

/-- The row a `SELECT` of one event fetches first. -/
def EventName.fetch (rows : List NumberedRow) : EventName → Except PyExc (Option NumberedRow)
  | .index i => do
      sqliteInteger i
      return rows.find? fun row => (row.eventIndex : Int) = i
  | .hash text => return rows.find? fun row => row.eventHash = text

/-- The one of the two identifiers that is given. -/
def eventName : Option Int → Option String → Except PyExc EventName
  | some i, none => .ok (.index i)
  | none, some text => .ok (.hash text)
  | _, _ => .error (sqliteAuditError "provide exactly one event identifier")

/-- `inspect_sqlite_audit_event`. -/
def inspectSqliteAuditEvent (store : AuditStore) (eventIndex : Option Int)
    (eventHash : Option String) : Except PyExc Record := do
  let tried := "cannot inspect SQLite audit event: "
  let name ← eventName eventIndex eventHash
  match store with
  | .absent => throw (sqliteAuditError "SQLite audit path does not exist")
  | .unreadable message => throw (reportedAs tried (sqliteError message))
  | .table table =>
      match ← name.fetch table.rows with
      | none => throw (sqliteAuditError "SQLite audit event not found")
      | some row => (eventEntry lib row).mapError (reportedAs tried)

/-- `SQLiteAuditVerification.to_dict`. -/
def SQLiteAuditVerification.toDict (verification : SQLiteAuditVerification) : Record :=
  [("ok", .bool verification.ok), ("event_count", .int verification.eventCount),
    ("reason", .str verification.reason)]

/-- The payload of an export. -/
def sqliteExportPayload (verification : SQLiteAuditVerification) (checkpoint : Option Record)
    (events : List Record) : Record :=
  [("format", .str "agentickvm.sqlite-audit-export.v1"), ("source", .str "sqlite"),
    ("event_count", .int verification.eventCount), ("verification", .obj verification.toDict),
    ("checkpoint", match checkpoint with
      | some payload => .obj payload
      | none => .null),
    ("checkpoint_verified", .bool checkpoint.isSome), ("events", .list (events.map .obj))]

/-- A checkpoint as it is given: parsed, or as the mapping it is read from. -/
inductive GivenCheckpoint (lib : AuditLibrary)
  | parsed (checkpoint : AuditCheckpoint lib)
  | mapping (payload : Record)

/-- The checkpoint that was given, parsed. -/
def GivenCheckpoint.parse : GivenCheckpoint lib → Except PyExc (AuditCheckpoint lib)
  | .parsed checkpoint => .ok checkpoint
  | .mapping payload => AuditCheckpoint.fromDict lib payload

/-- The checkpoint of an export, once it is verified. -/
def exportedCheckpoint (file : SqliteFile) :
    Option (GivenCheckpoint lib) → Except PyExc (Option Record)
  | none => .ok none
  | some given => do
      let checkpoint ← given.parse lib
      let result := verifySqliteAuditCheckpoint lib file checkpoint
      if ¬ result.ok then
        throw (sqliteAuditError ("audit checkpoint verification failed: " ++ result.reason))
      return some (← checkpoint.toDict lib)

/-- `export_sqlite_audit`, up to the file it writes: what it writes there is what it returns. -/
def exportSqliteAudit (store : AuditStore) (checkpoint : Option (GivenCheckpoint lib))
    (outputIsDirectory : Bool) : Except PyExc Record := do
  let verification ← verifySqliteAuditChain lib store.file
  if ¬ verification.ok then
    throw (sqliteAuditError ("audit chain verification failed: " ++ verification.reason))
  let checkpointPayload ← exportedCheckpoint lib store.file checkpoint
  let events ← listSqliteAuditEvents lib store (max verification.eventCount 1)
  if outputIsDirectory then throw (sqliteAuditError "audit export output path must be a file")
  return sqliteExportPayload verification checkpointPayload events

end Queries

/-! ## What the store is for

A store is the list of its events, each under a number. -/

/-- An event of a store: its number, the hash of the history up to it, and what is recorded. -/
structure StoredEntry where
  eventIndex : Nat
  eventHash : String
  event : Json

/-- The dictionary an entry is shown as. -/
def StoredEntry.toDict (entry : StoredEntry) : Record :=
  [("event_index", .int entry.eventIndex), ("event_hash", .str entry.eventHash),
    ("event", entry.event)]

/-- An entry has the number or the hash that is asked for. -/
def EventName.names : EventName → StoredEntry → Bool
  | .index i, entry => (entry.eventIndex : Int) = i
  | .hash text, entry => entry.eventHash = text

section Listed

variable (lib : AuditLibrary)

/-- An event of a chain under a number. -/
def storedEntry (number : Nat) (link : Link String Json) : StoredEntry :=
  ⟨number, link.hash, link.event⟩

/-- **The entries of a list of events** under their numbers, each with the hash of the history up to
it. -/
def storedEntries (numbers : List Nat) (events : List Json) : List StoredEntry :=
  numbers.zipWith storedEntry (links (chainHash lib.toStdlib) none events)

/-- The last entries, no more than a limit. -/
def recentEntries (numbers : List Nat) (events : List Json) (limit : Nat) : List StoredEntry :=
  (storedEntries lib numbers events).drop (events.length - limit)

/-- The entry that is named, if there is one: the first with its number or its hash. -/
def namedEntry (numbers : List Nat) (events : List Json) (name : EventName) : Option StoredEntry :=
  (storedEntries lib numbers events).find? name.names

end Listed

/-! ## Rows and entries -/

section Entries

variable {lib : AuditLibrary} {table : AuditTable} {events : List Json}

/-- Related lists have related first items of a kind. -/
theorem find?_of_forall₂ {α β : Type} {R : α → β → Prop} {p : α → Bool} {q : β → Bool}
    {items : List α} {others : List β} (agree : ∀ a b, R a b → p a = q b)
    (related : List.Forall₂ R items others) :
    Option.Rel R (items.find? p) (others.find? q) := by
  induction related with
  | nil => exact .none
  | @cons a b _ _ here _ ih =>
      rw [List.find?_cons, List.find?_cons, agree a b here]
      cases q b with
      | true => exact .some here
      | false => exact ih

/-- A row shows an entry, under its number and its hash. -/
structure Shows (lib : AuditLibrary) (row : NumberedRow) (entry : StoredEntry) : Prop where
  shown : eventEntry lib row = .ok entry.toDict
  eventIndex : row.eventIndex = entry.eventIndex
  hash : row.eventHash = entry.eventHash

/-- A row that holds a link shows its event. -/
theorem shows_of_rowOf {row : NumberedRow} {link : Link String Json}
    (holds : RowOf lib row.toAuditRow link) : Shows lib row (storedEntry row.eventIndex link) := by
  obtain ⟨record, read, isRecord⟩ := holds.record
  refine ⟨?_, rfl, holds.hash⟩
  rw [eventEntry, read, except_ok_bind, recordGet, recordGet, isRecord.hash, isRecord.event]
  rfl

/-- Rows that hold some links show their events. -/
theorem shows_of_rowsHold {rows : List NumberedRow} {chain : List (Link String Json)}
    (hold : RowsHold lib (rows.map NumberedRow.toAuditRow) chain) :
    List.Forall₂ (Shows lib) rows
      ((rows.map NumberedRow.eventIndex).zipWith storedEntry chain) := by
  induction rows generalizing chain with
  | nil => exact .nil
  | cons row rows ih =>
      cases hold with
      | cons holds rest => exact .cons (shows_of_rowOf holds) (ih rest)

/-- **A table that holds the links of events shows their entries.** -/
theorem shows_of_hold (hold : RowsHold lib table.plain (links (chainHash lib.toStdlib) none events)) :
    List.Forall₂ (Shows lib) table.rows (storedEntries lib table.numbers events) :=
  shows_of_rowsHold hold

/-- There are as many rows as events. -/
theorem rows_length_of_hold
    (hold : RowsHold lib table.plain (links (chainHash lib.toStdlib) none events)) :
    table.rows.length = events.length := by
  have length := hold.length_eq
  rwa [AuditTable.plain, List.length_map, Lib.HashChain.links_length] at length

/-- There are as many entries as events. -/
theorem storedEntries_length
    (hold : RowsHold lib table.plain (links (chainHash lib.toStdlib) none events)) :
    (storedEntries lib table.numbers events).length = events.length := by
  rw [← (shows_of_hold hold).length_eq, rows_length_of_hold hold]

/-- **The recent events** of a store are the last entries of its events. -/
theorem listSqliteAuditEvents_of_hold
    (hold : RowsHold lib table.plain (links (chainHash lib.toStdlib) none events)) {limit : Int}
    (positive : 0 < limit) (fits : sqliteInteger limit = .ok ()) :
    listSqliteAuditEvents lib (.table table) limit
      = .ok ((recentEntries lib table.numbers events limit.toNat).map StoredEntry.toDict) := by
  have shows := (shows_of_hold hold).imp fun _ _ each => each.shown
  have each : List.Forall₂ (fun row entry => eventEntry lib row = .ok entry) table.rows
      ((storedEntries lib table.numbers events).map StoredEntry.toDict) :=
    List.forall₂_map_right_iff.mpr shows
  have shown := except_mapM_eq_ok
    (List.forall₂_take limit.toNat (List.forall₂_reverse_iff.mpr each))
  rw [listSqliteAuditEvents, if_neg (Int.not_le.mpr positive), fits, except_ok_bind, shown,
    List.take_reverse, List.length_map, storedEntries_length hold]
  change Except.ok (List.reverse (List.reverse _)) = _
  rw [List.reverse_reverse, recentEntries, List.map_drop]

/-- A name is one a statement takes. -/
def EventName.Fits : EventName → Prop
  | .index i => sqliteInteger i = .ok ()
  | .hash _ => True

/-- The row a name fetches shows the entry that is named. -/
theorem fetch_of_hold
    (hold : RowsHold lib table.plain (links (chainHash lib.toStdlib) none events))
    {name : EventName} (fits : name.Fits) : ∃ row, name.fetch table.rows = .ok row
      ∧ Option.Rel (Shows lib) row (namedEntry lib table.numbers events name) := by
  have shows := shows_of_hold hold
  cases name with
  | index i =>
      have fits : sqliteInteger i = .ok () := fits
      refine ⟨_, by rw [EventName.fetch, fits, except_ok_bind]; rfl, ?_⟩
      refine find?_of_forall₂ (fun row entry each => ?_) shows
      rw [each.eventIndex, EventName.names]
  | hash text =>
      refine ⟨_, rfl, find?_of_forall₂ (fun row entry each => ?_) shows⟩
      rw [each.hash, EventName.names]

/-- **The event that is named** is shown, or it is reported that there is none. -/
theorem inspectSqliteAuditEvent_of_hold
    (hold : RowsHold lib table.plain (links (chainHash lib.toStdlib) none events))
    {name : EventName} (fits : name.Fits) {eventIndex : Option Int} {eventHash : Option String}
    (given : eventName eventIndex eventHash = .ok name) :
    inspectSqliteAuditEvent lib (.table table) eventIndex eventHash
      = ((namedEntry lib table.numbers events name).map StoredEntry.toDict).elim
        (.error (sqliteAuditError "SQLite audit event not found")) .ok := by
  obtain ⟨row, fetched, shows⟩ := fetch_of_hold hold fits
  rw [inspectSqliteAuditEvent, given, except_ok_bind]
  dsimp only
  rw [fetched, except_ok_bind]
  generalize namedEntry lib table.numbers events name = entry at shows
  cases shows with
  | none => rfl
  | some each =>
      dsimp only
      rw [each.shown]
      rfl

end Entries

/-! ## Runs of a store -/

section Runs

variable {lib : AuditLibrary} {table : AuditTable} {events : List Json}

/-- An emit through the SQLite sink, which answers what was emitted and what came of it. -/
def emitStep (lib : AuditLibrary) (table : AuditTable) (input : AuditEvent × Insert) :
    AuditTable × AuditEvent × Except PyExc Unit :=
  ((table.emit lib input.1 input.2).1, input.1, (table.emit lib input.1 input.2).2)

/-- The events whose emits returned, as they are read back. -/
def recordedEvents (lib : AuditLibrary) (outputs : List (AuditEvent × Except PyExc Unit)) :
    List Json :=
  (outputs.filter fun output => output.2.isOk).map fun output => storedEvent lib output.1

/-- What is recorded in a run is recorded in its parts. -/
theorem recordedEvents_append (first second : List (AuditEvent × Except PyExc Unit)) :
    recordedEvents lib (first ++ second)
      = recordedEvents lib first ++ recordedEvents lib second := by
  rw [recordedEvents, List.filter_append, List.map_append, recordedEvents, recordedEvents]

/-- **What a step can do**: its event is not recorded and the table stays, or it is recorded and
its row is inserted. -/
theorem emitStep_cases {input : AuditEvent × Insert} :
    ((emitStep lib table input).1 = table ∧ recordedEvents lib [(emitStep lib table input).2] = [])
    ∨ ∃ row room, auditRow lib (lastRowHash table.plain) input.1 = .ok row
      ∧ (emitStep lib table input).1 = table.insert row room
      ∧ recordedEvents lib [(emitStep lib table input).2] = [storedEvent lib input.1] := by
  unfold emitStep
  rcases @AuditTable.emit_cases lib table input.1 input.2 with ⟨e, raised⟩ | ⟨row, room, made, done⟩
  · rw [raised]
    exact .inl ⟨rfl, rfl⟩
  · rw [done]
    exact .inr ⟨row, room, made, rfl, rfl⟩

/-- **One emit** adds its event where it returns, and nothing where it raises. -/
theorem RowsHold.emitStep
    (hold : RowsHold lib table.plain (links (chainHash lib.toStdlib) none events))
    {input : AuditEvent × Insert} (loggable : input.1.Loggable lib) :
    RowsHold lib (emitStep lib table input).1.plain (links (chainHash lib.toStdlib) none
      (events ++ recordedEvents lib [(AgenticKVM.emitStep lib table input).2])) := by
  have last : lastRowHash table.plain = head (chainHash lib.toStdlib) none events := by
    rw [lastRowHash_of_hold hold, Lib.HashChain.lastOf_links]
  rcases @emitStep_cases lib table input with ⟨same, nothing⟩ | ⟨row, room, made, inserted, event⟩
  · rw [same, nothing, List.append_nil]
    exact hold
  · rw [last] at made
    obtain ⟨-, -, -, -, isRow⟩ := auditRow_holds loggable made
    rw [inserted, event, AuditTable.insert_plain, Lib.HashChain.links_append]
    exact List.rel_append hold (.cons isRow .nil)

/-- **A run of emits**: the store holds what it held and the events whose emits returned. -/
theorem RowsHold.run
    (hold : RowsHold lib table.plain (links (chainHash lib.toStdlib) none events))
    {inputs : List (AuditEvent × Insert)}
    (loggable : ∀ input ∈ inputs, input.1.Loggable lib) :
    RowsHold lib (Lib.final (AgenticKVM.emitStep lib) table inputs).plain
      (links (chainHash lib.toStdlib) none
        (events ++ recordedEvents lib (Lib.outputs (AgenticKVM.emitStep lib) table inputs))) := by
  induction inputs generalizing table events with
  | nil =>
      change RowsHold lib table.plain (links _ none (events ++ []))
      rwa [List.append_nil]
  | cons input rest ih =>
      rw [List.forall_mem_cons] at loggable
      have next := ih (hold.emitStep loggable.1) loggable.2
      rwa [List.append_assoc, ← recordedEvents_append] at next

/-- **The numbers of a run**: the rows keep theirs, and what is recorded gets those that follow the
last one given. -/
theorem numbers_run (inputs : List (AuditEvent × Insert)) :
    (Lib.final (emitStep lib) table inputs).numbers
      = table.numbers ++ List.range' (table.sequence + 1)
        (recordedEvents lib (Lib.outputs (emitStep lib) table inputs)).length := by
  induction inputs generalizing table with
  | nil => exact (List.append_nil _).symm
  | cons input rest ih =>
      have recorded : recordedEvents lib (Lib.outputs (emitStep lib) table (input :: rest))
          = recordedEvents lib [(emitStep lib table input).2]
            ++ recordedEvents lib (Lib.outputs (emitStep lib) (emitStep lib table input).1 rest) :=
        recordedEvents_append [_] _
      rw [recorded, Lib.final, ih]
      rcases @emitStep_cases lib table input with ⟨same, nothing⟩ | ⟨row, room, -, inserted, event⟩
      · rw [same, nothing, List.nil_append]
      · rw [inserted, event, AuditTable.insert_numbers, List.singleton_append, List.length_cons,
          List.range'_succ, List.append_assoc]
        rfl

/-- A store that holds the links of events is verified. -/
theorem RowsHold.verified {rows : List AuditRow}
    (hold : RowsHold lib rows (links (chainHash lib.toStdlib) none events)) :
    verifySqliteAuditChain lib (.table rows) = .ok ⟨true, events.length, ""⟩ := by
  obtain ⟨parsed, read, parsedHolds⟩ := parsedRows_hold hold
  have read : (SqliteFile.table rows).rows lib = .ok parsed := read
  rw [verifySqliteAuditChain, read, ← Nat.zero_add events.length]
  exact verifyRows_of_hold parsedHolds

/-- A table of which the last rows are deleted holds the first of its events. -/
theorem RowsHold.cut
    (hold : RowsHold lib table.plain (links (chainHash lib.toStdlib) none events)) (count : Nat) :
    RowsHold lib (table.cut count).plain
      (links (chainHash lib.toStdlib) none (events.take count)) := by
  rw [AuditTable.cut_plain, ← Lib.HashChain.links_take]
  exact List.forall₂_take count hold

/-- A verified store is the store of some events. -/
theorem exists_events {rows : List AuditRow} {result : SQLiteAuditVerification}
    (verified : verifySqliteAuditChain lib (.table rows) = .ok result) (ok : result.ok = true) :
    ∃ events, RowsHold lib rows (links (chainHash lib.toStdlib) none events) :=
  verifySqliteAuditChain_iff.mp ⟨result, verified, ok⟩

end Runs

/-- **The history of a table over a run**: the events it held, under the numbers of their rows, and
the events whose emits returned, in this order, under the numbers that follow the last one it had
given. -/
structure HistoryOf (lib : AuditLibrary) (table : AuditTable) (inputs : List (AuditEvent × Insert))
    (numbers : List Nat) (events : List Json) : Prop where
  events : ∃ before, RowsHold lib table.plain (links (chainHash lib.toStdlib) none before)
    ∧ events = before ++ recordedEvents lib (Lib.outputs (emitStep lib) table inputs)
  numbers : numbers = table.numbers ++ List.range' (table.sequence + 1)
    (recordedEvents lib (Lib.outputs (emitStep lib) table inputs)).length

/-- **A run over a verified table has a history**, which the table holds that it reaches. -/
theorem exists_historyOf {lib : AuditLibrary} {table : AuditTable}
    {result : SQLiteAuditVerification}
    (verified : verifySqliteAuditChain lib (.table table.plain) = .ok result)
    (ok : result.ok = true) {inputs : List (AuditEvent × Insert)}
    (loggable : ∀ input ∈ inputs, input.1.Loggable lib) :
    ∃ numbers events, HistoryOf lib table inputs numbers events
      ∧ numbers = (Lib.final (emitStep lib) table inputs).numbers
      ∧ RowsHold lib (Lib.final (emitStep lib) table inputs).plain
        (links (chainHash lib.toStdlib) none events) := by
  obtain ⟨before, hold⟩ := exists_events verified ok
  exact ⟨_, _, ⟨⟨before, hold, rfl⟩, numbers_run inputs⟩, rfl, hold.run loggable⟩

/-- **The queries of a store over its life**: whatever is emitted to a verified store, and whichever
emits raise, afterwards the recent events are the last entries of its history, which is what was in
it and the events whose emits returned, and the event of a number or a hash is the entry that has
it. -/
theorem sqliteQueries_run (lib : AuditLibrary) {table : AuditTable}
    {result : SQLiteAuditVerification}
    (verified : verifySqliteAuditChain lib (.table table.plain) = .ok result)
    (ok : result.ok = true) {inputs : List (AuditEvent × Insert)}
    (loggable : ∀ input ∈ inputs, input.1.Loggable lib) :
    ∃ numbers events reached, HistoryOf lib table inputs numbers events
      ∧ reached = AuditStore.table (Lib.final (emitStep lib) table inputs)
      ∧ (∀ limit, 0 < limit → sqliteInteger limit = .ok () →
        listSqliteAuditEvents lib reached limit
          = .ok ((recentEntries lib numbers events limit.toNat).map StoredEntry.toDict))
      ∧ ∀ eventIndex eventHash name, eventName eventIndex eventHash = .ok name → name.Fits →
        inspectSqliteAuditEvent lib reached eventIndex eventHash
          = ((namedEntry lib numbers events name).map StoredEntry.toDict).elim
            (.error (sqliteAuditError "SQLite audit event not found")) .ok := by
  obtain ⟨_, events, history, rfl, reached⟩ := exists_historyOf verified ok loggable
  exact ⟨_, events, _, history, rfl,
    fun limit positive fits => listSqliteAuditEvents_of_hold reached positive fits,
    fun eventIndex eventHash name given fits => inspectSqliteAuditEvent_of_hold reached fits given⟩

namespace Deployment

/-- The mixed events, the second of which raises, and a last one whose row is refused. -/
def mixedInputs : List (AuditEvent × Insert) :=
  mixedEvents.map (fun event => (event, .done))
    ++ [(requestEvent nativeParameters, .raises (sqliteError "database is locked"))]

theorem mixedInputs_loggable :
    ∀ input ∈ mixedInputs, input.1.Loggable auditLibrary := by
  intro input member
  rcases List.mem_append.mp member with member | member
  · obtain ⟨event, mixed, rfl⟩ := List.mem_map.mp member
    exact (mixedEvents_storable event mixed).loggable
  · rw [List.mem_singleton.mp member]
    exact (mixedEvents_storable _ List.mem_cons_self).loggable

/-- A new table holds no events. -/
theorem emptyTable_holds : RowsHold auditLibrary AuditTable.empty.plain
    (links (chainHash auditLibrary.toStdlib) none []) :=
  .nil

/-- The table of the mixed events, of which the last row is gone. -/
def cutTable : AuditTable := (Lib.final (emitStep auditLibrary) .empty mixedInputs).cut 1

/-- What is left of the mixed events is verified. -/
theorem cutTable_verified : ∃ events,
    verifySqliteAuditChain auditLibrary (.table cutTable.plain)
      = .ok ⟨true, (events : List Json).length, ""⟩ :=
  ⟨_, ((emptyTable_holds.run mixedInputs_loggable).cut 1).verified⟩

end Deployment

/-- The mixed events in a table that has lost its second row: their numbers are new. -/
theorem sqliteQueries_run_cutTable : ∃ events reached,
    HistoryOf Deployment.auditLibrary Deployment.cutTable Deployment.mixedInputs [1, 3, 4] events
      ∧ reached = AuditStore.table (Lib.final (emitStep Deployment.auditLibrary) Deployment.cutTable
        Deployment.mixedInputs)
      ∧ listSqliteAuditEvents Deployment.auditLibrary reached 2
        = .ok ((recentEntries Deployment.auditLibrary [1, 3, 4] events 2).map StoredEntry.toDict)
      ∧ inspectSqliteAuditEvent Deployment.auditLibrary reached (some 3) none
        = ((namedEntry Deployment.auditLibrary [1, 3, 4] events (.index 3)).map
            StoredEntry.toDict).elim
          (.error (sqliteAuditError "SQLite audit event not found")) .ok := by
  obtain ⟨_, verified⟩ := Deployment.cutTable_verified
  obtain ⟨numbers, events, reached, history, isReached, recent, named⟩ :=
    sqliteQueries_run Deployment.auditLibrary verified rfl Deployment.mixedInputs_loggable
  have isNumbers : numbers = [1, 3, 4] := history.numbers.trans (by decide +kernel)
  subst isNumbers
  exact ⟨events, reached, history, isReached, recent 2 (by decide) rfl,
    named (some 3) none (.index 3) rfl rfl⟩

/-! ## Exports and checkpoints over runs -/

section Checkpoints

variable {lib : AuditLibrary} {rows : List AuditRow} {events : List Json}

/-- **An export** of a store has all of its events, with the checkpoint once that is verified. -/
theorem exportSqliteAudit_of_hold {table : AuditTable}
    (hold : RowsHold lib table.plain (links (chainHash lib.toStdlib) none events))
    {given : Option (GivenCheckpoint lib)} {payload : Option Record}
    (exported : exportedCheckpoint lib (.table table.plain) given = .ok payload) :
    exportSqliteAudit lib (.table table) given false
      = .ok (sqliteExportPayload ⟨true, events.length, ""⟩ payload
        ((storedEntries lib table.numbers events).map StoredEntry.toDict)) := by
  -- a table has no more rows than a statement can ask for
  have few : events.length ≤ maxEventIndex := rows_length_of_hold hold ▸ table.length_le
  rw [maxEventIndex] at few
  have limit : sqliteInteger (max (events.length : Int) 1) = .ok () := by
    rw [sqliteInteger, if_pos (by omega)]
  have all : recentEntries lib table.numbers events (max (events.length : Int) 1).toNat
      = storedEntries lib table.numbers events := by
    rw [recentEntries, Nat.sub_eq_zero_of_le (by omega), List.drop_zero]
  have verified : verifySqliteAuditChain lib (AuditStore.table table).file
      = .ok ⟨true, events.length, ""⟩ := hold.verified
  have exported : exportedCheckpoint lib (AuditStore.table table).file given = .ok payload :=
    exported
  rw [exportSqliteAudit, verified, except_ok_bind, if_neg (not_not.mpr rfl), exported,
    except_ok_bind]
  dsimp only
  rw [listSqliteAuditEvents_of_hold hold (by omega) limit, except_ok_bind, all]
  rfl

/-- A checkpoint of a store verifies against what the store becomes. -/
theorem checkpoint_of_longer {request : CheckpointRequest} {c : AuditCheckpoint lib}
    {later : List AuditRow} {more : List Json}
    (hold : RowsHold lib rows (links (chainHash lib.toStdlib) none events))
    (longer : RowsHold lib later (links (chainHash lib.toStdlib) none (events ++ more)))
    (created : createSqliteAuditCheckpoint lib (.table rows) request = .ok c) :
    (verifySqliteAuditCheckpoint lib (.table later) c).ok = true := by
  obtain ⟨count, hash⟩ := createSqliteAuditCheckpoint_eq_ok hold created
  refine verifySqliteAuditCheckpoint_of_hold longer ?_ ?_
  · rw [count, Int.toNat_natCast, List.length_append]
    exact Nat.le_add_right _ _
  · rw [count, Int.toNat_natCast, List.take_left, hash]

end Checkpoints

/-- **Exports of a store over its life**: whatever was emitted to a verified store before a
checkpoint of it was made and whatever is emitted afterwards, the store is exported with its whole
history. With the checkpoint, which is verified, it is exported where the checkpoint has a
dictionary; where it has none, what `to_dict` raises is raised. -/
theorem exportSqliteAudit_run (lib : AuditLibrary) {table : AuditTable}
    {result : SQLiteAuditVerification}
    (verified : verifySqliteAuditChain lib (.table table.plain) = .ok result)
    (ok : result.ok = true) {inputs more : List (AuditEvent × Insert)}
    (loggable : ∀ input ∈ inputs ++ more, input.1.Loggable lib)
    {request : CheckpointRequest} {c : AuditCheckpoint lib}
    (created : createSqliteAuditCheckpoint lib
      (.table (Lib.final (emitStep lib) table inputs).plain) request = .ok c) :
    ∃ numbers events reached, HistoryOf lib table (inputs ++ more) numbers events
      ∧ reached = AuditStore.table (Lib.final (emitStep lib) table (inputs ++ more))
      ∧ exportSqliteAudit lib reached none false
        = .ok (sqliteExportPayload ⟨true, events.length, ""⟩ none
          ((storedEntries lib numbers events).map StoredEntry.toDict))
      ∧ ∀ given : GivenCheckpoint lib, given.parse = .ok c →
        exportSqliteAudit lib reached (some given) false = (c.toDict lib).map fun payload =>
          sqliteExportPayload ⟨true, events.length, ""⟩ (some payload)
            ((storedEntries lib numbers events).map StoredEntry.toDict) := by
  obtain ⟨before, hold⟩ := exists_events verified ok
  have each := List.forall_mem_append.mp loggable
  have first := hold.run each.1
  have grown := first.run each.2
  rw [← Lib.final_append, List.append_assoc, ← recordedEvents_append, ← Lib.outputs_append] at grown
  refine ⟨_, _, _, ⟨⟨before, hold, rfl⟩, numbers_run _⟩, rfl,
    exportSqliteAudit_of_hold grown rfl, ?_⟩
  intro given parsed
  have extended := grown
  rw [Lib.outputs_append, recordedEvents_append, ← List.append_assoc] at extended
  have verified : (verifySqliteAuditCheckpoint lib
      (.table (Lib.final (emitStep lib) table (inputs ++ more)).plain) c).ok = true :=
    checkpoint_of_longer first extended created
  have exported : exportedCheckpoint lib
      (.table (Lib.final (emitStep lib) table (inputs ++ more)).plain) (some given)
        = (c.toDict lib).map some := by
    rw [exportedCheckpoint, parsed, except_ok_bind, if_neg (not_not.mpr verified)]
    cases c.toDict lib <;> rfl
  cases shown : c.toDict lib with
  | ok payload =>
      rw [shown] at exported
      exact exportSqliteAudit_of_hold grown exported
  | error e =>
      have chain : verifySqliteAuditChain lib
          (AuditStore.table (Lib.final (emitStep lib) table (inputs ++ more))).file = _ :=
        grown.verified
      have exported : exportedCheckpoint lib
          (AuditStore.table (Lib.final (emitStep lib) table (inputs ++ more))).file (some given) = _ :=
        exported
      rw [exportSqliteAudit, chain, except_ok_bind, if_neg (not_not.mpr rfl), exported, shown]
      rfl

/-- A store of which the last hash is not empty is checkpointed under identifiers that are not. -/
theorem createSqliteAuditCheckpoint_isOk {lib : AuditLibrary} {rows : List AuditRow}
    {events : List Json} {request : CheckpointRequest}
    (hold : RowsHold lib rows (links (chainHash lib.toStdlib) none events))
    (logId : request.auditLogId ≠ "") (id : givenOr request.checkpointId request.uuid ≠ "")
    (hash : head (chainHash lib.toStdlib) none events ≠ some "") :
    ∃ c, createSqliteAuditCheckpoint lib (.table rows) request = .ok c := by
  obtain ⟨parsed, read, parsedHolds⟩ := parsedRows_hold hold
  have read : (SqliteFile.table rows).rows lib = .ok parsed := read
  have length := rows_length parsedHolds
  have isHash : textHash (linkValue (head (chainHash lib.toStdlib) none events))
      = .ok (head (chainHash lib.toStdlib) none events) := by
    cases head (chainHash lib.toStdlib) none events <;> rfl
  have emptyIff : events.length = 0 ↔ head (chainHash lib.toStdlib) none events = none := by
    rcases List.eq_nil_or_concat events with rfl | ⟨front, event, rfl⟩
    · exact iff_of_true rfl rfl
    · rw [List.concat_eq_append, Lib.HashChain.head_concat, List.length_append]
      exact iff_of_false (by simp) (by simp)
  rw [createSqliteAuditCheckpoint, hold.verified, except_ok_bind, if_neg (not_not.mpr rfl)]
  dsimp only
  rw [read, except_ok_bind, lastRecordedHash_of_hold parsedHolds, except_ok_bind, isHash,
    except_ok_bind, AuditCheckpoint.new, dif_neg id, dif_neg logId, dif_neg, dif_neg, dif_neg,
    dif_neg]
  · exact ⟨_, if_pos (.inl rfl)⟩
  · rintro ⟨positive, absent | empty⟩
    · rw [← emptyIff, ← length] at absent
      exact absurd absent (Nat.cast_ne_zero.mp positive.ne')
    · exact hash empty
  all_goals simp_all [PyInt.value]

namespace Deployment

/-- A store that begins empty can be checkpointed at any time. -/
theorem mixedInputs_checkpoint {inputs : List (AuditEvent × Insert)}
    (loggable : ∀ input ∈ inputs, input.1.Loggable auditLibrary) :
    ∃ c, createSqliteAuditCheckpoint auditLibrary
      (.table (Lib.final (emitStep auditLibrary) .empty inputs).plain) checkpointRequest
        = .ok c := by
  refine createSqliteAuditCheckpoint_isOk (emptyTable_holds.run loggable) (by decide) (by decide) ?_
  intro empty
  rcases List.eq_nil_or_concat ([] ++ recordedEvents auditLibrary
    (Lib.outputs (emitStep auditLibrary) .empty inputs)) with nil | ⟨front, event, concat⟩
  · rw [nil] at empty
    cases empty
  · rw [concat, List.concat_eq_append, Lib.HashChain.head_concat, Option.some.injEq] at empty
    exact sha256_ne_empty _ empty

end Deployment

/-- The mixed events twice in a new table, and a checkpoint between them: the table is exported with
the checkpoint. -/
theorem exportSqliteAudit_run_mixedInputs : ∃ c events reached,
    createSqliteAuditCheckpoint Deployment.auditLibrary
        (.table (Lib.final (emitStep Deployment.auditLibrary) .empty Deployment.mixedInputs).plain)
        Deployment.checkpointRequest = .ok c
      ∧ HistoryOf Deployment.auditLibrary .empty (Deployment.mixedInputs ++ Deployment.mixedInputs)
        [1, 2, 3, 4] events
      ∧ reached = AuditStore.table (Lib.final (emitStep Deployment.auditLibrary) .empty
        (Deployment.mixedInputs ++ Deployment.mixedInputs))
      ∧ exportSqliteAudit Deployment.auditLibrary reached (some (.parsed c)) false
        = (c.toDict Deployment.auditLibrary).map fun payload =>
          sqliteExportPayload ⟨true, events.length, ""⟩ (some payload)
            ((storedEntries Deployment.auditLibrary [1, 2, 3, 4] events).map StoredEntry.toDict) := by
  obtain ⟨c, created⟩ := Deployment.mixedInputs_checkpoint Deployment.mixedInputs_loggable
  obtain ⟨numbers, events, reached, history, isReached, -, exported⟩ :=
    exportSqliteAudit_run Deployment.auditLibrary Deployment.emptyTable_holds.verified rfl
      (List.forall_mem_append.mpr ⟨Deployment.mixedInputs_loggable, Deployment.mixedInputs_loggable⟩)
      created
  have isNumbers : numbers = [1, 2, 3, 4] := history.numbers.trans (by decide +kernel)
  subst isNumbers
  exact ⟨c, events, reached, created, history, isReached, exported _ rfl⟩

/-! ## Stores that are put back -/

section Forks

variable {lib : AuditLibrary} {rows : List AuditRow} {events : List Json}

/-- A store that verifies against a checkpoint has the checkpointed events and ends them with the
checkpointed hash. -/
theorem verifySqliteAuditCheckpoint_iff_of_hold {c : AuditCheckpoint lib}
    (hold : RowsHold lib rows (links (chainHash lib.toStdlib) none events)) :
    (verifySqliteAuditCheckpoint lib (.table rows) c).ok = true ↔
      c.eventCount.value.toNat ≤ events.length
        ∧ head (chainHash lib.toStdlib) none (events.take c.eventCount.value.toNat)
          = c.lastEventHash := by
  refine ⟨fun ok => ?_, fun same => verifySqliteAuditCheckpoint_of_hold hold same.1 same.2⟩
  have count := c.countNonneg
  have index := c.indexMatches
  obtain ⟨parsed, read, parsedHolds⟩ := parsedRows_hold hold
  have read : (SqliteFile.table rows).rows lib = .ok parsed := read
  have length := rows_length parsedHolds
  -- a result that is not `ok` refutes the verification
  have refuted (reason : String) (checked : checkedSqliteCheckpoint lib (.table rows) c
      = sqliteVerification lib c parsed false reason) : False := by
    obtain ⟨result, isResult, notOk⟩ :=
      @sqliteVerification_of_hold lib c _ _ false reason parsedHolds
    rw [verifySqliteAuditCheckpoint, checked, isResult] at ok
    exact absurd ok (notOk ▸ Bool.false_ne_true)
  have long : ¬ (parsed.length : Int) < c.eventCount.value := by
    intro short
    refine refuted "audit log tail truncated" ?_
    rw [checkedSqliteCheckpoint, hold.verified, except_ok_bind, read, except_ok_bind,
      if_neg (not_not.mpr rfl), if_pos short]
  refine ⟨by omega, ?_⟩
  by_cases empty : c.eventCount.value = 0
  · rw [empty, c.emptyHash empty]
    rfl
  obtain ⟨row, record, found, hash⟩ := recordGet_at parsedHolds
    (show c.lastEventIndex.value.toNat < events.length by omega)
  have next : c.lastEventIndex.value.toNat + 1 = c.eventCount.value.toNat := by omega
  rw [next] at hash
  by_contra other
  refine refuted "checkpoint event hash mismatch" ?_
  rw [checkedSqliteCheckpoint, hold.verified, except_ok_bind, read, except_ok_bind,
    if_neg (not_not.mpr rfl), if_neg long, if_neg empty, found]
  dsimp only
  rw [hash, except_ok_bind, if_neg fun same => other (linkValue_inj (isLink_iff.mp same))]

/-- Recorded events are in normal form. -/
theorem map_norm_recordedEvents (outputs : List (AuditEvent × Except PyExc Unit)) :
    (recordedEvents lib outputs).map Json.norm = recordedEvents lib outputs := by
  rw [recordedEvents, List.map_map]
  exact List.map_congr_left fun output _ => Json.norm_norm _

/-- **A checkpoint stands for a history**: another history of the same beginning verifies against it
exactly where it goes on with all that was checkpointed. -/
theorem checkpoint_prefix_iff (injective : Function.Injective lib.sha256)
    {forked : List AuditRow} {later other : List Json} {c : AuditCheckpoint lib}
    (normal : later.map Json.norm = later) (normal' : other.map Json.norm = other)
    {request : CheckpointRequest}
    (hold : RowsHold lib rows (links (chainHash lib.toStdlib) none (events ++ later)))
    (created : createSqliteAuditCheckpoint lib (.table rows) request = .ok c)
    (hold' : RowsHold lib forked (links (chainHash lib.toStdlib) none (events ++ other))) :
    (verifySqliteAuditCheckpoint lib (.table forked) c).ok = true ↔ later <+: other := by
  obtain ⟨count, hash⟩ := createSqliteAuditCheckpoint_eq_ok hold created
  rw [verifySqliteAuditCheckpoint_iff_of_hold hold', count, Int.toNat_natCast, hash]
  constructor
  · rintro ⟨enough, same⟩
    have length : ((events ++ other).take (events ++ later).length).length
        = (events ++ later).length := by
      rw [List.length_take]
      omega
    have agree := Lib.HashChain.head_inj Json.norm
      (fun _ _ _ _ same => chainHash_inj injective same) length same
    rw [List.length_append, List.take_length_add_append, List.map_append, List.map_append,
      List.append_cancel_left_eq, List.map_take, normal, normal'] at agree
    rw [← agree]
    exact List.take_prefix _ _
  · rintro ⟨rest, rfl⟩
    rw [← List.append_assoc, List.take_left]
    exact ⟨by simp, rfl⟩

end Forks

/-- **A store that is put back** to an earlier state and goes on otherwise verifies against a later
checkpoint of what it was exactly where the events that were recorded up to the checkpoint are
recorded in it again, in the same order and from the same point: where nothing is recorded in it,
exactly where nothing had been. It does not matter whether the earlier file is restored or the later
rows are deleted, which leaves other numbers. -/
theorem checkpoint_fork_iff (lib : AuditLibrary) (injective : Function.Injective lib.sha256)
    {table back : AuditTable} {result : SQLiteAuditVerification}
    (verified : verifySqliteAuditChain lib (.table table.plain) = .ok result)
    (ok : result.ok = true) (putBack : back.plain = table.plain)
    {later other : List (AuditEvent × Insert)}
    (loggable : ∀ input ∈ later ++ other, input.1.Loggable lib)
    {request : CheckpointRequest} {c : AuditCheckpoint lib}
    (created : createSqliteAuditCheckpoint lib
      (.table (Lib.final (emitStep lib) table later).plain) request = .ok c) :
    (verifySqliteAuditCheckpoint lib (.table (Lib.final (emitStep lib) back other).plain) c).ok
        = true ↔
      recordedEvents lib (Lib.outputs (emitStep lib) table later)
        <+: recordedEvents lib (Lib.outputs (emitStep lib) back other) := by
  obtain ⟨before, hold⟩ := exists_events verified ok
  have holdBack : RowsHold lib back.plain (links (chainHash lib.toStdlib) none before) := by
    rw [putBack]
    exact hold
  rw [List.forall_mem_append] at loggable
  exact checkpoint_prefix_iff injective (map_norm_recordedEvents _) (map_norm_recordedEvents _)
    (hold.run loggable.1) created (holdBack.run loggable.2)

namespace Deployment

/-- The table of the mixed events, of which all rows are deleted. -/
def clearedTable : AuditTable := (Lib.final (emitStep auditLibrary) .empty mixedInputs).cut 0

end Deployment

/-- The mixed events in a new store, and a checkpoint of it. Where its rows are deleted and only the
first of the events is recorded again, the checkpoint tells; where the new store is restored and
they are recorded twice, it verifies. -/
theorem checkpoint_fork_iff_clearedTable : ∃ c,
    createSqliteAuditCheckpoint Deployment.auditLibrary
        (.table (Lib.final (emitStep Deployment.auditLibrary) .empty Deployment.mixedInputs).plain)
        Deployment.checkpointRequest = .ok c
      ∧ (verifySqliteAuditCheckpoint Deployment.auditLibrary
          (.table (Lib.final (emitStep Deployment.auditLibrary) Deployment.clearedTable
            (Deployment.mixedInputs.take 1)).plain) c).ok = false
      ∧ (verifySqliteAuditCheckpoint Deployment.auditLibrary
          (.table (Lib.final (emitStep Deployment.auditLibrary) .empty
            (Deployment.mixedInputs ++ Deployment.mixedInputs)).plain) c).ok = true := by
  obtain ⟨c, created⟩ := Deployment.mixedInputs_checkpoint Deployment.mixedInputs_loggable
  have forked (back : AuditTable) (putBack : back.plain = AuditTable.empty.plain)
      {other : List (AuditEvent × Insert)} (among : other ⊆ Deployment.mixedInputs) :=
    @checkpoint_fork_iff Deployment.auditLibrary Deployment.sha256_injective .empty back _
      Deployment.emptyTable_holds.verified rfl putBack Deployment.mixedInputs other
      (List.forall_mem_append.mpr ⟨Deployment.mixedInputs_loggable,
        fun input member => Deployment.mixedInputs_loggable input (among member)⟩) _ c created
  refine ⟨c, created, ?_, ?_⟩
  · rw [← Bool.not_eq_true, forked Deployment.clearedTable rfl (List.take_subset _ _)]
    intro same
    exact absurd same.length_le (by decide +kernel)
  · rw [forked .empty rfl (List.append_subset.mpr ⟨fun _ => id, fun _ => id⟩), Lib.outputs_append,
      recordedEvents_append]
    exact List.prefix_append _ _

end AgenticKVM
