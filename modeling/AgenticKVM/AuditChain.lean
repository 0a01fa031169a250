import AgenticKVM.StorableTrees

/-! # The chain of an audit log

The sink of a log never leaves its hash chain (`auditChain_run`), whatever is emitted, fails or is
opened again: the hash, taken over the redacted event in memory, is the one that is computed from
the line as it is read back, since the line is read back as the normal form of what was hashed. A
file is verified exactly where its lines hold the links that some events make
(`verifyAuditChain_iff`). -/

namespace AgenticKVM

open Lib (Json)
open Lib.HashChain (Link links head lastOf)

/-! ## Records and links -/

section Records

variable {lib : AuditLibrary}

/-- The hash of an event in the chain of a log. -/
def chainHash (std : Stdlib) (previous : Option String) (event : Json) : String :=
  eventHash std (linkValue previous) event

/-- The hash does not depend on the order of an event's entries. -/
theorem chainHash_norm (std : Stdlib) (previous : Option String) (event : Json) :
    chainHash std previous (Json.norm event) = chainHash std previous event := by
  refine congrArg std.sha256 ((Json.dumps_eq_iff _ _).mpr ?_)
  rw [Json.norm_obj, Json.norm_obj, Json.normEntries_eq_map, Json.normEntries_eq_map]
  simp only [List.map_cons, Json.norm_norm]

/-- A record holds a link of the chain. -/
structure RecordOf (record : Record) (link : Link String Json) : Prop where
  previous : record.get "previous_hash" = linkValue link.previous
  event : record.get "event" = link.event
  hash : record.get "event_hash" = .str link.hash

/-- A line that is read as the record of a link. -/
def LineOf (lib : AuditLibrary) (line : String) (link : Link String Json) : Prop :=
  ∃ record, recordOfLine lib line = .ok record ∧ RecordOf record link

/-- A file whose lines are read as the records of these links. -/
def LogFile.Holds (lib : AuditLibrary) (file : LogFile) (chain : List (Link String Json)) : Prop :=
  ∃ lines, file.lines = .ok lines ∧ List.Forall₂ (LineOf lib) lines chain

/-- **What the chain check accepts**: lines that are read as the links some events make. -/
theorem verifyLines_iff {lines : List String} {previous : Option String} :
    verifyLines lib previous lines = .ok true ↔
      ∃ events, List.Forall₂ (LineOf lib) lines (links (chainHash lib.toStdlib) previous events) := by
  induction lines generalizing previous with
  | nil => exact iff_of_true rfl ⟨[], .nil⟩
  | cons line rest ih =>
      rw [verifyLines, Lib.except_bind_eq_ok]
      constructor
      · rintro ⟨record, read, verified⟩
        dsimp only at verified
        split at verified
        · cases verified
        next isPrevious =>
        rw [Bool.not_eq_true, Bool.not_eq_false, isLink_iff] at isPrevious
        split at verified
        · cases verified
        next isHash =>
        rw [Bool.not_eq_true, Bool.not_eq_false, isLink_iff] at isHash
        rw [isPrevious] at isHash verified
        obtain ⟨events, later⟩ := ih.mp verified
        exact ⟨record.get "event" :: events, .cons ⟨record, read, isPrevious, rfl, isHash⟩ later⟩
      · rintro ⟨events, holds⟩
        cases events with
        | nil => cases holds
        | cons event events =>
            obtain ⟨⟨record, read, isPrevious, isEvent, isHash⟩, later⟩ :=
              List.forall₂_cons.mp holds
            refine ⟨record, read, ?_⟩
            dsimp only
            rw [isEvent, isHash, isPrevious, if_neg (not_not.mpr (isLink_iff.mpr rfl))]
            have own (hash : String) : isLink (.str hash) (some hash) = true := isLink_iff.mpr rfl
            exact (if_neg (not_not.mpr (own _))).trans (ih.mpr ⟨events, later⟩)

/-- A log is verified exactly where it holds the links that some events make. -/
theorem verifyAuditChain_iff {file : LogFile} :
    verifyAuditChain lib file = .ok true ↔
      ∃ events, file.Holds lib (links (chainHash lib.toStdlib) none events) := by
  rw [verifyAuditChain, Lib.except_bind_eq_ok]
  constructor
  · rintro ⟨lines, read, verified⟩
    obtain ⟨events, holds⟩ := verifyLines_iff.mp verified
    exact ⟨events, lines, read, holds⟩
  · rintro ⟨events, lines, read, holds⟩
    exact ⟨lines, read, verifyLines_iff.mpr ⟨events, holds⟩⟩

/-- A line that is read as a record is an object and not blank. -/
theorem recordOfLine_eq_ok {line : String} {record : Record}
    (read : recordOfLine lib line = .ok record) :
    loadsLine lib line = .ok (.obj record) ∧ strip line ≠ "" := by
  obtain ⟨value, loaded, object⟩ := Lib.except_bind_eq_ok.mp read
  split at object
  · cases object
    refine ⟨loaded, fun blank => ?_⟩
    obtain ⟨e, refused⟩ := lib.json.loads_blank line blank
    cases loaded.symm.trans refused
  · cases object

/-- The records of a file that holds some links hold them. -/
theorem LogFile.Holds.readRecordsOr {file : LogFile} {chain : List (Link String Json)}
    (holds : file.Holds lib chain) (refusal : PyExc) :
    ∃ records, readRecordsOr lib refusal file = .ok records
      ∧ List.Forall₂ RecordOf records chain := by
  obtain ⟨lines, read, each⟩ := holds
  have all : ∃ records, recordsOfLines lib refusal lines = .ok records
      ∧ List.Forall₂ RecordOf records chain := by
    clear read
    induction each with
    | nil => exact ⟨[], rfl, .nil⟩
    | cons line _ ih =>
        obtain ⟨record, read, isRecord⟩ := line
        obtain ⟨records, later, areRecords⟩ := ih
        obtain ⟨loaded, visible⟩ := recordOfLine_eq_ok read
        refine ⟨record :: records, ?_, .cons isRecord areRecords⟩
        rw [recordsOfLines, if_neg visible, loaded, Lib.except_ok_bind, later]
        rfl
  obtain ⟨records, loaded, areRecords⟩ := all
  exact ⟨records, by rw [AgenticKVM.readRecordsOr, read]; exact loaded, areRecords⟩

theorem LogFile.Holds.readRecords {file : LogFile} {chain : List (Link String Json)}
    (holds : file.Holds lib chain) :
    ∃ records, readRecords lib file = .ok records ∧ List.Forall₂ RecordOf records chain :=
  holds.readRecordsOr _

/-- A new sink goes on from the last hash of the links. -/
theorem LogFile.Holds.lastEventHash {file : LogFile} {chain : List (Link String Json)}
    (holds : file.Holds lib chain) :
    lastEventHash lib file = .ok (linkValue (lastOf none chain)) := by
  obtain ⟨lines, read, each⟩ := holds
  have last : ∀ (previous : Option String),
      lastHashOf lib (linkValue previous) lines = .ok (linkValue (lastOf previous chain)) := by
    clear read
    induction each with
    | nil => exact fun previous => rfl
    | cons line _ ih =>
        intro previous
        obtain ⟨record, read, -, -, isHash⟩ := line
        rw [lastHashOf, if_neg (recordOfLine_eq_ok read).2, read, Lib.except_ok_bind, isHash]
        exact ih (some _)
  rw [AgenticKVM.lastEventHash, read]
  exact last none

end Records

/-! ## Emits -/

section Emits

variable {lib : AuditLibrary}

/-- The record of a link as a value. -/
def recordValue (link : Link String Json) : Json :=
  auditRecord (linkValue link.previous) link.event link.hash

/-- The line the sink appends for a link. -/
def recordLine (link : Link String Json) : String := Json.dumps (recordValue link) ++ "\n"

/-- The link of an event. -/
def linkOf (std : Stdlib) (previous : Option String) (event : Json) : Link String Json :=
  ⟨previous, event, chainHash std previous event⟩

/-- **Reading inverts writing**: the text of a link's record is read as the record, its event in
normal form. -/
theorem lineOf_dumps {previous : Option String} {event : Json}
    (within : lib.json.limit event = none) (readable : Json.Readable lib.readFloat event)
    {blanks : String} (blank : blanks.toList.all Json.isBlank = true) :
    LineOf lib (Json.dumps (recordValue (linkOf lib.toStdlib previous event)) ++ blanks)
      (linkOf lib.toStdlib previous (Json.norm event)) := by
  have isLink : linkValue previous = .null ∨ ∃ hash, linkValue previous = .str hash := by
    cases previous with
    | none => exact .inl rfl
    | some hash => exact .inr ⟨hash, rfl⟩
  have normLink : Json.norm (linkValue previous) = linkValue previous := by
    cases previous <;> rfl
  have sorted : Json.norm (recordValue (linkOf lib.toStdlib previous event))
      = .obj [("event", Json.norm event), ("event_hash", .str (chainHash lib.toStdlib previous event)),
        ("previous_hash", linkValue previous)] := by
    have first : ¬ "previous_hash" ≤ "event" := by decide
    have second : ¬ "previous_hash" ≤ "event_hash" := by decide
    have third : "event" ≤ "event_hash" := by decide
    rw [recordValue, auditRecord, Json.norm_obj, Json.normEntries_eq_map]
    simp only [List.map_cons, List.map_nil, List.insertionSort_cons, List.insertionSort_nil,
      List.orderedInsert_cons, List.orderedInsert_nil, linkOf, normLink, first, second, third,
      Json.norm, if_true, if_false]
  have read : loadsLine lib (Json.dumps (recordValue (linkOf lib.toStdlib previous event)) ++ blanks)
      = .ok (Json.norm (recordValue (linkOf lib.toStdlib previous event))) :=
    lib.json.loads_record within isLink readable blank
  refine ⟨[("event", Json.norm event), ("event_hash", .str (chainHash lib.toStdlib previous event)),
    ("previous_hash", linkValue previous)], ?_,
    ⟨rfl, rfl, congrArg Json.str (chainHash_norm lib.toStdlib previous event).symm⟩⟩
  rw [recordOfLine, read, sorted]
  rfl

theorem lineOf_recordLine {previous : Option String} {event : Json}
    (within : lib.json.limit event = none) (readable : Json.Readable lib.readFloat event) :
    LineOf lib (recordLine (linkOf lib.toStdlib previous event))
      (linkOf lib.toStdlib previous (Json.norm event)) :=
  lineOf_dumps within readable (show "\n".toList.all Json.isBlank = true by decide)

/-- A canonical text has no line breaks. -/
theorem unbroken_dumps (v : Json) : Lib.Unbroken (Json.dumps v).toList := by
  intro c member
  have printable := Json.isPrintable_dumps v c member
  refine ⟨?_, ?_⟩
  all_goals rintro rfl
  all_goals exact absurd printable (by decide)

/-- A canonical text is not empty. -/
theorem dumps_ne_nil (v : Json) : (Json.dumps v).toList ≠ [] := by
  rw [Json.dumps, String.toList_ofList]
  obtain ⟨c, tail, same, -⟩ := Json.render_head (Json.norm v) []
  rw [List.append_nil] at same
  rw [same]
  exact List.cons_ne_nil c tail

/-- Files with the same characters have the same lines. -/
theorem LogFile.lines_of_content {file file' : LogFile} (same : file.content = file'.content) :
    file.lines = file'.lines := by
  cases file <;> cases file' <;> simp_all [LogFile.content, LogFile.lines, Lib.textLines,
    Lib.universalNewlines, Lib.splitLines]

/-- A line is appended to a file that ends a line. -/
theorem LogFile.lines_append {file : LogFile} (ends : file.EndsLine) (link : Link String Json) :
    (file.opened.append (recordLine link)).lines
        = file.lines.map (· ++ [recordLine link])
      ∧ (file.opened.append (recordLine link)).EndsLine := by
  have line : (recordLine link).toList = (Json.dumps (recordValue link)).toList ++ ['\n'] := by
    rw [recordLine, String.toList_append]
    rfl
  have unbroken := unbroken_dumps (recordValue link)
  have nonempty := dumps_ne_nil (recordValue link)
  have appended (text : String) (closed : Lib.EndsLine text.toList) :
      (LogFile.text (text ++ recordLine link)).lines
          = (LogFile.text text).lines.map (· ++ [recordLine link])
        ∧ (LogFile.text (text ++ recordLine link)).EndsLine := by
    refine ⟨?_, ?_⟩
    · rw [LogFile.lines, LogFile.lines, String.toList_append, line,
        Lib.textLines_append closed nonempty unbroken, List.map_append, List.map_singleton, ← line,
        String.ofList_toList]
      rfl
    · intro content same
      cases same
      rw [String.toList_append, line, ← List.append_assoc, Lib.EndsLine, List.getLast?_concat]
      rintro c ⟨⟩
      exact .inl rfl
  cases file with
  | absent => exact appended "" (ends "" rfl)
  | undecodable => exact ⟨rfl, fun content member => by cases member⟩
  | text content => exact appended content (ends content rfl)

/-- **A log grows by a link**: the line of a readable event is appended to a log that ends a line.
-/
theorem LogFile.Holds.append {file : LogFile} {chain : List (Link String Json)}
    (holds : file.Holds lib chain) (ends : file.EndsLine) (previous : Option String)
    {written : Json} (within : lib.json.limit written = none)
    (readable : Json.Readable lib.readFloat written) :
    (file.opened.append (recordLine (linkOf lib.toStdlib previous written))).Holds lib
        (chain ++ [linkOf lib.toStdlib previous (Json.norm written)])
      ∧ (file.opened.append (recordLine (linkOf lib.toStdlib previous written))).EndsLine := by
  obtain ⟨lines, read, each⟩ := holds
  obtain ⟨appended, ends'⟩ := LogFile.lines_append ends (linkOf lib.toStdlib previous written)
  refine ⟨⟨lines ++ [_], by rw [appended, read]; rfl, ?_⟩, ends'⟩
  exact List.rel_append each (.cons (lineOf_recordLine within readable) .nil)

/-- A log stays as it is while nothing is appended. -/
theorem LogFile.Holds.of_content {file file' : LogFile} {chain : List (Link String Json)}
    (holds : file.Holds lib chain) (content : file'.content = file.content) :
    file'.Holds lib chain := by
  obtain ⟨lines, read, each⟩ := holds
  exact ⟨lines, (LogFile.lines_of_content content).trans read, each⟩

theorem LogFile.EndsLine.of_content {file file' : LogFile} (ends : file.EndsLine)
    (content : file'.content = file.content) : file'.EndsLine := by
  rw [LogFile.EndsLine, content]
  exact ends

/-- **What an emit does**: it raises and changes neither the file's content nor the chain state, or
it appends the line of the record it writes and goes on from the record's hash. -/
theorem emit_cases (sink : LocalJSONLAuditSink) (event : AuditEvent) (append : Append) :
    (∃ e, (sink.emit lib event append).2 = .error e
      ∧ (sink.emit lib event append).1.file.content = sink.file.content
      ∧ (sink.emit lib event append).1.previousHash = sink.previousHash)
    ∨ lib.json.limit (writtenEvent lib event) = none ∧ ∃ hash record,
      hash = hashMapping lib.toStdlib (strDict (sink.unsignedRecord lib event))
      ∧ jsonSafe (strDict (sink.unsignedRecord lib event ++ [("event_hash", .str hash)]))
        = .ok record
      ∧ sink.emit lib event append
        = (⟨sink.file.opened.append (Json.dumps record ++ "\n"), .str hash⟩, .ok ()) := by
  unfold LocalJSONLAuditSink.emit
  dsimp only
  cases within : lib.json.limit (writtenEvent lib event) with
  | some e => exact .inl ⟨e, rfl, rfl, rfl⟩
  | none =>
      cases append with
      | openRaises e => exact .inl ⟨e, rfl, rfl, rfl⟩
      | writeRaises e =>
          generalize jsonSafe _ = written
          cases written with
          | error e' => exact .inl ⟨e', rfl, LogFile.content_opened _, rfl⟩
          | ok record => exact .inl ⟨e, rfl, LogFile.content_opened _, rfl⟩
      | done =>
          cases written : jsonSafe (strDict (sink.unsignedRecord lib event ++
            [("event_hash", .str (hashMapping lib.toStdlib
              (strDict (sink.unsignedRecord lib event))))])) with
          | error e' => exact .inl ⟨e', rfl, LogFile.content_opened _, rfl⟩
          | ok record => exact .inr ⟨rfl, _, record, rfl, written, rfl⟩

/-- **An emit that raises changes nothing**, whether it cannot serialise the event, open the file or
write to it. -/
theorem emit_raises {sink : LocalJSONLAuditSink} {event : AuditEvent} {append : Append} {e : PyExc}
    (raised : (sink.emit lib event append).2 = .error e) :
    (sink.emit lib event append).1.file.content = sink.file.content
      ∧ (sink.emit lib event append).1.previousHash = sink.previousHash := by
  obtain ⟨_, -, unchanged⟩ | ⟨-, hash, record, -, -, emitted⟩ := emit_cases sink event append
  · exact unchanged
  · rw [emitted] at raised
    cases raised

/-- The hash of an unsigned record is that of its event in the chain. -/
theorem hashMapping_unsigned (std : Stdlib) (previous : Option String) (event : PyValue) :
    hashMapping std (strDict [("previous_hash", PyValue.ofJson (linkValue previous)),
        ("event", event)])
      = chainHash std previous (jsonDefaultStr std event) := by
  rw [hashMapping, strDict, jsonDefaultStr]
  simp only [List.map_cons, List.map_nil, jsonDefaultStrEntries, jsonDefaultStr_ofJson]
  rfl

/-- A record of a storable event is written as the record of its link, and can be read back. -/
theorem jsonSafe_record (std : Stdlib) {previous : Option String}
    {payload : List (String × PyValue)} {hash : String} {record : Json}
    (storable : StorableEntries lib.readFloat payload)
    (safe : jsonSafe (strDict [("previous_hash", PyValue.ofJson (linkValue previous)),
      ("event", strDict payload), ("event_hash", .str hash)]) = .ok record) :
    record = recordValue ⟨previous, jsonDefaultStr std (strDict payload), hash⟩
      ∧ Json.Readable lib.readFloat (jsonDefaultStr std (strDict payload)) := by
  have goesOn : (PyValue.ofJson (linkValue previous)).Storable lib.readFloat := by
    cases previous <;> trivial
  have signed : (strDict [("previous_hash", PyValue.ofJson (linkValue previous)),
      ("event", strDict payload), ("event_hash", .str hash)]).Storable lib.readFloat := by
    refine storable_strDict.mpr
      ⟨show ["previous_hash", "event", "event_hash"].Nodup by decide, ?_⟩
    simp only [List.forall_mem_cons]
    exact ⟨goesOn, storable_strDict.mpr storable, trivial, fun _ member => by cases member⟩
  obtain ⟨hashed, readable⟩ := @jsonSafe_eq_ok std lib.readFloat _ signed _ safe
  have written : record = recordValue ⟨previous, jsonDefaultStr std (strDict payload), hash⟩ := by
    rw [← hashed, strDict, jsonDefaultStr]
    simp only [List.map_cons, List.map_nil, jsonDefaultStrEntries, jsonDefaultStr_ofJson]
    rfl
  rw [written] at readable
  exact ⟨written, readable.2.2.1⟩

/-- **An emit that returns appends a link**: the line of the event as it is written, which is
readable, chained to the hash the sink went on from. -/
theorem emit_returns {sink : LocalJSONLAuditSink} {event : AuditEvent} {append : Append}
    {previous : Option String} (loggable : event.Loggable lib)
    (goesOn : sink.previousHash = linkValue previous)
    (returned : (sink.emit lib event append).2 = .ok ()) :
    lib.json.limit (writtenEvent lib event) = none
      ∧ Json.Readable lib.readFloat (writtenEvent lib event)
      ∧ (sink.emit lib event append).1
        = ⟨sink.file.opened.append (recordLine
            (linkOf lib.toStdlib previous (writtenEvent lib event))),
          .str (chainHash lib.toStdlib previous (writtenEvent lib event))⟩ := by
  obtain ⟨e, raised, -⟩ | ⟨within, hash, record, isHash, safe, emitted⟩ :=
    emit_cases sink event append
  · rw [raised] at returned
    cases returned
  · rw [LocalJSONLAuditSink.unsignedRecord, goesOn] at isHash safe
    rw [hashMapping_unsigned] at isHash
    obtain ⟨written, readable⟩ :=
      jsonSafe_record lib.toStdlib (redactedEventPayload_storable loggable) safe
    rw [emitted, written, isHash]
    exact ⟨within, readable, rfl⟩

end Emits

/-! ## Runs -/

namespace LocalJSONLAuditSink

variable {lib : AuditLibrary}

/-- **A sink on its log**: the file holds the links some events make and ends a line, and the sink
goes on from their last hash. -/
structure OnLog (lib : AuditLibrary) (sink : LocalJSONLAuditSink) (events : List Json) : Prop where
  holds : sink.file.Holds lib (links (chainHash lib.toStdlib) none events)
  ends : sink.file.EndsLine
  goesOn : sink.previousHash = linkValue (head (chainHash lib.toStdlib) none events)

/-- A sink stays on its log while nothing is appended. -/
theorem OnLog.of_content {sink sink' : LocalJSONLAuditSink} {events : List Json}
    (onLog : sink.OnLog lib events) (content : sink'.file.content = sink.file.content)
    (goesOn : sink'.previousHash = sink.previousHash) : sink'.OnLog lib events :=
  ⟨onLog.holds.of_content content, onLog.ends.of_content content, goesOn.trans onLog.goesOn⟩

/-- The line of a readable event carries the log on by the event in normal form. -/
theorem OnLog.append {sink : LocalJSONLAuditSink} {events : List Json}
    (onLog : sink.OnLog lib events) {written : Json} (within : lib.json.limit written = none)
    (readable : Json.Readable lib.readFloat written) :
    OnLog lib
      ⟨sink.file.opened.append (recordLine (linkOf lib.toStdlib
          (head (chainHash lib.toStdlib) none events) written)),
        .str (chainHash lib.toStdlib (head (chainHash lib.toStdlib) none events) written)⟩
      (events ++ [Json.norm written]) := by
  obtain ⟨holds, ends⟩ := onLog.holds.append onLog.ends _ within readable
  refine ⟨?_, ends, ?_⟩
  · rw [Lib.HashChain.links_append]
    exact holds
  · rw [Lib.HashChain.head_concat, chainHash_norm]
    rfl

/-- **An emit stays on the log**: it appends the event in normal form where it returns, and nothing
where it raises. -/
theorem OnLog.emit {sink : LocalJSONLAuditSink} {events : List Json} (onLog : sink.OnLog lib events)
    {event : AuditEvent} (loggable : event.Loggable lib) (append : Append) :
    (∃ e, (sink.emit lib event append).2 = .error e ∧ (sink.emit lib event append).1.OnLog lib events)
    ∨ (sink.emit lib event append).2 = .ok ()
      ∧ (sink.emit lib event append).1.OnLog lib (events ++ [Json.norm (writtenEvent lib event)]) := by
  cases outcome : (sink.emit lib event append).2 with
  | error e =>
      obtain ⟨content, goesOn⟩ := emit_raises outcome
      exact .inl ⟨e, rfl, onLog.of_content content goesOn⟩
  | ok _ =>
      obtain ⟨within, readable, appended⟩ := emit_returns loggable onLog.goesOn outcome
      rw [appended]
      exact .inr ⟨rfl, onLog.append within readable⟩

/-- A new sink on the file of a log goes on where the log ends. -/
theorem OnLog.init {file : LogFile} {events : List Json}
    (holds : file.Holds lib (links (chainHash lib.toStdlib) none events)) (ends : file.EndsLine) :
    ∃ sink, LocalJSONLAuditSink.init lib file = .ok sink ∧ sink.file = file ∧ sink.OnLog lib events := by
  refine ⟨⟨file, linkValue (head (chainHash lib.toStdlib) none events)⟩, ?_, rfl, holds, ends, rfl⟩
  rw [LocalJSONLAuditSink.init, holds.lastEventHash, Lib.HashChain.lastOf_links]
  rfl

/-- **One operation stays on the log**, which grows by an event exactly where an emit returns. -/
theorem OnLog.step {sink : LocalJSONLAuditSink} {events : List Json} (onLog : sink.OnLog lib events)
    (operation : SinkOperation)
    (loggable : ∀ event append, operation = .emit event append → event.Loggable lib) :
    ∃ more, (sink.step lib operation).1.OnLog lib (events ++ more)
      ∧ more.length = [(sink.step lib operation).2].count .emitted := by
  cases operation with
  | emit event append =>
      have emitted := onLog.emit (loggable event append rfl) append
      simp only [LocalJSONLAuditSink.step]
      generalize sink.emit lib event append = after at emitted ⊢
      obtain ⟨sink', outcome⟩ := after
      rcases emitted with ⟨e, rfl, same⟩ | ⟨rfl, grown⟩
      · exact ⟨[], by rw [List.append_nil]; exact same, rfl⟩
      · exact ⟨[Json.norm (writtenEvent lib event)], grown, rfl⟩
  | reopen =>
      obtain ⟨sink', opened, -, onLog'⟩ := OnLog.init onLog.holds onLog.ends
      simp only [LocalJSONLAuditSink.step, opened]
      exact ⟨[], by rw [List.append_nil]; exact onLog', rfl⟩

/-- **A run stays on the log**, which grows by one event for each emit that returns. -/
theorem OnLog.run {sink : LocalJSONLAuditSink} {events : List Json} (onLog : sink.OnLog lib events)
    {operations : List SinkOperation}
    (loggable : ∀ event append, .emit event append ∈ operations → event.Loggable lib) :
    ∃ more, (Lib.final (LocalJSONLAuditSink.step lib) sink operations).OnLog lib (events ++ more)
      ∧ more.length
        = (Lib.outputs (LocalJSONLAuditSink.step lib) sink operations).count .emitted := by
  induction operations generalizing sink events with
  | nil => exact ⟨[], by rw [List.append_nil]; exact onLog, rfl⟩
  | cons operation rest ih =>
      obtain ⟨first, onLog', length⟩ := onLog.step operation fun event append same =>
        loggable event append (same ▸ List.mem_cons_self)
      obtain ⟨later, onLog'', length'⟩ := ih onLog' fun event append member =>
        loggable event append (List.mem_cons_of_mem _ member)
      refine ⟨first ++ later, by rw [← List.append_assoc]; exact onLog'', ?_⟩
      rw [List.length_append, length, length', Lib.outputs, List.count_cons, List.count_cons,
        List.count_nil]
      omega

end LocalJSONLAuditSink

/-- **The audit chain over runs**: a log that begins as an empty or missing file and whose events
can be stored is verified after any emits and reopenings and has one record for each emit that
returned; an emit that raises, at any point of the run, changes neither the file's content nor the
chain state. -/
theorem auditChain_run (lib : AuditLibrary) {file : LogFile} (empty : file.content = some "")
    {operations : List SinkOperation}
    (storable : ∀ event append, .emit event append ∈ operations → event.Storable lib.readFloat) :
    ∃ sink reached, LocalJSONLAuditSink.init lib file = .ok sink
      ∧ reached = Lib.final (LocalJSONLAuditSink.step lib) sink operations
      ∧ (∀ event append e, (reached.emit lib event append).2 = .error e →
          (reached.emit lib event append).1.file.content = reached.file.content
            ∧ (reached.emit lib event append).1.previousHash = reached.previousHash)
      ∧ verifyAuditChain lib reached.file = .ok true
      ∧ ∃ records, readRecords lib reached.file = .ok records
        ∧ records.length
          = (Lib.outputs (LocalJSONLAuditSink.step lib) sink operations).count .emitted := by
  have noLines : file.lines = .ok [] := @LogFile.lines_of_content file .absent empty
  have ends : file.EndsLine := by
    intro content same
    rw [empty] at same
    cases same
    exact fun c member => by cases member
  obtain ⟨sink, opened, -, onLog⟩ :=
    @LocalJSONLAuditSink.OnLog.init lib file [] ⟨[], noLines, .nil⟩ ends
  obtain ⟨events, onLog', length⟩ := onLog.run fun event append member =>
    (storable event append member).loggable
  obtain ⟨records, read, areRecords⟩ := onLog'.holds.readRecords
  refine ⟨sink, _, opened, rfl, fun event append e => emit_raises,
    verifyAuditChain_iff.mpr ⟨_, onLog'.holds⟩, records, read, ?_⟩
  rw [areRecords.length_eq, Lib.HashChain.links_length, List.nil_append, length]

namespace Deployment

/-- The event of a request with these parameters. -/
def requestEvent (request : Params) : AuditEvent where
  id := "event"
  timestamp := clockAt 0
  eventType := .requestReceived
  correlationId := "correlation"
  sessionId := "session"
  actor := ⟨.agent, "agent", actor_named⟩
  capability := ⟨"mock.session.open", "session", "open"⟩
  policyDecision := .allow
  redactions := []
  targetId := none
  approval := none
  provider := none
  request := some request
  result := none
  materialRisks := []
  requestNotReal := requestNotReal_none

/-- Parameters that are JSON, and parameters with a value that is not. -/
def nativeParameters : Params := [(.str "password", .str "hunter2"), (.str "count", .int 3)]

def objectParameters : Params := [(.str "when", .object "datetime" "2026-01-01 00:00:00")]

/-- A run in which an event is emitted, another cannot be serialised, the sink is opened again, a
line cannot be written and a last event is emitted. -/
def mixedRun : List SinkOperation :=
  [.emit (requestEvent nativeParameters) .done, .emit (requestEvent objectParameters) .done, .reopen,
    .emit (requestEvent nativeParameters) (.writeRaises (.other "OSError" "No space left on device")),
    .emit (requestEvent nativeParameters) .done]

/-- The events of the run can be stored. -/
theorem mixedRun_storable : ∀ event append, .emit event append ∈ mixedRun →
    event.Storable auditLibrary.readFloat := by
  have sections (request : Params)
      (storable : (PyValue.dict request).Storable auditLibrary.readFloat) :
      (requestEvent request).Storable auditLibrary.readFloat := by
    rintro section_ (same | same | same)
    · cases same
      exact storable
    all_goals cases same
  have native : (requestEvent nativeParameters).Storable auditLibrary.readFloat :=
    sections _ ⟨rfl, trivial, rfl, trivial, trivial⟩
  have object : (requestEvent objectParameters).Storable auditLibrary.readFloat :=
    sections _ ⟨rfl, trivial, trivial⟩
  intro event append member
  simp only [mixedRun, List.mem_cons, List.not_mem_nil, or_false, SinkOperation.emit.injEq,
    reduceCtorEq, false_or] at member
  rcases member with ⟨rfl, -⟩ | ⟨rfl, -⟩ | ⟨rfl, -⟩ | ⟨rfl, -⟩
  exacts [native, object, native, native]

end Deployment

/-- The log of the run is verified. -/
theorem auditChain_run_mixedRun :
    ∃ sink reached, LocalJSONLAuditSink.init Deployment.auditLibrary .absent = .ok sink
      ∧ reached = Lib.final (LocalJSONLAuditSink.step Deployment.auditLibrary) sink
        Deployment.mixedRun
      ∧ verifyAuditChain Deployment.auditLibrary reached.file = .ok true := by
  obtain ⟨sink, reached, opened, same, -, verified, -⟩ :=
    @auditChain_run Deployment.auditLibrary .absent rfl Deployment.mixedRun
      Deployment.mixedRun_storable
  exact ⟨sink, reached, opened, same, verified⟩

end AgenticKVM
