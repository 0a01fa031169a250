import AgenticKVM.SqliteAudit

/-! # Two verifiers of a table

The hash chain of an SQLite store is checked twice as well: `verify_sqlite_audit_chain` selects and
parses the rows itself, `verify_sqlite_audit_chain_rows` is given parsed rows. Here the table holds
whatever somebody may have written into it: any values in its columns, and any text as a record. The
two agree, and the first raises nothing, exactly where it reaches objects only and no record has
another hash than its column (`sqliteVerifiersAgree_iff`). -/

namespace AgenticKVM

open Lib (Json except_bind_eq_ok except_ok_bind except_pure)
open Lib.HashChain (Link links head)

/-! ## The rows of a table -/

/-- A value of a column, as `sqlite3` gives it. -/
inductive SqlValue
  | null
  | integer (value : Int)
  | real (value : Lib.FloatToken)
  | text (value : String)
  | blob (bytes : List UInt8)
deriving DecidableEq

/-- A hash, or `None` where there is none, in a column. -/
def SqlValue.ofHash : Option String → SqlValue
  | none => .null
  | some hash => .text hash

@[simp] theorem SqlValue.ofHash_inj {hash other : Option String} :
    SqlValue.ofHash hash = .ofHash other ↔ hash = other := by
  cases hash <;> cases other <;> simp [SqlValue.ofHash]

/-- A row of `audit_events`, whoever wrote it. Rows are listed by `event_index`. -/
structure TableRow where
  previousHash : SqlValue
  eventHash : SqlValue
  eventJson : SqlValue

/-- What stands at the path of a store: nothing, what `sqlite3` does not read as the table, or the
rows of the table. -/
inductive TableFile
  | absent
  | unreadable (message : String)
  | table (rows : List TableRow)

section Table

variable (std : Stdlib) (loads : SqlValue → Except PyExc Json)

/-- `_sqlite_rows` of a table, with `json.loads` of a column. -/
def tableRows : List TableRow → Except PyExc (List (TableRow × Json))
  | [] => .ok []
  | row :: rest => do
      let record ← loads row.eventJson
      return (row, record) :: (← tableRows rest)

/-- Whether a row and its record go on from a hash. -/
def TableRow.goesOnFrom (previousHash : Option String) (row : TableRow) (record : Json) :
    Except PyExc Bool :=
  if row.previousHash ≠ .ofHash previousHash then .ok false
  else do return isLink (← recordGet record "previous_hash") previousHash

/-- Whether a row and its record have a hash. -/
def TableRow.hasHash (hash : String) (row : TableRow) (record : Json) : Except PyExc Bool :=
  if row.eventHash ≠ .text hash then .ok false
  else do return isLink (← recordGet record "event_hash") (some hash)

/-- The loop of `verify_sqlite_audit_chain`, after `index` rows. -/
def verifyTableRows : Option String → Nat → List (TableRow × Json) →
    Except PyExc SQLiteAuditVerification
  | _, index, [] => .ok ⟨true, index, ""⟩
  | previousHash, index, (row, record) :: rest => do
      if ¬ (← row.goesOnFrom previousHash record) then
        return ⟨false, index, "previous hash mismatch"⟩
      let hash := eventHash std (linkValue previousHash) (← recordGet record "event")
      if ¬ (← row.hasHash hash record) then return ⟨false, index, "event hash mismatch"⟩
      verifyTableRows (some hash) (index + 1) rest

/-- `verify_sqlite_audit_chain`: what the database raises is a failed verification, and of what
`json.loads` raises, `JSONDecodeError` is. -/
def verifyTable : TableFile → Except PyExc SQLiteAuditVerification
  | .absent => .ok ⟨true, 0, ""⟩
  | .unreadable message => .ok ⟨false, 0, message⟩
  | .table rows =>
      match tableRows loads rows with
      | .error e => if e.typeName = "JSONDecodeError" then .ok ⟨false, 0, e.text⟩ else .error e
      | .ok parsed => verifyTableRows std none 0 parsed

/-- `verify_sqlite_audit_chain_rows`. -/
def verifyTableChainRows : Option String → List (TableRow × Json) → Bool
  | _, [] => true
  | previousHash, (row, .obj record) :: rest =>
      let hash := eventHash std (linkValue previousHash) (Record.get record "event")
      decide (row.previousHash = .ofHash previousHash)
        && isLink (Record.get record "previous_hash") previousHash
        && decide (row.eventHash = .text hash)
        && verifyTableChainRows (some hash) rest
  | _, _ :: _ => false

/-- The column and the record of a row show one hash, or both show none. -/
def ShowsOne (column : SqlValue) (value : Json) : Prop :=
  ∃ hash, column = .ofHash hash ∧ value = linkValue hash

/-- A row whose record serializes another previous hash or another event hash than its columns. -/
def Mismatched (row : TableRow × Json) : Prop :=
  ∃ record, row.2 = .obj record ∧
    (¬ ShowsOne row.1.previousHash (Record.get record "previous_hash")
      ∨ ¬ ShowsOne row.1.eventHash (Record.get record "event_hash"))

/-- **The verifiers of a table agree**: the one that reads the table returns, the one that is given
its parsed rows returns the same verdict, and a mismatched row fails both. -/
structure SqliteVerifiersAgree (rows : List TableRow) : Prop where
  total : ∃ result, verifyTable std loads (.table rows) = .ok result
  agree : ∀ parsed result, tableRows loads rows = .ok parsed →
    verifyTable std loads (.table rows) = .ok result →
      verifyTableChainRows std none parsed = result.ok
  detects : ∀ parsed, tableRows loads rows = .ok parsed → (∃ row ∈ parsed, Mismatched row) →
    (∀ result, verifyTable std loads (.table rows) = .ok result → result.ok = false)
      ∧ verifyTableChainRows std none parsed = false

/-- A parsed row of which all but the hash in its record is that of a link: what
`verify_sqlite_audit_chain_rows` compares. -/
structure ComparedOf (row : TableRow × Json) (link : Link String Json) : Prop where
  previous : row.1.previousHash = .ofHash link.previous
  hash : row.1.eventHash = .text link.hash
  record : ∃ record, row.2 = .obj record ∧ Record.get record "previous_hash" = linkValue link.previous
    ∧ Record.get record "event" = link.event

/-- The record of a row has a hash, where it is an object. -/
def Serializes (row : TableRow × Json) (hash : String) : Prop :=
  ∀ record, row.2 = .obj record → Record.get record "event_hash" = .str hash

/-- A parsed row that holds a link, in its columns and in its record. -/
def HoldsLink (row : TableRow × Json) (link : Link String Json) : Prop :=
  ComparedOf row link ∧ Serializes row link.hash

/-- **Only objects are reached**: a record is an object where the rows before it hold the links of
some events and its column goes on from them. -/
def ReachesObjects (previousHash : Option String) (parsed : List (TableRow × Json)) : Prop :=
  ∀ front row rest events, parsed = front ++ row :: rest →
    List.Forall₂ HoldsLink front (links (chainHash std) previousHash events) →
      row.1.previousHash = .ofHash (head (chainHash std) previousHash events) →
        ∃ record, row.2 = .obj record

/-- What `json.loads` raises first is a `JSONDecodeError`: it is no `TypeError`, say, of a column that
is no text. -/
def RefusedAsJson (rows : List TableRow) : Prop :=
  ∀ front row rest e, rows = front ++ row :: rest →
    (∀ earlier ∈ front, ∃ record, loads earlier.eventJson = .ok record) →
      loads row.eventJson = .error e → e.typeName = "JSONDecodeError"

/-- **What a table has to be like for its verifiers to agree.** -/
structure Checkable (rows : List TableRow) : Prop where
  refusals : RefusedAsJson loads rows
  objects : ∀ parsed, tableRows loads rows = .ok parsed → ReachesObjects std none parsed
  hashes : ∀ parsed events, tableRows loads rows = .ok parsed →
    List.Forall₂ ComparedOf parsed (links (chainHash std) none events) →
      List.Forall₂ HoldsLink parsed (links (chainHash std) none events)

end Table

section TableLemmas

variable {std : Stdlib} {loads : SqlValue → Except PyExc Json} {row : TableRow} {record : Json}
  {rest : List (TableRow × Json)} {previous : Option String} {index : Nat}

/-- The column and the record of a row go on from a hash. -/
theorem TableRow.goesOnFrom_eq_true :
    row.goesOnFrom previous record = .ok true ↔
      row.previousHash = .ofHash previous ∧
        ∃ entries, record = .obj entries ∧
          Record.get entries "previous_hash" = linkValue previous := by
  unfold TableRow.goesOnFrom
  by_cases same : row.previousHash = .ofHash previous
  · rw [if_neg (not_not.mpr same), except_bind_eq_ok]
    simp only [except_pure, Except.ok.injEq, isLink_iff, recordGet_eq_ok]
    constructor
    · rintro ⟨value, ⟨entries, object, rfl⟩, linked⟩
      exact ⟨same, entries, object, linked⟩
    · rintro ⟨-, entries, object, linked⟩
      exact ⟨_, ⟨entries, object, rfl⟩, linked⟩
  · rw [if_pos same]
    simp [same]

/-- The column and the record of a row have a hash. -/
theorem TableRow.hasHash_eq_true {hash : String} :
    row.hasHash hash record = .ok true ↔
      row.eventHash = .text hash ∧
        ∃ entries, record = .obj entries ∧ Record.get entries "event_hash" = .str hash := by
  unfold TableRow.hasHash
  by_cases same : row.eventHash = .text hash
  · rw [if_neg (not_not.mpr same), except_bind_eq_ok]
    simp only [except_pure, Except.ok.injEq, isLink_iff, recordGet_eq_ok]
    constructor
    · rintro ⟨value, ⟨entries, object, rfl⟩, linked⟩
      exact ⟨same, entries, object, linked⟩
    · rintro ⟨-, entries, object, linked⟩
      exact ⟨_, ⟨entries, object, rfl⟩, linked⟩
  · rw [if_pos same]
    simp [same]

/-- A row that holds a link is passed by the loop. -/
theorem verifyTableRows_holds {event : Json}
    (holds : HoldsLink (row, record) (linkOf std previous event)) :
    verifyTableRows std previous index ((row, record) :: rest)
      = verifyTableRows std (some (chainHash std previous event)) (index + 1) rest := by
  obtain ⟨⟨column, hashColumn, entries, object, linked, isEvent⟩, serializes⟩ := holds
  have object : record = .obj entries := object
  subst object
  have goesOn : row.goesOnFrom previous (.obj entries) = .ok true :=
    TableRow.goesOnFrom_eq_true.mpr ⟨column, entries, rfl, linked⟩
  have read : recordGet (.obj entries) "event" = .ok event :=
    recordGet_eq_ok.mpr ⟨entries, rfl, isEvent⟩
  have hashed : row.hasHash (eventHash std (linkValue previous) event) (.obj entries) = .ok true :=
    TableRow.hasHash_eq_true.mpr ⟨hashColumn, entries, rfl, serializes entries rfl⟩
  rw [verifyTableRows, goesOn, except_ok_bind, if_neg (not_not.mpr rfl), read, except_ok_bind]
  dsimp only
  rw [hashed, except_ok_bind, if_neg (not_not.mpr rfl)]
  rfl

/-- An object that holds no link fails the loop: nothing is raised. -/
theorem verifyTableRows_object {entries : Record}
    (fails : ¬ HoldsLink (row, .obj entries) (linkOf std previous (Record.get entries "event"))) :
    ∃ reason, verifyTableRows std previous index ((row, .obj entries) :: rest)
      = .ok ⟨false, index, reason⟩ := by
  have read (key : String) : recordGet (.obj entries) key = .ok (Record.get entries key) := rfl
  by_cases column : row.previousHash = .ofHash previous
  · have goesOn : row.goesOnFrom previous (.obj entries)
        = .ok (isLink (Record.get entries "previous_hash") previous) := by
      rw [TableRow.goesOnFrom, if_neg (not_not.mpr column)]
      rfl
    cases linked : isLink (Record.get entries "previous_hash") previous with
    | false =>
        rw [linked] at goesOn
        refine ⟨"previous hash mismatch", ?_⟩
        rw [verifyTableRows, goesOn]
        rfl
    | true =>
        rw [linked] at goesOn
        refine ⟨"event hash mismatch", ?_⟩
        rw [verifyTableRows, goesOn, except_ok_bind, if_neg (not_not.mpr rfl), read, except_ok_bind]
        dsimp only
        have hashed : row.hasHash (eventHash std (linkValue previous) (Record.get entries "event"))
            (.obj entries) = .ok false := by
          by_cases own : row.eventHash
              = .text (eventHash std (linkValue previous) (Record.get entries "event"))
          · rw [TableRow.hasHash, if_neg (not_not.mpr own), read]
            refine congrArg Except.ok (Bool.eq_false_iff.mpr fun isOwn => fails ⟨?_, ?_⟩)
            · exact ⟨column, own, entries, rfl, isLink_iff.mp linked, rfl⟩
            · rintro _ ⟨⟩
              exact isLink_iff.mp isOwn
          · rw [TableRow.hasHash, if_pos own]
        rw [hashed]
        rfl
  · refine ⟨"previous hash mismatch", ?_⟩
    rw [verifyTableRows, TableRow.goesOnFrom, if_pos column]
    rfl

/-- What is no object raises where the column goes on, and fails the loop elsewhere. -/
theorem verifyTableRows_noObject (none : ¬ ∃ entries, record = .obj entries) :
    (row.previousHash = .ofHash previous →
        ∃ e, verifyTableRows std previous index ((row, record) :: rest) = .error e)
      ∧ (row.previousHash ≠ .ofHash previous →
        ∃ reason, verifyTableRows std previous index ((row, record) :: rest)
          = .ok ⟨false, index, reason⟩) := by
  have raises (key : String) : ∃ e, recordGet record key = .error e := by
    cases record with
    | obj entries => exact absurd ⟨entries, rfl⟩ none
    | null | bool | int | float | str | list => exact ⟨_, rfl⟩
  constructor
  · intro column
    obtain ⟨e, raised⟩ := raises "previous_hash"
    refine ⟨e, ?_⟩
    rw [verifyTableRows, TableRow.goesOnFrom, if_neg (not_not.mpr column), raised]
    rfl
  · intro column
    refine ⟨"previous hash mismatch", ?_⟩
    rw [verifyTableRows, TableRow.goesOnFrom, if_pos column]
    rfl

/-- What is behind a row that holds a link is reached from the link. -/
theorem reachesObjects_holds {entries : Record}
    (holds : HoldsLink (row, .obj entries) (linkOf std previous (Record.get entries "event"))) :
    ReachesObjects std previous ((row, .obj entries) :: rest) ↔
      ReachesObjects std (some (chainHash std previous (Record.get entries "event"))) rest := by
  constructor
  · rintro reaches front other others events rfl held column
    exact reaches ((row, .obj entries) :: front) other others
      (Record.get entries "event" :: events) rfl (.cons holds held) column
  · intro reaches front other others events split held column
    cases front with
    | nil =>
        cases split
        exact ⟨entries, rfl⟩
    | cons first front =>
        cases split
        cases events with
        | nil => cases held
        | cons event events =>
            obtain ⟨⟨compared, -⟩, later⟩ := List.forall₂_cons.mp held
            obtain ⟨same, object, -, isEvent⟩ := compared.record
            cases object
            have isEvent : Record.get entries "event" = event := isEvent
            rw [isEvent] at reaches
            exact reaches front other others events rfl later column

/-- Nothing is reached behind a row that holds no link. -/
theorem reachesObjects_cons {parsed : TableRow × Json}
    (fails : ∀ event, ¬ HoldsLink parsed (linkOf std previous event)) :
    ReachesObjects std previous (parsed :: rest) ↔
      (parsed.1.previousHash = .ofHash previous → ∃ entries, parsed.2 = .obj entries) := by
  constructor
  · intro reaches
    exact reaches [] parsed rest [] rfl .nil
  · intro first front other others events split held column
    cases front with
    | nil =>
        cases split
        cases events with
        | nil => exact first column
        | cons event events => cases held
    | cons head front =>
        cases split
        cases events with
        | nil => cases held
        | cons event events => exact absurd (List.forall₂_cons.mp held).1 (fails event)

theorem holdsLink_event {entries : Record} {event : Json}
    (holds : HoldsLink (row, .obj entries) (linkOf std previous event)) :
    Record.get entries "event" = event := by
  obtain ⟨_, object, -, isEvent⟩ := holds.1.record
  cases object
  exact isEvent

/-- **When the loop returns**: where it reaches objects only. -/
theorem verifyTableRows_total {parsed : List (TableRow × Json)} :
    (∃ result, verifyTableRows std previous index parsed = .ok result) ↔
      ReachesObjects std previous parsed := by
  induction parsed generalizing previous index with
  | nil =>
      refine iff_of_true ⟨_, rfl⟩ fun front row rest events split => ?_
      exact absurd split.symm (List.append_ne_nil_of_right_ne_nil front (List.cons_ne_nil row rest))
  | cons first rest ih =>
      obtain ⟨row, record⟩ := first
      by_cases object : ∃ entries, record = .obj entries
      · obtain ⟨entries, rfl⟩ := object
        by_cases holds : HoldsLink (row, .obj entries)
            (linkOf std previous (Record.get entries "event"))
        · rw [verifyTableRows_holds holds, reachesObjects_holds holds]
          exact ih
        · have fails (event : Json) : ¬ HoldsLink (row, .obj entries) (linkOf std previous event) :=
            fun held => holds (holdsLink_event held ▸ held)
          obtain ⟨reason, failed⟩ := @verifyTableRows_object std row rest previous index entries holds
          rw [failed]
          exact iff_of_true ⟨_, rfl⟩ ((reachesObjects_cons fails).mpr fun _ => ⟨entries, rfl⟩)
      · have fails (event : Json) : ¬ HoldsLink (row, record) (linkOf std previous event) := by
          intro held
          obtain ⟨entries, isObject, -⟩ := held.1.record
          exact object ⟨entries, isObject⟩
        obtain ⟨raises, returns⟩ :=
          @verifyTableRows_noObject std row record rest previous index object
        rw [reachesObjects_cons fails]
        by_cases column : row.previousHash = .ofHash previous
        · obtain ⟨e, raised⟩ := raises column
          rw [raised]
          refine iff_of_false (fun ⟨_, returned⟩ => nomatch returned) fun reached => ?_
          exact object (reached column)
        · obtain ⟨reason, returned⟩ := returns column
          exact iff_of_true ⟨_, returned⟩ fun same => absurd same column

/-- **What the loop accepts**: rows that hold the links some events make. -/
theorem verifyTableRows_ok {parsed : List (TableRow × Json)} {result : SQLiteAuditVerification}
    (returned : verifyTableRows std previous index parsed = .ok result) :
    result.ok = true ↔
      ∃ events, List.Forall₂ HoldsLink parsed (links (chainHash std) previous events) := by
  induction parsed generalizing previous index with
  | nil =>
      cases returned
      exact iff_of_true rfl ⟨[], .nil⟩
  | cons first rest ih =>
      obtain ⟨row, record⟩ := first
      by_cases held : ∃ event, HoldsLink (row, record) (linkOf std previous event)
      · obtain ⟨event, holds⟩ := held
        rw [verifyTableRows_holds holds] at returned
        rw [ih returned]
        constructor
        · rintro ⟨events, later⟩
          exact ⟨event :: events, .cons holds later⟩
        · rintro ⟨events, all⟩
          cases events with
          | nil => cases all
          | cons other events =>
              obtain ⟨again, later⟩ := List.forall₂_cons.mp all
              obtain ⟨entries, object, -⟩ := holds.1.record
              have object : record = .obj entries := object
              subst object
              have same : event = other :=
                (holdsLink_event holds).symm.trans (holdsLink_event again)
              rw [same]
              exact ⟨events, later⟩
      · have failed : result.ok = false := by
          by_cases object : ∃ entries, record = .obj entries
          · obtain ⟨entries, rfl⟩ := object
            obtain ⟨reason, failed⟩ := @verifyTableRows_object std row rest previous index entries
              fun holds => held ⟨_, holds⟩
            rw [failed] at returned
            cases returned
            rfl
          · obtain ⟨raises, returns⟩ :=
              @verifyTableRows_noObject std row record rest previous index object
            by_cases column : row.previousHash = .ofHash previous
            · obtain ⟨e, raised⟩ := raises column
              rw [raised] at returned
              cases returned
            · obtain ⟨reason, failed⟩ := returns column
              rw [failed] at returned
              cases returned
              rfl
        refine iff_of_false (by rw [failed]; exact Bool.false_ne_true) ?_
        rintro ⟨events, all⟩
        cases events with
        | nil => cases all
        | cons event events => exact held ⟨event, (List.forall₂_cons.mp all).1⟩

/-- **What the loop over parsed rows accepts**: it never looks at the hash in a record. -/
theorem verifyTableChainRows_iff {parsed : List (TableRow × Json)} :
    verifyTableChainRows std previous parsed = true ↔
      ∃ events, List.Forall₂ ComparedOf parsed (links (chainHash std) previous events) := by
  induction parsed generalizing previous with
  | nil => exact iff_of_true rfl ⟨[], .nil⟩
  | cons first rest ih =>
      obtain ⟨row, record⟩ := first
      constructor
      · intro accepted
        cases record with
        | obj entries =>
            simp only [verifyTableChainRows, Bool.and_eq_true, decide_eq_true_eq,
              isLink_iff] at accepted
            obtain ⟨⟨⟨column, linked⟩, own⟩, later⟩ := accepted
            obtain ⟨events, later⟩ := ih.mp later
            exact ⟨Record.get entries "event" :: events,
              .cons ⟨column, own, entries, rfl, linked, rfl⟩ later⟩
        | null | bool | int | float | str | list => cases accepted
      · rintro ⟨events, all⟩
        cases events with
        | nil => cases all
        | cons event events =>
            obtain ⟨⟨column, own, entries, object, linked, isEvent⟩, later⟩ :=
              List.forall₂_cons.mp all
            have object : record = .obj entries := object
            subst object
            simp only [verifyTableChainRows, Bool.and_eq_true, decide_eq_true_eq, isLink_iff]
            refine ⟨⟨⟨column, linked⟩, ?_⟩, ih.mpr ⟨events, ?_⟩⟩
            · rw [isEvent]
              exact own
            · rw [isEvent]
              exact later

/-- The events of rows are those in their records. -/
theorem comparedOf_inj {parsed : List (TableRow × Json)} {events others : List Json}
    (compared : List.Forall₂ ComparedOf parsed (links (chainHash std) previous events))
    (again : List.Forall₂ ComparedOf parsed (links (chainHash std) previous others)) :
    events = others := by
  induction events generalizing parsed previous others with
  | nil =>
      cases compared
      cases others with
      | nil => rfl
      | cons other others => cases again
  | cons event events ih =>
      cases compared with
      | cons first compared =>
      cases others with
      | nil => cases again
      | cons other others =>
          obtain ⟨second, again⟩ := List.forall₂_cons.mp again
          obtain ⟨entries, object, -, isEvent⟩ := first.record
          obtain ⟨entries', object', -, isOther⟩ := second.record
          rw [object] at object'
          cases object'
          have same : event = other := isEvent.symm.trans isOther
          subst same
          rw [ih compared again]

/-- A row that holds a link shows its hashes in its columns and in its record. -/
theorem HoldsLink.not_mismatched {parsed : TableRow × Json} {link : Link String Json}
    (holds : HoldsLink parsed link) : ¬ Mismatched parsed := by
  rintro ⟨entries, object, differs⟩
  obtain ⟨same, isObject, linked, -⟩ := holds.1.record
  rw [object] at isObject
  cases isObject
  refine differs.elim (fun differs => differs ?_) fun differs => differs ?_
  · exact ⟨link.previous, holds.1.previous, linked⟩
  · exact ⟨some link.hash, holds.1.hash, holds.2 entries object⟩

/-- Rows that hold links are not mismatched. -/
theorem not_mismatched_of_holds {parsed : List (TableRow × Json)} {chain : List (Link String Json)}
    (holds : List.Forall₂ HoldsLink parsed chain) : ∀ row ∈ parsed, ¬ Mismatched row := by
  induction holds with
  | nil => exact fun _ member => nomatch member
  | cons first _ ih =>
      intro row member
      rcases List.mem_cons.mp member with rfl | later
      · exact first.not_mismatched
      · exact ih row later

/-- What `_sqlite_rows` raises is what `json.loads` raises first. -/
theorem refusedAsJson_iff {rows : List TableRow} :
    RefusedAsJson loads rows ↔
      ∀ e, tableRows loads rows = .error e → e.typeName = "JSONDecodeError" := by
  induction rows with
  | nil =>
      refine iff_of_true (fun front row rest e split => ?_) fun e raised => nomatch raised
      exact absurd split.symm (List.append_ne_nil_of_right_ne_nil front (List.cons_ne_nil row rest))
  | cons first rest ih =>
      cases read : loads first.eventJson with
      | error e =>
          have raised : tableRows loads (first :: rest) = .error e := by
            rw [tableRows, read]
            rfl
          rw [raised]
          constructor
          · rintro refused _ ⟨⟩
            exact refused [] first rest e rfl (fun _ member => nomatch member) read
          · intro named front row others e' split earlier found
            cases front with
            | nil =>
                cases split
                rw [read] at found
                cases found
                exact named e rfl
            | cons other front =>
                cases split
                obtain ⟨record, loaded⟩ := earlier _ List.mem_cons_self
                rw [read] at loaded
                cases loaded
      | ok record =>
          have raised (e : PyExc) :
              tableRows loads (first :: rest) = .error e ↔ tableRows loads rest = .error e := by
            rw [tableRows, read, except_ok_bind]
            cases tableRows loads rest <;> simp [bind, Except.bind, pure, Except.pure]
          simp only [raised]
          rw [← ih]
          constructor
          · intro refused front row others e split earlier
            refine refused (first :: front) row others e (by rw [split]; rfl) ?_
            intro other member
            rcases List.mem_cons.mp member with rfl | member
            · exact ⟨record, read⟩
            · exact earlier other member
          · intro refused front row others e split earlier found
            cases front with
            | nil =>
                cases split
                rw [read] at found
                cases found
            | cons other front =>
                cases split
                exact refused front row others e rfl
                  (fun other member => earlier other (List.mem_cons_of_mem _ member)) found

theorem verifyTable_parsed {rows : List TableRow} {parsed : List (TableRow × Json)}
    (read : tableRows loads rows = .ok parsed) :
    verifyTable std loads (.table rows) = verifyTableRows std none 0 parsed := by
  simp only [verifyTable, read]

end TableLemmas

/-- **The verifiers of a table agree** exactly where `json.loads` refuses no column but as broken
JSON, no verification reaches what is no object, and no record has another hash than its column
where all else of every row continues the chain: `verify_sqlite_audit_chain_rows` does not compare
the hash in the record. -/
theorem sqliteVerifiersAgree_iff (std : Stdlib) (loads : SqlValue → Except PyExc Json)
    (rows : List TableRow) : SqliteVerifiersAgree std loads rows ↔ Checkable std loads rows := by
  constructor
  · rintro ⟨total, agree, -⟩
    refine ⟨refusedAsJson_iff.mpr fun e raised => ?_, fun parsed read => ?_,
      fun parsed events read compared => ?_⟩
    · obtain ⟨result, returned⟩ := total
      by_contra other
      simp only [verifyTable, raised, if_neg other] at returned
      cases returned
    · rw [verifyTable_parsed read] at total
      exact verifyTableRows_total.mp total
    · obtain ⟨result, returned⟩ := total
      have accepted : verifyTableChainRows std none parsed = true :=
        verifyTableChainRows_iff.mpr ⟨events, compared⟩
      rw [agree parsed result read returned] at accepted
      rw [verifyTable_parsed read] at returned
      obtain ⟨others, holds⟩ := (verifyTableRows_ok returned).mp accepted
      rw [comparedOf_inj compared (holds.imp fun _ _ held => held.1)]
      exact holds
  · intro ⟨refusals, objects, hashes⟩
    have agree (parsed : List (TableRow × Json)) (result : SQLiteAuditVerification)
        (read : tableRows loads rows = .ok parsed)
        (returned : verifyTable std loads (.table rows) = .ok result) :
        verifyTableChainRows std none parsed = result.ok := by
      rw [verifyTable_parsed read] at returned
      rw [Bool.eq_iff_iff, verifyTableChainRows_iff, verifyTableRows_ok returned]
      constructor
      · rintro ⟨events, compared⟩
        exact ⟨events, hashes parsed events read compared⟩
      · rintro ⟨events, holds⟩
        exact ⟨events, holds.imp fun _ _ held => held.1⟩
    have total : ∃ result, verifyTable std loads (.table rows) = .ok result := by
      cases read : tableRows loads rows with
      | error e =>
          have named := refusedAsJson_iff.mp refusals e read
          refine ⟨⟨false, 0, e.text⟩, ?_⟩
          simp only [verifyTable, read, if_pos named]
      | ok parsed =>
          rw [verifyTable_parsed read]
          exact verifyTableRows_total.mpr (objects parsed read)
    refine ⟨total, agree, fun parsed read mismatch => ?_⟩
    have fails (result : SQLiteAuditVerification)
        (returned : verifyTable std loads (.table rows) = .ok result) : result.ok = false := by
      rw [verifyTable_parsed read] at returned
      rw [Bool.eq_false_iff, ne_eq, verifyTableRows_ok returned]
      rintro ⟨events, holds⟩
      obtain ⟨row, member, differs⟩ := mismatch
      exact not_mismatched_of_holds holds row member differs
    obtain ⟨result, returned⟩ := total
    exact ⟨fails, (agree parsed result read returned).trans (fails result returned)⟩

namespace Deployment

/-- `json.loads` of a column that is a text. -/
def textLoads : SqlValue → Except PyExc Json
  | .text line => loadsLine auditLibrary line
  | _ => .error (.typeError "the JSON object must be str, bytes or bytearray")

/-- A row whose record names no hash at all, beside columns that continue the chain. -/
def bareRow : TableRow :=
  ⟨.null, .text (chainHash auditLibrary.toStdlib none .null), .text (Json.dumps (.obj []))⟩

/-- A row whose record is a list. -/
def listRow : TableRow := ⟨.null, .text "", .text (Json.dumps (.list []))⟩

theorem tableRows_dumps (value : Json) (readable : Lib.Json.Readable auditLibrary.readFloat value)
    {row : TableRow} (column : row.eventJson = .text (Json.dumps value)) :
    tableRows textLoads [row] = .ok [(row, Json.norm value)] := by
  have read : textLoads row.eventJson = .ok (Json.norm value) := by
    rw [column]
    have loaded := @Json.loads_dumps auditLibrary.readFloat value readable "" rfl
    rw [String.append_empty] at loaded
    exact grammarLoads_eq_ok.mpr loaded
  rw [tableRows, read]
  rfl

end Deployment

open Deployment in
/-- **The verifiers of a table disagree** on a record without a hash, which only one of them compares,
and one of them raises on a record that is no object. -/
theorem not_sqliteVerifiersAgree :
    ¬ SqliteVerifiersAgree auditLibrary.toStdlib textLoads [bareRow]
      ∧ ¬ SqliteVerifiersAgree auditLibrary.toStdlib textLoads [listRow] := by
  constructor
  · rintro ⟨total, agree, -⟩
    have read : tableRows textLoads [bareRow] = .ok [(bareRow, .obj [])] :=
      tableRows_dumps (.obj []) ⟨List.nodup_nil, trivial⟩ rfl
    obtain ⟨result, returned⟩ := total
    have compared : ComparedOf (bareRow, .obj []) (linkOf auditLibrary.toStdlib none .null) :=
      ⟨rfl, by simp only [bareRow, linkOf], [], rfl, rfl, rfl⟩
    have accepted : verifyTableChainRows auditLibrary.toStdlib none [(bareRow, .obj [])] = true :=
      verifyTableChainRows_iff.mpr ⟨[.null], .cons compared .nil⟩
    rw [agree _ _ read returned] at accepted
    rw [verifyTable_parsed read] at returned
    obtain ⟨events, holds⟩ := (verifyTableRows_ok returned).mp accepted
    cases events with
    | nil => cases holds
    | cons event events =>
        have serialized := (List.forall₂_cons.mp holds).1.2 [] rfl
        cases serialized
  · rintro ⟨total, -, -⟩
    have read : tableRows textLoads [listRow] = .ok [(listRow, .list [])] :=
      tableRows_dumps (.list []) trivial rfl
    rw [verifyTable_parsed read] at total
    obtain ⟨entries, object⟩ := verifyTableRows_total.mp total [] _ [] [] rfl .nil rfl
    cases object

end AgenticKVM
