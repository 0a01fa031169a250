import AgenticKVM.AuditCheckpoint

/-! # Two verifiers of a log

A log's hash chain is checked by two loops that were written apart: `verify_audit_chain` reads the
lines of the file, `verify_audit_chain_records` the records that `_read_records` loaded from it. They
agree, and the first raises nothing, exactly where no verification reaches a line that is no object
(`jsonlVerifiersAgree_iff`). -/

namespace AgenticKVM

open Lib (Json except_ok_bind)
open Lib.HashChain (links)

/-! ## The lines of a log -/

section Jsonl

variable (lib : AuditLibrary)

/-- The verdict `verify_audit_chain_records` gives on what `_read_records` reads of some lines: false
where that refuses them. -/
def linesVerdict (refusal : PyExc) (previousHash : Option String) (lines : List String) : Bool :=
  match recordsOfLines lib refusal lines with
  | .ok records => verifyAuditChainRecords lib.toStdlib previousHash records
  | .error _ => false

/-- The verdict `verify_audit_chain_records` gives on the records of a file. -/
def recordsVerdict (file : LogFile) : Bool :=
  match readRecords lib file with
  | .ok records => verifyAuditChainRecords lib.toStdlib none records
  | .error _ => false

/-- `verify_audit_chain` returns, and with the verdict on the loaded records. -/
def JsonlVerifiersAgree (file : LogFile) : Prop :=
  verifyAuditChain lib file = .ok (recordsVerdict lib file)

/-- A line that `json.loads` reads as an object: none that is blank, broken or another value. -/
def IsRecordLine (line : String) : Prop := ∃ record, recordOfLine lib line = .ok record

/-- **Only objects are reached**: a line is an object where those before it hold the links that some
events make. -/
def ReachesRecords (previousHash : Option String) (lines : List String) : Prop :=
  ∀ front line rest events, lines = front ++ line :: rest →
    List.Forall₂ (LineOf lib) front (links (chainHash lib.toStdlib) previousHash events) →
      IsRecordLine lib line

end Jsonl

section JsonlLemmas

variable {lib : AuditLibrary} {line : String} {record : Record} {rest : List String}
  {previous : Option String}

/-- A record goes on from a hash: it names the hash, and its own is that of its event. -/
def GoesOn (std : Stdlib) (previous : Option String) (record : Record) : Prop :=
  record.get "previous_hash" = linkValue previous
    ∧ record.get "event_hash" = .str (chainHash std previous (record.get "event"))

/-- A record is of a link exactly where it goes on from the hash before the link. -/
theorem goesOn_of_lineOf {event : Json} (read : recordOfLine lib line = .ok record)
    (holds : LineOf lib line (linkOf lib.toStdlib previous event)) :
    GoesOn lib.toStdlib previous record := by
  obtain ⟨same, isRead, isRecord⟩ := holds
  rw [read] at isRead
  cases isRead
  refine ⟨isRecord.previous, isRecord.hash.trans ?_⟩
  rw [isRecord.event]
  rfl

/-- The check of a record that goes on from the hash is that of the lines after it. -/
theorem verifyLines_goesOn (read : recordOfLine lib line = .ok record)
    (goesOn : GoesOn lib.toStdlib previous record) :
    verifyLines lib previous (line :: rest)
      = verifyLines lib (some (chainHash lib.toStdlib previous (record.get "event"))) rest := by
  have linked : isLink (record.get "previous_hash") previous = true := isLink_iff.mpr goesOn.1
  have own : isLink (record.get "event_hash")
      (some (chainHash lib.toStdlib previous (record.get "event"))) = true := isLink_iff.mpr goesOn.2
  rw [verifyLines, read, except_ok_bind]
  dsimp only
  rw [if_neg (not_not.mpr linked), goesOn.1]
  exact if_neg (not_not.mpr own)

/-- A record that does not go on from the hash ends the check. -/
theorem verifyLines_broken (read : recordOfLine lib line = .ok record)
    (broken : ¬ GoesOn lib.toStdlib previous record) :
    verifyLines lib previous (line :: rest) = .ok false := by
  rw [verifyLines, read, except_ok_bind]
  dsimp only
  by_cases linked : isLink (record.get "previous_hash") previous = true
  · have isPrevious := isLink_iff.mp linked
    rw [if_neg (not_not.mpr linked), isPrevious]
    refine if_pos fun own => broken ⟨isPrevious, ?_⟩
    exact isLink_iff.mp own
  · exact if_pos linked

/-- The loaded records of lines are checked one by one. -/
theorem linesVerdict_cons (refusal : PyExc) (read : recordOfLine lib line = .ok record) :
    linesVerdict lib refusal previous (line :: rest)
      = (isLink (record.get "previous_hash") previous
        && isLink (record.get "event_hash") (some (eventHash lib.toStdlib
            (record.get "previous_hash") (record.get "event")))
        && linesVerdict lib refusal (some (eventHash lib.toStdlib
            (record.get "previous_hash") (record.get "event"))) rest) := by
  obtain ⟨loaded, visible⟩ := recordOfLine_eq_ok read
  unfold linesVerdict
  rw [recordsOfLines, if_neg visible, loaded, except_ok_bind]
  cases later : recordsOfLines lib refusal rest with
  | error e => exact (Bool.and_false _).symm
  | ok records => rfl

theorem linesVerdict_goesOn (refusal : PyExc) (read : recordOfLine lib line = .ok record)
    (goesOn : GoesOn lib.toStdlib previous record) :
    linesVerdict lib refusal previous (line :: rest)
      = linesVerdict lib refusal
          (some (chainHash lib.toStdlib previous (record.get "event"))) rest := by
  have linked : isLink (record.get "previous_hash") previous = true := isLink_iff.mpr goesOn.1
  have own : isLink (record.get "event_hash")
      (some (chainHash lib.toStdlib previous (record.get "event"))) = true := isLink_iff.mpr goesOn.2
  rw [linesVerdict_cons refusal read, linked, goesOn.1, Bool.true_and]
  exact (congrArg (· && _) own).trans (Bool.true_and _)

theorem linesVerdict_broken (refusal : PyExc) (read : recordOfLine lib line = .ok record)
    (broken : ¬ GoesOn lib.toStdlib previous record) :
    linesVerdict lib refusal previous (line :: rest) = false := by
  rw [linesVerdict_cons refusal read, Bool.eq_false_iff]
  intro accepted
  rw [Bool.and_eq_true, Bool.and_eq_true, isLink_iff, isLink_iff] at accepted
  obtain ⟨⟨linked, own⟩, -⟩ := accepted
  rw [linked] at own
  exact broken ⟨linked, own⟩

/-- A record that goes on from the hash is passed, and what is reached is reached from it. -/
theorem reachesRecords_goesOn (read : recordOfLine lib line = .ok record)
    (goesOn : GoesOn lib.toStdlib previous record) :
    ReachesRecords lib previous (line :: rest) ↔
      ReachesRecords lib (some (chainHash lib.toStdlib previous (record.get "event"))) rest := by
  have isLine : LineOf lib line (linkOf lib.toStdlib previous (record.get "event")) :=
    ⟨record, read, goesOn.1, rfl, goesOn.2⟩
  constructor
  · rintro reaches front other others events rfl holds
    exact reaches (line :: front) other others (record.get "event" :: events) rfl
      (.cons isLine holds)
  · intro reaches front other others events split holds
    cases front with
    | nil =>
        cases split
        exact ⟨record, read⟩
    | cons first front =>
        cases split
        cases events with
        | nil => cases holds
        | cons event events =>
            obtain ⟨⟨same, isRead, isRecord⟩, later⟩ := List.forall₂_cons.mp holds
            rw [read] at isRead
            cases isRead
            have isEvent : record.get "event" = event := isRecord.event
            rw [isEvent] at reaches
            exact reaches front other others events rfl later

/-- Nothing is reached behind a record that does not go on from the hash. -/
theorem reachesRecords_broken (read : recordOfLine lib line = .ok record)
    (broken : ¬ GoesOn lib.toStdlib previous record) :
    ReachesRecords lib previous (line :: rest) := by
  intro front other others events split holds
  cases front with
  | nil =>
      cases split
      exact ⟨record, read⟩
  | cons first front =>
      cases split
      cases events with
      | nil => cases holds
      | cons event events =>
          exact absurd (goesOn_of_lineOf read (List.forall₂_cons.mp holds).1) broken

/-- The two loops over some lines agree exactly where they reach objects only. -/
theorem verifyLines_eq_iff (refusal : PyExc) {lines : List String} :
    verifyLines lib previous lines = .ok (linesVerdict lib refusal previous lines) ↔
      ReachesRecords lib previous lines := by
  induction lines generalizing previous with
  | nil =>
      refine iff_of_true rfl fun front line rest events split => ?_
      exact absurd split.symm (List.append_ne_nil_of_right_ne_nil front (List.cons_ne_nil line rest))
  | cons line rest ih =>
      cases read : recordOfLine lib line with
      | error e =>
          -- The first loop raises here, whatever the second makes of the line.
          have raised : verifyLines lib previous (line :: rest) = .error e := by
            rw [verifyLines, read]
            rfl
          refine iff_of_false (fun same => by cases raised.symm.trans same) fun reaches => ?_
          obtain ⟨record, isRead⟩ := reaches [] line rest [] rfl .nil
          rw [read] at isRead
          cases isRead
      | ok record =>
          by_cases goesOn : GoesOn lib.toStdlib previous record
          · rw [verifyLines_goesOn read goesOn, linesVerdict_goesOn refusal read goesOn,
              reachesRecords_goesOn read goesOn]
            exact ih
          · have refused : linesVerdict lib refusal previous (line :: rest) = false :=
              linesVerdict_broken refusal read goesOn
            rw [verifyLines_broken read goesOn, refused]
            exact iff_of_true rfl (reachesRecords_broken read goesOn)

/-- The lines of a text. -/
def textLines (content : String) : List String :=
  (Lib.textLines content.toList).map String.ofList

theorem recordsVerdict_text (content : String) :
    recordsVerdict lib (.text content)
      = linesVerdict lib (checkpointError "audit record must be an object") none
          (textLines content) := rfl

end JsonlLemmas

/-- **The verifiers of a log agree** exactly where they reach no line that is no object: behind lines
that hold the links of some events, `verify_audit_chain` raises on a blank line, on broken JSON and
on any other value, where the reader of `verify_audit_chain_records` skips the line or refuses it. -/
theorem jsonlVerifiersAgree_iff (lib : AuditLibrary) (content : String) :
    JsonlVerifiersAgree lib (.text content) ↔ ReachesRecords lib none (textLines content) :=
  verifyLines_eq_iff _

/-- **A blank line crashes the verifier of the file**, where the reader of the other one skips it. -/
theorem not_jsonlVerifiersAgree :
    verifyAuditChain Deployment.auditLibrary (.text "\n")
        = .error (.other "JSONDecodeError" "Expecting value")
      ∧ recordsVerdict Deployment.auditLibrary (.text "\n") = true
      ∧ ¬ JsonlVerifiersAgree Deployment.auditLibrary (.text "\n") := by
  have lines : textLines "\n" = ["\n"] := by decide
  have blank : strip "\n" = "" := by decide
  have unread : loadsLine Deployment.auditLibrary "\n"
      = .error (.other "JSONDecodeError" "Expecting value") := by
    change grammarLoads id "\n" = _
    rw [grammarLoads, loads_blank blank]
  have raised : verifyAuditChain Deployment.auditLibrary (.text "\n")
      = .error (.other "JSONDecodeError" "Expecting value") := by
    have read : LogFile.lines (.text "\n") = .ok (textLines "\n") := rfl
    rw [verifyAuditChain, read, lines, except_ok_bind, verifyLines, recordOfLine, unread]
    rfl
  refine ⟨raised, ?_, ?_⟩
  · rw [recordsVerdict_text, lines, linesVerdict, recordsOfLines, if_pos blank]
    rfl
  · rw [JsonlVerifiersAgree, raised]
    intro same
    cases same

end AgenticKVM
