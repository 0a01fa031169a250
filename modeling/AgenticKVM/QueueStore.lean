import AgenticKVM.QueueDecisions

/-! # The queue as an approval store

The control plane is given the grants that are made of the queue's approved records
(`to_approval_store`); after the provider has been called, the queue searches its records for the one
to consume (`mark_matching_consumed`). The two searches are written separately and find the same
record in every queue that was built by the queue's own operations, so that each round of finding,
executing and marking uses up a record of its own (`queue_store_agree`). -/

namespace AgenticKVM

open Lib (Json except_bind_eq_ok except_ok_bind except_pure)

section Store

variable (lib : AuditLibrary)

/-- The loop of `to_approval_store`, with the clock at each record. -/
def approvedGrants (clock : Nat → Datetime) :
    Nat → List LocalApprovalRecord → Except PyExc (List ApprovalGrant)
  | _, [] => .ok []
  | index, record :: rest => do
      let grant ← record.approvedGrant (clock index)
      let later ← approvedGrants clock (index + 1) rest
      return grant.toList ++ later

/-- `to_approval_store`. -/
def QueueFile.toApprovalStore (file : QueueFile) (clock : Nat → Datetime) :
    Except PyExc ApprovalStore := do
  let records ← file.loadRecords lib
  let grants ← approvedGrants clock 0 records
  return grants.foldl ApprovalStore.addActionGrant .empty

/-- `to_approval_store().find_action_grant(...)`, at one reading of the clock. -/
def QueueFile.findActionGrant (file : QueueFile) (action : ActionBinding) (now : Datetime) :
    Except PyExc (Option ApprovalGrant) := do
  let store ← file.toApprovalStore lib fun _ => now
  store.findActionGrant action now

end Store

/-! ## What grants are made of -/

namespace LocalApprovalRecord

/-- An approved record that has what a grant is made of. -/
def Granting (record : LocalApprovalRecord) : Prop :=
  record.status = .approved →
    record.scope.isSome ∧ record.operatorId.isSome ∧ record.responseId.isSome

variable {record : LocalApprovalRecord} {action : ActionBinding} {now : Datetime}

/-- **The grant of a record** is made of an approved record whose time lies ahead, under its
identifier and for its scope; it matches what the record matches. -/
theorem approvedGrant_some {grant : ApprovalGrant}
    (made : record.approvedGrant now = .ok (some grant)) :
    record.status = .approved ∧ record.scope = some grant.scope ∧ grant.requestId = record.id
      ∧ record.matchesAction action now = grant.matches action now := by
  unfold approvedGrant at made
  split at made
  · next scope operatorId responseId status isScope _ _ =>
    obtain ⟨late, -, made⟩ := except_bind_eq_ok.mp made
    split_ifs at made
    all_goals cases made
    refine ⟨status, isScope, rfl, ?_⟩
    have same : (record.status = .approved ∧ record.capabilityId = action.capabilityId
        ∧ record.sessionId = action.sessionId ∧ record.targetId = action.targetId
        ∧ record.providerId = action.providerId
        ∧ record.paramsFingerprint = action.paramsFingerprint)
        ↔ action = ⟨record.capabilityId, record.sessionId, record.targetId, record.providerId,
          record.paramsFingerprint⟩ := by
      obtain ⟨capability, session, target, provider, fingerprint⟩ := action
      simp only [status, true_and, ActionBinding.mk.injEq]
      constructor
      · rintro ⟨a, b, c, d, e⟩
        exact ⟨a.symm, b.symm, c.symm, d.symm, e.symm⟩
      · rintro ⟨a, b, c, d, e⟩
        exact ⟨a.symm, b.symm, c.symm, d.symm, e.symm⟩
    unfold matchesAction ApprovalGrant.matches
    exact if_congr same rfl rfl
  · cases made

/-- A record no grant is made of matches nothing. -/
theorem matchesAction_of_ungranted (granting : record.Granting)
    (made : record.approvedGrant now = .ok none) : record.matchesAction action now = .ok false := by
  unfold matchesAction
  split_ifs with bound
  · have status := bound.1
    obtain ⟨hasScope, hasOperator, hasResponse⟩ := granting status
    obtain ⟨scope, isScope⟩ := Option.isSome_iff_exists.mp hasScope
    obtain ⟨operatorId, isOperator⟩ := Option.isSome_iff_exists.mp hasOperator
    obtain ⟨responseId, isResponse⟩ := Option.isSome_iff_exists.mp hasResponse
    simp only [approvedGrant, status, isScope, isOperator, isResponse] at made
    obtain ⟨late, compared, made⟩ := except_bind_eq_ok.mp made
    cases late with
    | true => exact Datetime.ge_eq_true.mp compared
    | false =>
        rw [if_neg Bool.false_ne_true] at made
        split_ifs at made
        all_goals cases made
  · rfl

end LocalApprovalRecord

/-! ## The two searches -/

section Searching

variable {action : ActionBinding} {now : Datetime}

/-- What a search of the records finds where one of the grants found something. -/
def FoundBoth (action : ActionBinding) (now : Datetime) (index : Nat)
    (records : List LocalApprovalRecord) : Option ApprovalGrant → Prop
  | none => findMatching action (fun _ => now) index records = .ok none
  | some grant => ∃ next record, record ∈ records
      ∧ findMatching action (fun _ => now) index records = .ok (some (next, record))
      ∧ record.approvedGrant now = .ok (some grant)

/-- A record that does not match is passed over. -/
theorem FoundBoth.cons {record : LocalApprovalRecord} {rest : List LocalApprovalRecord}
    {index : Nat} {found : Option ApprovalGrant} (passed : record.matchesAction action now = .ok false)
    (both : FoundBoth action now (index + 1) rest found) :
    FoundBoth action now index (record :: rest) found := by
  have step : findMatching action (fun _ => now) index (record :: rest)
      = findMatching action (fun _ => now) (index + 1) rest := by
    rw [findMatching, passed, except_ok_bind, if_neg Bool.false_ne_true]
  cases found with
  | none => exact step.trans both
  | some grant =>
      obtain ⟨next, other, member, search, made⟩ := both
      exact ⟨next, other, List.mem_cons_of_mem _ member, step.trans search, made⟩

/-- **The two searches find the same record**: the first grant that matches is made of the first
record that does. -/
theorem searches_agree {store : ApprovalStore} (fresh : store.consumedResponseIds = [])
    {records : List LocalApprovalRecord} (granting : ∀ record ∈ records, record.Granting)
    {index : Nat} {grants : List ApprovalGrant}
    (made : approvedGrants (fun _ => now) index records = .ok grants)
    {found : Option ApprovalGrant} (search : store.findIn action now grants = .ok found) :
    FoundBoth action now index records found := by
  induction records generalizing index grants with
  | nil =>
      cases made
      cases search
      rfl
  | cons record rest ih =>
      rw [List.forall_mem_cons] at granting
      obtain ⟨first, madeFirst, made⟩ := except_bind_eq_ok.mp made
      obtain ⟨later, madeLater, same⟩ := except_bind_eq_ok.mp made
      cases same
      cases first with
      | none =>
          exact .cons (LocalApprovalRecord.matchesAction_of_ungranted granting.1 madeFirst)
            (ih granting.2 madeLater search)
      | some grant =>
          obtain ⟨-, -, -, agrees⟩ :=
            @LocalApprovalRecord.approvedGrant_some record action now grant madeFirst
          have usable : store.usable grant = true := by
            rw [ApprovalStore.usable, fresh]
            exact Bool.or_true _
          change store.findIn action now (grant :: later) = .ok found at search
          rw [ApprovalStore.findIn, if_pos usable] at search
          obtain ⟨isMatch, matched, search⟩ := except_bind_eq_ok.mp search
          cases isMatch with
          | true =>
              cases search
              refine ⟨index + 1, record, List.mem_cons_self, ?_, madeFirst⟩
              rw [findMatching, agrees, matched, except_ok_bind, if_pos rfl]
              rfl
          | false => exact .cons (agrees.trans matched) (ih granting.2 madeLater search)

/-- The store of a queue holds the grants in order, none of them consumed. -/
theorem foldl_addActionGrant (grants : List ApprovalGrant) (store : ApprovalStore) :
    grants.foldl ApprovalStore.addActionGrant store
      = ⟨store.actionGrants ++ grants, store.consumedResponseIds⟩ := by
  induction grants generalizing store with
  | nil => rw [List.append_nil]; rfl
  | cons grant rest ih =>
      rw [List.foldl_cons, ih, ApprovalStore.addActionGrant, List.append_assoc]
      rfl

/-- **What the store finds, the queue finds.** -/
theorem QueueFile.findActionGrant_both {lib : AuditLibrary} {file : QueueFile}
    {found : Option ApprovalGrant} (search : file.findActionGrant lib action now = .ok found) :
    ∃ records, file.loadRecords lib = .ok records
      ∧ ((∀ record ∈ records, record.Granting) → FoundBoth action now 0 records found) := by
  obtain ⟨store, projected, search⟩ := except_bind_eq_ok.mp search
  obtain ⟨records, loaded, projected⟩ := except_bind_eq_ok.mp projected
  obtain ⟨grants, made, same⟩ := except_bind_eq_ok.mp projected
  cases same
  rw [foldl_addActionGrant] at search
  exact ⟨records, loaded, fun granting => searches_agree rfl granting made search⟩

end Searching

/-! ## What an operation leaves -/

section Leaving

variable {lib : AuditLibrary}

open LocalApprovalRecord

/-- The records of a file have identifiers of their own. -/
theorem recordsOfItems_nodup {items : List Json} {before records : List LocalApprovalRecord}
    (distinct : (before.map LocalApprovalRecord.id).Nodup)
    (got : recordsOfItems lib before items = .ok records) :
    (records.map LocalApprovalRecord.id).Nodup := by
  induction items generalizing before with
  | nil =>
      cases got
      exact distinct
  | cons item rest ih =>
      obtain ⟨record, -, got⟩ := except_bind_eq_ok.mp got
      refine ih ?_ got
      unfold storeRecord
      split_ifs with known
      · have ids : (before.map fun other => if other.id = record.id then record else other).map
            LocalApprovalRecord.id = before.map LocalApprovalRecord.id := by
          rw [List.map_map]
          refine List.map_congr_left fun other _ => ?_
          rw [Function.comp_apply]
          split_ifs with same
          exacts [same.symm, rfl]
        rw [ids]
        exact distinct
      · rw [List.map_append, List.map_cons, List.map_nil]
        exact List.nodup_append.mpr ⟨distinct, List.nodup_singleton _, fun id old other new same => by
          rw [List.mem_singleton] at new
          exact known (new ▸ same ▸ old)⟩

theorem loadRecords_nodup {file : QueueFile} {records : List LocalApprovalRecord}
    (loaded : file.loadRecords lib = .ok records) :
    (records.map LocalApprovalRecord.id).Nodup := by
  cases file with
  | missing =>
      cases loaded
      exact List.nodup_nil
  | malformed => cases loaded
  | document payload =>
      obtain ⟨items, -, got⟩ := except_bind_eq_ok.mp loaded
      exact @recordsOfItems_nodup lib items [] records List.nodup_nil got

/-- Every identifier of an item is that of a record. -/
theorem recordsOfItems_ids {items : List Json} {before records : List LocalApprovalRecord}
    (got : recordsOfItems lib before items = .ok records) :
    (∀ record ∈ before, record.id ∈ records.map LocalApprovalRecord.id)
      ∧ ∀ values, .obj values ∈ items → ∀ id, Record.get values "id" = .str id →
        id ∈ records.map LocalApprovalRecord.id := by
  induction items generalizing before with
  | nil =>
      cases got
      exact ⟨fun record => List.mem_map_of_mem, fun _ member => by cases member⟩
  | cons item rest ih =>
      obtain ⟨record, read, got⟩ := except_bind_eq_ok.mp got
      obtain ⟨kept, later⟩ := ih got
      constructor
      · intro old member
        by_cases same : old.id = record.id
        · rw [same]
          exact kept record (self_mem_storeRecord before record)
        · refine kept old ?_
          unfold storeRecord
          split_ifs
          · exact List.mem_map.mpr ⟨old, member, if_neg same⟩
          · exact List.mem_append_left _ member
      · intro values member id isId
        rcases List.mem_cons.mp member with same | inRest
        · cases same
          have reads := readFrom_of_fromDict read
          rw [← text_eq reads.id isId]
          exact kept record (self_mem_storeRecord before record)
        · exact later values inRest id isId

/-- An identifier that a loaded file has with a status is that of a record, with one of the statuses
it has there. -/
theorem exists_loaded {file : QueueFile} {records : List LocalApprovalRecord}
    (loaded : file.loadRecords lib = .ok records) {id : String} {status : LocalApprovalStatus}
    (has : file.HasStatus id status) :
    ∃ record ∈ records, record.id = id ∧ file.HasStatus id record.status := by
  obtain ⟨payload, items, values, rfl, isItems, inside, isId, -⟩ := has
  obtain ⟨items', isItems', got⟩ := except_bind_eq_ok.mp loaded
  cases isItems.symm.trans isItems'
  obtain ⟨record, member, same⟩ :=
    List.mem_map.mp ((recordsOfItems_ids got).2 values inside id isId)
  exact ⟨record, member, same, same ▸ hasStatus_of_loaded loaded member⟩

variable (lib) in
/-- **What an operation leaves**: the file as it was, or its records with one that is stored, which is
no consumed one. -/
inductive QueueFile.Leaves (file : QueueFile) : QueueFile → Prop
  | same : Leaves file file
  | stored {records : List LocalApprovalRecord} {updated : LocalApprovalRecord} {saved : QueueFile}
      (loaded : file.loadRecords lib = .ok records)
      (isSaved : saveRecords lib (storeRecord records updated) = .ok saved)
      (granting : updated.Granting)
      (live : ∀ record ∈ records, record.id = updated.id → record.status ≠ .consumed) :
      Leaves file saved

/-- A decision makes no approved record without what a grant is made of. -/
theorem QueueDecision.decide_granting {decision : QueueDecision} {record later : LocalApprovalRecord}
    {now : Datetime} {uuid : String} (got : decision.decide lib now uuid record = .ok later) :
    later.Granting := by
  intro isApproved
  obtain ⟨-, decides⟩ := decision.decide_decides got
  rw [isApproved] at decides
  cases decides with
  | approved pending early =>
      obtain ⟨_, -, got⟩ := except_bind_eq_ok.mp got
      obtain ⟨late, compared, got⟩ := except_bind_eq_ok.mp got
      cases (Datetime.ge_eq_false.mpr early).symm.trans compared
      obtain ⟨approved, isApproved, got⟩ := except_bind_eq_ok.mp got
      obtain ⟨grant, -, same⟩ := except_bind_eq_ok.mp got
      cases same
      have reads := readFrom_changed isApproved
      have scope := reads.scope.symm.trans (scopeOf_value (some _))
      have operatorId := reads.operatorId.symm.trans (optionalQueueText_optional (some _))
      have responseId := reads.responseId.symm.trans (optionalQueueText_optional (some _))
      rw [Except.ok.inj scope, Except.ok.inj operatorId, Except.ok.inj responseId]
      exact ⟨rfl, rfl, rfl⟩

/-- A record that a decision changes is not consumed. -/
theorem QueueDecision.Decides.live {now : Datetime} {record : LocalApprovalRecord}
    {decision : QueueDecision} {status : LocalApprovalStatus}
    (decides : Decides now record decision status) : record.status ≠ .consumed := by
  cases decides with
  | approved pending _ | late pending _ | denied pending => rw [pending]; decide
  | expired live =>
      rcases live with pending | approved
      · rw [pending]; decide
      · rw [approved]; decide

/-- A decision of the queue leaves what it found, or stores the record it decides on. -/
theorem decideRecord_leaves {file : QueueFile} {id : String} {decision : QueueDecision}
    {now : Datetime} {uuid : String} {audit : Except PyExc Unit} :
    file.Leaves lib (decideRecord lib file id (decision.decide lib now uuid) audit).1 := by
  unfold decideRecord
  rw [show (do
      let records ← file.loadRecords lib
      let record ← requireRecord records id
      let updated ← decision.decide lib now uuid record
      return (← saveRecords lib (storeRecord records updated), updated))
    = preparedDecision lib file id decision now uuid from rfl]
  cases prepared : preparedDecision lib file id decision now uuid with
  | error e => exact .same
  | ok result =>
      obtain ⟨records, record, loaded, member, -, -, decided, isSaved⟩ :=
        preparedDecision_eq_ok prepared
      obtain ⟨sameId, decides⟩ := decision.decide_decides decided
      refine .stored loaded isSaved (decision.decide_granting decided) fun other inside same => ?_
      rw [List.inj_on_of_nodup_map (loadRecords_nodup loaded) inside member (same.trans sameId)]
      exact decides.live

/-- A consumption leaves what it found, or stores the record it consumes. -/
theorem markMatchingConsumed_leaves {file : QueueFile} {action : ActionBinding}
    {clock : Nat → Datetime} :
    file.Leaves lib (markMatchingConsumed lib file action clock).1 := by
  unfold markMatchingConsumed
  cases loaded : file.loadRecords lib with
  | error e => exact .same
  | ok records =>
      rw [except_ok_bind]
      cases found : findMatching action clock 0 records with
      | error e => exact .same
      | ok result =>
          rw [except_ok_bind]
          rcases result with _ | ⟨index, record⟩
          · exact .same
          · dsimp only
            by_cases session : record.scope = some .session
            · rw [if_pos session]
              exact .same
            · rw [if_neg session]
              cases consumed : record.consume lib (clock index) with
              | error e => exact .same
              | ok updated =>
                  rw [except_ok_bind]
                  cases isSaved : saveRecords lib (storeRecord records updated) with
                  | error e => exact .same
                  | ok saved =>
                      obtain ⟨member, approved⟩ := findMatching_found found
                      obtain ⟨_, -, got⟩ := except_bind_eq_ok.mp consumed
                      rw [if_neg session] at got
                      obtain ⟨sameId, status⟩ := changed_status rfl got
                      refine .stored loaded isSaved (fun still => ?_) fun other inside same => ?_
                      · rw [status] at still
                        cases still
                      · rw [List.inj_on_of_nodup_map (loadRecords_nodup loaded) inside member
                          (same.trans sameId), approved]
                        decide

/-- A record of a result is pending. -/
theorem fromMcpResult_status {result : Record} {now : Datetime} {record : LocalApprovalRecord}
    (made : fromMcpResult lib result now = .ok record) : record.status = .pending := by
  iterate 17 obtain ⟨_, -, made⟩ := except_bind_eq_ok.mp made
  cases made
  rfl

/-- **What an operation of the queue leaves.** -/
theorem queueStep_leaves (file : QueueFile) (operation : QueueOperation) :
    file.Leaves lib (queueStep lib file operation).1 := by
  cases operation with
  | approve id operatorId scope reason now uuid audit =>
      exact @decideRecord_leaves lib file id (.approve operatorId scope reason) now uuid audit
  | deny id operatorId reason now uuid audit =>
      exact @decideRecord_leaves lib file id (.deny operatorId reason) now uuid audit
  | expire id operatorId reason now uuid audit =>
      exact @decideRecord_leaves lib file id (.expire operatorId reason) now uuid audit
  | consume action clock => exact markMatchingConsumed_leaves
  | enqueue result now =>
      simp only [queueStep, enqueueMcpResult]
      cases made : fromMcpResult lib result now with
      | error e => exact .same
      | ok record =>
          rw [except_ok_bind]
          cases loaded : file.loadRecords lib with
          | error e => exact .same
          | ok records =>
              rw [except_ok_bind]
              cases known : findRecord records record.id with
              | some existing => exact .same
              | none =>
                  dsimp only
                  cases isSaved : saveRecords lib (storeRecord records record) with
                  | error e => exact .same
                  | ok saved =>
                      refine .stored loaded isSaved (fun approved => ?_) fun other inside same => ?_
                      · rw [fromMcpResult_status made] at approved
                        cases approved
                      · -- no record has the identifier of a new one
                        have absent := List.find?_eq_none.mp known other inside
                        exact absurd (decide_eq_true same) absent

/-- A record that is read from a saved file is read from the dictionary of a stored one. -/
theorem loaded_of_saved {records later : List LocalApprovalRecord} {saved : QueueFile}
    (isSaved : saveRecords lib records = .ok saved) (loaded : saved.loadRecords lib = .ok later)
    {read : LocalApprovalRecord} (member : read ∈ later) :
    ∃ record ∈ records, fromDict lib (record.toDict lib) = .ok read := by
  obtain ⟨payload, sorted, rfl, perm, isItems⟩ := saveRecords_eq_ok isSaved
  obtain ⟨payload', items, values, same, isItems', inside, made⟩ := loadRecords_mem loaded member
  cases same
  cases isItems.symm.trans isItems'
  obtain ⟨record, inSorted, same⟩ := List.mem_map.mp inside
  cases same
  exact ⟨record, perm.mem_iff.mp inSorted, made⟩

/-- What a grant is made of is read back. -/
theorem LocalApprovalRecord.Granting.read {record read : LocalApprovalRecord}
    (granting : record.Granting) (got : fromDict lib (record.toDict lib) = .ok read) :
    read.Granting := by
  have reads := readFrom_of_fromDict got
  have status := LocalApprovalStatus.value_inj (text_eq reads.status rfl)
  have scope := Except.ok.inj (reads.scope.symm.trans (scopeOf_value record.scope))
  have operatorId :=
    Except.ok.inj (reads.operatorId.symm.trans (optionalQueueText_optional record.operatorId))
  have responseId :=
    Except.ok.inj (reads.responseId.symm.trans (optionalQueueText_optional record.responseId))
  intro approved
  rw [scope, operatorId, responseId]
  exact granting (status ▸ approved)

variable (lib) in
/-- **A queue of the queue's own making**: every approved record that is loaded has what a grant is
made of. -/
def QueueFile.Granting (file : QueueFile) : Prop :=
  ∀ records, file.loadRecords lib = .ok records → ∀ record ∈ records, record.Granting

/-- An operation keeps that. -/
theorem QueueFile.Granting.leaves {file file' : QueueFile} (granting : file.Granting lib)
    (leaves : file.Leaves lib file') : file'.Granting lib := by
  cases leaves with
  | same => exact granting
  | stored loaded isSaved updatedGranting live =>
      intro later loaded' read member
      obtain ⟨record, stored, made⟩ := loaded_of_saved isSaved loaded' member
      refine LocalApprovalRecord.Granting.read ?_ made
      rcases mem_storeRecord stored with rfl | ⟨old, -⟩
      exacts [updatedGranting, granting _ loaded record old]

/-- **A consumed record stays consumed.** -/
theorem QueueFile.SavedAs.consumed {file file' : QueueFile} {id : String}
    (consumed : file.SavedAs id .consumed) (leaves : file.Leaves lib file') :
    file'.SavedAs id .consumed := by
  cases leaves with
  | same => exact consumed
  | @stored records updated saved loaded isSaved granting live =>
      obtain ⟨record, member, isId, has⟩ := exists_loaded loaded ((consumed _).mpr rfl)
      have isConsumed := (consumed _).mp has
      have other : updated.id ≠ id := fun same =>
        live record member (isId.trans same.symm) isConsumed
      intro status
      rw [hasStatus_saved isSaved]
      constructor
      · rintro ⟨stored, inside, sameId, rfl⟩
        rcases mem_storeRecord inside with rfl | ⟨old, -⟩
        · exact absurd sameId other
        · have before := hasStatus_of_loaded loaded old
          rw [sameId] at before
          exact (consumed _).mp before
      · rintro rfl
        refine ⟨record, ?_, isId, isConsumed⟩
        unfold storeRecord
        split_ifs
        · exact List.mem_map.mpr ⟨record, member, if_neg fun same => other (same.symm.trans isId)⟩
        · exact List.mem_append_left _ member

/-- Any operations keep both. -/
theorem QueueFile.final_leaves {inv : QueueFile → Prop}
    (kept : ∀ {file file' : QueueFile}, inv file → file.Leaves lib file' → inv file')
    {file : QueueFile} (start : inv file) (operations : List QueueOperation) :
    inv (Lib.final (queueStep lib) file operations) := by
  induction operations generalizing file with
  | nil => exact start
  | cons operation rest ih => exact ih (kept start (queueStep_leaves file operation))

/-- A record that is loaded can be read back. -/
theorem LocalApprovalRecord.kept_of_fromDict (laws : IsoLaws lib) {values : Record}
    {record : LocalApprovalRecord} (got : fromDict lib values = .ok record) : record.Kept := by
  obtain ⟨id, hasId, got⟩ := except_bind_eq_ok.mp got
  obtain ⟨statusText, -, got⟩ := except_bind_eq_ok.mp got
  obtain ⟨status, -, got⟩ := except_bind_eq_ok.mp got
  obtain ⟨createdAt, hasCreation, got⟩ := except_bind_eq_ok.mp got
  obtain ⟨expiresAt, hasExpiry, got⟩ := except_bind_eq_ok.mp got
  obtain ⟨sessionId, hasSession, got⟩ := except_bind_eq_ok.mp got
  obtain ⟨targetId, hasTarget, got⟩ := except_bind_eq_ok.mp got
  obtain ⟨providerId, hasProvider, got⟩ := except_bind_eq_ok.mp got
  obtain ⟨capabilityId, hasCapability, got⟩ := except_bind_eq_ok.mp got
  obtain ⟨paramsFingerprint, hasFingerprint, got⟩ := except_bind_eq_ok.mp got
  obtain ⟨policyDecision, hasDecision, got⟩ := except_bind_eq_ok.mp got
  obtain ⟨operatorMessage, hasMessage, got⟩ := except_bind_eq_ok.mp got
  obtain ⟨materialRisks, -, got⟩ := except_bind_eq_ok.mp got
  obtain ⟨request, -, got⟩ := except_bind_eq_ok.mp got
  obtain ⟨scope, -, got⟩ := except_bind_eq_ok.mp got
  obtain ⟨operatorId, -, got⟩ := except_bind_eq_ok.mp got
  obtain ⟨responseId, -, got⟩ := except_bind_eq_ok.mp got
  obtain ⟨reason, -, got⟩ := except_bind_eq_ok.mp got
  obtain ⟨decidedAt, hasDecided, got⟩ := except_bind_eq_ok.mp got
  obtain ⟨consumedAt, hasConsumed, got⟩ := except_bind_eq_ok.mp got
  obtain ⟨redactions, -, got⟩ := except_bind_eq_ok.mp got
  cases got
  have required {key : String} {t : Datetime}
      (read : requiredDatetime lib.toStdlib values key = .ok t) : t.Zoned := by
    obtain ⟨parsed, isParsed, there⟩ := except_bind_eq_ok.mp read
    cases parsed with
    | none => cases there
    | some u =>
        cases there
        exact queueDatetime_zoned laws isParsed
  refine ⟨?_, required hasCreation, required hasExpiry, ?_, ?_⟩
  · simp only [init, List.forall_mem_cons]
    exact ⟨(queueText_eq_ok.mp hasId).2, (queueText_eq_ok.mp hasSession).2,
      (queueText_eq_ok.mp hasTarget).2, (queueText_eq_ok.mp hasProvider).2,
      (queueText_eq_ok.mp hasCapability).2, (queueText_eq_ok.mp hasFingerprint).2,
      (queueText_eq_ok.mp hasDecision).2, redactOperatorText_ne (queueText_eq_ok.mp hasMessage).2,
      fun _ member => by cases member⟩
  · intro t same
    cases same
    exact queueDatetime_zoned laws hasDecided
  · intro t same
    cases same
    exact queueDatetime_zoned laws hasConsumed

theorem loadRecords_kept (laws : IsoLaws lib) {file : QueueFile}
    {records : List LocalApprovalRecord} (loaded : file.loadRecords lib = .ok records) :
    ∀ record ∈ records, record.Kept := by
  intro record member
  obtain ⟨_, _, _, -, -, -, made⟩ := loadRecords_mem loaded member
  exact kept_of_fromDict laws made

end Leaving

/-! ## Marking what was found -/

section Marking

variable (lib : AuditLibrary)

/-- **Marking consumes one record only**: the one the grant was made of becomes consumed, and what is
saved is the queue's records with it in its place. -/
def MarksOnly (file : QueueFile) (action : ActionBinding) (now : Datetime) (grant : ApprovalGrant) :
    Prop :=
  ∃ records record consumed saved,
    file.loadRecords lib = .ok records ∧ record ∈ records
      ∧ record.approvedGrant now = .ok (some grant)
      ∧ (∀ other ∈ records, other.id = record.id → other = record)
      ∧ record.SameBinding consumed ∧ consumed.status = .consumed
      ∧ saveRecords lib (records.map fun other => if other.id = record.id then consumed else other)
        = .ok saved
      ∧ saved.SavedAs grant.requestId .consumed ∧ (∃ later, saved.loadRecords lib = .ok later)
      ∧ markMatchingConsumed lib file action (fun _ => now) = (saved, .ok (some consumed))

/-- **What marking does after a search of the store**: it consumes the record of a one-time grant, and
changes nothing after a session grant or none. -/
def MarksFound (file : QueueFile) (action : ActionBinding) (now : Datetime) :
    Option ApprovalGrant → Prop
  | some grant =>
      match grant.scope with
      | .oneTime => MarksOnly lib file action now grant
      | .session => markMatchingConsumed lib file action (fun _ => now) = (file, .ok none)
  | none => markMatchingConsumed lib file action (fun _ => now) = (file, .ok none)

variable {lib} {file : QueueFile} {action : ActionBinding} {now : Datetime}

open LocalApprovalRecord

/-- An approved record that is loaded can be consumed. -/
theorem LocalApprovalRecord.consume_isOk (laws : IsoLaws lib) (zoned : now.Zoned)
    {record : LocalApprovalRecord} (kept : record.Kept) (approved : record.status = .approved)
    (oneTime : record.scope = some .oneTime) :
    ∃ consumed, record.consume lib now = .ok consumed ∧ consumed.Kept
      ∧ record.SameBinding consumed ∧ consumed.status = .consumed := by
  have reads : Reads lib ([("status", .str LocalApprovalStatus.consumed.value),
        ("consumed_at", .str (lib.isoformat now))] ++ record.toDict lib)
      { record with status := .consumed, consumedAt := some now } :=
    ⟨rfl, rfl, rfl, rfl, rfl, rfl, rfl, rfl, rfl, rfl, rfl, rfl, ⟨_, rfl⟩, rfl, rfl, rfl, rfl,
      rfl, rfl, ⟨_, rfl⟩⟩
  obtain ⟨consumed, made, agrees, consumedKept⟩ := fromDict_of_reads laws reads
    ⟨kept.texts, kept.createdAt, kept.expiresAt, kept.decidedAt,
      fun t same => by cases same; exact zoned⟩
  refine ⟨consumed, ?_, consumedKept,
    agrees.bindingTo ⟨rfl, rfl, rfl, rfl, rfl, rfl, rfl, rfl⟩, agrees.status⟩
  rw [consume, raiseIf_of_not (not_not.mpr approved), except_ok_bind,
    if_neg (by rw [oneTime]; decide)]
  exact made

/-- **Marking agrees with the store** in every queue of the queue's own making. -/
theorem marksFound (laws : IsoLaws lib) (granting : file.Granting lib) (zoned : now.Zoned)
    {found : Option ApprovalGrant} (search : file.findActionGrant lib action now = .ok found) :
    MarksFound lib file action now found := by
  obtain ⟨records, loaded, both⟩ := QueueFile.findActionGrant_both search
  have both := both (granting records loaded)
  cases found with
  | none =>
      have nothing : findMatching action (fun _ => now) 0 records = .ok none := both
      rw [MarksFound, markMatchingConsumed, loaded, except_ok_bind, nothing]
      rfl
  | some grant =>
      obtain ⟨next, record, member, matching, made⟩ := both
      obtain ⟨approved, scope, isId, -⟩ := @approvedGrant_some record action now grant made
      cases isScope : grant.scope with
      | session =>
          rw [isScope] at scope
          simp only [MarksFound, isScope]
          rw [markMatchingConsumed, loaded, except_ok_bind, matching, except_ok_bind]
          dsimp only
          rw [if_pos scope]
          rfl
      | oneTime =>
          rw [isScope] at scope
          simp only [MarksFound, isScope]
          have kept := loadRecords_kept laws loaded
          have distinct := loadRecords_nodup loaded
          obtain ⟨consumed, isConsumed, consumedKept, binding, status⟩ :=
            consume_isOk laws zoned (kept record member) approved scope
          have stored : storeRecord records consumed
              = records.map fun other => if other.id = record.id then consumed else other := by
            rw [storeRecord, binding.id, if_pos (List.mem_map_of_mem member)]
          have storedKept : ∀ other ∈ storeRecord records consumed, other.Kept := by
            intro other inside
            rcases mem_storeRecord inside with rfl | ⟨old, -⟩
            exacts [consumedKept, kept other old]
          have ids : (storeRecord records consumed).map LocalApprovalRecord.id
              = records.map LocalApprovalRecord.id := by
            rw [stored, List.map_map]
            refine List.map_congr_left fun other _ => ?_
            rw [Function.comp_apply]
            split_ifs with same
            exacts [binding.id.trans same.symm, rfl]
          obtain ⟨saved, _, later, isSaved, reloaded, -, -⟩ :=
            load_of_save laws storedKept (ids ▸ distinct)
          have isSavedAs : saved.SavedAs grant.requestId .consumed := by
            intro other
            rw [hasStatus_saved isSaved, isId]
            constructor
            · rintro ⟨inside, member', sameId, rfl⟩
              rcases mem_storeRecord member' with rfl | ⟨-, different⟩
              · exact status
              · exact absurd (sameId.trans binding.id.symm) different
            · rintro rfl
              exact ⟨consumed, self_mem_storeRecord records consumed, binding.id, status⟩
          refine ⟨records, record, consumed, saved, loaded, member, made,
            fun other inside same => List.inj_on_of_nodup_map distinct inside member same, binding,
            status, stored ▸ isSaved, isSavedAs, ⟨later, reloaded⟩, ?_⟩
          rw [markMatchingConsumed, loaded, except_ok_bind, matching, except_ok_bind]
          dsimp only
          rw [if_neg (by rw [scope]; decide), isConsumed, except_ok_bind, isSaved]
          rfl

end Marking

/-! ## Rounds -/

/-- A round: whatever is done to the queue before, and a use of an approval for an action, for which
the clock is read. -/
structure QueueRound where
  before : List QueueOperation
  action : ActionBinding
  now : Datetime
  zoned : now.Zoned

section Rounds

variable (lib : AuditLibrary)

/-- The one-time grant a search finds, by the record it is made of. -/
def usedRecord : Except PyExc (Option ApprovalGrant) → Option String
  | .ok (some grant) => if grant.scope = .oneTime then some grant.requestId else none
  | _ => none

/-- A round of the queue: a grant is found, and the queue is marked; with it, the one-time record that
is used. -/
def queueRound (file : QueueFile) (round : QueueRound) : QueueFile × Option String :=
  let ready := Lib.final (queueStep lib) file round.before
  ((markMatchingConsumed lib ready round.action fun _ => round.now).1,
    usedRecord (ready.findActionGrant lib round.action round.now))

variable {lib}

/-- What is used is found. -/
theorem usedRecord_eq_some {result : Except PyExc (Option ApprovalGrant)} {id : String}
    (used : usedRecord result = some id) :
    ∃ grant, result = .ok (some grant) ∧ grant.scope = .oneTime ∧ grant.requestId = id := by
  unfold usedRecord at used
  split at used
  · split_ifs at used with oneTime
    exact ⟨_, rfl, oneTime, Option.some.inj used⟩
  · cases used

/-- A round leaves a queue of the queue's own making. -/
theorem queueRound_granting {file : QueueFile} (granting : file.Granting lib) (round : QueueRound) :
    (queueRound lib file round).1.Granting lib :=
  (QueueFile.final_leaves QueueFile.Granting.leaves granting round.before).leaves
    markMatchingConsumed_leaves

/-- Rounds on the queues of the queue's own making. -/
def roundStep (lib : AuditLibrary) (file : {file : QueueFile // file.Granting lib})
    (round : QueueRound) : {file : QueueFile // file.Granting lib} × Option String :=
  (⟨(queueRound lib file.1 round).1, queueRound_granting file.2 round⟩,
    (queueRound lib file.1 round).2)

theorem outputs_roundStep (file : {file : QueueFile // file.Granting lib})
    (rounds : List QueueRound) :
    Lib.outputs (roundStep lib) file rounds = Lib.outputs (queueRound lib) file.1 rounds := by
  induction rounds generalizing file with
  | nil => rfl
  | cons round rest ih =>
      rw [Lib.outputs, Lib.outputs, ih]
      rfl

/-- **A record is used once**: a round marks the record it uses as consumed, which it stays, and a
consumed record is never found. -/
theorem roundStep_singleUse (laws : IsoLaws lib) :
    Lib.SingleUse (roundStep lib) (fun file id => file.1.SavedAs id .consumed)
      fun used id => if used = some id then 1 else 0 where
  once _ _ id := by
    split_ifs
    exacts [Nat.le_refl 1, Nat.zero_le 1]
  fresh file round id spent := by
    refine if_neg fun used => ?_
    obtain ⟨grant, search, -, isId⟩ := usedRecord_eq_some used
    have still : (Lib.final (queueStep lib) file.1 round.before).SavedAs id .consumed :=
      QueueFile.final_leaves QueueFile.SavedAs.consumed spent round.before
    have granting := QueueFile.final_leaves QueueFile.Granting.leaves file.2 round.before
    obtain ⟨records, loaded, both⟩ := QueueFile.findActionGrant_both search
    obtain ⟨_, record, member, -, made⟩ := both (granting records loaded)
    obtain ⟨approved, -, sameId, -⟩ :=
      @LocalApprovalRecord.approvedGrant_some record round.action round.now grant made
    have before := hasStatus_of_loaded loaded member
    rw [← sameId, isId, approved] at before
    exact absurd ((still _).mp before) (by decide)
  marked file round id used := by
    have used : (queueRound lib file.1 round).2 = some id := by
      by_contra unused
      exact used (if_neg unused)
    obtain ⟨grant, search, oneTime, isId⟩ := usedRecord_eq_some used
    have granting := QueueFile.final_leaves QueueFile.Granting.leaves file.2 round.before
    have marks := marksFound laws granting round.zoned search
    simp only [MarksFound, oneTime] at marks
    obtain ⟨_, _, _, saved, -, -, -, -, -, -, -, isSavedAs, -, run⟩ := marks
    change (markMatchingConsumed lib _ _ _).1.SavedAs id .consumed
    rw [run, ← isId]
    exact isSavedAs
  kept file round id spent :=
    (QueueFile.final_leaves QueueFile.SavedAs.consumed spent round.before).consumed
      markMatchingConsumed_leaves

/-- **Queue and store agree**: in every queue the queue's operations make, marking after a search of
the store consumes exactly the record a one-time grant was made of, and changes nothing after a
session grant or none; and rounds of finding, executing and marking, whatever is done to the queue
between them, use up a one-time record each. -/
theorem queue_store_agree (lib : AuditLibrary) (laws : IsoLaws lib)
    (operations : List QueueOperation) :
    (∀ action now found, now.Zoned →
        (Lib.final (queueStep lib) .missing operations).findActionGrant lib action now = .ok found →
        MarksFound lib (Lib.final (queueStep lib) .missing operations) action now found)
      ∧ ∀ rounds, ((Lib.outputs (queueRound lib) (Lib.final (queueStep lib) .missing operations)
          rounds).filterMap id).Nodup := by
  have empty : QueueFile.missing.Granting lib := fun records loaded record member => by
    cases loaded
    cases member
  have granting := QueueFile.final_leaves QueueFile.Granting.leaves empty operations
  refine ⟨fun action now found zoned search => marksFound laws granting zoned search,
    fun rounds => ?_⟩
  have once : ((Lib.outputs (roundStep lib) ⟨_, granting⟩ rounds).filterMap id).Nodup := by
    refine (roundStep_singleUse laws).nodup (fun used token named => ?_) _ rounds
    have named : used = some token := named
    rw [if_pos named]
    exact Nat.one_ne_zero
  rw [outputs_roundStep] at once
  exact once

end Rounds

open Deployment in
/-- The approval that is queued and granted is found, and marking consumes its record. -/
theorem queue_store_agree_queueRun :
    ∃ grant, grant.scope = .oneTime
      ∧ MarksOnly isoLibrary (Lib.final (queueStep isoLibrary) .missing ((queueRun "vm-1").take 2))
        ⟨"power.graceful_restart", "session-1", "vm-1", "mock", emptyFingerprint⟩ (clockAt 0)
        grant := by
  have search : ((Lib.final (queueStep isoLibrary) .missing ((queueRun "vm-1").take 2)).findActionGrant
      isoLibrary ⟨"power.graceful_restart", "session-1", "vm-1", "mock", emptyFingerprint⟩
      (clockAt 0)).toOption.join.map ApprovalGrant.scope = some .oneTime := by decide +kernel
  cases found : (Lib.final (queueStep isoLibrary) .missing ((queueRun "vm-1").take 2)).findActionGrant
      isoLibrary ⟨"power.graceful_restart", "session-1", "vm-1", "mock", emptyFingerprint⟩
      (clockAt 0) with
  | error e =>
      rw [found] at search
      cases search
  | ok result =>
      rw [found] at search
      cases result with
      | none => cases search
      | some grant =>
          have oneTime : grant.scope = .oneTime := Option.some.inj search
          have marks := (queue_store_agree isoLibrary isoLibrary_laws
            ((queueRun "vm-1").take 2)).1 _ _ _ clockAt_zoned found
          simp only [MarksFound, oneTime] at marks
          exact ⟨grant, oneTime, marks⟩

end AgenticKVM
