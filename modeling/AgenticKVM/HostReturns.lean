import AgenticKVM.HostValidity

/-! # Everything the host returns passes its validation

The results of approvals are built from what is kept of the pending call, and a resumption is a call
again. So where every call shows what may be shown, every payload passes, over any run of calls,
responses and resumptions (`host_results_pass`). -/

namespace AgenticKVM

open Lib (Json FloatToken Prog Outcome except_bind_eq_ok except_ok_bind)

/-! ## The results of approvals -/

section Approvals

variable {lib : AuditLibrary}

/-- `ApprovalGrant.to_dict`, as JSON. -/
def ApprovalGrant.jsonRecord (lib : AuditLibrary) (grant : ApprovalGrant) : Record :=
  [("request_id", .str grant.requestId), ("response_id", .str grant.responseId),
    ("capability_id", .str grant.capabilityId), ("session_id", .str grant.sessionId),
    ("target_id", .str grant.targetId), ("provider_id", .str grant.providerId),
    ("params_fingerprint", .str grant.paramsFingerprint),
    ("expires_at", .str (lib.isoformat grant.expiresAt)), ("scope", .str grant.scope.value),
    ("operator", .obj [("type", .str grant.operator.type.value), ("id", .str grant.operator.id)])]

/-- What is shown of a grant, if there is one, is JSON with safe keys. -/
theorem shownGrant (laws : TextLaws lib) (grant : Option ApprovalGrant) :
    ∃ record, strEntries ((grant.map (ApprovalGrant.toDict lib)).getD []) = PyValue.ofEntries record
      ∧ Json.Readable lib.readFloat (.obj record) ∧ keysSafeEntries lib.toStdlib record := by
  cases grant with
  | none => exact ⟨[], rfl, ⟨List.nodup_nil, trivial⟩, trivial⟩
  | some grant =>
      have operator : plainNames ["type", "id"] = true := by decide +kernel
      refine ⟨grant.jsonRecord lib, rfl, ⟨?_, ?_⟩, ?_⟩
      · change ["request_id", "response_id", "capability_id", "session_id", "target_id",
          "provider_id", "params_fingerprint", "expires_at", "scope", "operator"].Nodup
        decide
      · refine ⟨trivial, trivial, trivial, trivial, trivial, trivial, trivial, trivial, trivial,
          ⟨?_, trivial, trivial, trivial⟩, trivial⟩
        change ["type", "id"].Nodup
        decide
      · have names : plainNames ((grant.jsonRecord lib).map Prod.fst) = true := by
          change plainNames ["request_id", "response_id", "capability_id", "session_id", "target_id",
            "provider_id", "params_fingerprint", "expires_at", "scope", "operator"] = true
          decide +kernel
        rw [keysSafe_of_names laws names]
        intro entry member
        simp only [ApprovalGrant.jsonRecord, List.mem_cons, List.not_mem_nil, or_false] at member
        rcases member with rfl | rfl | rfl | rfl | rfl | rfl | rfl | rfl | rfl | rfl
        all_goals try trivial
        refine (@keysSafe_of_names lib laws [("type", .str grant.operator.type.value),
          ("id", .str grant.operator.id)] operator).mpr ?_
        simp only [List.forall_mem_cons, List.not_mem_nil, false_implies, implies_true, and_true]
        exact ⟨trivial, trivial⟩

/-- What is written of a response has safe keys. -/
theorem HostApprovalResponse.safeKeys_record (laws : TextLaws lib) (response : HostApprovalResponse) :
    SafeKeys lib.toStdlib (Json.reread (response.record lib)) := by
  refine safeKeys_reread laws ?_ fun entry member => ?_
  · change plainNames ["request_id", "decision", "operator_id", "scope", "reason", "decided_at",
      "session_id", "target", "provider", "capability", "params_fingerprint"] = true
    decide +kernel
  · simp only [HostApprovalResponse.record, List.mem_cons, List.not_mem_nil, or_false] at member
    rcases member with rfl | rfl | rfl | rfl | rfl | rfl | rfl | rfl | rfl | rfl | rfl
    · trivial
    · trivial
    · trivial
    · trivial
    · trivial
    · trivial
    all_goals exact keysSafe_jsonOptional _

/-- `HostApprovalResult.to_dict`, as JSON. -/
def approvalResultRecord (status requestId reason : String) (grant : Record)
    (redactions : List String) (approval response : Option Record) : Record :=
  [("status", .str status), ("request_id", .str requestId), ("reason", .str reason),
    ("grant", .obj grant), ("redactions", .list (redactions.map .str))]
  ++ (approval.toList.map fun approval => ("approval_request", Json.obj approval))
  ++ (response.toList.map fun response => ("response", Json.obj response))

/-- A record, if there is one, that is read back with safe keys. -/
def ShownRecord (lib : AuditLibrary) (record : Option Record) : Prop :=
  ∀ entries ∈ record, Json.Readable lib.readFloat (.obj entries) ∧ SafeKeys lib.toStdlib entries

theorem shownRecord_some {record : Record} (readable : Json.Readable lib.readFloat (.obj record))
    (safe : SafeKeys lib.toStdlib record) : ShownRecord lib (some record) := by
  intro entries present
  rw [← Option.mem_some_iff.mp present]
  exact ⟨readable, safe⟩

section Record

variable {status requestId reason : String} {grant : Record} {redactions : List String}
  {approval response : Option Record}

/-- Its keys are distinct names without a sensitive word. -/
theorem approvalResultRecord_keys :
    plainNames ((approvalResultRecord status requestId reason grant redactions approval
        response).map Prod.fst) = true
      ∧ ((approvalResultRecord status requestId reason grant redactions approval response).map
        Prod.fst).Nodup := by
  have all : plainNames ["status", "request_id", "reason", "grant", "redactions", "approval_request",
        "response"] = true
      ∧ ["status", "request_id", "reason", "grant", "redactions", "approval_request",
        "response"].Nodup := by
    decide +kernel
  have sublist : ((approvalResultRecord status requestId reason grant redactions approval
      response).map Prod.fst).Sublist ["status", "request_id", "reason", "grant", "redactions",
        "approval_request", "response"] := by
    rw [approvalResultRecord]
    cases approval
    all_goals cases response
    · change ["status", "request_id", "reason", "grant", "redactions"].Sublist _
      decide
    · change ["status", "request_id", "reason", "grant", "redactions", "response"].Sublist _
      decide
    · change ["status", "request_id", "reason", "grant", "redactions", "approval_request"].Sublist _
      decide
    · exact List.Sublist.refl _
  refine ⟨?_, sublist.nodup all.2⟩
  exact List.all_eq_true.mpr fun key member =>
    List.all_eq_true.mp all.1 key (sublist.subset member)

/-- What holds of its texts and its parts holds of every entry. -/
theorem forall_approvalResultRecord {P : Json → Prop} (texts : ∀ text, P (.str text))
    (lists : ∀ items : List String, P (.list (items.map .str))) (given : P (.obj grant))
    (asked : ∀ entries ∈ approval, P (.obj entries))
    (answered : ∀ entries ∈ response, P (.obj entries)) :
    ∀ entry ∈ approvalResultRecord status requestId reason grant redactions approval response,
      P entry.2 := by
  intro entry member
  rw [approvalResultRecord] at member
  rcases List.mem_append.mp member with member | answer
  · rcases List.mem_append.mp member with fixed | question
    · simp only [List.mem_cons, List.not_mem_nil, or_false] at fixed
      rcases fixed with rfl | rfl | rfl | rfl | rfl
      exacts [texts _, texts _, texts _, given, lists _]
    · obtain ⟨entries, present, rfl⟩ := List.mem_map.mp question
      exact asked entries (Option.mem_toList.mp present)
  · obtain ⟨entries, present, rfl⟩ := List.mem_map.mp answer
    exact answered entries (Option.mem_toList.mp present)

end Record

/-- **The result of an approval passes** where its approval request, if it has one, may be shown. -/
theorem passes_hostApprovalResult (laws : TextLaws lib) (status : HostApprovalResultStatus)
    (requestId reason : String) {approval : Option HostApprovalRequest}
    (presentable : ∀ asked ∈ approval, asked.Presentable lib)
    (response : Option HostApprovalResponse) (grant : Option ApprovalGrant) :
    Passes lib (hostApprovalResult lib status requestId reason approval response grant) := by
  obtain ⟨given, same, readable, safe⟩ := shownGrant laws grant
  obtain ⟨asked, askedWritten, askedShown⟩ : ∃ asked,
      approval.mapM (HostApprovalRequest.toDict lib) = .ok asked ∧ ShownRecord lib asked := by
    cases approval with
    | none => exact ⟨none, rfl, fun _ absent => (nomatch absent)⟩
    | some approval =>
        obtain ⟨preview, same, readable, safe⟩ := (presentable approval rfl).preview
        have shown := shownRecord_some (Json.readable_reread.mpr (approval.readable_record readable))
          (approval.safeKeys_record laws safe)
        refine ⟨_, ?_, shown⟩
        rw [Option.mapM_some, HostApprovalRequest.toDict_eq_ok same readable]
        rfl
  obtain ⟨answered, answeredWritten, answeredShown⟩ : ∃ answered,
      response.mapM (HostApprovalResponse.toDict lib) = .ok answered ∧ ShownRecord lib answered := by
    cases response with
    | none => exact ⟨none, rfl, fun _ absent => (nomatch absent)⟩
    | some response =>
        have shown := shownRecord_some (Json.readable_reread.mpr response.readable_record)
          (response.safeKeys_record laws)
        refine ⟨_, ?_, shown⟩
        rw [Option.mapM_some, response.toDict_eq_ok]
        rfl
  set redactions := sortedSet (pathsBelow "grant"
    (redactMapping lib (PyValue.ofEntries given) none).2) with redactionsEq
  set record := approvalResultRecord status.value requestId (redactHostText lib.toStdlib reason)
    (redactedRecord lib given) redactions asked answered with recordEq
  have recordReadable : Json.Readable lib.readFloat (.obj record) := by
    refine ⟨approvalResultRecord_keys.2, (Json.readableEntries_iff _).mpr ?_⟩
    exact forall_approvalResultRecord (fun _ => trivial) (fun items => Json.readable_strings items)
      (readable_redactedRecord readable) (fun entries present => (askedShown entries present).1)
      fun entries present => (answeredShown entries present).1
  have written : hostApprovalResult lib status requestId reason approval response grant
      = .ok (Json.reread record) := by
    rw [hostApprovalResult]
    dsimp only
    rw [askedWritten, except_ok_bind, answeredWritten, except_ok_bind]
    refine jsonSafeEntriesOf_json ?_ recordReadable
    rw [same, redactMapping_record readable]
    simp only [recordEq, redactionsEq, approvalResultRecord, strDict, ofEntries_eq_map,
      PyValue.ofJson, ← ofJson_strings, List.map_append, List.map_cons, List.map_nil, List.map_map,
      Function.comp_def]
  have text {key text : String} (stored : record.lookup key = some (.str text)) :
      Record.get (Json.reread record) key = .str text := by
    rw [Record.get, Json.lookup_reread approvalResultRecord_keys.2, stored]
    rfl
  rw [written]
  refine passes_ok (validateHostResult_approval (text rfl) ?_ fun field member => ?_)
  · refine safeKeys_reread laws approvalResultRecord_keys.1 ?_
    exact forall_approvalResultRecord (fun _ => trivial) keysSafe_strings
      (keysSafe_redactedRecord safe) (fun entries present => (askedShown entries present).2.entries)
      fun entries present => (answeredShown entries present).2.entries
  · simp only [List.mem_cons, List.not_mem_nil, or_false] at member
    rcases member with rfl | rfl
    all_goals
      rw [text rfl]
      rfl

end Approvals

/-! ## Operations -/

namespace ConfigRuntime

section Operations

variable {lib : AuditLibrary} {runtime : ConfigRuntime} {history : List RuntimeEffect}
  {s : HostState}

theorem passes_error {e : PyExc} : Passes lib (.error e) := fun _ returned => (nomatch returned)

/-- What is returned instead of an error passes where it does. -/
theorem passes_orElse {refused : PyExc → Except PyExc Record} (instead : ∀ e, Passes lib (refused e))
    {result : Except PyExc Record} (passes : Passes lib result) :
    Passes lib (orElse refused result) := by
  cases result with
  | error e => exact instead e
  | ok payload => exact passes

section Calls

variable {call : HostToolCall} {mode : ControlMode}

/-- What a call returns passes, until it raises, and what is kept of it may be shown. -/
theorem callBody_passes (laws : TextLaws lib) (builtIn : runtime.policy = modePreset mode none)
    (providers : JsonProviders lib runtime.environment) (json : JsonCall lib call)
    (kept : Kept lib s.pending)
    (presents : runtime.Presents lib call history s (runtime.callBody lib call history s).effects) :
    Passes lib (runtime.callBody lib call history s).result
      ∧ Kept lib (runtime.callBody lib call history s).state.pending := by
  rcases adapted : runtime.adapterCall lib call history (some s.store) with ⟨result, store, effects⟩
  have run : onStore (runtime.adapterCall lib call) history s
      = ⟨result, { s with store := store.getD s.store }, effects⟩ := by
    rw [onStore, Prog.zoom, adapted]
  cases result with
  | error e =>
      rw [callBody, Prog.bind_run_error run]
      exact ⟨passes_error, kept⟩
  | ok record =>
      obtain ⟨result, recorded, comes⟩ := adapterCall_comes (show (runtime.adapterCall lib call history
        (some s.store)).result = .ok record by rw [adapted])
      obtain ⟨data, same, readable, shielded, coded⟩ := comes.shown laws builtIn providers json presents
      rw [adapterRecord_eq_ok same readable] at recorded
      obtain ⟨payload, shown, safe, tool⟩ := hostPayload_shown laws readable coded
      rw [Except.ok.inj recorded] at shown
      rw [callBody, Prog.bind_run_ok run, Outcome.prepend_result, Outcome.prepend_state]
      exact showResult_passes laws json shown (tool (safe.mpr shielded)) kept

/-- **What a call at the host returns passes**, and what is kept of it may be shown. -/
theorem callTool_passes (laws : TextLaws lib) (builtIn : runtime.policy = modePreset mode none)
    (providers : JsonProviders lib runtime.environment) {input : CallInput}
    (read : callOf lib input = .ok call) (json : JsonCall lib call) (kept : Kept lib s.pending)
    (presents : runtime.Presents lib call history s (runtime.callTool lib input history s).effects) :
    Passes lib (runtime.callTool lib input history s).result
      ∧ Kept lib (runtime.callTool lib input history s).state.pending := by
  rw [callTool_run read] at presents ⊢
  obtain ⟨passes, after⟩ := callBody_passes laws builtIn providers json kept presents
  exact ⟨passes_orElse (fun e => passes_hostError laws e.text _) passes, after⟩

/-- What is returned for an input that is no call passes. -/
theorem callTool_unread (laws : TextLaws lib) {input : CallInput} {e : PyExc}
    (unread : callOf lib input = .error e) :
    Passes lib (runtime.callTool lib input history s).result
      ∧ (runtime.callTool lib input history s).state = s := by
  rw [callTool, Prog.bind_ofExcept_run, Prog.attempt_run, Prog.ofExcept_bind_run_error unread]
  exact ⟨passes_hostError laws e.text _, rfl⟩

end Calls

section Responses

variable {response : HostApprovalResponse} {pending : PendingApproval}

/-- A host program that keeps what is pending and returns what passes. -/
def Answered (lib : AuditLibrary) (s : HostState) (run : Outcome RuntimeEffect HostState PyExc Record) :
    Prop :=
  Passes lib run.result ∧ run.state.pending = s.pending

theorem answered_error {e : PyExc} {effects : List RuntimeEffect} :
    Answered lib s ⟨.error e, s, effects⟩ := ⟨passes_error, rfl⟩

/-- Whatever comes of the event about a response, what is returned after it passes. -/
theorem emitApprovalEvent_answered (eventType : AuditEventType) (status : HostApprovalResultStatus)
    {rest : Unit → Host Record} (after : ∀ history, Answered lib s (rest () history s)) :
    Answered lib s
      ((runtime.emitApprovalEvent lib eventType pending response status >>= rest) history s) := by
  obtain ⟨effects, -, ⟨e, run⟩ | run⟩ := @emitApprovalEvent_bind lib runtime history s Record
    eventType pending response status rest
  · rw [run]
    exact answered_error
  · rw [run]
    exact after _

variable (laws : TextLaws lib) (presentable : pending.approval.Presentable lib)

include laws

/-- An invalid response is answered with a result that passes. -/
theorem approvalValidationError_answered (requestId reason : String) {known : Option PendingApproval}
    (presentable : ∀ pending ∈ known, pending.approval.Presentable lib) :
    Answered lib s
      (runtime.approvalValidationError lib requestId reason known response history s) := by
  have passes : Passes lib (hostApprovalResult lib .validationError requestId reason
      (known.map PendingApproval.approval) (some response) none) := by
    refine passes_hostApprovalResult laws _ _ _ (fun asked present => ?_) _ _
    obtain ⟨pending, inside, rfl⟩ := Option.mem_map.mp present
    exact presentable pending inside
  rw [approvalValidationError]
  cases known with
  | none =>
      rw [emitValidationError, Prog.pure_bind_run, setState_bind_run]
      exact ⟨passes, rfl⟩
  | some pending =>
      rw [emitValidationError]
      refine emitApprovalEvent_answered _ _ fun history => ?_
      rw [setState_bind_run]
      exact ⟨passes, rfl⟩

include presentable

/-- A refusal is answered with a result that passes. -/
theorem refuseApproval_answered (eventType : AuditEventType) (status : HostApprovalResultStatus)
    (reason : String) :
    Answered lib s
      (runtime.refuseApproval lib eventType status reason pending response history s) := by
  rw [refuseApproval]
  refine emitApprovalEvent_answered _ _ fun history => ?_
  rw [setState_bind_run]
  refine ⟨passes_hostApprovalResult laws status _ _ (fun asked present => ?_) _ _, rfl⟩
  rw [← Option.mem_some_iff.mp present]
  exact presentable

/-- A grant is answered with a result that passes. -/
theorem giveApproval_answered :
    Answered lib s (runtime.giveApproval lib pending response history s) := by
  rw [giveApproval]
  cases made : grantOf pending.approval response with
  | error e =>
      rw [Prog.ofExcept_bind_run_error rfl]
      exact answered_error
  | ok grant =>
      rw [Prog.ofExcept_bind_run rfl]
      refine emitApprovalEvent_answered _ _ fun history => ?_
      rw [Prog.modify_bind_run, setState_bind_run]
      refine ⟨passes_hostApprovalResult laws .granted _ _ (fun asked present => ?_) _ _, rfl⟩
      rw [← Option.mem_some_iff.mp present]
      exact presentable

/-- A response to a pending request is answered with a result that passes. -/
theorem decidePending_answered :
    Answered lib s (runtime.decidePending lib pending response history s) := by
  rw [decidePending]
  cases approvalMismatch pending.approval response with
  | some mismatch =>
      refine approvalValidationError_answered laws _ _ fun known present => ?_
      rw [← Option.mem_some_iff.mp present]
      exact presentable
  | none =>
      dsimp only
      cases late : isExpired pending.approval response with
      | error e =>
          rw [Prog.ofExcept_bind_run_error rfl]
          exact answered_error
      | ok expired =>
          rw [Prog.ofExcept_bind_run rfl]
          split_ifs
          · exact refuseApproval_answered laws presentable _ _ _
          · exact refuseApproval_answered laws presentable _ _ _
          · exact giveApproval_answered laws presentable

omit presentable

/-- **What is returned for a response passes**, and what is pending is kept. -/
theorem submitApprovalResponse_passes (kept : Kept lib s.pending) (input : ResponseInput) :
    Answered lib s (runtime.submitApprovalResponse lib input history s) := by
  have body : Answered lib s (runtime.submitBody lib input history s) := by
    rw [submitBody, Prog.ask_bind_run]
    cases read : responseOf lib (runtime.environment.now history) input with
    | error e =>
        rw [Prog.ofExcept_bind_run_error rfl]
        exact answered_error
    | ok response =>
        rw [Prog.ofExcept_bind_run rfl, Prog.get_bind_run]
        cases known : s.pending.lookup response.requestId with
        | none => exact approvalValidationError_answered laws _ _ fun _ absent => by cases absent
        | some pending =>
            obtain ⟨before, after, split, -⟩ := List.lookup_eq_some_iff.mp known
            have member : (response.requestId, pending) ∈ s.pending :=
              split ▸ List.mem_append_right _ List.mem_cons_self
            exact decidePending_answered laws (kept _ member).2
  have nobody : ∀ asked ∈ (none : Option HostApprovalRequest), asked.Presentable lib :=
    fun _ absent => by cases absent
  rw [submitApprovalResponse, Prog.bind_ofExcept_run, Prog.attempt_run]
  exact ⟨passes_orElse (fun e => passes_hostApprovalResult laws .validationError _ e.text nobody none
    none) body.1, body.2⟩

end Responses

/-! ## Runs -/

variable (lib) in
/-- The call an operation makes: the one it is given, or the pending one that it resumes. -/
def madeCall (s : HostState) : HostOperation → Option HostToolCall
  | .callTool input => (callOf lib input).toOption
  | .submitApprovalResponse _ => none
  | .resumeApprovedTool requestId =>
      match s.pending.lookup requestId, s.states.lookup requestId with
      | some pending, none => some pending.call
      | some pending, some .granted => some pending.call
      | _, _ => none

variable (lib) in
/-- An operation whose call, if it is given one, has JSON parameters. -/
def JsonOperation : HostOperation → Prop
  | .callTool input => ∀ call, callOf lib input = .ok call → JsonCall lib call
  | _ => True

variable (lib runtime) in
/-- **An operation that shows what may be shown**: the call it makes does. -/
def Presenting (life : HostLife) (operation : HostOperation) : Prop :=
  ∀ call, madeCall lib life.host operation = some call →
    runtime.Presents lib call life.history life.host (runtime.hostStep lib life operation).2.effects

/-- A resumption is refused, or calls the tool again. -/
theorem resumeApprovedTool_made (laws : TextLaws lib) (requestId : String) :
    (Passes lib (runtime.resumeApprovedTool lib requestId history s).result
      ∧ (runtime.resumeApprovedTool lib requestId history s).state = s) ∨
    ∃ pending, s.pending.lookup requestId = some pending
      ∧ madeCall lib s (.resumeApprovedTool requestId) = some pending.call
      ∧ runtime.resumeApprovedTool lib requestId history s
        = runtime.callTool lib (.call pending.call) history s := by
  rw [resumeApprovedTool, Prog.get_bind_run, madeCall]
  cases s.pending.lookup requestId with
  | none => exact .inl ⟨passes_hostError laws _ _, rfl⟩
  | some pending =>
      dsimp only
      cases s.states.lookup requestId with
      | none => exact .inr ⟨pending, rfl, rfl, rfl⟩
      | some status =>
          cases status with
          | granted => exact .inr ⟨pending, rfl, rfl, rfl⟩
          | denied | expired | validationError => exact .inl ⟨passes_hostError laws _ _, rfl⟩

/-- **What an operation returns passes**, and what is kept may be shown. -/
theorem hostStep_passes (laws : TextLaws lib) {mode : ControlMode}
    (builtIn : runtime.policy = modePreset mode none)
    (providers : JsonProviders lib runtime.environment) {life : HostLife} {operation : HostOperation}
    (kept : Kept lib life.host.pending) (json : JsonOperation lib operation)
    (presents : runtime.Presenting lib life operation) :
    Kept lib (runtime.hostStep lib life operation).1.host.pending
      ∧ Passes lib (runtime.hostStep lib life operation).2.result := by
  cases operation with
  | callTool input =>
      cases read : callOf lib input with
      | error e =>
          obtain ⟨passes, state⟩ := @callTool_unread lib runtime life.history life.host laws input e read
          refine ⟨?_, passes⟩
          rw [hostStep, operate, state]
          exact kept
      | ok call =>
          have made : madeCall lib life.host (.callTool input) = some call := by
            rw [madeCall, read]
            rfl
          obtain ⟨passes, after⟩ := callTool_passes laws builtIn providers read (json call read) kept
            (presents call made)
          exact ⟨after, passes⟩
  | submitApprovalResponse input =>
      obtain ⟨passes, same⟩ := @submitApprovalResponse_passes lib runtime life.history life.host laws
        kept input
      refine ⟨?_, passes⟩
      rw [hostStep, operate, same]
      exact kept
  | resumeApprovedTool requestId =>
      rcases @resumeApprovedTool_made lib runtime life.history life.host laws requestId with
        ⟨passes, state⟩ | ⟨pending, known, made, same⟩
      · refine ⟨?_, passes⟩
        rw [hostStep, operate, state]
        exact kept
      · obtain ⟨before, after, split, -⟩ := List.lookup_eq_some_iff.mp known
        have member : (requestId, pending) ∈ life.host.pending :=
          split ▸ List.mem_append_right _ List.mem_cons_self
        have shows := presents pending.call made
        rw [hostStep, operate, same] at shows ⊢
        obtain ⟨passes, after⟩ := callTool_passes laws builtIn providers rfl (kept _ member).1 kept shows
        exact ⟨after, passes⟩

end Operations

end ConfigRuntime

open ConfigRuntime in
/-- **The host's results pass its own validation**: in every run of calls with JSON parameters, of
responses and of resumptions at a configured runtime whose providers answer with JSON, where each call
shows only what may be shown, every payload passes. -/
theorem host_results_pass {lib : AuditLibrary} (laws : TextLaws lib) {configLib : ConfigLibrary}
    {environment : RuntimeEnvironment} {transportFor : String → ACTHTTPTransport RuntimeEffect}
    {raw : Params} {runtime : ConfigRuntime}
    (built : runtimeOf configLib environment transportFor raw = .ok runtime)
    (providers : JsonProviders lib environment) (history : List RuntimeEffect) (store : ApprovalStore)
    (operations : List HostOperation)
    (json : ∀ operation ∈ operations, JsonOperation lib operation)
    (presenting : Lib.StepsMeet (runtime.hostStep lib) (runtime.Presenting lib)
      (.start history store) operations) :
    ∀ answer ∈ Lib.outputs (runtime.hostStep lib) (.start history store) operations,
      ∀ payload, answer.result = .ok payload →
        validateHostResult lib.toStdlib payload = .ok () := by
  obtain ⟨⟨mode, builtIn⟩, same⟩ := buildRuntime_policy built
  have providers' : JsonProviders lib runtime.environment := by
    rw [same]
    exact providers
  have start : Kept lib (HostLife.start history store).host.pending :=
    fun _ member => (List.not_mem_nil member).elim
  -- the step lemma carries over to the run
  exact @Lib.outputs_forall _ _ _ (runtime.hostStep lib) (fun life => Kept lib life.host.pending)
    (fun answer => Passes lib answer.result) _
    (fun _ _ kept condition => hostStep_passes laws builtIn providers' kept condition.1 condition.2)
    _ start _ (presenting.and_mem json)

namespace Deployment

/-- A login and a note, as JSON. -/
def loginData : Record :=
  [("password", .str "hunter2"), ("options", .obj [("note", .str "after the update")])]

/-- The password is blanked, and no other name is sensitive. -/
theorem loginData_shielded : shieldedEntries stampLibrary loginData :=
  ⟨fun _ => by decide +kernel, trivial, fun sensitive => absurd sensitive (by decide +kernel),
    .inr ⟨fun sensitive => absurd sensitive (by decide +kernel), trivial, trivial⟩, trivial⟩

theorem loginData_readable : Json.Readable stampLibrary.readFloat (.obj loginData) :=
  ⟨by decide, trivial, ⟨by decide, trivial, trivial⟩, trivial⟩

/-- The built-in environment, with providers that answer with a login. -/
def answeringEnvironment : RuntimeEnvironment :=
  { calmEnvironment with
    execute := fun _ adapter request => .ok
      { ok := true, providerId := adapter.providerId, capability := request.capability
        action := request.action, targetId := request.targetId, performedOnHardware := false
        message := "mock result", data := PyValue.ofEntries loginData } }

/-- Its providers answer with JSON. -/
theorem answeringEnvironment_providers : JsonProviders stampLibrary answeringEnvironment where
  data := by
    intro history adapter request answer answered
    rw [← Except.ok.inj answered]
    exact ⟨loginData, rfl, loginData_readable⟩

/-- A call that gives a login and a note. -/
def loginCall (toolName : String) (named : toolName ≠ "") : HostToolCall :=
  { restartCall "lab-1" lab_named with toolName, named, params := PyValue.ofEntries loginData }

theorem status_named : "get_status" ≠ "" := by decide

theorem gracefulRestart_named : "graceful_restart" ≠ "" := by decide

theorem other_named : "other" ≠ "" := by decide

/-- A reading of the status, a restart, and a response to another request. -/
def loginOperations : List HostOperation :=
  [.callTool (.call (loginCall "get_status" status_named)),
    .callTool (.call (loginCall "graceful_restart" gracefulRestart_named)),
    .submitApprovalResponse (.response (restartResponse .granted "other" other_named))]

/-- The configuration is accepted, and a provider answers the reading of the status. -/
def answersStatus : Bool :=
  match runtimeOf configLibrary answeringEnvironment noTransport (targetConfig "lab-1") with
  | .error _ => false
  | .ok runtime =>
      match runtime.adapterRouter.route (loginCall "get_status" status_named) with
      | .error _ => false
      | .ok route => (executions (runtime.routeRun stampLibrary
          (loginCall "get_status" status_named) route [] .empty).effects).length = 1

open ConfigRuntime in
/-- A call with the login shows what may be shown. -/
theorem presents_login {runtime : ConfigRuntime} (same : runtime.environment = answeringEnvironment)
    {toolName : String} (named : toolName ≠ "") (life : HostLife) :
    runtime.Presents stampLibrary (loginCall toolName named) life.history life.host
      (runtime.hostStep stampLibrary life (.callTool (.call (loginCall toolName named)))).2.effects := by
  refine ⟨fun _ params isLogin => ?_, fun adapter request answer executed => ?_⟩
  · rw [← PyValue.ofEntries_inj isLogin]
    exact loginData_shielded
  · obtain ⟨_, handles, -⟩ := (@callTool_called stampLibrary runtime life.history life.host
      (.call (loginCall toolName named))).handles
    obtain ⟨before, after, split⟩ := List.append_of_mem executed
    have answered : .ok answer = runtime.environment.execute (life.history ++ before) adapter request :=
      handles.answered before adapter request (.ok answer) after split
    rw [same] at answered
    rw [Except.ok.inj answered]
    exact ⟨fun data isLogin => PyValue.ofEntries_inj isLogin ▸ loginData_shielded,
      fun failed => by cases failed⟩

end Deployment

open ConfigRuntime Deployment in
/-- A status is answered and a restart waits, both with a login; what is returned passes. -/
theorem host_results_pass_restart :
    ∃ runtime,
      runtimeOf configLibrary answeringEnvironment noTransport (Deployment.targetConfig "lab-1")
        = .ok runtime ∧
      (runtime.hostStep stampLibrary (.start [] .empty) (.callTool (.call
        (loginCall "get_status" status_named)))).2.effects.filterMap RuntimeEffect.providerCall ≠ [] ∧
      ∀ answer ∈ Lib.outputs (runtime.hostStep stampLibrary) (.start [] .empty) loginOperations,
        ∀ payload, answer.result = .ok payload →
          validateHostResult stampLibrary.toStdlib payload = .ok () := by
  have answers : answersStatus = true := by decide +kernel
  rw [answersStatus] at answers
  cases built : runtimeOf configLibrary answeringEnvironment noTransport
      (Deployment.targetConfig "lab-1") with
  | error e =>
      rw [built] at answers
      cases answers
  | ok runtime =>
  rw [built] at answers
  dsimp only at answers
  obtain ⟨-, same⟩ := buildRuntime_policy built
  refine ⟨runtime, rfl, ?_, ?_⟩
  · cases routed : runtime.adapterRouter.route (loginCall "get_status" status_named) with
    | error refusal =>
        rw [routed] at answers
        cases answers
    | ok route =>
        rw [routed] at answers
        have left := (@callBody_leaves stampLibrary runtime (loginCall "get_status" status_named) route
          [] routed (.fresh .empty)).1
        intro none
        change (runtime.callTool stampLibrary (.call (loginCall "get_status" status_named)) []
          (.fresh .empty)).effects.filterMap RuntimeEffect.providerCall = [] at none
        rw [callTool_run rfl, left, providerCalls_handled] at none
        have called : (executions (runtime.routeRun stampLibrary
            (loginCall "get_status" status_named) route [] .empty).effects).length = 1 :=
          of_decide_eq_true answers
        obtain ⟨effect, isOnly⟩ := List.length_eq_one_iff.mp called
        have isExecution := (List.mem_filter.mp (isOnly ▸ List.mem_singleton_self effect)).2
        change ((executions (runtime.routeRun stampLibrary (loginCall "get_status" status_named) route
          [] .empty).effects).map _).filterMap _ = [] at none
        rw [isOnly] at none
        cases effect with
        | executed request answer => cases none
        | _ => cases isExecution
  · refine host_results_pass stampLibrary_laws.texts built answeringEnvironment_providers [] .empty _
      ?_ ⟨fun made isCall => ?_, fun made isCall => ?_, fun made isCall => (by cases isCall), trivial⟩
    · intro operation member
      simp only [loginOperations, List.mem_cons, List.not_mem_nil, or_false] at member
      rcases member with rfl | rfl | rfl
      · intro call read
        rw [← Except.ok.inj read]
        exact ⟨loginData, rfl, loginData_readable⟩
      · intro call read
        rw [← Except.ok.inj read]
        exact ⟨loginData, rfl, loginData_readable⟩
      · trivial
    · rw [← Option.some.inj isCall]
      exact presents_login same _ _
    · rw [← Option.some.inj isCall]
      exact presents_login same _ _

/-! ## A sensitive name that redaction does not know -/

open ConfigRuntime in
/-- **A call that waits passes only where its parameters are shielded**, in a steady environment. -/
theorem shielded_of_passes {lib : AuditLibrary} (laws : TextLaws lib) {runtime : ConfigRuntime}
    (steady : Steady lib runtime.environment) {mode : ControlMode}
    (builtIn : runtime.policy = modePreset mode none) {input : CallInput} {call : HostToolCall}
    (read : callOf lib input = .ok call) {params : Record}
    (same : call.params = PyValue.ofEntries params)
    (readable : Json.Readable lib.readFloat (.obj params)) {history : List RuntimeEffect}
    {s : HostState} {payload : Record}
    (returned : (runtime.callTool lib input history s).result = .ok payload)
    (waits : payload.get "status" = .str "approval_required")
    (passes : validateHostResult lib.toStdlib payload = .ok ()) : shieldedEntries lib params := by
  have safe := ((validateHostResult_tool .approvalRequired waits).mp passes).1
  obtain ⟨record, hosted, written, adapted, shown, asks, rfl⟩ := shown_of_waiting read returned waits
  obtain ⟨result, recorded, comes⟩ := adapterCall_comes adapted
  rcases comes.decided_or_waits steady with ⟨other, storable⟩
    | ⟨route, capability, fingerprint, approval, -, printed, -, limits, answered⟩
  · exact absurd asks (decided_of_hostPayload storable recorded shown other)
  · have unlimited : approval.limits = [] :=
      limits.trans (decisionOf_limits builtIn route history _)
    obtain ⟨other, answered', -, -, data⟩ := @answer_waits lib call route params fingerprint
      _ approval same readable printed unlimited
    rw [answered] at answered'
    cases answered'
    have readable' := @readable_pendingRecord lib lib.readFloat approval (redactedRecord lib params)
      (readable_redactedRecord readable) fingerprint ((runtime.routePlane route history).decisionOf
        (MCPRouter.capabilityRequest call route.tool)).decision.value
    rw [adapterRecord_eq_ok data readable'] at recorded
    rw [← Except.ok.inj recorded] at shown
    have below := keysSafe_get safe "data"
    rw [get_dictSet_ne (by decide), keysSafe_hostPayload_iff readable' shown,
      shielded_pendingRecord_iff laws, redactedRecord, shieldedEntries_redactJson_iff] at below
    exact below

namespace Deployment

/-- A restart with a parameter whose name has a sensitive word in it. -/
def tokenCall : HostToolCall :=
  { restartCall "lab-1" lab_named with params := PyValue.ofEntries [("my_token", .str "x")] }

end Deployment

open ConfigRuntime Deployment in
/-- A call that waits for an operator shows the parameter `my_token`: the name is none of the keys that
redaction replaces, and the validation refuses it. -/
theorem not_host_results_pass :
    ∃ runtime payload,
      runtimeOf configLibrary calmEnvironment noTransport (Deployment.targetConfig "lab-1")
        = .ok runtime ∧
      JsonCall stampLibrary tokenCall ∧
      (runtime.callTool stampLibrary (.call tokenCall) [] (.fresh .empty)).result = .ok payload ∧
      validateHostResult stampLibrary.toStdlib payload ≠ .ok () := by
  obtain ⟨runtime, route, capability, built, asked, -⟩ :=
    asked_restart (show asksAboutRestart "lab-1" (by decide) = true by decide +kernel)
  obtain ⟨⟨mode, builtIn⟩, same⟩ := buildRuntime_policy built
  have steady : Steady stampLibrary runtime.environment := by
    rw [same]
    exact calmEnvironment_steady
  have readable : Json.Readable stampLibrary.readFloat (.obj [("my_token", .str "x")]) :=
    ⟨List.nodup_singleton _, trivial, trivial⟩
  -- neither the route nor the decision depends on the parameters
  have local_ := asked.asks []
  have asked' : runtime.Asked tokenCall route capability :=
    @ConfigRuntime.Asked.anytime runtime tokenCall route capability [] asked.routed
      ⟨local_.known, ⟨local_.passes.notDenied, local_.passes.hardware⟩, local_.asks, local_.unwired,
        local_.unsigned⟩
  obtain ⟨fingerprint, printed⟩ : ∃ fingerprint,
      actionFingerprint stampLibrary.toStdlib tokenCall.params = .ok fingerprint := ⟨_, rfl⟩
  obtain ⟨shown, payload, effects, -, -, -, status, -, run⟩ :=
    @callTool_waits stampLibrary runtime tokenCall route capability [] (.fresh .empty)
      (.call tokenCall) stampLibrary_laws steady rfl asked' fingerprint printed rfl
      [("my_token", .str "x")] rfl readable (decisionOf_limits builtIn route [] _)
  have returned : (runtime.callTool stampLibrary (.call tokenCall) [] (.fresh .empty)).result
      = .ok payload := by
    rw [run]
  refine ⟨runtime, payload, built, ⟨_, rfl, readable⟩, returned, fun passes => ?_⟩
  have shielded : shieldedEntries stampLibrary [("my_token", .str "x")] :=
    shielded_of_passes stampLibrary_laws.texts steady builtIn rfl rfl readable returned status passes
  have blanked := shielded.1 (by decide +kernel)
  exact absurd blanked (by decide +kernel)

end AgenticKVM
