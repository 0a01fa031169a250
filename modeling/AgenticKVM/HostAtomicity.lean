import AgenticKVM.HostRuns

/-! # Responses whose event is refused

A response to a pending approval request is decided on one of five branches: a mismatch, an expiry, a
denial, a grant, or a refusal before any of them. Each that changes the host emits its event first, so
that where the sink raises nothing is changed: no grant is stored, no state is set, no request is
forgotten, and the caller is told of a validation error (`submit_atomic`). -/

namespace AgenticKVM

open Lib (Json Prog except_ok_bind except_pure)

/-- An emission of a surface's own that the sink refused. -/
def AuditRaises (effects : List RuntimeEffect) : Prop :=
  ∃ event e, RuntimeEffect.emitRaised event e ∈ effects

theorem not_auditRaises_nil : ¬ AuditRaises [] := fun ⟨_, _, member⟩ => by cases member

theorem auditRaises_append {first second : List RuntimeEffect} :
    AuditRaises (first ++ second) ↔ AuditRaises first ∨ AuditRaises second := by
  simp only [AuditRaises, List.mem_append, exists_or]

namespace ConfigRuntime

variable {lib : AuditLibrary} {runtime : ConfigRuntime} {history : List RuntimeEffect}
  {s : HostState}

/-! ## Validation errors -/

/-- The validation error that is returned for what was raised can always be written. -/
theorem hostApprovalResult_error (requestId reason : String) :
    ∃ payload, hostApprovalResult lib .validationError requestId reason none none none = .ok payload
      ∧ Record.get payload "status" = .str "validation_error" := by
  let entries : Record :=
    [("status", .str HostApprovalResultStatus.validationError.value), ("request_id", .str requestId),
      ("reason", .str (redactHostText lib.toStdlib reason)), ("grant", .obj []),
      ("redactions", .list [])]
  have distinct : (entries.map Prod.fst).Nodup := by
    change ["status", "request_id", "reason", "grant", "redactions"].Nodup
    decide
  have readable : Json.Readable lib.readFloat (.obj entries) :=
    ⟨distinct, trivial, trivial, trivial, ⟨List.nodup_nil, trivial⟩, trivial, trivial⟩
  have nothing : redactMapping lib (strEntries []) none = ([], []) := rfl
  refine ⟨Json.reread entries, ?_, ?_⟩
  · simp only [hostApprovalResult, Option.map_none, Option.getD_none, nothing, Option.mapM_none,
      except_pure, except_ok_bind]
    exact jsonSafeEntriesOf_json rfl readable
  · rw [Record.get, Json.lookup_reread distinct]
    rfl

/-! ## Where the event is refused -/

section Emitting

variable {eventType : AuditEventType} {pending : PendingApproval} {response : HostApprovalResponse}
  {status : HostApprovalResultStatus}

/-- **An event that is refused is the last thing that happens**, if what comes after it emits
nothing: the program raises, and nothing is changed. -/
theorem emitApprovalEvent_raises {rest : Unit → Host Record}
    (silent : ∀ later, ¬ AuditRaises (rest () later s).effects)
    (raised : AuditRaises ((runtime.emitApprovalEvent lib eventType pending response status
      >>= rest) history s).effects) :
    ∃ e effects, (runtime.emitApprovalEvent lib eventType pending response status >>= rest) history s
      = ⟨.error e, s, effects⟩ := by
  cases built : hostApprovalEvent lib eventType pending response status with
  | error e =>
      refine ⟨e, [], Prog.bind_run_error ?_ rest⟩
      rw [emitApprovalEvent, Prog.ofExcept_bind_run_error built]
  | ok event =>
      have run : runtime.emitApprovalEvent lib eventType pending response status history s
          = onStore (runtime.environment.emit event) history s := by
        rw [emitApprovalEvent, Prog.ofExcept_bind_run built]
      rw [onStore, Prog.zoom, RuntimeEnvironment.emit, Prog.perform_run] at run
      cases answer : runtime.environment.auditSink history (.surface event) with
      | some e =>
          rw [answer] at run
          exact ⟨e, _, Prog.bind_run_error run rest⟩
      | none =>
          rw [answer] at run
          -- a recorded event is none that the sink refused
          rw [Prog.bind_run_ok run, Lib.Outcome.prepend_effects, auditRaises_append] at raised
          rcases raised with ⟨event, e, member⟩ | later
          · rw [List.mem_singleton] at member
            cases member
          · exact absurd later (silent _)

end Emitting

/-- Setting the state of a request emits nothing. -/
theorem setState_silent (requestId : String) (status : HostApprovalResultStatus)
    (result : Except PyExc Record) (later : List RuntimeEffect) :
    ¬ AuditRaises ((setState requestId status >>= fun _ => Prog.ofExcept result) later s).effects := by
  rw [setState_bind_run]
  exact not_auditRaises_nil

section Deciding

variable {pending : PendingApproval} {response : HostApprovalResponse}

/-- **Every decision on a pending request** emits its event before it changes the host. -/
theorem decidePending_raises
    (raised : AuditRaises (runtime.decidePending lib pending response history s).effects) :
    ∃ e effects, runtime.decidePending lib pending response history s = ⟨.error e, s, effects⟩ := by
  rw [decidePending] at raised ⊢
  cases mismatch : approvalMismatch pending.approval response with
  | some reason =>
      rw [mismatch] at raised
      exact emitApprovalEvent_raises (setState_silent _ _ _) raised
  | none =>
      rw [mismatch] at raised
      dsimp only at raised ⊢
      cases late : isExpired pending.approval response with
      | error e => exact ⟨e, [], Prog.ofExcept_bind_run_error rfl _⟩
      | ok expired =>
          rw [late, Prog.ofExcept_bind_run rfl] at raised
          rw [Prog.ofExcept_bind_run rfl]
          split_ifs at raised ⊢ with isExpired isDenied
          · exact emitApprovalEvent_raises (setState_silent _ _ _) raised
          · exact emitApprovalEvent_raises (setState_silent _ _ _) raised
          · rw [giveApproval] at raised ⊢
            cases made : grantOf pending.approval response with
            | error e => exact ⟨e, [], Prog.ofExcept_bind_run_error rfl _⟩
            | ok grant =>
                rw [made, Prog.ofExcept_bind_run rfl] at raised
                rw [Prog.ofExcept_bind_run rfl]
                refine emitApprovalEvent_raises (fun later => ?_) raised
                rw [Prog.modify_bind_run, setState_bind_run]
                exact not_auditRaises_nil

end Deciding

/-- A response is read and decided on: where an event is refused, nothing is changed. -/
theorem submitBody_raises {input : ResponseInput}
    (raised : AuditRaises (runtime.submitBody lib input history s).effects) :
    ∃ e effects, runtime.submitBody lib input history s = ⟨.error e, s, effects⟩ := by
  rw [submitBody, Prog.ask_bind_run] at raised ⊢
  cases read : responseOf lib (runtime.environment.now history) input with
  | error e => exact ⟨e, [], Prog.ofExcept_bind_run_error rfl _⟩
  | ok response =>
      rw [read, Prog.ofExcept_bind_run rfl, Prog.get_bind_run] at raised
      rw [Prog.ofExcept_bind_run rfl, Prog.get_bind_run]
      cases known : s.pending.lookup response.requestId with
      | none =>
          -- the event about a request nobody knows is never emitted
          rw [known] at raised
          dsimp only at raised
          rw [approvalValidationError, emitValidationError, Prog.pure_bind_run,
            setState_bind_run] at raised
          exact absurd raised not_auditRaises_nil
      | some pending =>
          rw [known] at raised
          exact decidePending_raises raised

/-- **The submission of a response is atomic under audit failure**: in every state of the host, where
an audit emission raises, the store, the states and the pending approvals are as they were, and a
validation error is returned. -/
theorem submit_atomic (lib : AuditLibrary) (runtime : ConfigRuntime) {history : List RuntimeEffect}
    {s : HostState} {input : ResponseInput}
    (raised : AuditRaises (runtime.submitApprovalResponse lib input history s).effects) :
    ∃ payload effects,
      runtime.submitApprovalResponse lib input history s = ⟨.ok payload, s, effects⟩
        ∧ Record.get payload "status" = .str "validation_error" := by
  rw [submitApprovalResponse, Prog.bind_ofExcept_run, Prog.attempt_run] at raised ⊢
  obtain ⟨e, effects, run⟩ := submitBody_raises raised
  obtain ⟨payload, written, status⟩ := @hostApprovalResult_error lib (namedRequest input) e.text
  refine ⟨payload, effects, ?_, status⟩
  rw [run]
  simp only [Except.bind, orElse, written]

end ConfigRuntime

namespace Deployment

/-- The built-in environment with a sink that refuses every event. -/
def refusingEnvironment : RuntimeEnvironment :=
  { calmEnvironment with auditSink := fun _ _ => some (.runtimeError "audit sink failed") }

/-- What a host shows of a restart that waits. -/
def shownRestart : HostApprovalRequest where
  id := "approval-1"
  sessionId := "session-1"
  target := "lab-1"
  provider := "mock"
  capability := "power.graceful_restart"
  paramsFingerprint := emptyFingerprint
  expiresAt := clockAt 900
  policyDecision := "ask_each_time"
  operatorMessage := "Restart lab-1?"
  materialRisks := []
  paramsPreview := []
  correlationId := none
  redactions := []

/-- A host at which a restart waits. -/
def waitingHost : HostState :=
  ⟨.empty, [("approval-1", ⟨restartCall "lab-1" lab_named, shownRestart⟩)], []⟩

/-- A grant of the restart that waits. -/
def restartGrant : ConfigRuntime.ResponseInput :=
  .response (restartResponse .granted "approval-1" (by decide))

/-- The sink refuses the event about the grant. -/
theorem restartGrant_raises {runtime : ConfigRuntime}
    (environment : runtime.environment = refusingEnvironment) :
    AuditRaises (runtime.submitApprovalResponse stampLibrary restartGrant [] waitingHost).effects := by
  have answers : ConfigRuntime.Answers waitingHost
      (restartResponse .granted "approval-1" (by decide))
      ⟨restartCall "lab-1" (by decide), shownRestart⟩ := ⟨rfl, rfl⟩
  obtain ⟨event, built⟩ := @ConfigRuntime.hostApprovalEvent_isOk stampLibrary
    (restartResponse .granted "approval-1" (by decide))
    ⟨restartCall "lab-1" (by decide), shownRestart⟩ (by decide +kernel) ⟨_, rfl⟩
    ⟨[], rfl, List.nodup_nil, trivial⟩ .approvalGranted .granted
  obtain ⟨-, effects⟩ := @ConfigRuntime.submitApprovalResponse_run stampLibrary runtime [] waitingHost
    _ _ restartGrant rfl answers false (by decide)
  have refused : ConfigRuntime.emitApprovalEvent stampLibrary runtime .approvalGranted
      ⟨restartCall "lab-1" (by decide), shownRestart⟩
      (restartResponse .granted "approval-1" (by decide)) .granted [] waitingHost
      = ⟨.error (.runtimeError "audit sink failed"), waitingHost,
        [.emitRaised event (.runtimeError "audit sink failed")]⟩ := by
    rw [ConfigRuntime.emitApprovalEvent, Prog.ofExcept_bind_run built, environment]
    rfl
  obtain ⟨grant, made, -⟩ := @ConfigRuntime.exists_grant
    (restartResponse .granted "approval-1" (by decide)) shownRestart (by decide)
  rw [if_neg Bool.false_ne_true, if_neg (by decide), ConfigRuntime.giveApproval,
    Prog.ofExcept_bind_run made, Prog.bind_run_error refused] at effects
  rw [effects]
  exact ⟨event, _, List.mem_singleton_self _⟩

end Deployment

open Deployment in
/-- The grant of a restart, at a host whose sink refuses every event. -/
theorem submit_atomic_restartGrant :
    ∃ runtime payload effects,
      runtimeOf configLibrary refusingEnvironment noTransport (Deployment.targetConfig "lab-1")
        = .ok runtime ∧
      runtime.submitApprovalResponse stampLibrary restartGrant [] waitingHost
        = ⟨.ok payload, waitingHost, effects⟩ ∧
      Record.get payload "status" = .str "validation_error" := by
  cases built : runtimeOf configLibrary refusingEnvironment noTransport
      (Deployment.targetConfig "lab-1") with
  | error e =>
      have accepted : (runtimeOf configLibrary refusingEnvironment noTransport
          (Deployment.targetConfig "lab-1")).isOk = true := by decide +kernel
      rw [built] at accepted
      cases accepted
  | ok runtime =>
      obtain ⟨payload, effects, run, status⟩ :=
        @ConfigRuntime.submit_atomic stampLibrary runtime [] _ _
          (restartGrant_raises (buildRuntime_policy built).2)
      exact ⟨runtime, payload, effects, rfl, run, status⟩

end AgenticKVM
