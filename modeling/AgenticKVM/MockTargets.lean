import AgenticKVM.MockProvider
import AgenticKVM.RuntimeContainment

/-! # What approvals do to a mock target

A runtime whose mock adapters answer as `MockProvider` does: every answer is given from the target
that the calls so far have left, and the mode bounds how far that target can be from the one that
the approved calls alone would have left (`mock_target_approved`). Observe mode leaves it as it was,
and assisted mode makes them the same. In supervised mode the target differs in what is typed and
recorded besides, and a medium may be ejected; full control asks for nothing and ties nothing. -/

namespace AgenticKVM

open Lib (Outcome)

/-! ## Targets and modes -/

section Targets

variable (lib : MockLibrary)

/-- The fake target after a request. -/
def MockProviderState.request (state : MockProviderState) (request : ProviderActionRequest) :
    MockProviderState :=
  if MockProvider.supports request.capability then (state.simulate lib request).2 else state

/-- The fake target after some requests. -/
def MockProviderState.after (requests : List ProviderActionRequest) : MockProviderState :=
  requests.foldl (fun state request => state.request lib request) {}

/-- The answer of a mock provider whose target is in a state. -/
def MockProviderState.answer (state : MockProviderState) (request : ProviderActionRequest) :
    ProviderActionResult :=
  ((MockProvider.mk [] state).executeAuthorized lib request).1

/-- A provider's target and its answers do not depend on the requests it has kept. -/
theorem executeAuthorized_eq (provider : MockProvider) (request : ProviderActionRequest) :
    (provider.executeAuthorized lib request).1 = provider.state.answer lib request
      ∧ (provider.executeAuthorized lib request).2.state = provider.state.request lib request := by
  rw [MockProviderState.answer, MockProviderState.request, MockProvider.executeAuthorized,
    MockProvider.executeAuthorized]
  split_ifs <;> exact ⟨rfl, rfl⟩

/-- A mock provider that has executed some requests since it was made. -/
def MockProvider.after (requests : List ProviderActionRequest) : MockProvider :=
  Lib.final (mockStep lib) .reset (requests.map .execute)

/-- Its target is the one that the requests leave. -/
theorem MockProvider.after_state (requests : List ProviderActionRequest) :
    (MockProvider.after lib requests).state = .after lib requests := by
  have each (provider : MockProvider) :
      (Lib.final (mockStep lib) provider (requests.map .execute)).state
        = requests.foldl (fun state request => state.request lib request) provider.state := by
    induction requests generalizing provider with
    | nil => rfl
    | cons request rest ih =>
        rw [List.map_cons, Lib.final, ih, List.foldl_cons,
          ← (executeAuthorized_eq lib provider request).2]
        rfl
  exact each .reset

end Targets

/-- The branches that only read. -/
def MockBranch.reads : MockBranch → Bool
  | .status | .screen | .powerState | .hardwareInventory | .sensors | .eventLogs | .bootStatus
  | .viewDiskLayout | .readNetwork | .other => true
  | _ => false

section Requests

variable {lib : MockLibrary} {state : MockProviderState} {request : ProviderActionRequest}

/-- A request that only reads changes nothing. -/
theorem request_of_reads (reads : request.branch.reads = true) :
    state.request lib request = state := by
  have branchIs : mockBranch request.capability = request.branch := rfl
  rw [MockProviderState.request, MockProviderState.simulate, branchIs]
  split_ifs
  · cases at_ : request.branch <;> rw [at_] at reads <;> first | rfl | cases reads
  · rfl

/-- **What a request leaves**: each setting is what it says of it or what it was, and its events
come last. -/
theorem request_eq (supported : MockProvider.supports request.capability = true) :
    state.request lib request = { state with
      powerState := request.branch.setsPower.getD state.powerState
      mountedMedia := (request.setsMedium lib).getD state.mountedMedia
      bootOverride := (request.setsBoot lib).getD state.bootOverride
      inputEvents := state.inputEvents ++ (request.inputEvent lib).toList
      simulatedEvents := state.simulatedEvents ++ request.simulatedEvent.toList } := by
  have branchIs : mockBranch request.capability = request.branch := rfl
  rw [MockProviderState.request, if_pos supported, MockProviderState.simulate, branchIs,
    ProviderActionRequest.setsMedium, ProviderActionRequest.setsBoot,
    ProviderActionRequest.inputEvent, ProviderActionRequest.simulatedEvent]
  cases request.branch <;>
    simp [MockProviderState.simulateBranch, MockProviderState.recordSimulatedEvent,
      MockBranch.setsPower, MockBranch.recordsEvent]

end Requests

/-- **A target extends another**: it differs in nothing but that a medium is ejected and that more is
typed and recorded. -/
structure MockProviderState.Extends (target approved : MockProviderState) : Prop where
  settings : target = { approved with
    mountedMedia := target.mountedMedia
    inputEvents := target.inputEvents
    simulatedEvents := target.simulatedEvents }
  medium : target.mountedMedia = none ∨ target.mountedMedia = approved.mountedMedia
  inputs : approved.inputEvents.Sublist target.inputEvents
  events : approved.simulatedEvents.Sublist target.simulatedEvents

/-- **How a mode ties a target** to the one that the approved calls alone would have left. Full
control, which asks for nothing, does not tie them. -/
def ControlMode.Tracks : ControlMode → MockProviderState → MockProviderState → Prop
  | .custom, target, _ | .observe, target, _ => target = {}
  | .assisted, target, approved => target = approved
  | .supervised, target, approved => target.Extends approved
  | .fullControl, _, _ => True

namespace MockProviderState.Extends

variable {lib : MockLibrary} {target approved : MockProviderState}
  {request : ProviderActionRequest}

/-- A target extends itself. -/
theorem refl (target : MockProviderState) : target.Extends target :=
  ⟨rfl, .inr rfl, .refl _, .refl _⟩

/-- A call on both targets keeps the tie. -/
theorem both (supported : MockProvider.supports request.capability = true)
    (tied : target.Extends approved) :
    (target.request lib request).Extends (approved.request lib request) := by
  rw [request_eq supported, request_eq supported]
  refine ⟨?_, ?_, tied.inputs.append (.refl _), tied.events.append (.refl _)⟩
  · rw [tied.settings]
  · dsimp only
    cases request.setsMedium lib with
    | none => exact tied.medium
    | some medium => exact .inr rfl

/-- A call on the first target alone keeps the tie where it sets neither power nor the boot device
and mounts nothing. -/
theorem alone (supported : MockProvider.supports request.capability = true)
    (noPower : request.branch.setsPower = none) (noBoot : request.branch ≠ .bootOverride)
    (noMount : request.branch ≠ .mount) (tied : target.Extends approved) :
    (target.request lib request).Extends approved := by
  have leavesBoot : request.setsBoot lib = none := by
    rw [ProviderActionRequest.setsBoot]
    split
    · next at_ => exact absurd at_ noBoot
    · rfl
  -- what is not mounted is left or ejected
  have ejects : request.setsMedium lib = none ∨ request.setsMedium lib = some none := by
    rw [ProviderActionRequest.setsMedium]
    split
    · next at_ => exact absurd at_ noMount
    · exact .inr rfl
    · exact .inl rfl
  rw [request_eq supported, noPower, leavesBoot]
  refine ⟨?_, ?_, tied.inputs.trans (List.sublist_append_left _ _),
    tied.events.trans (List.sublist_append_left _ _)⟩
  · dsimp only [Option.getD_none]
    rw [tied.settings]
  · dsimp only
    rcases ejects with nothing | ejected
    · rw [nothing]
      exact tied.medium
    · rw [ejected]
      exact .inl rfl

end MockProviderState.Extends

/-- What is passive only reads. -/
theorem reads_of_passive : ∀ capability ∈ defaultCapabilities, capability.Passive →
    (mockBranch capability.id).reads = true := by
  decide +kernel

/-- What supervised mode permits unattended sets no power state and no boot device, and mounts
nothing. -/
theorem unattended_settings : ∀ capability ∈ defaultCapabilities,
    (capability.Passive ∨ capability.dangerous = false
      ∧ capability.id ∉ ["media.mount_approved_iso", "secrets.inject_reference"]) →
    (mockBranch capability.id).setsPower = none ∧ mockBranch capability.id ≠ .bootOverride
      ∧ mockBranch capability.id ≠ .mount := by
  decide +kernel

/-- A capability the default registry has is one of its list. -/
theorem mem_defaultCapabilities {id : String} {capability : Capability}
    (known : defaultCapabilityRegistry.get id = some capability) :
    capability ∈ defaultCapabilities ∧ capability.id = id :=
  ⟨List.mem_of_find?_eq_some known, CapabilityRegistry.id_of_get known⟩

/-- **One call a mode permits** keeps the tie: an approved call is made on both targets, another one
on the target alone, where the mode permits it unattended. -/
theorem ControlMode.Tracks.request {lib : MockLibrary} {mode : ControlMode}
    {target approved : MockProviderState} (tracks : mode.Tracks target approved)
    {capability : Capability} {request : ProviderActionRequest} {capabilityId : String}
    (known : defaultCapabilityRegistry.get capabilityId = some capability)
    (isFor : request.capability = capability.id) (permits : mode.Permits capability)
    (granted : Bool) (unattended : granted = false → mode.PermitsUnattended capability) :
    mode.Tracks (target.request lib request)
      (if granted then approved.request lib request else approved) := by
  obtain ⟨listed, named⟩ := mem_defaultCapabilities known
  have branchIs : request.branch = mockBranch capability.id := congrArg mockBranch isFor
  have quiet (passive : capability.Passive) (state : MockProviderState) :
      state.request lib request = state :=
    request_of_reads (branchIs ▸ reads_of_passive capability listed passive)
  cases mode with
  | custom => exact permits.elim
  | observe =>
      change target = {} at tracks
      change target.request lib request = {}
      rw [quiet permits, tracks]
  | assisted =>
      change target = approved at tracks
      change target.request lib request = ite _ _ _
      subst tracks
      cases granted with
      | true => rfl
      | false => exact quiet (unattended rfl) target
  | fullControl => trivial
  | supervised =>
      have supported : MockProvider.supports request.capability = true := by
        rw [isFor, named, MockProvider.supports, known]
        rfl
      cases granted with
      | true => exact tracks.both supported
      | false =>
          obtain ⟨noPower, noBoot, noMount⟩ :=
            unattended_settings capability listed (unattended rfl)
          rw [← branchIs] at noPower noBoot noMount
          exact tracks.alone supported noPower noBoot noMount

/-! ## Runs -/

namespace ConfigRuntime

section Runs

variable {lib : AuditLibrary} {runtime : ConfigRuntime} {registry : PlaybookRegistry}
  {history effects : List RuntimeEffect} {store after : ApprovalStore}

/-- The answers of a sequence of requests. -/
theorem Requests.answered (requests : runtime.Requests lib history store effects after) :
    AnsweredFrom runtime.environment history effects := by
  induction requests with
  | none => exact answered_own ownEvents_nil
  | request call made left rest ih =>
      refine AnsweredFrom.append ?_ ih
      rw [← made]
      exact (runtime.adapterRouter.handleToolRequest_handles).answered

/-- The answers of a run. -/
theorem run_answered (life : RuntimeLife) (operations : List RuntimeOperation) :
    AnsweredFrom runtime.environment life.history
      (Lib.outputs (runtime.runtimeStep lib registry) life operations).flatten := by
  induction operations generalizing life with
  | nil => exact answered_own ownEvents_nil
  | cons operation rest ih =>
      obtain ⟨longer, left⟩ := @runtimeStep_leaves lib runtime registry life operation
      rw [Lib.outputs, List.flatten_cons]
      refine AnsweredFrom.append ?_ (longer ▸ ih _)
      rcases left with requests | ⟨own, -⟩
      · exact requests.answered
      · exact answered_own own

/-- The calls of a run are those of its operations, whatever was read before. -/
theorem run_calls (life : RuntimeLife) (operations : List RuntimeOperation) (state : TrailState) :
    auditedFrom state (Lib.outputs (runtime.runtimeStep lib registry) life operations).flatten
      = (Lib.outputs (runtime.runtimeStep lib registry) life operations).flatMap auditedCalls := by
  induction operations generalizing life state with
  | nil => rfl
  | cons operation rest ih =>
      rw [Lib.outputs, List.flatten_cons, List.flatMap_cons, auditedFrom_append, ih]
      obtain ⟨-, requests | ⟨own, -⟩⟩ := @runtimeStep_leaves lib runtime registry life operation
      · rw [requests.standalone]
      · rw [auditedFrom_own own, auditedCalls, auditedFrom_own own]

end Runs

end ConfigRuntime

/-! ## Targets over runs -/

/-- The requests that were made on an adapter. -/
def requestsOn (adapter : ProviderAdapter) (history : List RuntimeEffect) :
    List ProviderActionRequest :=
  ((history.filterMap RuntimeEffect.providerCall).filter fun call => call.1 = adapter).map Prod.snd

/-- The requests that were made on an adapter and stand on a grant. -/
def approvedOn (adapter : ProviderAdapter) (history : List RuntimeEffect) :
    List ProviderActionRequest :=
  ((auditedCalls history).filter fun call => call.adapter = adapter ∧ call.grant.isSome).map
    AuditedCall.request

/-- **Mock adapters are mock providers**: each answers as the provider that has executed the requests
made on it before. -/
def RuntimeEnvironment.RunsMock (lib : MockLibrary) (environment : RuntimeEnvironment) : Prop :=
  ∀ history adapter request, adapter.providerKind = "mock" →
    environment.execute history adapter request
      = .ok ((MockProvider.after lib (requestsOn adapter history)).executeAuthorized lib request).1

/-- A call whose capability is registered and permitted by a mode, unattended where it stands on no
grant. -/
def ControlMode.PermitsCall (mode : ControlMode) (call : AuditedCall) : Prop :=
  ∃ capabilityId capability, defaultCapabilityRegistry.get capabilityId = some capability
    ∧ call.request.capability = capability.id ∧ mode.Permits capability
    ∧ (call.grant = none → mode.PermitsUnattended capability)

/-- Calls that a mode permits keep the tie between the target of all and the target of those that
were approved. -/
theorem tracks_of_permitted {lib : MockLibrary} {mode : ControlMode} {adapter : ProviderAdapter}
    {calls : List AuditedCall} (permitted : ∀ call ∈ calls, mode.PermitsCall call) :
    mode.Tracks
      (.after lib ((calls.filter fun call => call.adapter = adapter).map AuditedCall.request))
      (.after lib ((calls.filter fun call => call.adapter = adapter ∧ call.grant.isSome).map
        AuditedCall.request)) := by
  induction calls using List.reverseRecOn with
  | nil =>
      cases mode with
      | custom | observe | assisted => rfl
      | supervised => exact .refl _
      | fullControl => trivial
  | append_singleton calls call ih =>
      have earlier := ih fun call member => permitted call (List.mem_append_left _ member)
      by_cases here : call.adapter = adapter
      · obtain ⟨capabilityId, capability, known, isFor, permits, unattended⟩ :=
          permitted call (List.mem_append_right _ List.mem_cons_self)
        have next : mode.Tracks (MockProviderState.request lib _ call.request) _ :=
          earlier.request known isFor permits call.grant.isSome
            fun none => unattended (Option.isNone_iff_eq_none.mp (by simpa using none))
        cases granted : call.grant.isSome with
        | true =>
            rw [granted] at next
            simpa [MockProviderState.after, here, granted] using next
        | false =>
            rw [granted] at next
            simpa [MockProviderState.after, here, granted] using next
      · simpa [here] using earlier

/-- The requests on an adapter as the trail shows them. -/
theorem requestsOn_eq (adapter : ProviderAdapter) (history : List RuntimeEffect) :
    requestsOn adapter history
      = ((auditedCalls history).filter fun call => call.adapter = adapter).map
        AuditedCall.request := by
  rw [requestsOn, ← @auditedFrom_calls .fresh history, List.filter_map, List.map_map]
  rfl

open ConfigRuntime in
/-- **What is done to a mock target is what was approved**, in every run of a built runtime whose
mock adapters answer as `MockProvider` does, whatever grants its store holds at first: at every
moment the runtime's mode ties the target that the requests so far have left to the one which those
that stand on a grant would have left alone, and a mock adapter that is asked answers from it. -/
theorem mock_target_approved (configLib : ConfigLibrary) (environment : RuntimeEnvironment)
    (transportFor : String → ACTHTTPTransport RuntimeEffect) (raw : Params)
    (runtime : ConfigRuntime)
    (built : runtimeOf configLib environment transportFor raw = .ok runtime) (lib : MockLibrary)
    (mocks : environment.RunsMock lib) (registry : PlaybookRegistry)
    (life : RuntimeLife) (fresh : life.history = []) (operations : List RuntimeOperation) :
    let run := Lib.outputs (runtime.runtimeStep lib.toAuditLibrary registry) life operations
    ∀ before rest adapter, run.flatten = before ++ rest →
      runtime.policy.mode.Tracks (.after lib (requestsOn adapter before))
          (.after lib (approvedOn adapter before))
        ∧ ∀ request answer after, rest = .handled adapter (.executed request answer) :: after →
          adapter.providerKind = "mock" →
            answer = .ok
              ((MockProviderState.after lib (requestsOn adapter before)).answer lib request) := by
  intro run before rest adapter split
  obtain ⟨⟨mode, builtIn⟩, same⟩ := buildRuntime_policy built
  constructor
  · rw [requestsOn_eq]
    refine tracks_of_permitted fun call member => ?_
    have inRun : call ∈ run.flatMap auditedCalls := by
      rw [← run_calls life operations .fresh, split, auditedFrom_append]
      exact List.mem_append_left _ member
    obtain ⟨effects, isOutput, called⟩ := List.mem_flatMap.mp inRun
    have each : ∀ effects ∈ run, ∀ call ∈ auditedCalls effects,
        ∃ request tool capability target entry,
          runtime.CallFor request tool capability target entry call :=
      Lib.outputs_forall_of_each (fun life operation => runtimeStep_callFor operation)
        life operations
    obtain ⟨asked, tool, capability, target, entry, callFor⟩ := each effects isOutput call called
    obtain ⟨-, permits, unattended⟩ := callFor.permitted builtIn
    exact ⟨tool.capabilityId, capability, callFor.contained.capabilityKnown,
      by rw [callFor.action]; rfl, permits, unattended⟩
  · rintro request answer after rfl isMock
    have answered := run_answered life operations before adapter request answer after split
    rw [fresh, List.nil_append, same, mocks before adapter request isMock] at answered
    rw [answered, (executeAuthorized_eq lib _ request).1, MockProvider.after_state]

namespace Deployment

/-- A library over the one of the runtime. -/
def targetLibrary : MockLibrary where
  toAuditLibrary := stampLibrary
  objectTruth _ _ := true
  objectItems _ _ := none

/-- An environment whose adapters are mock providers. -/
def mockEnvironment : RuntimeEnvironment :=
  { calmEnvironment with
    execute := fun history adapter request =>
      .ok ((MockProvider.after targetLibrary (requestsOn adapter history)).executeAuthorized
        targetLibrary request).1 }

/-- A runtime's life that begins with an operator's grant for one restart of the target. -/
def restartGranted : RuntimeLife :=
  { RuntimeLife.start with
    store := ⟨[{ sessionGrant with targetId := "lab-1", scope := .oneTime }], []⟩ }

/-- A call of a tool without parameters. -/
def labCall (toolName : String) (named : toolName ≠ "") : RuntimeOperation :=
  .adapterCall (.call { restartCall "lab-1" lab_named with toolName, named })

theorem restart_named : "graceful_restart" ≠ "" := by decide

theorem clearance_named : "request_clearance" ≠ "" := by decide

/-- A restart that is granted, one that is not, a request that needs no grant, and a look at the
target. -/
def restartOperations : List RuntimeOperation :=
  [labCall "graceful_restart" restart_named, labCall "graceful_restart" restart_named,
    labCall "request_clearance" clearance_named, labCall "get_status" getStatus_named]

/-- What the operations do. -/
def restartRun (runtime : ConfigRuntime) : List RuntimeEffect :=
  (Lib.outputs (runtime.runtimeStep targetLibrary.toAuditLibrary defaultPlaybookRegistry)
    restartGranted restartOperations).flatten

/-- At a place of a run a mock provider is called for the status, after two other requests of which
one was approved. -/
def statusAfterRestart (effects : List RuntimeEffect) (k : Nat) : Bool :=
  match effects[k]? with
  | some (.handled adapter (.executed request _)) =>
      adapter.providerKind = "mock" && request.capability = "observe.status"
        && (requestsOn adapter (effects.take k)).length = 2
        && (approvedOn adapter (effects.take k)).length = 1
  | _ => false

/-- The configuration is accepted in supervised mode, and the run calls for the status so. -/
def readsRestarted : Bool :=
  match runtimeOf configLibrary mockEnvironment noTransport (targetConfig "lab-1") with
  | .error _ => false
  | .ok runtime => runtime.policy.mode = .supervised
      && (List.range (restartRun runtime).length).any (statusAfterRestart (restartRun runtime))

/-- The place holds the call. -/
theorem statusAfterRestart_eq_true {effects : List RuntimeEffect} {k : Nat}
    (at_ : statusAfterRestart effects k = true) : ∃ adapter request answer,
      effects = effects.take k ++ .handled adapter (.executed request answer) :: effects.drop (k + 1)
        ∧ adapter.providerKind = "mock" ∧ request.capability = "observe.status"
        ∧ (requestsOn adapter (effects.take k)).length = 2
        ∧ (approvedOn adapter (effects.take k)).length = 1 := by
  unfold statusAfterRestart at at_
  split at at_
  · next adapter request answer found =>
      simp only [Bool.and_eq_true, decide_eq_true_eq] at at_
      obtain ⟨⟨⟨isMock, status⟩, two⟩, one⟩ := at_
      refine ⟨adapter, request, answer, ?_, isMock, status, two, one⟩
      obtain ⟨inside, isHere⟩ := List.getElem?_eq_some_iff.mp found
      rw [← isHere, List.getElem_cons_drop, List.take_append_drop]
  · cases at_

end Deployment

/-- In supervised mode a restart that was granted and a request that needed no grant have been
executed, a second restart has not, and the status is read: the target is what the granted restart
left, with one event more. -/
theorem mock_target_approved_restart : ∃ runtime before adapter request after,
    runtimeOf Deployment.configLibrary Deployment.mockEnvironment Deployment.noTransport
        (Deployment.targetConfig "lab-1") = .ok runtime
      ∧ Deployment.restartRun runtime = before ++ .handled adapter (.executed request
        (.ok ((MockProviderState.after Deployment.targetLibrary (requestsOn adapter before)).answer
          Deployment.targetLibrary request))) :: after
      ∧ request.capability = "observe.status"
      ∧ (requestsOn adapter before).length = 2 ∧ (approvedOn adapter before).length = 1
      ∧ (MockProviderState.after Deployment.targetLibrary (requestsOn adapter before)).Extends
        (.after Deployment.targetLibrary (approvedOn adapter before)) := by
  have configured : Deployment.readsRestarted = true := by decide +kernel
  unfold Deployment.readsRestarted at configured
  split at configured
  · cases configured
  · next runtime built =>
      rw [Bool.and_eq_true, decide_eq_true_eq] at configured
      obtain ⟨supervised, somewhere⟩ := configured
      obtain ⟨k, -, at_⟩ := List.any_eq_true.mp somewhere
      obtain ⟨adapter, request, answer, split, isMock, status, two, one⟩ :=
        Deployment.statusAfterRestart_eq_true at_
      obtain ⟨tracks, answered⟩ := mock_target_approved Deployment.configLibrary
        Deployment.mockEnvironment Deployment.noTransport (Deployment.targetConfig "lab-1") runtime
        built Deployment.targetLibrary (fun _ _ _ _ => rfl) defaultPlaybookRegistry
        Deployment.restartGranted rfl Deployment.restartOperations _ _ adapter split
      rw [supervised] at tracks
      have answer_eq := answered request answer _ rfl isMock
      exact ⟨runtime, _, adapter, request, _, built, answer_eq ▸ split, status, two, one, tracks⟩

end AgenticKVM
