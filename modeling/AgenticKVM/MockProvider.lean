import AgenticKVM.HostValidity

/-! # The mock provider as a machine

`MockProvider` (`providers/mock.py`, over the contract of `providers/base.py`) is the provider that
development and tests act on: a fake target whose state its requests read and change, and that never
touches hardware. The dispatch of `_simulate` is a classification of capabilities (`MockBranch`), and
each branch has a body. Over runs, the fake target is what the log of accepted requests says it is
(`mockRun_log`), and it shows nothing of the secrets in their parameters (`mockRun_alike`). -/

namespace AgenticKVM

/-! ## The fake target -/

/-- The library functions a simulation rests on: those of redaction, and the truth values of
objects. -/
structure MockLibrary extends AuditLibrary, ConfigLibrary

/-- An entry of `simulated_events`. -/
structure SimulatedEvent where
  capability : String
  action : String
  targetId : String

/-- The entry as the mapping it is. -/
def SimulatedEvent.record (event : SimulatedEvent) : PyValue :=
  strDict [("capability", .str event.capability), ("action", .str event.action),
    ("target_id", .str event.targetId), ("simulated", .bool true)]

/-- `hid_capture_posture`. -/
def hidCapturePosture (fullCapture : Bool) : PyValue :=
  strDict [("full_capture", .bool fullCapture),
    ("posture", .str (if fullCapture then "full_capture_reduced_protection"
      else "default_redacted")),
    ("warning", .str (if fullCapture
      then "full capture reduces HID text protection; credential-class strings are still stripped"
      else "HID and screen text are redacted by default"))]

/-- An entry of `input_events`: a capability and its redacted parameters. -/
structure InputEvent where
  capability : String
  parameters : Params

/-- The entry as the mapping it is. -/
def InputEvent.record (event : InputEvent) : PyValue :=
  strDict [("capability", .str event.capability), ("parameters", .dict event.parameters),
    ("hid_capture", hidCapturePosture false)]

/-- `MockProviderState`. -/
structure MockProviderState where
  powerState : String := "off"
  screenText : String := "AgenticKVM mock screen"
  bootStatus : String := "mock firmware prompt"
  mountedMedia : Option String := none
  bootOverride : Option String := none
  inputEvents : List InputEvent := []
  simulatedEvents : List SimulatedEvent := []
  networkConfig : Params :=
    strEntries [("bmc_ip", .str "192.0.2.10"), ("host_ip", .str "192.0.2.20")]
  storageLayout : Params :=
    strEntries [("disks", .list [strDict [("id", .str "mock-disk-0"), ("size_gb", .int 64)]])]

namespace MockProviderState

/-- `_state_summary`. -/
def stateSummary (state : MockProviderState) : PyValue :=
  strDict [("power_state", .str state.powerState), ("boot_status", .str state.bootStatus),
    ("mounted_media", optionalStr state.mountedMedia),
    ("boot_override", optionalStr state.bootOverride),
    ("input_event_count", .int state.inputEvents.length),
    ("simulated_event_count", .int state.simulatedEvents.length)]

/-- `_record_simulated_event`. -/
def recordSimulatedEvent (state : MockProviderState) (request : ProviderActionRequest) :
    MockProviderState :=
  { state with simulatedEvents :=
      state.simulatedEvents ++ [⟨request.capability, request.action, request.targetId⟩] }

/-- `simulated_events[-1]`. -/
def lastEvent (state : MockProviderState) : PyValue :=
  (state.simulatedEvents.getLast?.map SimulatedEvent.record).getD .none

end MockProviderState

/-! ## Dispatch -/

/-- The branches of `_simulate`. -/
inductive MockBranch
  | status | screen | powerState | hardwareInventory | sensors | eventLogs | bootStatus
  | input | powerOn | powerOff | powerRestart | nmi | mount | eject | bootOverride | firmware
  | viewDiskLayout | storage | readNetwork | network | bmc | secrets | runtime | other
deriving DecidableEq

/-- The branch of a capability: the conditions of `_simulate`, in their order. -/
def mockBranch (capability : String) : MockBranch :=
  if capability = "observe.status" then .status
  else if capability ∈ ["observe.screen", "observe.screenshot"] then .screen
  else if capability = "observe.power_state" then .powerState
  else if capability = "observe.hardware_inventory" then .hardwareInventory
  else if capability = "observe.sensors" then .sensors
  else if capability = "observe.event_logs" then .eventLogs
  else if capability = "observe.boot_status" then .bootStatus
  else if startsWith capability "input." then .input
  else if capability = "power.on" then .powerOn
  else if capability ∈ ["power.graceful_shutdown", "power.force_off"] then .powerOff
  else if capability ∈ ["power.graceful_restart", "power.force_restart", "power.power_cycle"] then
    .powerRestart
  else if capability = "power.nmi" then .nmi
  else if capability ∈ ["media.mount_approved_iso", "media.mount_arbitrary_iso"] then .mount
  else if capability = "media.eject" then .eject
  else if capability = "boot.override" then .bootOverride
  else if startsWith capability "bios." || startsWith capability "firmware." then .firmware
  else if capability = "storage.view_disk_layout" then .viewDiskLayout
  else if startsWith capability "storage." then .storage
  else if capability = "network.read_config" then .readNetwork
  else if startsWith capability "network." then .network
  else if startsWith capability "bmc." then .bmc
  else if startsWith capability "secrets." then .secrets
  else if startsWith capability "runtime." then .runtime
  else .other

section Provider

variable (lib : MockLibrary)

/-- `redacted_parameters` of a request. -/
def ProviderActionRequest.redactedParameters (request : ProviderActionRequest) : Params :=
  (redactMapping lib.toAuditLibrary request.parameters none).1

/-- The medium a request mounts: the first of its parameters that is not empty. -/
def mountedImage (parameters : Params) : String :=
  pyStr lib.toStdlib (((["image", "url", "media"].filterMap (paramGet parameters)).find?
    (pyBool lib.toConfigLibrary)).getD (.str "mock.iso"))

/-- The device a request overrides the boot order with. -/
def overrideDevice (parameters : Params) : String :=
  pyStr lib.toStdlib (getOr parameters "device" (.str "mock-override"))

namespace MockProviderState

variable (state : MockProviderState)

/-- The bodies of `_simulate`: what a branch adds to the data of the answer, and the state it
leaves. -/
def simulateBranch (request : ProviderActionRequest) (parameters : Params) :
    MockBranch → List (String × PyValue) × MockProviderState
  | .status => ([("state", state.stateSummary)], state)
  | .screen =>
      ([("screen", strDict [("kind", .str "text_snapshot"), ("content", .str state.screenText)])],
        state)
  | .powerState => ([("power_state", .str state.powerState)], state)
  | .hardwareInventory =>
      ([("inventory", strDict [("provider", .str "mock"), ("model", .str "AgenticKVM Mock Target")])],
        state)
  | .sensors =>
      ([("sensors", .list [strDict [("name", .str "mock-temp"), ("value", .int 25),
        ("unit", .str "C")]])], state)
  | .eventLogs => ([("events", .list (state.simulatedEvents.map SimulatedEvent.record))], state)
  | .bootStatus =>
      ([("boot_status", strDict [("phase", .str state.bootStatus),
        ("boot_override", optionalStr state.bootOverride)])], state)
  | .input =>
      let after := { state with
        inputEvents := state.inputEvents ++ [⟨request.capability, parameters⟩] }
      ([("input_events", .list (after.inputEvents.map InputEvent.record))], after)
  | .powerOn => ([("power_state", .str "on")], { state with powerState := "on" })
  | .powerOff =>
      ([("power_state", .str "off")],
        { state with powerState := "off" }.recordSimulatedEvent request)
  | .powerRestart =>
      ([("power_state", .str "on")],
        { state with powerState := "on" }.recordSimulatedEvent request)
  | .nmi => ([("power_state", .str state.powerState)], state.recordSimulatedEvent request)
  | .mount =>
      ([("mounted_media", .str (mountedImage lib parameters))],
        { state with mountedMedia := some (mountedImage lib parameters)
          }.recordSimulatedEvent request)
  | .eject => ([("mounted_media", .none)], { state with mountedMedia := none })
  | .bootOverride =>
      ([("boot_override", .str (overrideDevice lib parameters))],
        { state with bootOverride := some (overrideDevice lib parameters)
          }.recordSimulatedEvent request)
  | .firmware | .bmc =>
      let after := state.recordSimulatedEvent request
      ([("event", after.lastEvent)], after)
  | .viewDiskLayout => ([("storage_layout", .dict state.storageLayout)], state)
  | .storage =>
      ([("storage_layout", .dict state.storageLayout),
        ("destructive_effect_simulated", .bool true)], state.recordSimulatedEvent request)
  | .readNetwork => ([("network_config", .dict state.networkConfig)], state)
  | .network =>
      ([("network_config", .dict state.networkConfig)], state.recordSimulatedEvent request)
  | .secrets =>
      ([("secret_material_revealed", .bool false)], state.recordSimulatedEvent request)
  | .runtime =>
      ([("runtime", strDict [("status", .str "simulated")])], state.recordSimulatedEvent request)
  | .other => ([], state)

/-- `_simulate`: the data of the answer and the state it leaves. -/
def simulate (request : ProviderActionRequest) : Params × MockProviderState :=
  let parameters := request.redactedParameters lib
  let branch := state.simulateBranch lib request parameters (mockBranch request.capability)
  (strEntries ([("mock", .bool true), ("simulated", .bool true), ("performed", .bool false),
    ("parameters", .dict parameters)] ++ branch.1), branch.2)

end MockProviderState

/-- `MockProvider`: the requests it has accepted and its fake target. -/
structure MockProvider where
  requests : List ProviderActionRequest
  state : MockProviderState

namespace MockProvider

/-- `reset`, which is also how a provider starts. -/
def reset : MockProvider := ⟨[], {}⟩

/-- `supports`: every capability of the default registry. -/
def supports (capability : String) : Bool :=
  (defaultCapabilityRegistry.get capability).isSome

/-- `execute_authorized`, where `validate_authorized` refuses what is not supported. -/
def executeAuthorized (provider : MockProvider) (request : ProviderActionRequest) :
    ProviderActionResult × MockProvider :=
  if supports request.capability then
    let simulated := provider.state.simulate lib request
    ({ ok := true
       providerId := "mock"
       capability := request.capability
       action := request.action
       targetId := request.targetId
       performedOnHardware := false
       message := "Mock provider recorded authorized request; no hardware action performed."
       data := simulated.1
       providerType := some "mock" },
      ⟨provider.requests ++ [request], simulated.2⟩)
  else
    ({ ok := false
       providerId := "mock"
       capability := request.capability
       action := request.action
       targetId := request.targetId
       performedOnHardware := false
       message := "unsupported capability; no hardware action performed."
       data := strEntries [("mock", .bool true), ("performed", .bool false)]
       providerType := some "mock"
       errorCode := some "unsupported_capability"
       errorMessage := some "unsupported capability" }, provider)

/-- The fields that an answer takes from its request and its provider. -/
structure Names (request : ProviderActionRequest) (answer : ProviderActionResult) : Prop where
  providerId : answer.providerId = "mock"
  providerType : answer.providerType = some "mock"
  capability : answer.capability = request.capability
  action : answer.action = request.action
  targetId : answer.targetId = request.targetId
  warnings : answer.warnings = []
  redacted : answer.redacted = true
  timestamp : answer.timestamp = none
  errorMessage : answer.errorMessage
    = if supports request.capability then none else some "unsupported capability"

end MockProvider

/-! ## What a log of requests says -/

/-- The power state a branch sets. -/
def MockBranch.setsPower : MockBranch → Option String
  | .powerOn | .powerRestart => some "on"
  | .powerOff => some "off"
  | _ => none

/-- Whether a branch records a simulated event. Switching on, ejecting a medium and typing do not. -/
def MockBranch.recordsEvent : MockBranch → Bool
  | .powerOff | .powerRestart | .nmi | .mount | .bootOverride | .firmware | .storage | .network
  | .bmc | .secrets | .runtime => true
  | _ => false

/-- What a request says last about something, or what held at the start. -/
def latest {α : Type} (told : ProviderActionRequest → Option α) (start : α)
    (log : List ProviderActionRequest) : α :=
  (log.filterMap told).getLast?.getD start

theorem latest_snoc {α : Type} (told : ProviderActionRequest → Option α) (start : α)
    (log : List ProviderActionRequest) (request : ProviderActionRequest) :
    latest told start (log ++ [request]) = (told request).getD (latest told start log) := by
  rw [latest, List.filterMap_append]
  cases said : told request with
  | none =>
      rw [List.filterMap_cons_none said, List.filterMap_nil, List.append_nil]
      rfl
  | some a =>
      rw [List.filterMap_cons_some said, List.filterMap_nil, List.getLast?_concat]
      rfl

namespace ProviderActionRequest

variable (request : ProviderActionRequest)

/-- The branch that simulates a request. -/
def branch : MockBranch := mockBranch request.capability

/-- What a request says about the mounted medium. -/
def setsMedium : Option (Option String) :=
  match request.branch with
  | .mount => some (some (mountedImage lib (request.redactedParameters lib)))
  | .eject => some none
  | _ => none

/-- What a request says about the boot override. -/
def setsBoot : Option (Option String) :=
  match request.branch with
  | .bootOverride => some (some (overrideDevice lib (request.redactedParameters lib)))
  | _ => none

/-- The input event of a request. -/
def inputEvent : Option InputEvent :=
  match request.branch with
  | .input => some ⟨request.capability, request.redactedParameters lib⟩
  | _ => none

/-- The simulated event of a request. -/
def simulatedEvent : Option SimulatedEvent :=
  if request.branch.recordsEvent then some ⟨request.capability, request.action, request.targetId⟩
  else none

end ProviderActionRequest

/-- **The fake target of a log**: each setting is what was said of it last, and the events are those
of the requests, in order. -/
def targetOf (log : List ProviderActionRequest) : MockProviderState :=
  { powerState := latest (fun request => request.branch.setsPower) "off" log
    mountedMedia := latest (fun request => request.setsMedium lib) none log
    bootOverride := latest (fun request => request.setsBoot lib) none log
    inputEvents := log.filterMap fun request => request.inputEvent lib
    simulatedEvents := log.filterMap fun request => request.simulatedEvent }

/-- **One request**: simulating it on the target of a log leaves the target of the longer log. -/
theorem simulate_targetOf (log : List ProviderActionRequest) (request : ProviderActionRequest) :
    ((targetOf lib log).simulate lib request).2 = targetOf lib (log ++ [request]) := by
  have branchIs : mockBranch request.capability = request.branch := rfl
  simp only [targetOf, latest_snoc, List.filterMap_append]
  rw [MockProviderState.simulate, branchIs]
  cases at_ : request.branch with
  | _ =>
      simp [MockProviderState.simulateBranch, MockProviderState.recordSimulatedEvent,
        MockBranch.setsPower, MockBranch.recordsEvent, ProviderActionRequest.setsMedium,
        ProviderActionRequest.setsBoot, ProviderActionRequest.inputEvent,
        ProviderActionRequest.simulatedEvent, at_]

/-! ## Runs -/

/-- What is done with a mock provider. -/
inductive MockOperation
  | execute (request : ProviderActionRequest)
  | reset

/-- One operation, with the answer to a request. -/
def mockStep (provider : MockProvider) :
    MockOperation → MockProvider × Option ProviderActionResult
  | .execute request =>
      let executed := provider.executeAuthorized lib request
      (executed.2, some executed.1)
  | .reset => (.reset, none)

/-- The requests that have been accepted since the last reset. -/
def acceptedSince (log : List ProviderActionRequest) : MockOperation → List ProviderActionRequest
  | .execute request => if MockProvider.supports request.capability then log ++ [request] else log
  | .reset => []

/-- A provider as a log says it is. -/
def MockProvider.ofLog (log : List ProviderActionRequest) : MockProvider := ⟨log, targetOf lib log⟩

/-- One operation on a provider that is as its log says. -/
theorem mockStep_ofLog (log : List ProviderActionRequest) (operation : MockOperation) :
    (mockStep lib (.ofLog lib log) operation).1 = .ofLog lib (acceptedSince log operation) := by
  cases operation with
  | reset => rfl
  | execute request =>
      change ((MockProvider.ofLog lib log).executeAuthorized lib request).2 = _
      rw [MockProvider.executeAuthorized, acceptedSince]
      split_ifs with supported
      · exact congrArg (MockProvider.mk _) (simulate_targetOf lib log request)
      · rfl

/-- A run keeps a provider as its log says. -/
theorem mockRun_ofLog (log : List ProviderActionRequest) (operations : List MockOperation) :
    Lib.final (mockStep lib) (.ofLog lib log) operations
      = .ofLog lib (operations.foldl acceptedSince log) := by
  induction operations generalizing log with
  | nil => rfl
  | cons operation rest ih =>
      rw [Lib.final, mockStep_ofLog, ih]
      rfl

end Provider

/-- **The fake target is what its log says**, after any run of requests and resets: each setting is
what an accepted request said of it last, and the events are those of the accepted requests in
order; and each request is answered from the target that the log before it describes, without any
action on hardware. -/
theorem mockRun_log (lib : MockLibrary) (operations : List MockOperation) :
    let log := fun done : List MockOperation => done.foldl acceptedSince []
    Lib.final (mockStep lib) .reset operations
        = ⟨log operations, targetOf lib (log operations)⟩
      ∧ ∀ k request, operations[k]? = some (.execute request) → ∃ answer,
        (Lib.outputs (mockStep lib) .reset operations)[k]? = some (some answer)
          ∧ MockProvider.Names request answer
          ∧ answer.performedOnHardware = false
          ∧ answer.ok = MockProvider.supports request.capability
          ∧ (answer.ok = true →
            answer.data = ((targetOf lib (log (operations.take k))).simulate lib request).1) := by
  intro log
  have start : MockProvider.reset = .ofLog lib [] := rfl
  refine ⟨by rw [start]; exact mockRun_ofLog lib [] operations, fun k request here => ?_⟩
  refine ⟨((MockProvider.ofLog lib (log (operations.take k))).executeAuthorized lib request).1,
    ?_, ?_, ?_, ?_, ?_⟩
  · rw [Lib.outputs_getElem?, here, start, mockRun_ofLog]
    rfl
  all_goals
    rw [MockProvider.executeAuthorized]
    split_ifs with supported
  · exact ⟨rfl, rfl, rfl, rfl, rfl, rfl, rfl, rfl, (if_pos supported).symm⟩
  · exact ⟨rfl, rfl, rfl, rfl, rfl, rfl, rfl, rfl, (if_neg supported).symm⟩
  · rfl
  · rfl
  · exact supported.symm
  · exact (Bool.not_eq_true _ ▸ supported).symm
  · exact fun _ => rfl
  · exact fun accepted => by cases accepted

/-! ## Secrets -/

/-- **Requests that differ only in sensitive places** of their parameters, which declare no capture
of typed text. -/
structure ProviderActionRequest.Alike (std : Stdlib) (request other : ProviderActionRequest) :
    Prop where
  same : other = { request with parameters := other.parameters }
  parameters : EntriesAlike std request.parameters other.parameters
  plain : (PyValue.dict request.parameters).Plain std ∧ (PyValue.dict other.parameters).Plain std

/-- Operations that differ so. -/
inductive MockOperation.Alike (std : Stdlib) : MockOperation → MockOperation → Prop
  | execute {request other : ProviderActionRequest} (alike : request.Alike std other) :
      Alike std (.execute request) (.execute other)
  | reset : Alike std .reset .reset

section Secrets

variable {lib : MockLibrary} {request other : ProviderActionRequest}

/-- Such requests have the same redacted parameters. -/
theorem ProviderActionRequest.Alike.redacted (alike : request.Alike lib.toStdlib other) :
    request.redactedParameters lib = other.redactedParameters lib := by
  obtain ⟨plain, plainOther⟩ := alike.plain
  have children := @redactEntries_alike lib.toAuditLibrary "" _ _ alike.parameters plain.2
    plainOther.2
  have posture : mappingFullCapture lib.toStdlib request.parameters (none.getD false) = false :=
    plain.1
  have postureOther : mappingFullCapture lib.toStdlib other.parameters (none.getD false) = false :=
    plainOther.1
  simp only [redactedParameters, redactMapping, posture, postureOther, children]

/-- They are simulated in the same way. -/
theorem ProviderActionRequest.Alike.simulate (alike : request.Alike lib.toStdlib other)
    (state : MockProviderState) : state.simulate lib request = state.simulate lib other := by
  have capability : other.capability = request.capability := by rw [alike.same]
  have action : other.action = request.action := by rw [alike.same]
  have target : other.targetId = request.targetId := by rw [alike.same]
  have bodies : state.simulateBranch lib request (request.redactedParameters lib)
      (mockBranch request.capability)
      = state.simulateBranch lib other (request.redactedParameters lib)
        (mockBranch request.capability) := by
    cases mockBranch request.capability <;>
      simp only [MockProviderState.simulateBranch, MockProviderState.recordSimulatedEvent,
        capability, action, target]
  rw [MockProviderState.simulate, MockProviderState.simulate, ← alike.redacted, capability, bodies]

/-- One operation shows nothing, and leaves targets that are the same. -/
theorem MockOperation.Alike.step {operation other : MockOperation}
    (alike : operation.Alike lib.toStdlib other) {provider twin : MockProvider}
    (same : provider.state = twin.state) :
    (mockStep lib provider operation).1.state = (mockStep lib twin other).1.state
      ∧ (mockStep lib provider operation).2 = (mockStep lib twin other).2 := by
  cases alike with
  | reset => exact ⟨rfl, rfl⟩
  | @execute request other alike =>
      have capability : other.capability = request.capability := by rw [alike.same]
      have target : other.targetId = request.targetId := by rw [alike.same]
      have simulated := alike.simulate provider.state
      have action : other.action = request.action := by rw [alike.same]
      simp only [mockStep, MockProvider.executeAuthorized, capability, action, target, simulated,
        ← same]
      split_ifs
      · exact ⟨rfl, rfl⟩
      · exact ⟨same, rfl⟩

end Secrets

/-- **A fake target shows nothing of secrets**: two runs of operations that differ only in sensitive
places of their parameters are answered alike throughout, and leave the same target. -/
theorem mockRun_alike (lib : MockLibrary) {operations others : List MockOperation}
    (alike : List.Forall₂ (MockOperation.Alike lib.toStdlib) operations others)
    {provider twin : MockProvider} (same : provider.state = twin.state) :
    Lib.outputs (mockStep lib) provider operations = Lib.outputs (mockStep lib) twin others
      ∧ (Lib.final (mockStep lib) provider operations).state
        = (Lib.final (mockStep lib) twin others).state := by
  induction alike generalizing provider twin with
  | nil => exact ⟨rfl, same⟩
  | cons here rest ih =>
      obtain ⟨left, answered⟩ := here.step same
      obtain ⟨answers, ends⟩ := ih left
      exact ⟨by rw [Lib.outputs, Lib.outputs, answered, answers], ends⟩

namespace Deployment

/-- A library for simulations. -/
def mockLibrary : MockLibrary where
  toAuditLibrary := auditLibrary
  objectTruth _ _ := true
  objectItems _ _ := none

/-- A request that types a text and names a login, and one that reads the fake target. -/
def typing (typed password : PyValue) : List MockOperation :=
  [.execute ⟨"input.keyboard_type", "keyboard_type", "lab-1", "session-1", "call-1",
      typedLogin typed password⟩,
    .execute ⟨"observe.status", "status", "lab-1", "session-1", "call-2", []⟩]

/-- Nothing of a login is captured by default. -/
theorem typedLogin_plain {typed : PyValue} (password : PyValue) (text : typed.Plain library) :
    (PyValue.dict (typedLogin typed password)).Plain library :=
  ⟨rfl, by decide +kernel, .inr ⟨text, trivial⟩, by decide +kernel,
    .inr ⟨rfl, by decide +kernel, .inl (by decide +kernel), trivial⟩, trivial⟩

/-- The requests differ only in sensitive places. -/
theorem typing_alike {s t : String} {x y : PyValue} :
    List.Forall₂ (MockOperation.Alike library) (typing (.str s) x) (typing (.str t) y) := by
  refine .cons (.execute ⟨rfl, typedLogin_alike, ?_, ?_⟩) (.cons (.execute ⟨rfl, .nil, ?_, ?_⟩) .nil)
  · exact typedLogin_plain x trivial
  · exact typedLogin_plain y trivial
  · exact ⟨rfl, trivial⟩
  · exact ⟨rfl, trivial⟩

end Deployment

/-- The answers to typing a text and reading the target do not show the text, nor a password. -/
theorem mockRun_alike_typing :
    Lib.outputs (mockStep Deployment.mockLibrary) .reset
        (Deployment.typing (.str "sudo reboot") (.str "hunter2"))
      = Lib.outputs (mockStep Deployment.mockLibrary) .reset
        (Deployment.typing (.str "") (.list [])) :=
  (mockRun_alike Deployment.mockLibrary Deployment.typing_alike rfl).1

end AgenticKVM
