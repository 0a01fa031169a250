import AgenticKVM.Lib.Runs
import AgenticKVM.MutationGate

/-! # Mutating transports

The live transports that power a machine and override its boot source
(`providers/redfish_mutation_transport.py`, `providers/pikvm_mutation_transport.py`). A transport is
constructed once the target has shown the pinned certificate; each verb then passes the gate of
`MutationGate` before its HTTP client is built. `mutations_once_and_cleared` is about every sequence
of calls on transports that share a ledger. -/

namespace AgenticKVM

open Lib (Json SingleUse totalUses outputs except_bind_eq_ok except_ok_bind)

/-! ## Pinned certificates -/

/-- `ProviderProtocolError`. -/
def providerProtocol (message : String) : PyExc := .other "ProviderProtocolError" message

/-- A character of a hexadecimal number. -/
def isHexDigit (c : Char) : Bool := c.isDigit || "abcdefABCDEF".toList.contains c

/-- The characters in pairs with a separator between the pairs. -/
def pairs (separator : Char) : List Char → List Char
  | first :: second :: third :: rest =>
      first :: second :: separator :: pairs separator (third :: rest)
  | short => short

/-- `normalize_cert_fingerprint`. -/
def normalizeCertFingerprint (value : String) : Except PyExc String :=
  let compact := (value.toList.filter isHexDigit).map Char.toLower
  if compact.length ≠ 64 then
    .error (providerProtocol "PiKVM cert_fingerprint must be a SHA-256 fingerprint")
  else .ok (String.ofList (pairs ':' compact))

/-- A target's connection: `RedfishTargetConfig` and `PiKVMTargetConfig`. -/
structure TargetConfig where
  host : String
  port : Int
  certFingerprint : Option String

/-- The fingerprint of the certificate that a host shows on a port. -/
abbrev TLSProbe : Type := (host : String) → (port : Int) → Except PyExc String

/-- `_preflight_pin`: the pinned trust, once the target has shown the certificate it names. A
mismatch is the transport's own error. -/
def preflightPin (mismatch : PyExc) (config : TargetConfig) (tlsProbe : TLSProbe) :
    Except PyExc String := do
  let expected ← normalizeCertFingerprint (config.certFingerprint.getD "")
  let observed ← normalizeCertFingerprint (← tlsProbe config.host config.port)
  raiseIf (observed ≠ expected) mismatch
  normalizeCertFingerprint expected

/-- The target has shown the certificate that its configuration pins. -/
def PinMatched (config : TargetConfig) (tlsProbe : TLSProbe) : Prop :=
  ∃ pin shown fingerprint, config.certFingerprint = some pin ∧
    tlsProbe config.host config.port = .ok shown ∧
    normalizeCertFingerprint pin = .ok fingerprint ∧
    normalizeCertFingerprint shown = .ok fingerprint

/-- A passed preflight has seen the pinned certificate. -/
theorem pinMatched_of_preflight {mismatch : PyExc} {config : TargetConfig} {tlsProbe : TLSProbe}
    {pin trust : String} (pinned : config.certFingerprint = some pin)
    (passed : preflightPin mismatch config tlsProbe = .ok trust) : PinMatched config tlsProbe := by
  obtain ⟨expected, named, passed⟩ := except_bind_eq_ok.mp passed
  obtain ⟨shown, probed, passed⟩ := except_bind_eq_ok.mp passed
  obtain ⟨observed, seen, passed⟩ := except_bind_eq_ok.mp passed
  obtain ⟨_, same, -⟩ := except_bind_eq_ok.mp passed
  rw [raiseIf_eq_ok, not_not] at same
  rw [pinned, Option.getD_some] at named
  exact ⟨pin, shown, expected, pinned, probed, named, same ▸ seen⟩

/-! ## Calls -/

/-- A mutating HTTP request: a `post_json` or a `patch_json` of the client. -/
structure WireRequest where
  method : String
  path : String
  body : Params

/-- What a mutating call does, in order. -/
inductive MutationEffect
  /-- The gate accepted the handle, which is consumed. -/
  | accepted (handle : VerifiedMutationClearance)
  /-- The client factory was called, which resolves the credentials. -/
  | clientAsked (config : TargetConfig) (credentialRef trust : String)
      (handle : VerifiedMutationClearance)
  /-- The client was told to send a request. -/
  | sent (request : WireRequest)

/-- What an HTTP client raises: a `TransportError` or another exception. -/
inductive HttpRaise
  | transportError (message : String)
  | exception (e : PyExc)

/-- How the client factory and the client it builds behave in a call. -/
structure ClientBehaviour where
  factory : Except PyExc Unit
  respond : WireRequest → Except HttpRaise Params

/-- The summary of a performed mutation. -/
structure MutationSummary where
  capability : String
  performed : Bool
  response : PyValue

/-- The course of a mutating call: its effects, its outcome and the ledger it leaves. -/
structure MutationCourse where
  effects : List MutationEffect
  outcome : Except PyExc MutationSummary
  ledger : MutationClearanceLedger

/-- What a call is given besides its verb. -/
structure CallContext where
  clearance : ClearanceObject
  clock : Except PyExc Datetime
  client : ClientBehaviour

/-! ## Transports -/

/-- What both transports are constructed with, and the trust their preflight returns. -/
structure TransportBase where
  config : TargetConfig
  credentialRef : String
  targetId : String
  providerId : String
  tlsProbe : TLSProbe
  trust : String

namespace TransportBase

variable (lib : AuditLibrary) (base : TransportBase)

/-- The gate of a call: the clock is read, then the handle is required for the action. -/
def authorize (unsupported : String) (operations : List String) (capability : String)
    (parameters : Params) (context : CallContext) (ledger : MutationClearanceLedger) :
    Except PyExc (VerifiedMutationClearance × MutationClearanceLedger) := do
  raiseIf (capability ∉ operations) (mutationBlocked unsupported)
  let now ← context.clock
  requireVerifiedMutationClearance lib.toStdlib context.clearance
    ⟨capability, parameters, base.targetId, base.providerId⟩ now ledger

/-- One request sent through a client that is built for it. A `TransportError` is raised as the
given provider error. -/
def exchange (transportError : String) (verified : VerifiedMutationClearance)
    (client : ClientBehaviour) (request : Except PyExc WireRequest) :
    List MutationEffect × Except PyExc Params :=
  let asked := MutationEffect.clientAsked base.config base.credentialRef base.trust verified
  match client.factory with
  | .error e => ([asked], .error e)
  | .ok () =>
      match request with
      | .error e => ([asked], .error e)
      | .ok request =>
          ([asked, .sent request],
            match client.respond request with
            | .ok payload => .ok payload
            | .error (.transportError _) => .error (providerProtocol transportError)
            | .error (.exception e) => .error e)

end TransportBase

/-- The course of a call: nothing happens where the gate refuses it. -/
def courseOf (ledger : MutationClearanceLedger)
    (gate : Except PyExc (VerifiedMutationClearance × MutationClearanceLedger))
    (actuation : VerifiedMutationClearance → List MutationEffect × Except PyExc MutationSummary) :
    MutationCourse :=
  match gate with
  | .error e => ⟨[], .error e, ledger⟩
  | .ok (verified, after) =>
      let performed := actuation verified
      ⟨.accepted verified :: performed.1, performed.2, after⟩

/-! ## Redacted responses -/

/-- `fragment in text`. -/
def containsText (text fragment : String) : Bool :=
  text.toList.tails.any fragment.toList.isPrefixOf

/-- `_TARGET_SENSITIVE_KEYS`. -/
def targetSensitiveKeys : List String := ["hostname", "host", "ip", "address", "target", "url"]

section Observe

variable (lib : AuditLibrary)

mutual

/-- `redact_pikvm_observe_payload`. -/
def redactPikvmObservePayload : PyValue → PyValue
  | .dict entries =>
      (redactValue lib "" "" false (.dict (pyDict (redactPikvmObserveEntries entries)))).value
  | value => (redactValue lib "" "" false value).value

def redactPikvmObserveEntries : List (PyValue × PyValue) → List (String × PyValue)
  | [] => []
  | (key, child) :: rest =>
      let lowered := lib.lower (pyStr lib.toStdlib key)
      (pyStr lib.toStdlib key,
        if lowered ≠ "raw_bytes_included" ∧
            (containsText lowered "raw_bytes" ∨ lowered ∈ ["bytes", "image_bytes"]) then
          .str redactedMark
        else if targetSensitiveKeys.any (containsText lowered) then .str redactedMark
        else redactPikvmObservePayload child) :: redactPikvmObserveEntries rest

end

/-- The summary of a performed mutation. -/
def mutationSummary (capability : String) (payload : Params) : MutationSummary :=
  ⟨capability, true, redactPikvmObservePayload lib (.dict payload)⟩

end Observe

/-! ## Redfish -/

/-- `REDFISH_LIVE_MUTATING_OPERATIONS`. -/
def redfishLiveMutatingOperations : List String :=
  ["power.on", "power.force_off", "power.power_cycle", "boot.override"]

/-- `_REDFISH_RESET_TYPES`. -/
def redfishResetTypes : List (String × String) :=
  [("power.on", "On"), ("power.force_off", "ForceOff"), ("power.power_cycle", "PowerCycle")]

/-- `REDFISH_BOOT_OVERRIDE_TARGETS`. -/
def redfishBootOverrideTargets : List String := ["None", "Pxe", "Hdd", "Cd", "Usb", "BiosSetup"]

/-- `COMPUTER_SYSTEM_RESET_ACTION_SUFFIX`. -/
def computerSystemResetActionSuffix : String := "/Actions/ComputerSystem.Reset"

/-- `_validated_system_path`. -/
def validatedSystemPath (systemPath : String) : Except PyExc String :=
  if systemPath = "" ∨ ¬ startsWith systemPath "/redfish/" ∨ hasDoubleDot systemPath.toList ∨
      '?' ∈ systemPath.toList ∨ '#' ∈ systemPath.toList then
    .error (providerProtocol
      "Redfish mutation transport requires an absolute /redfish/ system path")
  else .ok (String.ofList (systemPath.toList.reverse.dropWhile (· == '/')).reverse)

/-- `LiveRedfishMutationTransport`: a transport whose target has shown the pinned certificate. -/
structure LiveRedfishMutationTransport extends TransportBase where
  systemPath : String
  identified : targetId ≠ "" ∧ providerId ≠ ""
  validated : ∃ given, validatedSystemPath given = .ok systemPath
  matched : PinMatched config tlsProbe

namespace LiveRedfishMutationTransport

/-- `LiveRedfishMutationTransport.__init__`. -/
def init (config : TargetConfig) (credentialRef targetId providerId systemPath : String)
    (tlsProbe : TLSProbe) : Except PyExc LiveRedfishMutationTransport :=
  match pin : config.certFingerprint with
  | none | some "" => .error (mutationBlocked
      "mutating Redfish transport requires a pinned certificate fingerprint; no pin means no mutation")
  | some _ =>
      if identified : targetId ≠ "" ∧ providerId ≠ "" then
        match validated : validatedSystemPath systemPath with
        | .error e => .error e
        | .ok path =>
            match passed : preflightPin (.other "RedfishFingerprintMismatchError"
                "Redfish certificate fingerprint mismatch; credentials were not sent")
              config tlsProbe with
            | .error e => .error e
            | .ok trust => .ok
                { config, credentialRef, targetId, providerId, tlsProbe, trust
                  systemPath := path
                  identified
                  validated := ⟨systemPath, validated⟩
                  matched := pinMatched_of_preflight pin passed }
      else .error (mutationBlocked
        "mutating Redfish transport requires target and provider identity")

variable (lib : AuditLibrary) (transport : LiveRedfishMutationTransport) (context : CallContext)
  (ledger : MutationClearanceLedger)

/-- `_authorize`. -/
def authorize (capability : String) (parameters : Params) :
    Except PyExc (VerifiedMutationClearance × MutationClearanceLedger) :=
  transport.toTransportBase.authorize lib
    "Redfish live mutation transport does not implement this verb" redfishLiveMutatingOperations
    capability parameters context ledger

/-- `_mutate`. -/
def mutate (method path : String) (body : Params) (verified : VerifiedMutationClearance) :
    List MutationEffect × Except PyExc Params :=
  transport.exchange "Redfish live mutation transport error" verified context.client
    (.ok ⟨if method = "POST" then "POST" else "PATCH", path, body⟩)

/-- `_reset`. -/
def reset (capability : String) : MutationCourse :=
  courseOf ledger (transport.authorize lib context ledger capability []) fun verified =>
    match redfishResetTypes.lookup capability with
    | none => ([], .error (.keyError capability))
    | some resetType =>
        let payload := transport.mutate context "POST"
          (transport.systemPath ++ computerSystemResetActionSuffix)
          [(.str "ResetType", .str resetType)] verified
        (payload.1, payload.2.map (mutationSummary lib capability))

/-- `power_on`. -/
def powerOn : MutationCourse := transport.reset lib context ledger "power.on"

/-- `power_force_off`. -/
def powerForceOff : MutationCourse := transport.reset lib context ledger "power.force_off"

/-- `power_cycle`. -/
def powerCycle : MutationCourse := transport.reset lib context ledger "power.power_cycle"

/-- `set_boot_override`. -/
def setBootOverride (bootTarget : String) : MutationCourse :=
  if bootTarget ∉ redfishBootOverrideTargets then
    ⟨[], .error (mutationBlocked "boot override target is outside the supported allowlist"), ledger⟩
  else
    courseOf ledger (transport.authorize lib context ledger "boot.override"
      [(.str "boot_target", .str bootTarget)]) fun verified =>
        let payload := transport.mutate context "PATCH" transport.systemPath
          [(.str "Boot", .dict [(.str "BootSourceOverrideTarget", .str bootTarget),
            (.str "BootSourceOverrideEnabled", .str "Once")])] verified
        (payload.1, payload.2.map (mutationSummary lib "boot.override"))

end LiveRedfishMutationTransport

/-! ## PiKVM -/

/-- `PIKVM_LIVE_MUTATING_OPERATIONS`. -/
def pikvmLiveMutatingOperations : List String :=
  ["power.on", "power.force_off", "power.power_cycle"]

/-- `_PIKVM_ATX_PATHS`. -/
def pikvmAtxPaths : List (String × String) :=
  [("power.on", "/api/atx/power/on"), ("power.force_off", "/api/atx/power/off"),
    ("power.power_cycle", "/api/atx/power/cycle")]

/-- `LivePiKVMMutationTransport`: a transport whose target has shown the pinned certificate. -/
structure LivePiKVMMutationTransport extends TransportBase where
  identified : targetId ≠ "" ∧ providerId ≠ ""
  matched : PinMatched config tlsProbe

namespace LivePiKVMMutationTransport

/-- `LivePiKVMMutationTransport.__init__`. -/
def init (config : TargetConfig) (credentialRef targetId providerId : String)
    (tlsProbe : TLSProbe) : Except PyExc LivePiKVMMutationTransport :=
  match pin : config.certFingerprint with
  | none | some "" => .error (mutationBlocked
      "mutating PiKVM transport requires a pinned certificate fingerprint; no pin means no mutation")
  | some _ =>
      if identified : targetId ≠ "" ∧ providerId ≠ "" then
        match passed : preflightPin (.other "PiKVMFingerprintMismatchError"
            "PiKVM certificate fingerprint mismatch; credentials were not sent")
          config tlsProbe with
        | .error e => .error e
        | .ok trust => .ok
            { config, credentialRef, targetId, providerId, tlsProbe, trust
              identified
              matched := pinMatched_of_preflight pin passed }
      else .error (mutationBlocked
        "mutating PiKVM transport requires target and provider identity")

variable (lib : AuditLibrary) (transport : LivePiKVMMutationTransport) (context : CallContext)
  (ledger : MutationClearanceLedger)

/-- `_atx`. -/
def atx (capability : String) : MutationCourse :=
  courseOf ledger (transport.authorize lib
    "PiKVM live mutation transport does not implement this verb" pikvmLiveMutatingOperations
    capability [] context ledger) fun verified =>
      let request := match pikvmAtxPaths.lookup capability with
        | none => .error (.keyError capability)
        | some path => .ok ⟨"POST", path, []⟩
      let payload := transport.exchange "PiKVM live mutation transport error" verified
        context.client request
      (payload.1, payload.2.map (mutationSummary lib capability))

/-- `power_on`. -/
def powerOn : MutationCourse := transport.atx lib context ledger "power.on"

/-- `power_force_off`. -/
def powerForceOff : MutationCourse := transport.atx lib context ledger "power.force_off"

/-- `power_cycle`. -/
def powerCycle : MutationCourse := transport.atx lib context ledger "power.power_cycle"

end LivePiKVMMutationTransport

/-! ## What a call may do -/

/-- Where a transport sends its requests: to the configured system of a BMC, or to a PiKVM. -/
inductive Endpoint
  | redfish (systemPath : String)
  | pikvm

/-- **The request of an action**: what a capability with its parameters is on the wire. -/
def Endpoint.request (endpoint : Endpoint) (capability : String) (parameters : Params) :
    Option WireRequest :=
  match endpoint with
  | .pikvm => do
      let path ← pikvmAtxPaths.lookup capability
      return ⟨"POST", path, []⟩
  | .redfish systemPath =>
      if capability = "boot.override" then do
        let bootTarget ← paramGet parameters "boot_target"
        return ⟨"PATCH", systemPath,
          [(.str "Boot", .dict [(.str "BootSourceOverrideTarget", bootTarget),
            (.str "BootSourceOverrideEnabled", .str "Once")])]⟩
      else do
        let resetType ← redfishResetTypes.lookup capability
        return ⟨"POST", systemPath ++ computerSystemResetActionSuffix,
          [(.str "ResetType", .str resetType)]⟩

/-- The verbs both transports have. -/
inductive PowerVerb
  | powerOn
  | powerForceOff
  | powerCycle
deriving DecidableEq

/-- The capability of a power verb. -/
def PowerVerb.capability : PowerVerb → String
  | powerOn => "power.on"
  | powerForceOff => "power.force_off"
  | powerCycle => "power.power_cycle"

/-- A mutating verb of a transport. -/
inductive MutatingVerb
  | redfishPower (transport : LiveRedfishMutationTransport) (verb : PowerVerb)
  | redfishBoot (transport : LiveRedfishMutationTransport) (bootTarget : String)
  | pikvmPower (transport : LivePiKVMMutationTransport) (verb : PowerVerb)

namespace MutatingVerb

/-- The transport of a verb. -/
def base : MutatingVerb → TransportBase
  | redfishPower transport _ | redfishBoot transport _ => transport.toTransportBase
  | pikvmPower transport _ => transport.toTransportBase

/-- Where the requests of a verb go. -/
def endpoint : MutatingVerb → Endpoint
  | redfishPower transport _ | redfishBoot transport _ => .redfish transport.systemPath
  | pikvmPower _ _ => .pikvm

/-- The action of a verb, which its clearance has to be for. -/
def binding (verb : MutatingVerb) : MutationBinding :=
  match verb with
  | redfishPower transport power => ⟨power.capability, [], transport.targetId, transport.providerId⟩
  | redfishBoot transport bootTarget =>
      ⟨"boot.override", [(.str "boot_target", .str bootTarget)], transport.targetId,
        transport.providerId⟩
  | pikvmPower transport power => ⟨power.capability, [], transport.targetId, transport.providerId⟩

/-- The verb is one the transport offers: a boot target has to be on the allowlist. -/
def Offered : MutatingVerb → Prop
  | redfishBoot _ bootTarget => bootTarget ∈ redfishBootOverrideTargets
  | _ => True

variable (lib : AuditLibrary)

/-- The course of a verb's call. -/
def call (context : CallContext) (ledger : MutationClearanceLedger) : MutatingVerb → MutationCourse
  | redfishPower transport .powerOn => transport.powerOn lib context ledger
  | redfishPower transport .powerForceOff => transport.powerForceOff lib context ledger
  | redfishPower transport .powerCycle => transport.powerCycle lib context ledger
  | redfishBoot transport bootTarget => transport.setBootOverride lib context ledger bootTarget
  | pikvmPower transport .powerOn => transport.powerOn lib context ledger
  | pikvmPower transport .powerForceOff => transport.powerForceOff lib context ledger
  | pikvmPower transport .powerCycle => transport.powerCycle lib context ledger

/-- The handle passed with a call permits its verb at the time the clock shows. -/
structure Admits (verb : MutatingVerb) (context : CallContext) (ledger : MutationClearanceLedger)
    (handle : VerifiedMutationClearance) (now : Datetime) : Prop where
  offered : verb.Offered
  presented : context.clearance = .handle handle
  clock : context.clock = .ok now
  permits : Permits lib.toStdlib handle verb.binding now ledger

variable {lib}

/-- The target of a verb's transport has shown the pinned certificate. -/
theorem pinMatched (verb : MutatingVerb) : PinMatched verb.base.config verb.base.tlsProbe := by
  cases verb with
  | redfishPower transport _ | redfishBoot transport _ => exact transport.matched
  | pikvmPower transport _ => exact transport.matched

end MutatingVerb

section Courses

variable {lib : AuditLibrary}

/-- The gate of a transport lets an implemented capability through exactly where the clock shows a
time at which the handle permits it. -/
theorem TransportBase.authorize_eq_ok {base : TransportBase} {unsupported : String}
    {operations : List String} {capability : String} {parameters : Params}
    {context : CallContext} {ledger after : MutationClearanceLedger}
    {handle : VerifiedMutationClearance} (implemented : capability ∈ operations) :
    base.authorize lib unsupported operations capability parameters context ledger
        = .ok (handle, after) ↔
      ∃ now, context.clearance = .handle handle ∧ context.clock = .ok now ∧
        Permits lib.toStdlib handle ⟨capability, parameters, base.targetId, base.providerId⟩ now
          ledger ∧ after = ⟨ledger.consumed ++ [handle.requestId]⟩ := by
  rw [authorize, raiseIf_of_not (not_not.mpr implemented), except_ok_bind]
  constructor
  · intro passed
    obtain ⟨now, clock, passed⟩ := except_bind_eq_ok.mp passed
    obtain ⟨presented, permits, after⟩ := requireVerifiedMutationClearance_eq_ok.mp passed
    exact ⟨now, presented, clock, permits, after⟩
  · rintro ⟨now, presented, clock, permits, rfl⟩
    rw [clock, except_ok_bind]
    exact requireVerifiedMutationClearance_eq_ok.mpr ⟨presented, permits, rfl⟩

/-- A course ends in an exception. -/
def MutationCourse.Raises (course : MutationCourse) : Prop := ∃ e, course.outcome = .error e

/-- What is done once the gate has accepted a handle: the client is asked for, and the request is
sent through it or the call raises. -/
inductive Performs (base : TransportBase) (handle : VerifiedMutationClearance)
    (request : WireRequest) : List MutationEffect × Except PyExc MutationSummary → Prop
  | unbuilt (e : PyExc) : Performs base handle request
      ([.clientAsked base.config base.credentialRef base.trust handle], .error e)
  | sent (outcome : Except PyExc MutationSummary) : Performs base handle request
      ([.clientAsked base.config base.credentialRef base.trust handle, .sent request], outcome)

/-- An exchange of a request performs that request. -/
theorem TransportBase.performs_exchange (base : TransportBase) (transportError : String)
    (handle : VerifiedMutationClearance) (client : ClientBehaviour) (request : WireRequest)
    (summary : Params → MutationSummary) :
    Performs base handle request
      ((base.exchange transportError handle client (.ok request)).1,
        (base.exchange transportError handle client (.ok request)).2.map summary) := by
  unfold exchange
  cases built : client.factory with
  | error e => exact .unbuilt e
  | ok u => exact .sent _

namespace MutatingVerb

variable {verb : MutatingVerb} {context : CallContext} {ledger : MutationClearanceLedger}

variable (lib verb context ledger) in
/-- **The two courses of a call**: it is refused, and then nothing happens and the ledger stays; or
its handle permits it, and then the handle is consumed before the request of the bound action is
performed. -/
inductive Course : MutationCourse → Prop
  | refused (e : PyExc) (refusal : ∀ handle now, ¬ verb.Admits lib context ledger handle now) :
      Course ⟨[], .error e, ledger⟩
  | performed (handle : VerifiedMutationClearance) (now : Datetime) (request : WireRequest)
      (done : List MutationEffect × Except PyExc MutationSummary)
      (admits : verb.Admits lib context ledger handle now)
      (wire : verb.endpoint.request verb.binding.capability verb.binding.parameters
        = some request)
      (performs : Performs verb.base handle request done) :
      Course ⟨.accepted handle :: done.1, done.2, ⟨ledger.consumed ++ [handle.requestId]⟩⟩

/-- A course behind the gate of an offered verb, whose actuation performs the bound action. -/
theorem course_of (verb : MutatingVerb) (request : WireRequest) {unsupported : String}
    {operations : List String}
    {actuation : VerifiedMutationClearance → List MutationEffect × Except PyExc MutationSummary}
    (offered : verb.Offered) (implemented : verb.binding.capability ∈ operations)
    (identity : verb.binding.target = verb.base.targetId ∧
      verb.binding.provider = verb.base.providerId)
    (wire : verb.endpoint.request verb.binding.capability verb.binding.parameters = some request)
    (performs : ∀ handle, Performs verb.base handle request (actuation handle)) :
    verb.Course lib context ledger (courseOf ledger
      (verb.base.authorize lib unsupported operations verb.binding.capability
        verb.binding.parameters context ledger) actuation) := by
  have action : verb.binding = ⟨verb.binding.capability, verb.binding.parameters,
      verb.base.targetId, verb.base.providerId⟩ := by
    rw [← identity.1, ← identity.2]
  cases gate : verb.base.authorize lib unsupported operations verb.binding.capability
      verb.binding.parameters context ledger with
  | error e =>
      refine .refused e fun handle now admits => ?_
      have passed : verb.base.authorize lib unsupported operations verb.binding.capability
          verb.binding.parameters context ledger = .ok (handle, _) :=
        (TransportBase.authorize_eq_ok implemented).mpr
          ⟨now, admits.presented, admits.clock, action ▸ admits.permits, rfl⟩
      cases gate.symm.trans passed
  | ok accepted =>
      obtain ⟨now, presented, clock, permits, after⟩ :=
        (TransportBase.authorize_eq_ok implemented).mp gate
      have admits : verb.Admits lib context ledger accepted.1 now :=
        ⟨offered, presented, clock, action.symm ▸ permits⟩
      rw [show accepted = (accepted.1, ⟨ledger.consumed ++ [accepted.1.requestId]⟩) from
        Prod.ext rfl after]
      exact .performed accepted.1 now request _ admits wire (performs accepted.1)

/-- A reset of a system runs behind the gate. -/
theorem course_reset (transport : LiveRedfishMutationTransport) (power : PowerVerb) :
    (redfishPower transport power).Course lib context ledger
      (transport.reset lib context ledger power.capability) := by
  have implemented : power.capability ∈ redfishLiveMutatingOperations := by
    cases power <;> decide
  have listed : ∃ resetType, redfishResetTypes.lookup power.capability = some resetType := by
    cases power <;> exact ⟨_, rfl⟩
  have other : power.capability ≠ "boot.override" := by cases power <;> decide
  obtain ⟨resetType, listed⟩ := listed
  refine course_of (redfishPower transport power)
    ⟨"POST", transport.systemPath ++ computerSystemResetActionSuffix,
      [(.str "ResetType", .str resetType)]⟩ trivial implemented ⟨rfl, rfl⟩ ?_ fun handle => ?_
  · rw [endpoint, Endpoint.request, binding, if_neg other, listed]
    rfl
  · rw [listed]
    exact TransportBase.performs_exchange ..

/-- A boot override runs behind the allowlist and the gate. -/
theorem course_setBootOverride (transport : LiveRedfishMutationTransport) (bootTarget : String) :
    (redfishBoot transport bootTarget).Course lib context ledger
      (transport.setBootOverride lib context ledger bootTarget) := by
  unfold LiveRedfishMutationTransport.setBootOverride
  by_cases offered : bootTarget ∈ redfishBootOverrideTargets
  · rw [if_neg (not_not.mpr offered)]
    refine course_of (redfishBoot transport bootTarget)
      ⟨"PATCH", transport.systemPath,
        [(.str "Boot", .dict [(.str "BootSourceOverrideTarget", .str bootTarget),
          (.str "BootSourceOverrideEnabled", .str "Once")])]⟩ offered
      (by decide : "boot.override" ∈ redfishLiveMutatingOperations) ⟨rfl, rfl⟩ ?_ fun handle => ?_
    · rw [endpoint, Endpoint.request, binding, if_pos rfl]
      rfl
    · exact TransportBase.performs_exchange ..
  · rw [if_pos offered]
    exact .refused _ fun handle now admits => offered admits.offered

/-- An ATX power verb runs behind the gate. -/
theorem course_atx (transport : LivePiKVMMutationTransport) (power : PowerVerb) :
    (pikvmPower transport power).Course lib context ledger
      (transport.atx lib context ledger power.capability) := by
  have implemented : power.capability ∈ pikvmLiveMutatingOperations := by cases power <;> decide
  have listed : ∃ path, pikvmAtxPaths.lookup power.capability = some path := by
    cases power <;> exact ⟨_, rfl⟩
  obtain ⟨path, listed⟩ := listed
  refine course_of (pikvmPower transport power) ⟨"POST", path, []⟩ trivial implemented
    ⟨rfl, rfl⟩ ?_ fun handle => ?_
  · rw [endpoint, Endpoint.request, binding, listed]
    rfl
  · rw [listed]
    exact TransportBase.performs_exchange ..

/-- Every call of a verb takes one of the two courses. -/
theorem course_call (verb : MutatingVerb) (context : CallContext)
    (ledger : MutationClearanceLedger) :
    verb.Course lib context ledger (verb.call lib context ledger) := by
  cases verb with
  | redfishPower transport power => cases power <;> exact course_reset transport _
  | redfishBoot transport bootTarget => exact course_setBootOverride transport bootTarget
  | pikvmPower transport power => cases power <;> exact course_atx transport _

end MutatingVerb

end Courses

/-! ## Runs on a shared ledger -/

/-- A call of a run, on whatever transport its verb belongs to. -/
structure MutatingCall where
  verb : MutatingVerb
  context : CallContext

/-- A call with the ledger it started from and the course it took. -/
structure CallRecord where
  call : MutatingCall
  ledger : MutationClearanceLedger
  course : MutationCourse

namespace MutatingCall

variable (lib : AuditLibrary)

/-- A call takes its course on the shared ledger. -/
def step (ledger : MutationClearanceLedger) (call : MutatingCall) :
    MutationClearanceLedger × CallRecord :=
  let course := call.verb.call lib call.context ledger
  (course.ledger, ⟨call, ledger, course⟩)

end MutatingCall

namespace CallRecord

/-- The HTTP requests a call sent. -/
def requests (record : CallRecord) : List WireRequest :=
  record.course.effects.filterMap fun
    | .sent request => some request
    | _ => none

/-- The id of the clearance request whose handle the call was given. -/
def requestId (record : CallRecord) : Option String :=
  match record.call.context.clearance with
  | .handle handle => some handle.requestId
  | .other => none

/-- The HTTP requests a call sent under a clearance request. -/
def requestsUnder (record : CallRecord) (id : String) : Nat :=
  if record.requestId = some id then record.requests.length else 0

variable (lib : AuditLibrary) (record : CallRecord)

/-- The gate admits the call with a handle, at a time. -/
def Admitted : Prop :=
  ∃ handle now, record.call.verb.Admits lib record.call.context record.ledger handle now

/-- **A cleared call**: each request it sent follows, in the call, the acceptance of a handle that
permits the call's action before its expiry, and is what the handle's capability and the parameters
with its fingerprint are on the wire of the transport. -/
def Cleared : Prop :=
  ∀ request ∈ record.requests, ∃ handle now before after parameters,
    record.course.effects = .accepted handle :: before ++ .sent request :: after ∧
    record.call.verb.Admits lib record.call.context record.ledger handle now ∧
    PinMatched record.call.verb.base.config record.call.verb.base.tlsProbe ∧
    fingerprintParameters lib.toStdlib parameters = .ok handle.paramsFingerprint ∧
    record.call.verb.endpoint.request handle.capability parameters = some request

/-- **A refused call** has no effect, so that no client is built and no credential is resolved; it
raises, and the ledger stays. -/
def Refused : Prop :=
  record.course.effects = [] ∧ record.course.Raises ∧ record.course.ledger = record.ledger

end CallRecord

section Runs

variable {lib : AuditLibrary}

open MutatingCall (step)

/-- The call of a record took one of the two courses. -/
def CallRecord.Took (lib : AuditLibrary) (record : CallRecord) : Prop :=
  record.call.verb.Course lib record.call.context record.ledger record.course

/-- Every step takes one of the two courses. -/
theorem took_step (ledger : MutationClearanceLedger) (call : MutatingCall) :
    (step lib ledger call).2.Took lib :=
  call.verb.course_call call.context ledger

namespace CallRecord

variable {record : CallRecord}

/-- What the gate does not admit is refused. -/
theorem Took.refused (took : record.Took lib) (no : ¬ record.Admitted lib) : record.Refused := by
  obtain ⟨call, ledger, course⟩ := record
  dsimp only [Took] at took
  cases took with
  | refused e refusal => exact ⟨rfl, ⟨e, rfl⟩, rfl⟩
  | performed handle now request done admits wire performs => exact absurd ⟨handle, now, admits⟩ no

/-- What a call sends is cleared. -/
theorem Took.cleared (took : record.Took lib) : record.Cleared lib := by
  obtain ⟨call, ledger, course⟩ := record
  dsimp only [Took] at took
  intro request member
  cases took with
  | refused e refusal => cases member
  | performed handle now wired done admits wire performs =>
      have permits := admits.permits
      cases performs with
      | unbuilt e => cases member
      | sent outcome =>
          obtain rfl : request = wired := List.mem_singleton.mp member
          refine ⟨handle, now, [.clientAsked _ _ _ handle], [], _, rfl, admits,
            call.verb.pinMatched, permits.fingerprint, ?_⟩
          rw [permits.capability]
          exact wire

/-- A call sends at most one request. -/
theorem Took.requests_le_one (took : record.Took lib) : record.requests.length ≤ 1 := by
  obtain ⟨call, ledger, course⟩ := record
  dsimp only [Took] at took
  cases took with
  | refused e refusal => exact Nat.zero_le 1
  | performed handle now wired done admits wire performs =>
      cases performs with
      | unbuilt e => exact Nat.zero_le 1
      | sent outcome => exact le_rfl

/-- A call under a clearance request that sends something was given a handle the ledger had not
consumed, and leaves it consumed. -/
theorem Took.consumes (took : record.Took lib) {id : String} (used : record.requestsUnder id ≠ 0) :
    id ∉ record.ledger.consumed ∧ id ∈ record.course.ledger.consumed := by
  obtain ⟨call, ledger, course⟩ := record
  dsimp only [Took] at took
  unfold requestsUnder at used
  split at used
  · next named =>
      cases took with
      | refused e refusal => exact absurd rfl used
      | performed handle now wired done admits wire performs =>
          rw [requestId, admits.presented, Option.some.injEq] at named
          subst named
          exact ⟨admits.permits.unused, List.mem_append_right _ List.mem_cons_self⟩
  · exact absurd rfl used

/-- Consumed handles stay consumed. -/
theorem Took.keeps (took : record.Took lib) {id : String} (spent : id ∈ record.ledger.consumed) :
    id ∈ record.course.ledger.consumed := by
  obtain ⟨call, ledger, course⟩ := record
  dsimp only [Took] at took
  cases took with
  | refused e refusal => exact spent
  | performed handle now wired done admits wire performs => exact List.mem_append_left _ spent

theorem requestsUnder_le (record : CallRecord) (id : String) :
    record.requestsUnder id ≤ record.requests.length := by
  unfold requestsUnder
  split
  exacts [le_rfl, Nat.zero_le _]

end CallRecord

/-- The handles of a clearance request are used at most once on a ledger. -/
theorem singleUse_step :
    SingleUse (step lib) (fun ledger id => id ∈ ledger.consumed) CallRecord.requestsUnder where
  once ledger call id :=
    ((step lib ledger call).2.requestsUnder_le id).trans (took_step ledger call).requests_le_one
  fresh ledger call id spent := by
    by_contra used
    exact ((took_step ledger call).consumes used).1 spent
  marked ledger call id used := ((took_step ledger call).consumes used).2
  kept ledger call id spent := (took_step ledger call).keeps spent

variable (lib) in
/-- **Mutations run at most once and only when cleared**: in every sequence of calls on transports
that share a ledger, each clearance request leads to at most one HTTP request; every HTTP request is
cleared by a handle accepted before it in its call; and a call that the gate does not admit has no
effect at all. -/
theorem mutations_once_and_cleared (ledger : MutationClearanceLedger) (calls : List MutatingCall) :
    (∀ id, totalUses CallRecord.requestsUnder (outputs (step lib) ledger calls) id ≤ 1) ∧
    ∀ record ∈ outputs (step lib) ledger calls,
      record.Cleared lib ∧ (¬ record.Admitted lib → record.Refused) := by
  constructor
  · exact singleUse_step.uses_le_one ledger calls
  · exact Lib.outputs_forall_of_each
      (fun ledger call => ⟨(took_step ledger call).cleared, (took_step ledger call).refused⟩) ledger
      calls

end Runs

end AgenticKVM
