import AgenticKVM.Lib.CachedReads
import AgenticKVM.PiKVMTransport
import AgenticKVM.PolicyFile

/-! # The Redfish read transport

The read operations of `providers/redfish_transport.py` over the resources a BMC serves, and the
evidence that `live_validation/redfish.py` collects from them. Resources are discovered from the
service root; what is read for discovery is kept in the transport's cache, and everything else is
redacted. How it is redacted is a parameter, so that what an operation returns can be compared with
what the device sent. -/

namespace AgenticKVM

open Lib (Json CachedM)

/-- A computation of the transport, over its `_resource_cache`. -/
abbrev ReadM : Type → Type := CachedM String (List (String × Json)) ClientRaise

/-! ## JSON values in Python -/

/-- `value[0]` of a JSON value. The keys of an object are texts, none of which is `0`. -/
def firstItem : Json → Except PyExc Json
  | .list (item :: _) => .ok item
  | .list [] => .error (.other "IndexError" "list index out of range")
  | .str s =>
      match s.toList with
      | c :: _ => .ok (.str (String.singleton c))
      | [] => .error (.other "IndexError" "string index out of range")
  | .obj _ => .error (.keyError "0")
  | value =>
      .error (.typeError ("'" ++ (PyValue.ofJson value).typeName ++ "' object is not subscriptable"))

/-- `_odata_id`. -/
def odataId : Json → Option String
  | .obj entries =>
      match jsonGet entries "@odata.id" with
      | .str ref => if startsWith ref "/redfish/" then some ref else none
      | _ => none
  | _ => none

/-- `redact_redfish_read_payload` of a mapping. -/
def redactRedfishReadPayload (lib : AuditLibrary) (payload : Params) : Params :=
  redactPikvmObserveMapping lib payload

/-- `REDFISH_SERVICE_ROOT_PATH`. -/
def redfishServiceRootPath : String := "/redfish/v1/"

/-! ## The transport -/

/-- What `get_json` of a path comes to: a transport error becomes a provider error. -/
def getJson (served : ServedResources) (path : String) : Except ClientRaise (List (String × Json)) :=
  match served path with
  | .ok payload => .ok payload
  | .error (.providerError error) => refuse error
  | .error .transportError => refuse (providerProtocolError "Redfish live read transport error")

namespace LiveRedfishReadTransport

section Reads

variable (served : ServedResources) (redact : Params → Params)

/-- `_read_json` with `raw=True`. -/
def readRaw (path : String) : ReadM (List (String × Json)) := CachedM.fetch (getJson served) path

/-- `_read_json`. -/
def readJson (path : String) : ReadM Params := do
  let payload ← CachedM.lift (getJson served path)
  return redact (PyValue.ofEntries payload)

/-- A reference that has to be there: `if not ref: raise error`. -/
def present (ref : Option String) (error : ProviderError) : ReadM String :=
  CachedM.lift (match ref with
    | some ref => .ok ref
    | none => refuse error)

/-- The reference to the first member of a collection, as `_first_member_resource` finds it. -/
def firstMemberRef (collectionKey : String) : ReadM String := do
  let root ← readRaw served redfishServiceRootPath
  let collectionRef ← present (odataId (jsonGet root collectionKey))
    (providerResponseValidationError
      ("Redfish service root exposes no " ++ collectionKey ++ " collection"))
  let collection ← readRaw served collectionRef
  let members := jsonGetD collection "Members" (.list [])
  let memberRef ← CachedM.lift (raised
    (if truthy members then (firstItem members).map odataId else .ok none))
  present memberRef (providerResponseValidationError
    ("Redfish " ++ collectionKey ++ " collection has no members"))

/-- `_first_member_resource` with `raw=True`. -/
def firstMemberRaw (collectionKey : String) : ReadM (List (String × Json)) := do
  let memberRef ← firstMemberRef served collectionKey
  readRaw served memberRef

/-- `_first_member_resource`. -/
def firstMemberResource (collectionKey : String) : ReadM Params := do
  let memberRef ← firstMemberRef served collectionKey
  readJson served redact memberRef

/-- `list(payload.get(key, []))` of a redacted payload. -/
def listOf (payload : Params) (key : String) : ReadM PyValue :=
  CachedM.lift (raised ((pyList ((paramGet payload key).getD (.list []))).map .list))

/-- `manager_status`. -/
def managerStatus : ReadM Params := firstMemberResource served redact "Managers"

/-- `status`. -/
def status : ReadM Params := do
  let root ← readJson served redact redfishServiceRootPath
  let manager ← managerStatus served redact
  return [(.str "service_root", .dict root), (.str "manager", .dict manager)]

/-- The mapping `power_state` summarises. -/
def powerStateSummary (system : List (String × Json)) : List (String × Json) :=
  [("power_state", jsonGetD system "PowerState" (.str "Unknown"))]

/-- `power_state`. -/
def powerState : ReadM Params := do
  let system ← firstMemberRaw served "Systems"
  return redact (PyValue.ofEntries (powerStateSummary system))

/-- The mapping `boot_status` summarises. -/
def bootStatusSummary (system : List (String × Json)) : List (String × Json) :=
  let boot := (asMapping (jsonGetD system "Boot" (.obj []))).getD []
  [("boot_source_override", jsonGetD boot "BootSourceOverrideTarget" (.str "Unknown")),
    ("boot_source_override_enabled", jsonGetD boot "BootSourceOverrideEnabled" (.str "Unknown"))]

/-- `boot_status`. -/
def bootStatus : ReadM Params := do
  let system ← firstMemberRaw served "Systems"
  return redact (PyValue.ofEntries (bootStatusSummary system))

/-- The mapping `hardware_inventory` summarises. -/
def hardwareInventorySummary (system : List (String × Json)) : List (String × Json) :=
  [("system_id", jsonGet system "Id"), ("name", jsonGet system "Name"),
    ("manufacturer", jsonGet system "Manufacturer"), ("model", jsonGet system "Model"),
    ("bios_version", jsonGet system "BiosVersion"),
    ("processors", jsonGetD system "ProcessorSummary" (.obj [])),
    ("memory", jsonGetD system "MemorySummary" (.obj [])),
    ("status", jsonGetD system "Status" (.obj []))]

/-- `hardware_inventory`. -/
def hardwareInventory : ReadM Params := do
  let system ← firstMemberRaw served "Systems"
  return redact (PyValue.ofEntries (hardwareInventorySummary system))

/-- `sensors`. -/
def sensors : ReadM Params := do
  let chassis ← firstMemberRaw served "Chassis"
  match odataId (jsonGet chassis "Thermal") with
  | some thermalRef =>
      let thermal ← readJson served redact thermalRef
      let temperatures ← listOf thermal "Temperatures"
      let fans ← listOf thermal "Fans"
      return [(.str "source", .str "thermal"), (.str "temperatures", temperatures),
        (.str "fans", fans)]
  | none =>
      match odataId (jsonGet chassis "Sensors") with
      | some sensorsRef =>
          let sensors ← readJson served redact sensorsRef
          let members ← listOf sensors "Members"
          return [(.str "source", .str "sensors"), (.str "sensors", members)]
      | none => CachedM.lift (refuse (providerResponseValidationError
          "Redfish chassis exposes neither Thermal nor Sensors resources"))

/-- The loop of `event_logs` over the members of the log services: the first one with entries. -/
def eventLogsOf : List Json → ReadM Params
  | [] => CachedM.lift (refuse (providerResponseValidationError
      "Redfish manager log services expose no readable Entries"))
  | member :: rest =>
      match odataId member with
      | none => eventLogsOf rest
      | some memberRef => do
          let logService ← readRaw served memberRef
          match odataId (jsonGet logService "Entries") with
          | none => eventLogsOf rest
          | some entriesRef =>
              let entries ← readJson served redact entriesRef
              let events ← listOf entries "Members"
              return [(.str "log_service_id", PyValue.ofJson (jsonGet logService "Id")),
                (.str "events", events)]

/-- `event_logs`. -/
def eventLogs : ReadM Params := do
  let manager ← firstMemberRaw served "Managers"
  let logServicesRef ← present (odataId (jsonGet manager "LogServices"))
    (providerResponseValidationError "Redfish manager exposes no LogServices")
  let logServices ← readRaw served logServicesRef
  let members ← CachedM.lift (raised (iterItems (jsonGetD logServices "Members" (.list []))))
  eventLogsOf served redact members

end Reads

end LiveRedfishReadTransport

/-! ## Evidence -/

/-- The read operations, in the order evidence is collected in. -/
inductive RedfishReadOperation
  | status
  | powerState
  | bootStatus
  | hardwareInventory
  | sensors
  | eventLogs
deriving DecidableEq

namespace RedfishReadOperation

/-- The operations of `collect_redfish_read_evidence`. -/
def all : List RedfishReadOperation :=
  [status, powerState, bootStatus, hardwareInventory, sensors, eventLogs]

/-- The key of an operation in the evidence. -/
def value : RedfishReadOperation → String
  | status => "observe.status"
  | powerState => "observe.power_state"
  | bootStatus => "observe.boot_status"
  | hardwareInventory => "observe.hardware_inventory"
  | sensors => "observe.sensors"
  | eventLogs => "observe.event_logs"

/-- The method of the transport that runs an operation. -/
def runner (served : ServedResources) (redact : Params → Params) :
    RedfishReadOperation → ReadM Params
  | status => LiveRedfishReadTransport.status served redact
  | powerState => LiveRedfishReadTransport.powerState served redact
  | bootStatus => LiveRedfishReadTransport.bootStatus served redact
  | hardwareInventory => LiveRedfishReadTransport.hardwareInventory served redact
  | sensors => LiveRedfishReadTransport.sensors served redact
  | eventLogs => LiveRedfishReadTransport.eventLogs served redact

end RedfishReadOperation

mutual

/-- `_to_plain`. -/
def toPlain (std : Stdlib) : PyValue → PyValue
  | .dict entries => .dict (pyDict (toPlainEntries std entries))
  | .list items | .tuple items => .list (toPlainItems std items)
  | value => value

def toPlainItems (std : Stdlib) : List PyValue → List PyValue
  | [] => []
  | item :: rest => toPlain std item :: toPlainItems std rest

def toPlainEntries (std : Stdlib) : List (PyValue × PyValue) → List (String × PyValue)
  | [] => []
  | (key, child) :: rest => (pyStr std key, toPlain std child) :: toPlainEntries std rest

end

/-- What is recorded of an operation: its data, or the public message of its provider error. Any
other exception is raised on. -/
def recordedOutcome (std : Stdlib) : Except ClientRaise Params → Except PyExc PyValue
  | .ok data => .ok (.dict [(.str "ok", .bool true), (.str "data", toPlain std (.dict data))])
  | .error (.providerError error) =>
      .ok (.dict [(.str "ok", .bool false), (.str "error", .str (error.publicMessage std.lower))])
  | .error (.exception e) => .error e

/-- The loop of `collect_redfish_read_evidence` over the operations, with the transport's cache. -/
def collectFrom (lib : AuditLibrary) (served : ServedResources) :
    List RedfishReadOperation → List (String × List (String × Json)) →
      Except PyExc (List (String × PyValue))
  | [], _ => .ok []
  | operation :: rest, cache => do
      let (result, after) :=
        CachedM.outcome (operation.runner served (redactRedfishReadPayload lib)) cache
      let entry ← recordedOutcome lib.toStdlib result
      let evidence ← collectFrom lib served rest after
      return (operation.value, entry) :: evidence

/-- `collect_redfish_read_evidence` of a transport with its cache. -/
def collectRedfishReadEvidence (lib : AuditLibrary) (served : ServedResources)
    (cache : List (String × List (String × Json))) : Except PyExc (List (String × PyValue)) :=
  collectFrom lib served RedfishReadOperation.all cache

end AgenticKVM
