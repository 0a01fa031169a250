import AgenticKVM.Grants
import AgenticKVM.Lib.Except

/-! # Clearance requests and responses

The client-side mirror of the tower's clearance contract (`clearance.py`) and the risk labels of
`risk_families.py`. A request and a response carry what their constructors check, so that the
fields a later comparison relies on are known to be present. -/

namespace AgenticKVM

open Lib (Json except_bind_eq_ok except_ok_bind)

/-- `ClearanceRiskFamily`: the aircraft's coarse labels and the tower's families. -/
inductive ClearanceRiskFamily
  | lowRisk
  | highRisk
  | observe
  | readOnly
  | routine
  | externalEffect
  | destructive
  | credentialOrSecret
  | safetyCritical
  | irreversible
deriving DecidableEq

/-- The text of a risk family. -/
def ClearanceRiskFamily.value : ClearanceRiskFamily → String
  | lowRisk => "low_risk"
  | highRisk => "high_risk"
  | observe => "observe"
  | readOnly => "read_only"
  | routine => "routine"
  | externalEffect => "external_effect"
  | destructive => "destructive"
  | credentialOrSecret => "credential_or_secret"
  | safetyCritical => "safety_critical"
  | irreversible => "irreversible"

/-- `AIRCRAFT_RISK_FAMILIES`. -/
def aircraftRiskFamilies : List ClearanceRiskFamily := [.lowRisk, .highRisk]

/-- `_risk_family` of a text. -/
def riskFamilyOf (value : String) : Except PyExc ClearanceRiskFamily :=
  match value with
  | "" => .error (.valueError "clearance risk_family is required")
  | "low_risk" => .ok .lowRisk
  | "high_risk" => .ok .highRisk
  | "observe" => .ok .observe
  | "read_only" => .ok .readOnly
  | "routine" => .ok .routine
  | "external_effect" => .ok .externalEffect
  | "destructive" => .ok .destructive
  | "credential_or_secret" => .ok .credentialOrSecret
  | "safety_critical" => .ok .safetyCritical
  | "irreversible" => .ok .irreversible
  | _ => .error (.valueError ("unknown clearance risk_family: " ++ value))

/-- Reading a family's text gives the family. -/
theorem riskFamilyOf_value (family : ClearanceRiskFamily) :
    riskFamilyOf family.value = .ok family := by
  cases family <;> rfl

/-! ## Risk labels -/

/-- `LOW_RISK_CAPABILITY_IDS`. -/
def lowRiskCapabilityIds : List String :=
  ["observe.status", "observe.screen", "observe.screenshot", "observe.power_state",
    "observe.hardware_inventory", "observe.sensors", "observe.event_logs", "observe.boot_status",
    "bios.view_settings", "storage.view_disk_layout", "network.read_config", "bmc.account_list",
    "runtime.request_clearance", "runtime.deny_clearance"]

/-- `HIGH_RISK_CAPABILITY_FAMILIES`. -/
def highRiskCapabilityFamilies : List String :=
  ["input", "power", "media", "boot", "firmware", "secrets"]

/-- `HIGH_RISK_CAPABILITY_IDS`. -/
def highRiskCapabilityIds : List String :=
  ["session.modify_policy", "session.disable_audit", "session.disable_emergency_stop",
    "bios.change_setting", "storage.wipe_disk", "storage.repartition_disk",
    "storage.restore_backup", "network.change_bmc_ip", "network.change_host_ip",
    "bmc.rotate_password", "bmc.reset", "runtime.run_approved_playbook",
    "runtime.execute_untrusted_script", "runtime.call_external_webhook", "runtime.spawn_subagent"]

/-- `clearance_risk_family_for_capability`. -/
def clearanceRiskFamilyForCapability : Option Capability → ClearanceRiskFamily
  | none => .highRisk
  | some capability =>
      if capability.id ∈ lowRiskCapabilityIds then .lowRisk
      else if capability.id ∈ highRiskCapabilityIds then .highRisk
      else if capability.family ∈ highRiskCapabilityFamilies then .highRisk
      else .highRisk

/-! ## Operator messages -/

/-- `".." in text`. -/
def hasDoubleDot : List Char → Bool
  | '.' :: '.' :: _ => true
  | _ :: rest => hasDoubleDot rest
  | [] => false

/-- `text.replace("..", ".")`. -/
def replaceDoubleDots : List Char → List Char
  | '.' :: '.' :: rest => '.' :: replaceDoubleDots rest
  | c :: rest => c :: replaceDoubleDots rest
  | [] => []

/-- The loop that replaces double periods until there are none, for at most `fuel` rounds. -/
def collapseDots : Nat → List Char → List Char
  | 0, text => text
  | fuel + 1, text =>
      if hasDoubleDot text then collapseDots fuel (replaceDoubleDots text) else text

/-- Replacing never lengthens a text, and shortens one with a double period. -/
theorem length_replaceDoubleDots (text : List Char) :
    (replaceDoubleDots text).length + (if hasDoubleDot text then 1 else 0) ≤ text.length := by
  fun_induction replaceDoubleDots text with
  | case1 rest ih => simp [hasDoubleDot]; omega
  | case2 c rest ne ih =>
      have head : hasDoubleDot (c :: rest) = hasDoubleDot rest := by
        rw [hasDoubleDot]
        exact ne
      rw [head]
      simp only [List.length_cons]
      omega
  | case3 => simp [hasDoubleDot]

/-- As many rounds as the text has characters are enough. -/
theorem hasDoubleDot_collapseDots {fuel : Nat} {text : List Char} (enough : text.length ≤ fuel) :
    hasDoubleDot (collapseDots fuel text) = false := by
  induction fuel generalizing text with
  | zero =>
      rw [List.length_eq_zero_iff.mp (Nat.le_zero.mp enough)]
      rfl
  | succ fuel ih =>
      unfold collapseDots
      by_cases double : hasDoubleDot text = true
      · rw [if_pos double]
        have shorter := length_replaceDoubleDots text
        rw [if_pos double] at shorter
        exact ih (by omega)
      · rw [if_neg double]
        simpa using double

/-- `build_operator_message`. -/
def buildOperatorMessage (shortCode capability target provider intendedEffect riskSummary :
    String) : String :=
  let message := ["Clearance ", shortCode, " required for ", capability, " on target ", target,
    " through provider ", provider, ". Intended effect: ", intendedEffect, ". Risk: ", riskSummary,
    ". Surface this code to the operator and retry with identical parameters after approval."]
  let text := message.flatMap String.toList
  String.ofList (collapseDots text.length text)

/-- A built message has no double period. -/
theorem buildOperatorMessage_noDoubleDot (shortCode capability target provider intendedEffect
    riskSummary : String) :
    hasDoubleDot (buildOperatorMessage shortCode capability target provider intendedEffect
      riskSummary).toList = false := by
  simp only [buildOperatorMessage, String.toList_ofList]
  exact hasDoubleDot_collapseDots le_rfl

/-- Replacing empties no text. -/
theorem replaceDoubleDots_ne_nil {text : List Char} (nonempty : text ≠ []) :
    replaceDoubleDots text ≠ [] := by
  fun_cases replaceDoubleDots text with
  | case1 rest => exact List.cons_ne_nil _ _
  | case2 c rest ne => exact List.cons_ne_nil _ _
  | case3 => exact nonempty

theorem collapseDots_ne_nil {fuel : Nat} {text : List Char} (nonempty : text ≠ []) :
    collapseDots fuel text ≠ [] := by
  induction fuel generalizing text with
  | zero => exact nonempty
  | succ fuel ih =>
      unfold collapseDots
      split
      exacts [ih (replaceDoubleDots_ne_nil nonempty), nonempty]

/-- A built message is never empty. -/
theorem buildOperatorMessage_ne (shortCode capability target provider intendedEffect riskSummary :
    String) :
    buildOperatorMessage shortCode capability target provider intendedEffect riskSummary ≠ "" := by
  intro empty
  have none := congrArg String.toList empty
  simp only [buildOperatorMessage, String.toList_ofList, String.toList_empty] at none
  refine collapseDots_ne_nil ?_ none
  rw [List.flatMap_cons]
  exact List.append_ne_nil_of_left_ne_nil (by decide) _

/-! ## Requests -/

/-- `ACT_AIRCRAFT_ID`. -/
def actAircraftId : String := "AgenticKVM"

/-- `DEFAULT_CLEARANCE_TIMEOUT_SECONDS`. -/
def defaultClearanceTimeoutSeconds : Int := 20

/-- `CONTRACT_VERSION_V2`. -/
def contractVersionV2 : String := "act.clearance.v2"

/-- `ClearanceStatus`: the response states the client mirrors. -/
inductive ClearanceStatus
  | clearanceRequired
  | cleared
  | denied
  | expired
  | invalid
  | towerUnavailable
  | verificationFailed
deriving DecidableEq

/-- `ClearanceRiskSummary`: an operator-readable summary, which is never empty. -/
structure ClearanceRiskSummary where
  riskFamily : ClearanceRiskFamily
  summary : String
  materialRisks : List String
  summarized : summary ≠ ""

/-- `ClearanceRiskSummary.__post_init__`. -/
def ClearanceRiskSummary.init (riskFamily : ClearanceRiskFamily) (summary : String)
    (materialRisks : List String) : Except PyExc ClearanceRiskSummary :=
  if summarized : summary ≠ "" then .ok ⟨riskFamily, summary, materialRisks, summarized⟩
  else .error (.valueError "risk summary is required")

/-- The fields of a clearance request. -/
structure ClearanceRequestFields where
  requestId : String
  sessionId : String
  target : String
  provider : String
  capability : String
  paramsFingerprint : String
  riskSummary : ClearanceRiskSummary
  operatorMessage : String
  requestedBy : String
  createdAt : Datetime
  expiresAt : Datetime
  shortCode : String
  policyContext : Params
  auditCorrelationId : String
  aircraft : String

namespace ClearanceRequestFields

/-- The fields a request must have, with their names. -/
def required (fields : ClearanceRequestFields) : List (String × String) :=
  [("request_id", fields.requestId), ("session_id", fields.sessionId),
    ("target", fields.target), ("provider", fields.provider),
    ("capability", fields.capability), ("params_fingerprint", fields.paramsFingerprint),
    ("operator_message", fields.operatorMessage), ("requested_by", fields.requestedBy),
    ("short_code", fields.shortCode), ("audit_correlation_id", fields.auditCorrelationId),
    ("aircraft", fields.aircraft)]

/-- The names of the required fields that are empty. -/
def missing (fields : ClearanceRequestFields) : List String :=
  (fields.required.filter fun entry => entry.2 = "").map Prod.fst

/-- What the constructor checks. -/
structure WellFormed (fields : ClearanceRequestFields) : Prop where
  complete : fields.missing = []
  message : hasDoubleDot fields.operatorMessage.toList = false
  aware : fields.createdAt.aware = true ∧ fields.expiresAt.aware = true
  ordered : Datetime.le fields.expiresAt fields.createdAt = .ok false

end ClearanceRequestFields

/-- `ClearanceRequest`: a checked request. -/
structure ClearanceRequest extends ClearanceRequestFields where
  wellFormed : toClearanceRequestFields.WellFormed

/-- `ClearanceRequest.__post_init__`. -/
def ClearanceRequestFields.postInit (fields : ClearanceRequestFields) :
    Except PyExc ClearanceRequest :=
  if complete : fields.missing = [] then
    if message : hasDoubleDot fields.operatorMessage.toList = false then
      if aware : fields.createdAt.aware = true ∧ fields.expiresAt.aware = true then
        match ordered : Datetime.le fields.expiresAt fields.createdAt with
        | .error e => .error e
        | .ok true => .error (.valueError "clearance expiry must be after creation")
        | .ok false => .ok ⟨fields, ⟨complete, message, aware, ordered⟩⟩
      else .error (.valueError "clearance timestamps must be timezone-aware")
    else .error (.valueError "operator message must not contain double periods")
  else .error (.valueError
    ("clearance request missing required fields: " ++ ", ".intercalate fields.missing))

/-- Well-formed fields make a request. -/
theorem ClearanceRequestFields.postInit_eq {fields : ClearanceRequestFields}
    (wellFormed : fields.WellFormed) : fields.postInit = .ok ⟨fields, wellFormed⟩ := by
  unfold postInit
  rw [dif_pos wellFormed.complete, dif_pos wellFormed.message, dif_pos wellFormed.aware]
  split
  · next raised => exact absurd (raised.symm.trans wellFormed.ordered) (by simp)
  · next late => exact absurd (late.symm.trans wellFormed.ordered) (by simp)
  · rfl

/-- The constructor keeps the fields it is given. -/
theorem ClearanceRequestFields.postInit_ok {fields : ClearanceRequestFields}
    {request : ClearanceRequest} (built : fields.postInit = .ok request) :
    request.toClearanceRequestFields = fields := by
  unfold postInit at built
  split_ifs at built
  split at built
  · cases built
  · cases built
  · cases built
    rfl

namespace ClearanceRequest

/-- A required field of a request is present. -/
theorem present (request : ClearanceRequest) {entry : String × String}
    (member : entry ∈ request.required) : entry.2 ≠ "" := by
  intro empty
  have complete := request.wellFormed.complete
  rw [ClearanceRequestFields.missing, List.map_eq_nil_iff, List.filter_eq_nil_iff] at complete
  exact complete entry member (by simpa using empty)

theorem paramsFingerprint_ne (request : ClearanceRequest) : request.paramsFingerprint ≠ "" :=
  @present request ("params_fingerprint", _) (by simp [ClearanceRequestFields.required])

theorem shortCode_ne (request : ClearanceRequest) : request.shortCode ≠ "" :=
  @present request ("short_code", _) (by simp [ClearanceRequestFields.required])

end ClearanceRequest

/-- `_short_code` of the local mirror: eight digits of a hash, in upper case, in two groups. -/
def localShortCode (std : Stdlib) (requestId paramsFingerprint : String) : String :=
  let raw := (String.ofList
    ((std.sha256 (requestId ++ ":" ++ paramsFingerprint)).toList.take 8)).toUpper
  String.ofList (raw.toList.take 4) ++ "-" ++ String.ofList (raw.toList.drop 4)

/-- What `build_clearance_request` is given. -/
structure ClearanceInputs where
  sessionId : String
  target : String
  provider : String
  capability : String
  parameters : Params
  riskFamily : ClearanceRiskFamily
  riskSummary : String
  materialRisks : List String
  intendedEffect : String
  requestedBy : String
  auditCorrelationId : String
  policyContext : Params
  now : Datetime
  ttlSeconds : Int
  actParity : Bool

/-- The fingerprint of the inputs in their fingerprint mode. -/
def ClearanceInputs.fingerprint (std : Stdlib) (inputs : ClearanceInputs) :
    Except PyExc String :=
  if inputs.actParity then
    actRequestFingerprint std inputs.target inputs.provider inputs.capability
      inputs.riskSummary inputs.policyContext inputs.sessionId
  else fingerprintParameters std inputs.parameters

/-- The short code of the inputs in their fingerprint mode. -/
def ClearanceInputs.shortCode (std : Stdlib) (inputs : ClearanceInputs)
    (requestId paramsFingerprint : String) : String :=
  if inputs.actParity then actShortCode std requestId paramsFingerprint
  else localShortCode std requestId paramsFingerprint

/-- `build_clearance_request`, where `requestId` is the id given or the fresh one that stands for a
missing or empty id. -/
def buildClearanceRequest (std : Stdlib) (inputs : ClearanceInputs) (requestId : String) :
    Except PyExc ClearanceRequest := do
  raiseIf (inputs.ttlSeconds < 0) (.valueError "clearance ttl cannot be negative")
  raiseIf (inputs.ttlSeconds > defaultClearanceTimeoutSeconds)
    (.valueError "clearance ttl cannot exceed default without explicit policy")
  let paramsFingerprint ← inputs.fingerprint std
  raiseIf (paramsFingerprint = "") (.valueError "clearance params_fingerprint is required")
  let shortCode := inputs.shortCode std requestId paramsFingerprint
  raiseIf (shortCode = "") (.valueError "clearance short_code is required")
  let riskSummary ←
    ClearanceRiskSummary.init inputs.riskFamily inputs.riskSummary inputs.materialRisks
  let createdAt ← inputs.now.astimezoneUtc std
  let expiresAt ← createdAt.addSeconds inputs.ttlSeconds
  ClearanceRequestFields.postInit
    { requestId
      sessionId := inputs.sessionId
      target := inputs.target
      provider := inputs.provider
      capability := inputs.capability
      paramsFingerprint
      riskSummary
      operatorMessage := buildOperatorMessage shortCode inputs.capability inputs.target
        inputs.provider inputs.intendedEffect inputs.riskSummary
      requestedBy := inputs.requestedBy
      createdAt
      expiresAt
      shortCode
      policyContext := inputs.policyContext
      auditCorrelationId := inputs.auditCorrelationId
      aircraft := actAircraftId }

/-- In parity mode a request is built without a look at the parameters. -/
theorem buildClearanceRequest_parity {std : Stdlib} {inputs : ClearanceInputs} (requestId : String)
    (parity : inputs.actParity = true) (parameters : Params) :
    buildClearanceRequest std { inputs with parameters } requestId
      = buildClearanceRequest std inputs requestId := by
  simp only [buildClearanceRequest, ClearanceInputs.fingerprint, ClearanceInputs.shortCode, parity,
    if_true]

/-- What a built request binds: the identity of its inputs, their fingerprint in the selected mode
and the short code derived from it. -/
structure Binds (std : Stdlib) (inputs : ClearanceInputs) (id : String)
    (request : ClearanceRequest) : Prop where
  fingerprint : inputs.fingerprint std = .ok request.paramsFingerprint
  requestId : request.requestId = id
  sessionId : request.sessionId = inputs.sessionId
  target : request.target = inputs.target
  provider : request.provider = inputs.provider
  capability : request.capability = inputs.capability
  riskFamily : request.riskSummary.riskFamily = inputs.riskFamily
  summary : request.riskSummary.summary = inputs.riskSummary
  policyContext : request.policyContext = inputs.policyContext
  auditCorrelationId : request.auditCorrelationId = inputs.auditCorrelationId
  shortCode : request.shortCode = inputs.shortCode std id request.paramsFingerprint

/-- A built request binds its inputs. -/
theorem buildClearanceRequest_binds {std : Stdlib} {inputs : ClearanceInputs}
    {requestId : String} {request : ClearanceRequest}
    (built : buildClearanceRequest std inputs requestId = .ok request) :
    Binds std inputs requestId request := by
  unfold buildClearanceRequest at built
  obtain ⟨-, -, built⟩ := except_bind_eq_ok.mp built
  obtain ⟨-, -, built⟩ := except_bind_eq_ok.mp built
  obtain ⟨fingerprint, eq, built⟩ := except_bind_eq_ok.mp built
  obtain ⟨-, -, built⟩ := except_bind_eq_ok.mp built
  obtain ⟨-, -, built⟩ := except_bind_eq_ok.mp built
  obtain ⟨summary, summarized, built⟩ := except_bind_eq_ok.mp built
  obtain ⟨createdAt, -, built⟩ := except_bind_eq_ok.mp built
  obtain ⟨expiresAt, -, built⟩ := except_bind_eq_ok.mp built
  have fields := ClearanceRequestFields.postInit_ok built
  unfold ClearanceRiskSummary.init at summarized
  split at summarized
  · cases summarized
    constructor <;> simp [fields, eq]
  · cases summarized

/-- A request is built from inputs whose fingerprint, short code, summary and times it has. -/
theorem buildClearanceRequest_eq {std : Stdlib} {inputs : ClearanceInputs} {requestId : String}
    {request : ClearanceRequest}
    (bounded : ¬ inputs.ttlSeconds < 0 ∧ ¬ inputs.ttlSeconds > defaultClearanceTimeoutSeconds)
    (hash : inputs.fingerprint std = .ok request.paramsFingerprint)
    (code : inputs.shortCode std requestId request.paramsFingerprint = request.shortCode)
    (summary : ClearanceRiskSummary.init inputs.riskFamily inputs.riskSummary inputs.materialRisks
      = .ok request.riskSummary)
    (created : inputs.now.astimezoneUtc std = .ok request.createdAt)
    (expires : request.createdAt.addSeconds inputs.ttlSeconds = .ok request.expiresAt)
    (fields : request.toClearanceRequestFields
      = { request.toClearanceRequestFields with
          requestId
          sessionId := inputs.sessionId
          target := inputs.target
          provider := inputs.provider
          capability := inputs.capability
          operatorMessage := buildOperatorMessage request.shortCode inputs.capability inputs.target
            inputs.provider inputs.intendedEffect inputs.riskSummary
          requestedBy := inputs.requestedBy
          policyContext := inputs.policyContext
          auditCorrelationId := inputs.auditCorrelationId
          aircraft := actAircraftId }) :
    buildClearanceRequest std inputs requestId = .ok request := by
  rw [buildClearanceRequest, raiseIf_of_not bounded.1, except_ok_bind, raiseIf_of_not bounded.2,
    except_ok_bind, hash, except_ok_bind, code, raiseIf_of_not request.paramsFingerprint_ne,
    except_ok_bind]
  dsimp only
  rw [raiseIf_of_not request.shortCode_ne, except_ok_bind, summary, except_ok_bind, created,
    except_ok_bind, expires, except_ok_bind, ← fields]
  exact ClearanceRequestFields.postInit_eq request.wellFormed

/-! ## Responses -/

/-- The fields of a response, its risk family apart. The tower id is whatever the payload held. -/
structure ClearanceResponseFields where
  status : ClearanceStatus
  requestId : String
  sessionId : String
  target : String
  provider : String
  capability : String
  paramsFingerprint : String
  shortCode : String
  expiresAt : Option Datetime
  towerId : Json
  proof : Option (List (String × Json))
  auditCorrelationId : String
  operatorMessage : String
  reason : String
  contractVersion : String
  boundMaterial : Option (List (String × String))

/-- `ClearanceResponse`: a checked response of the tower. -/
structure ClearanceResponse extends ClearanceResponseFields where
  riskFamily : ClearanceRiskFamily
  fingerprintPresent : paramsFingerprint ≠ ""
  codePresent : shortCode ≠ ""
  messageForm : hasDoubleDot operatorMessage.toList = false
  expiryAware : ∀ t ∈ expiresAt, t.aware = true

/-- The expiry as `ClearanceResponse.to_dict` writes it: moved to UTC, which raises `OverflowError`
at the ends of the calendar. Nothing else in `to_dict` can raise. -/
def ClearanceResponse.expiryInUtc (std : Stdlib) (response : ClearanceResponse) :
    Except PyExc (Option Datetime) :=
  match response.expiresAt with
  | none => .ok none
  | some expiresAt => do
      let utc ← expiresAt.astimezoneUtc std
      return some utc

/-- `ClearanceResponse.__post_init__`, from the fields and the text of the risk family. -/
def ClearanceResponseFields.postInit (fields : ClearanceResponseFields) (riskFamily : String) :
    Except PyExc ClearanceResponse :=
  if fingerprintPresent : fields.paramsFingerprint ≠ "" then do
    let riskFamily ← riskFamilyOf riskFamily
    if codePresent : fields.shortCode ≠ "" then
      if messageForm : hasDoubleDot fields.operatorMessage.toList = false then
        if expiryAware : ∀ t ∈ fields.expiresAt, t.aware = true then
          return ⟨fields, riskFamily, fingerprintPresent, codePresent, messageForm, expiryAware⟩
        else .error (.valueError "clearance response expiry must be timezone-aware")
      else .error (.valueError "operator message must not contain double periods")
    else .error (.valueError "clearance short_code is required")
  else .error (.valueError "clearance params_fingerprint is required")

/-- Fields that pass every check make a response. -/
theorem ClearanceResponseFields.postInit_eq {fields : ClearanceResponseFields}
    {riskFamily : String} {family : ClearanceRiskFamily}
    (fingerprintPresent : fields.paramsFingerprint ≠ "")
    (read : riskFamilyOf riskFamily = .ok family) (codePresent : fields.shortCode ≠ "")
    (messageForm : hasDoubleDot fields.operatorMessage.toList = false)
    (expiryAware : ∀ t ∈ fields.expiresAt, t.aware = true) :
    fields.postInit riskFamily
      = .ok ⟨fields, family, fingerprintPresent, codePresent, messageForm, expiryAware⟩ := by
  rw [postInit, dif_pos fingerprintPresent, read, except_ok_bind, dif_pos codePresent,
    dif_pos messageForm, dif_pos expiryAware]
  rfl

/-- The constructor keeps the fields it is given. -/
theorem ClearanceResponseFields.postInit_ok {fields : ClearanceResponseFields}
    {riskFamily : String} {response : ClearanceResponse}
    (built : fields.postInit riskFamily = .ok response) :
    response.toClearanceResponseFields = fields ∧
      riskFamilyOf riskFamily = .ok response.riskFamily := by
  unfold postInit at built
  split at built
  · obtain ⟨family, read, built⟩ := except_bind_eq_ok.mp built
    split_ifs at built
    cases built
    exact ⟨rfl, read⟩
  · cases built

/-- `_ACT_STATE_TO_STATUS`, with its default: what is not a known state is a failed
verification. -/
def actStateToStatus : String → ClearanceStatus
  | "pending" => .clearanceRequired
  | "approved" => .cleared
  | "denied" => .denied
  | "expired" => .expired
  | "cancelled" => .denied
  | _ => .verificationFailed

/-- Only the state `approved` is a clearance. -/
theorem actStateToStatus_eq_cleared {state : String} :
    actStateToStatus state = .cleared ↔ state = "approved" := by
  unfold actStateToStatus
  split <;> simp_all

/-- `payload.get(key)`. -/
def jsonGet (payload : List (String × Json)) (key : String) : Json :=
  (payload.lookup key).getD .null

/-- `payload.get(key, default)`. -/
def jsonGetD (payload : List (String × Json)) (key : String) (default : Json) : Json :=
  (payload.lookup key).getD default

/-- The entries of a JSON object; nothing for any other value. -/
def asMapping : Json → Option (List (String × Json))
  | .obj entries => some entries
  | _ => none

/-- `_parse_act_datetime`: a trailing `Z` stands for UTC. -/
def parseActDatetime (std : Stdlib) (value : Json) : Except PyExc Datetime :=
  let text := jsonStr std value
  let text := if text.toList.getLast? = some 'Z' then
    String.ofList text.toList.dropLast ++ "+00:00" else text
  match std.fromisoformat text with
  | some t => .ok t
  | none => .error (.valueError ("Invalid isoformat string: " ++ text))

section ActPayload

variable (std : Stdlib) (payload : List (String × Json))

/-- The `agentickvm` namespace of a payload's extensions; empty where there is none. -/
def actNamespace : List (String × Json) :=
  match asMapping (jsonGet payload "extensions") with
  | some extensions => (asMapping (jsonGet extensions "agentickvm")).getD []
  | none => []

/-- A field of the core payload or, where that is missing or empty, of the `agentickvm`
namespace, as text. -/
def actField (key : String) : String :=
  jsonStr std (pyOr (jsonGet payload key) (pyOr (jsonGet (actNamespace payload) key) (.str "")))

/-- The request id of a payload, for which its approval id stands in. -/
def actRequestId : String :=
  jsonStr std
    (pyOr (jsonGet payload "request_id") (pyOr (jsonGet payload "approval_id") (.str "")))

/-- A text field of the payload, empty where it is absent. -/
def actText (key : String) : String := jsonStr std (jsonGetD payload key (.str ""))

/-- An optional text field of the payload, empty where it is absent, null or empty. -/
def actOptionalText (key : String) : String :=
  jsonStr std (pyOr (jsonGet payload key) (.str ""))

/-- The expiry of a payload, where it has one. -/
def actExpiry : Except PyExc (Option Datetime) :=
  if truthy (jsonGet payload "expires_at") then
    (parseActDatetime std (jsonGet payload "expires_at")).map some
  else .ok none

/-- The contract version of a payload. -/
def actContractVersion : String :=
  jsonStr std (jsonGetD payload "contract_version" (.str contractVersionV2))

/-- The strings of a payload that its proof is verified over. -/
def actBoundMaterial (proof : List (String × Json)) : List (String × String) :=
  [("approval_id", jsonStr std
      (pyOr (jsonGet payload "approval_id") (.str (actRequestId std payload)))),
    ("params_fingerprint", actText std payload "params_fingerprint"),
    ("short_code", actText std payload "short_code"),
    ("risk_family", actText std payload "risk_family"),
    ("expires_at", actOptionalText std payload "expires_at"),
    ("tower_id", actText std payload "tower_id"),
    ("contract_version", actContractVersion std payload),
    ("extensions_digest", jsonStr std (jsonGetD proof "extensions_digest" (.str "")))]

/-- The fields of the response a payload is parsed into, from its parsed expiry. -/
def actResponseFields (expiresAt : Option Datetime) : ClearanceResponseFields :=
  let proof := asMapping (jsonGet payload "proof")
  { status := actStateToStatus (std.lower (actText std payload "state"))
    requestId := actRequestId std payload
    sessionId := actField std payload "session_id"
    target := actField std payload "target"
    provider := actField std payload "provider"
    capability := actField std payload "capability"
    paramsFingerprint := actText std payload "params_fingerprint"
    shortCode := actText std payload "short_code"
    expiresAt
    towerId := jsonGet payload "tower_id"
    proof
    auditCorrelationId := actOptionalText std payload "audit_correlation_id"
    operatorMessage := actOptionalText std payload "operator_message"
    reason := actOptionalText std payload "reason"
    contractVersion := actContractVersion std payload
    boundMaterial := proof.map (actBoundMaterial std payload) }

end ActPayload

/-- `clearance_response_from_act_payload`. -/
def clearanceResponseFromActPayload (std : Stdlib) (payload : Json) :
    Except PyExc ClearanceResponse :=
  match asMapping payload with
  | none => .error (.valueError "ACT clearance payload must be an object")
  | some payload => do
      let expiresAt ← actExpiry std payload
      (actResponseFields std payload expiresAt).postInit (actText std payload "risk_family")

/-- A parsed response is read off an object, field by field. -/
theorem clearanceResponseFromActPayload_ok {std : Stdlib} {payload : Json}
    {response : ClearanceResponse}
    (parsed : clearanceResponseFromActPayload std payload = .ok response) :
    ∃ entries expiresAt, payload = .obj entries ∧ actExpiry std entries = .ok expiresAt ∧
      response.toClearanceResponseFields = actResponseFields std entries expiresAt ∧
      riskFamilyOf (actText std entries "risk_family") = .ok response.riskFamily := by
  unfold clearanceResponseFromActPayload at parsed
  cases payload with
  | obj entries =>
      obtain ⟨expiresAt, expiry, built⟩ := except_bind_eq_ok.mp parsed
      exact ⟨entries, expiresAt, rfl, expiry, ClearanceResponseFields.postInit_ok built⟩
  | _ => cases parsed

end AgenticKVM
