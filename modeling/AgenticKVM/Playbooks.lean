import AgenticKVM.McpHost

/-! # Playbooks

Ordered workflows of tool calls (`playbooks.py`): a registry of definitions whose steps name known
tools and declare the capabilities of these, and a runner that sends one step after the other to a
router of its own, over the runtime's registries, policy, audit sink and approval store, until a step
is not answered with success. -/

namespace AgenticKVM

open Lib (Json Prog)

/-! ## Definitions -/

/-- `PlaybookStatus`. -/
inductive PlaybookStatus
  | ok
  | dryRun
  | stopped
  | validationError
deriving DecidableEq

/-- `PlaybookStatus.value`. -/
def PlaybookStatus.value : PlaybookStatus → String
  | ok => "ok"
  | dryRun => "dry_run"
  | stopped => "stopped"
  | validationError => "validation_error"

/-- `PlaybookStep`: one tool call of a playbook. -/
structure PlaybookStep where
  name : String
  toolName : String
  description : String
  params : Params
  approvalCheckpoint : Bool
  named : name ≠ ""
  tooled : toolName ≠ ""

/-- `PlaybookStep.to_dict`. -/
def PlaybookStep.toDict (lib : AuditLibrary) (step : PlaybookStep) : Except PyExc Record :=
  let (safeParams, redactions) := redactMapping lib step.params none
  jsonSafeEntriesOf lib
    [("name", .str step.name), ("tool_name", .str step.toolName),
      ("description", .str step.description), ("params", .dict safeParams),
      ("redactions", strList (pathsBelow "params" redactions)),
      ("approval_checkpoint", .bool step.approvalCheckpoint)]

/-- `PlaybookDefinition`. -/
structure PlaybookDefinition where
  name : String
  description : String
  requiredCapabilities : List String
  riskTier : String
  steps : List PlaybookStep
  rollbackNotes : String
  named : name ≠ ""
  stepped : steps ≠ []
  tiered : riskTier ≠ ""
  noted : rollbackNotes ≠ ""

/-- The default of `rollback_notes`. -/
def noRollbackNotes : String := "No provider mutation is performed by this playbook."

/-! ## The registry -/

section Registry

variable (tools : MCPToolRegistry)

/-- The check of one step: its tool is known and its capability declared. -/
def validateStep (playbook : PlaybookDefinition) (step : PlaybookStep) : Except PyExc Unit :=
  match tools.get step.toolName with
  | none => .error (.valueError ("playbook " ++ playbook.name ++ " references unknown tool "
      ++ step.toolName))
  | some tool => raiseIf (tool.capabilityId ∉ playbook.requiredCapabilities)
      (.valueError ("playbook " ++ playbook.name ++ " missing required capability "
        ++ tool.capabilityId))

/-- `_validate_playbook`. -/
def validatePlaybook (playbook : PlaybookDefinition) : Except PyExc Unit :=
  playbook.steps.forM (validateStep tools playbook)

end Registry

/-- `PlaybookRegistry`: validated playbooks under distinct names. -/
structure PlaybookRegistry where
  toolRegistry : MCPToolRegistry
  playbooks : List PlaybookDefinition
  distinct : (playbooks.map PlaybookDefinition.name).Nodup
  valid : (playbooks.forM (validatePlaybook toolRegistry)).isOk = true

namespace PlaybookRegistry

/-- `PlaybookRegistry.__init__`. -/
def init (playbooks : List PlaybookDefinition) (tools : MCPToolRegistry) :
    Except PyExc PlaybookRegistry :=
  if distinct : (playbooks.map PlaybookDefinition.name).Nodup then
    match checked : playbooks.forM (validatePlaybook tools) with
    | .error e => .error e
    | .ok () => .ok ⟨tools, playbooks, distinct, by rw [checked]; rfl⟩
  else .error (.valueError "duplicate playbook name")

/-- `PlaybookRegistry.get`. -/
def get (registry : PlaybookRegistry) (name : String) : Option PlaybookDefinition :=
  registry.playbooks.find? fun playbook => playbook.name = name

/-- `PlaybookRegistry.require`. -/
def require (registry : PlaybookRegistry) (name : String) : Except PyExc PlaybookDefinition :=
  match registry.get name with
  | none => .error (.valueError ("Unknown playbook: " ++ name))
  | some playbook => .ok playbook

end PlaybookRegistry

/-- A step of a playbook with no parameters and no checkpoint. -/
def plainStep (name toolName description : String) (named : name ≠ "") (tooled : toolName ≠ "") :
    PlaybookStep where
  name := name
  toolName := toolName
  description := description
  params := []
  approvalCheckpoint := false
  named := named
  tooled := tooled

theorem getStatus_named : "get_status" ≠ "" := by decide

/-- `DEFAULT_PLAYBOOK_REGISTRY`. -/
def defaultPlaybookRegistry : PlaybookRegistry where
  toolRegistry := defaultMcpToolRegistry
  playbooks :=
    [ { name := "observe-target-health"
        description := "Collect basic status and power-state evidence."
        requiredCapabilities := ["observe.status", "observe.power_state"]
        riskTier := "low"
        steps :=
          [plainStep "status" "get_status" "Read provider-neutral target status." (by decide)
              getStatus_named,
            plainStep "power-state" "get_power_state" "Read target power state." (by decide)
              (by decide)]
        rollbackNotes := noRollbackNotes
        named := by decide
        stepped := by simp
        tiered := by decide
        noted := by decide },
      { name := "capture-screen-evidence"
        description := "Capture screen metadata through the observe path."
        requiredCapabilities := ["observe.screenshot"]
        riskTier := "medium"
        steps :=
          [plainStep "screen" "observe_screen" "Read screen or screenshot metadata." (by decide)
            (by decide)]
        rollbackNotes := noRollbackNotes
        named := by decide
        stepped := by simp
        tiered := by decide
        noted := by decide },
      { name := "inspect-boot-status"
        description := "Collect safe boot-status evidence."
        requiredCapabilities := ["observe.boot_status"]
        riskTier := "low"
        steps := [plainStep "boot-status" "get_boot_status" "Read boot status." (by decide)
          (by decide)]
        rollbackNotes := noRollbackNotes
        named := by decide
        stepped := by simp
        tiered := by decide
        noted := by decide },
      { name := "collect-pre-recovery-evidence"
        description := "Collect status, power, boot, and screen evidence before recovery."
        requiredCapabilities :=
          ["observe.status", "observe.power_state", "observe.boot_status", "observe.screenshot"]
        riskTier := "medium"
        steps :=
          [plainStep "status" "get_status" "Read target status." (by decide) getStatus_named,
            plainStep "power-state" "get_power_state" "Read power state." (by decide) (by decide),
            plainStep "boot-status" "get_boot_status" "Read boot status." (by decide) (by decide),
            plainStep "screen" "observe_screen" "Read screen metadata." (by decide) (by decide)]
        rollbackNotes := noRollbackNotes
        named := by decide
        stepped := by simp
        tiered := by decide
        noted := by decide },
      { name := "wait-for-login-prompt"
        description := "Mock-safe loop placeholder for observing login prompt evidence."
        requiredCapabilities := ["observe.screenshot"]
        riskTier := "medium"
        steps :=
          [{ plainStep "screen-check" "observe_screen" "Read screen metadata for a prompt-like fixture."
              (by decide) (by decide) with
            params := strEntries [("expected", .str "login_prompt")] }]
        rollbackNotes := noRollbackNotes
        named := by decide
        stepped := by simp
        tiered := by decide
        noted := by decide } ]
  distinct := by decide +kernel
  valid := by decide +kernel

/-! ## The runner -/

namespace ConfigRuntime

variable (lib : AuditLibrary) (runtime : ConfigRuntime)

/-- The router of `PlaybookRunner.run`. Its channel, client and verifier are the router's defaults. -/
def playbookRouter : MCPRouter where
  providerRegistry := runtime.providerRegistry
  targetRegistry := runtime.targetRegistry
  policy := runtime.policy
  environment := runtime.environment
  clearanceClient := none
  clearanceVerifier := none
  clearanceTimeoutSeconds := 20
  authChannel := .channel defaultAuthChannel
  actParityFingerprint := false
  registry := defaultMcpToolRegistry
  capabilityRegistry := defaultCapabilityRegistry

section Run

variable (playbook : PlaybookDefinition) (target sessionId requesterId : String)

/-- The request of one step. -/
def playbookRequest (step : PlaybookStep) : Except PyExc MCPToolRequest :=
  MCPToolRequest.init step.toolName target sessionId requesterId step.params none []
    (some ("playbook:" ++ playbook.name ++ ":" ++ step.name))

/-- What a run reports: its status and results, and more about why it stopped. -/
def playbookReport (status : PlaybookStatus) (why : List (String × PyValue))
    (results : List PyValue) : Except PyExc Record :=
  jsonSafeEntriesOf lib
    ([("status", .str status.value), ("playbook", .str playbook.name), ("target", .str target)]
      ++ why ++ [("results", .list results)])

/-- The loop of `run` over the steps that are left, after the results so far. -/
def runSteps (results : List PyValue) : List PlaybookStep → Surface Record
  | [] => Prog.ofExcept (playbookReport lib playbook target .ok [] results)
  | step :: rest => do
      let request ← Prog.ofExcept (playbookRequest playbook target sessionId requesterId step)
      let result ← runtime.playbookRouter.handleToolRequest lib request
      let shown ← Prog.ofExcept (step.toDict lib)
      let results := results
        ++ [strDict [("step", .dict (PyValue.ofEntries shown)), ("result", .dict result.toDict)]]
      if result.status ≠ .ok then
        Prog.ofExcept (playbookReport lib playbook target .stopped
          [("reason", .str result.reason), ("stop_status", .str result.status.value)] results)
      else runSteps results rest

end Run

/-- `PlaybookRunner.run`. -/
def runPlaybook (registry : PlaybookRegistry) (name target sessionId requesterId : String) :
    Surface Record := do
  let playbook ← Prog.ofExcept (registry.require name)
  runtime.runSteps lib playbook target sessionId requesterId [] playbook.steps

end ConfigRuntime

end AgenticKVM
