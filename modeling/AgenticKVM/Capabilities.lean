import AgenticKVM.Decisions

/-! # Capabilities

The provider-neutral actions a policy can evaluate (`capabilities.py`) and their registry. A
capability carries the form of its id, and a registry the distinctness of its ids, so that neither
can be built otherwise. -/

namespace AgenticKVM

/-- `CAPABILITY_FAMILIES`. -/
def capabilityFamilies : List String :=
  ["session", "observe", "input", "power", "media", "boot", "bios", "firmware", "storage",
    "network", "bmc", "secrets", "runtime"]

/-- `RiskLevel`: provider-neutral risk labels. -/
inductive RiskLevel
  | low
  | medium
  | high
  | critical
deriving DecidableEq

/-- `Capability`: an action that policy can evaluate. Its id is `family.action`, of a known
family. -/
structure Capability where
  id : String
  family : String
  action : String
  risk : RiskLevel
  dangerous : Bool
  destructive : Bool
  requiredScope : List String
  familyKnown : family ∈ capabilityFamilies
  idForm : id = family ++ "." ++ action
deriving DecidableEq

/-- A family is no empty text. -/
theorem Capability.family_ne_empty (capability : Capability) : capability.family ≠ "" := by
  intro empty
  have known := capability.familyKnown
  rw [empty] at known
  exact absurd known (by decide)

/-- An id is no empty text: it has a dot. -/
theorem Capability.id_ne_empty (capability : Capability) : capability.id ≠ "" := by
  rw [capability.idForm]
  intro empty
  have lists := congrArg String.toList empty
  simp at lists

/-- `CapabilityRegistry`: an immutable table of capabilities with distinct ids. -/
structure CapabilityRegistry where
  capabilities : List Capability
  distinct : (capabilities.map Capability.id).Nodup

namespace CapabilityRegistry

/-- `CapabilityRegistry.get`. -/
def get (registry : CapabilityRegistry) (capabilityId : String) : Option Capability :=
  registry.capabilities.find? fun capability => capability.id = capabilityId

/-- A capability is found under its own id. -/
theorem id_of_get {registry : CapabilityRegistry} {capabilityId : String}
    {capability : Capability} (found : registry.get capabilityId = some capability) :
    capability.id = capabilityId := by
  simpa using List.find?_some found

end CapabilityRegistry

/-- `_capability`: a capability of a known family. -/
def capability (family action : String) (risk : RiskLevel) (dangerous destructive : Bool)
    (requiredScope : List String) (familyKnown : family ∈ capabilityFamilies := by decide) :
    Capability :=
  ⟨family ++ "." ++ action, family, action, risk, dangerous, destructive, requiredScope,
    familyKnown, rfl⟩

/-- The default of `required_scope`. -/
def targetSession : List String := ["target", "session"]

/-- `DEFAULT_CAPABILITIES`. -/
def defaultCapabilities : List Capability :=
  [ capability "session" "start" .low false false ["session"],
    capability "session" "end" .low false false ["session"],
    capability "session" "select_target" .medium false false targetSession,
    capability "session" "modify_policy" .critical true false ["session"],
    capability "session" "disable_audit" .critical true false ["session"],
    capability "session" "disable_emergency_stop" .critical true false ["session"],
    capability "observe" "status" .low false false targetSession,
    capability "observe" "screen" .medium false false targetSession,
    capability "observe" "screenshot" .medium false false targetSession,
    capability "observe" "power_state" .low false false targetSession,
    capability "observe" "hardware_inventory" .low false false targetSession,
    capability "observe" "sensors" .low false false targetSession,
    capability "observe" "event_logs" .medium false false targetSession,
    capability "observe" "boot_status" .low false false targetSession,
    capability "input" "mouse_move" .high true false targetSession,
    capability "input" "mouse_click" .high true false targetSession,
    capability "input" "keyboard_type" .high true false targetSession,
    capability "input" "keyboard_key" .medium false false targetSession,
    capability "input" "keyboard_shortcut" .high true false targetSession,
    capability "power" "on" .high true false targetSession,
    capability "power" "graceful_shutdown" .high true false targetSession,
    capability "power" "graceful_restart" .high true false targetSession,
    capability "power" "force_off" .critical true true targetSession,
    capability "power" "force_restart" .critical true true targetSession,
    capability "power" "power_cycle" .critical true true targetSession,
    capability "power" "reset" .critical true true targetSession,
    capability "power" "nmi" .critical true true targetSession,
    capability "media" "mount_approved_iso" .high true false targetSession,
    capability "media" "mount_arbitrary_iso" .critical true false targetSession,
    capability "media" "eject" .medium false false targetSession,
    capability "boot" "override" .critical true false targetSession,
    capability "boot" "enter_bios" .high true false targetSession,
    capability "bios" "view_settings" .medium false false targetSession,
    capability "bios" "change_setting" .critical true false targetSession,
    capability "firmware" "update_bios" .critical true true targetSession,
    capability "firmware" "update_bmc" .critical true true targetSession,
    capability "storage" "view_disk_layout" .medium false false targetSession,
    capability "storage" "wipe_disk" .critical true true targetSession,
    capability "storage" "repartition_disk" .critical true true targetSession,
    capability "storage" "restore_backup" .critical true true targetSession,
    capability "network" "read_config" .medium false false targetSession,
    capability "network" "change_bmc_ip" .critical true false targetSession,
    capability "network" "change_host_ip" .critical true false targetSession,
    capability "bmc" "account_list" .medium false false targetSession,
    capability "bmc" "rotate_password" .critical true false targetSession,
    capability "bmc" "reset" .critical true false targetSession,
    capability "secrets" "inject_reference" .high true false targetSession,
    capability "secrets" "raw_reveal" .critical true false ["target", "session", "credential"],
    capability "runtime" "noop" .low false false ["session"],
    capability "runtime" "request_clearance" .low false false ["session"],
    capability "runtime" "deny_clearance" .low false false ["session"],
    capability "runtime" "run_approved_playbook" .high true false targetSession,
    capability "runtime" "execute_untrusted_script" .critical true true targetSession,
    capability "runtime" "call_external_webhook" .critical true false targetSession,
    capability "runtime" "spawn_subagent" .critical true false targetSession ]

/-- `DEFAULT_CAPABILITY_REGISTRY`. -/
def defaultCapabilityRegistry : CapabilityRegistry :=
  ⟨defaultCapabilities, by decide +kernel⟩

end AgenticKVM
