import Mathlib.Algebra.Ring.Int.Defs
import AgenticKVM.AuditCheckpoint

/-! # Audit exports

A log is exported as a bundle of its records, redacted once more, with a checkpoint, and the bundle
is verified without the log (`audit_export.py`). The dictionary form of checkpoints, in which a
bundle holds them, is parsed and checked again wherever it is read. -/

namespace AgenticKVM

open Lib (Json)

/-! ## Checkpoints as dictionaries -/

section CheckpointDictionaries

variable (lib : AuditLibrary)

/-- `_json_safe`: the value as it is written and read back. The blanks `json.dumps` puts between the
parts here are skipped by the reader. -/
def jsonSafeValue (value : PyValue) : Except PyExc Json := do
  grammarLoads lib.readFloat (Json.dumps (← jsonSafe value))

/-- `_json_safe` of a mapping. -/
def jsonSafeEntriesOf (entries : List (String × PyValue)) :
    Except PyExc (List (String × Json)) := do
  match ← jsonSafeValue lib (strDict entries) with
  | .obj entries => return entries
  | _ => .error (.typeError "a mapping is written as an object")

/-- `AuditCheckpoint.to_dict`. -/
def AuditCheckpoint.toDict (checkpoint : AuditCheckpoint lib) : Except PyExc Record :=
  jsonSafeEntriesOf lib (checkpoint.unsignedPayload lib
    ++ [("checkpoint_hash", optionalStr checkpoint.checkpointHash)])

end CheckpointDictionaries

/-- `_required_str`. -/
def requiredStr (refusal : String → PyExc) (values : Record) (key : String) :
    Except PyExc String :=
  match values.get key with
  | .str s => if s = "" then .error (refusal (key ++ " is required")) else .ok s
  | _ => .error (refusal (key ++ " is required"))

/-- `_required_int`. -/
def requiredInt (refusal : String → PyExc) (values : Record) (key : String) :
    Except PyExc PyInt :=
  match values.get key with
  | .int i => .ok (.int i)
  | .bool b => .ok (.bool b)
  | _ => .error (refusal (key ++ " must be an integer"))

/-- `_optional_str`. -/
def optionalText : Json → Except PyExc (Option String)
  | .null => .ok none
  | .str s => .ok (some s)
  | _ => .error (checkpointError "optional checkpoint string fields must be strings")

/-- `_mapping` of a key with a default. -/
def metadataOf (values : Record) : Except PyExc Params :=
  match values.lookup "metadata" with
  | none => .ok []
  | some (.obj entries) => .ok (PyValue.ofEntries entries)
  | some _ => .error (checkpointError "metadata must be an object")

section Parsing

variable (std : Stdlib)

/-- `_datetime_from_value`: a time without a zone is in UTC. -/
def datetimeFromValue : Json → Except PyExc Datetime
  | .str s =>
      if s = "" then .error (checkpointError "created_at must be an ISO datetime string")
      else match std.fromisoformat s with
        | some t => .ok (if t.aware then t else { t with utcoffset := some 0 })
        | none => .error (.valueError ("Invalid isoformat string: " ++ s))
  | _ => .error (checkpointError "created_at must be an ISO datetime string")

/-- The items of `redactions`, as `str(item)` of what iterating over the value gives. -/
def redactionsOf (values : Record) : Except PyExc (List String) :=
  match values.lookup "redactions" with
  | none => .ok []
  | some (.list items) => .ok (items.map (jsonStr std))
  | some (.str s) => .ok (s.toList.map fun c => String.ofList [c])
  | some (.obj entries) => .ok (entries.map Prod.fst)
  | some value => .error (.typeError
      ("'" ++ (PyValue.ofJson value).typeName ++ "' object is not iterable"))

end Parsing

/-- `AuditCheckpoint.from_dict`. -/
def AuditCheckpoint.fromDict (lib : AuditLibrary) (payload : Record) :
    Except PyExc (AuditCheckpoint lib) := do
  let checkpointId ← requiredStr checkpointError payload "checkpoint_id"
  let auditLogId ← requiredStr checkpointError payload "audit_log_id"
  let lastEventIndex ← requiredInt checkpointError payload "last_event_index"
  let eventCount ← requiredInt checkpointError payload "event_count"
  let lastEventHash ← optionalText (payload.get "last_event_hash")
  let createdAt ← datetimeFromValue lib.toStdlib (payload.get "created_at")
  let previousCheckpointHash ← optionalText (payload.get "previous_checkpoint_hash")
  let metadata ← metadataOf payload
  let checkpointHash ← requiredStr checkpointError payload "checkpoint_hash"
  let redactions ← redactionsOf lib.toStdlib payload
  AuditCheckpoint.new lib
    { checkpointId, auditLogId, lastEventIndex, eventCount, lastEventHash, createdAt
      previousCheckpointHash, metadata, checkpointHash := some checkpointHash, redactions }

/-! ## The bundle -/

section Exports

variable (lib : AuditLibrary)

end Exports

end AgenticKVM
