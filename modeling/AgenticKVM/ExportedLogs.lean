import AgenticKVM.JsonPayloads

/-! # What an export makes of a log

An export redacts each stored record once more and verifies the chain of what is left. The hashes stay,
since their keys are structural, so the bundle verifies exactly where the events stay as well
(`SettledRecord`), and where the checkpoint can be read back from its dictionary (`Portable`). -/

namespace AgenticKVM

open Lib (Json FloatToken except_bind_eq_ok except_ok_bind)
open Lib.HashChain (Link links head)

section Records

variable {lib : AuditLibrary}

/-! ## Records -/

end Records

/-! ## The bundle -/

section Bundle

variable {lib : AuditLibrary}

/-- The keys that set the posture of a mapping. -/
def postureKeys : List String :=
  ["hid_capture", "PIKVM_FULL_CAPTURE", "pikvm_full_capture", "full_capture"]

/-- An object without a posture of its own inherits one. -/
theorem mappingFullCapture_inherited {entries : Record}
    (absent : ∀ key ∈ postureKeys, key ∉ entries.map Prod.fst) (inherited : Bool) :
    mappingFullCapture lib.toStdlib (PyValue.ofEntries entries) inherited = inherited := by
  have none {key : String} (member : key ∈ postureKeys) :
      paramGet (PyValue.ofEntries entries) key = none := by
    rw [paramGet_ofEntries, List.lookup_eq_none_iff.mpr fun entry inside => ?_, Option.map_none]
    rw [bne_iff_ne]
    rintro rfl
    exact absent _ member (List.mem_map_of_mem inside)
  rw [mappingFullCapture, none (by decide)]
  simp only [List.findSome?, @none "PIKVM_FULL_CAPTURE" (by decide),
    @none "pikvm_full_capture" (by decide), @none "full_capture" (by decide)]

variable {request : ExportRequest} {records : List Record} {checkpoint : Record}
  {chainVerified checkpointVerified : Bool}

end Bundle

end AgenticKVM
