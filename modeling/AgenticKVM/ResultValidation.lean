import AgenticKVM.HostRuns

/-! # The validation of host results

The check a host result has to pass before it may leave the process (`mcp_sdk/result_validation.py`).
Its keys are sensitive where they contain one of seven words, while redaction replaces the values of
keys that are on a list: `Shielded` says of a value what redaction has to make of it so that the check
passes (`keysSafe_redactJson_iff`), and redacting it again changes nothing about that
(`shielded_redactJson_iff`). -/

namespace AgenticKVM

open Lib (Json FloatToken except_bind_eq_ok except_check_eq_ok except_ok_bind)

/-! ## The validator -/

/-- `_SENSITIVE_KEY_FRAGMENTS`. -/
def sensitiveKeyFragments : List String :=
  ["password", "token", "api_key", "private_key", "credential", "bearer", "session_cookie"]

/-- `HOST_RESULT_STATUSES`. -/
def hostResultStatuses : List HostResultStatus :=
  [.ok, .denied, .approvalRequired, .validationError, .providerError, .policyError]

/-- `APPROVAL_RESULT_STATUSES`. -/
def approvalResultStatuses : List HostApprovalResultStatus :=
  [.granted, .denied, .expired, .validationError]

/-- `child in (None, "", "[REDACTED]")`. -/
def isBlank : Json → Bool
  | .null => true
  | .str s => s = "" || s = redactedMark
  | _ => false

/-- `isinstance(value, str)`. -/
def isStr : Json → Bool
  | .str _ => true
  | _ => false

/-- `isinstance(value, str) and value`. -/
def isFilled : Json → Bool
  | .str s => s ≠ ""
  | _ => false

section Validator

variable (std : Stdlib)

/-- A key with one of the sensitive words in it. -/
def isSensitiveKey (key : String) : Bool :=
  sensitiveKeyFragments.any (containsText (std.lower key))

mutual

/-- `_assert_no_unredacted_sensitive_keys`. -/
def assertNoUnredactedSensitiveKeys : Json → Except PyExc Unit
  | .obj entries => assertEntries entries
  | .list items => assertItems items
  | _ => .ok ()

/-- The check of the entries of a mapping: a sensitive key needs a blank value. -/
def assertEntries : List (String × Json) → Except PyExc Unit
  | [] => .ok ()
  | (key, child) :: rest => do
      raiseIf (isSensitiveKey std key = true ∧ isBlank child = false)
        (.valueError ("host result contains unredacted sensitive key " ++ key))
      assertNoUnredactedSensitiveKeys child
      assertEntries rest

/-- The check of the items of a list. -/
def assertItems : List Json → Except PyExc Unit
  | [] => .ok ()
  | item :: rest => do
      assertNoUnredactedSensitiveKeys item
      assertItems rest

end

/-- The check that each of the fields is a text. -/
def requireTexts (noun : String) (payload : Record) : List String → Except PyExc Unit
  | [] => .ok ()
  | field :: rest => do
      raiseIf (isStr (payload.get field) = false)
        (.valueError (noun ++ " result " ++ field ++ " is required"))
      requireTexts noun payload rest

/-- The check of the approval request of a result. -/
def requireApprovalTexts (approval : Record) : List String → Except PyExc Unit
  | [] => .ok ()
  | field :: rest => do
      raiseIf (isFilled (approval.get field) = false)
        (.valueError ("approval_required approval_request " ++ field ++ " is required"))
      requireApprovalTexts approval rest

/-- The approval request a result has to have. -/
def validateApprovalRequest (payload : Record) : Except PyExc Unit :=
  match payload.get "approval_request" with
  | .obj approval => requireApprovalTexts approval
      ["id", "session_id", "target", "provider", "capability", "params_fingerprint"]
  | _ => .error (.valueError "approval_required result needs approval_request")

/-- `_provider_result`. -/
def providerResultOf (payload : Record) : Option Record :=
  match payload.get "data" with
  | .obj data =>
      match Record.get data "provider_result" with
      | .obj result => some result
      | _ => none
  | _ => none

/-- The error code a provider's error has to have. -/
def validateProviderError (payload : Record) : Except PyExc Unit :=
  match providerResultOf payload with
  | none => .error (.valueError "provider_error needs provider_result")
  | some result => raiseIf (isStr (result.get "error_code") = false)
      (.valueError "provider_error needs error_code")

/-- `if condition: check`. -/
def checkIf (condition : Prop) [Decidable condition] (check : Except PyExc Unit) :
    Except PyExc Unit :=
  if condition then check else .ok ()

/-- `_validate_tool_result`. -/
def validateToolResult (payload : Record) (status : HostResultStatus) : Except PyExc Unit := do
  requireTexts "host" payload ["status", "reason"]
  checkIf (status ∈ [HostResultStatus.ok, .denied, .approvalRequired, .providerError])
    (requireTexts "host" payload ["tool_name", "target", "provider"])
  checkIf (status = .approvalRequired) (validateApprovalRequest payload)
  checkIf (status = .providerError) (validateProviderError payload)

/-- `_validate_approval_result`. -/
def validateApprovalResult (payload : Record) : Except PyExc Unit :=
  requireTexts "approval" payload ["status", "request_id", "reason"]

/-- `validate_host_result` of a payload that is JSON already. A status that both kinds of results have
is one of a tool's result. -/
def validateHostResult (payload : Record) : Except PyExc Unit := do
  assertNoUnredactedSensitiveKeys std (.obj payload)
  match payload.get "status" with
  | .str text =>
      match hostResultStatuses.find? fun status => status.value = text with
      | some status => validateToolResult payload status
      | none =>
          if text ∈ approvalResultStatuses.map HostApprovalResultStatus.value then
            validateApprovalResult payload
          else .error (.valueError "host result status is unknown")
  | _ => .error (.valueError "host result status is unknown")

end Validator

/-! ## Safe keys -/

section Safe

variable (std : Stdlib)

mutual

/-- **Safe keys**: no sensitive key at any depth has a value. -/
def KeysSafe : Json → Prop
  | .obj entries => keysSafeEntries entries
  | .list items => keysSafeItems items
  | _ => True

/-- Entries in which every sensitive key, at any depth, has a blank value. -/
def keysSafeEntries : List (String × Json) → Prop
  | [] => True
  | (key, child) :: rest =>
      (isSensitiveKey std key = true → isBlank child = true) ∧ KeysSafe child ∧ keysSafeEntries rest

/-- Items in which every sensitive key, at any depth, has a blank value. -/
def keysSafeItems : List Json → Prop
  | [] => True
  | item :: rest => KeysSafe item ∧ keysSafeItems rest

end

/-- A payload with safe keys. -/
structure SafeKeys (payload : Record) : Prop where
  entries : keysSafeEntries std payload

variable (lib : AuditLibrary)

/-- What redaction leaves of a value under a sensitive key is blank: it is blank itself, or is replaced,
with its key or as a text that looks like a secret. -/
def isBlanked (key : String) : Json → Bool
  | .str s => isSecretKey lib.toStdlib key || s = "" || s = redactedMark
      || (!isStructuralTokenKey lib.toStdlib key && containsSecretPattern lib s)
  | v => isSecretKey lib.toStdlib key || isBlank v

mutual

/-- **A shielded value**: below it redaction leaves no sensitive key with a value. Lists under
`redactions` are not redacted, and nothing is left of what is under a secret key. -/
def Shielded (key : String) : Json → Prop
  | .obj entries => isSecretKey lib.toStdlib key = true ∨ shieldedEntries entries
  | .list items =>
      if isRedactionsKey lib.toStdlib key then keysSafeItems lib.toStdlib items
      else isSecretKey lib.toStdlib key = true ∨ shieldedItems key items
  | _ => True

/-- Entries in which every sensitive key that redaction leaves in place has a value that redaction
blanks. -/
def shieldedEntries : List (String × Json) → Prop
  | [] => True
  | (key, child) :: rest =>
      (isSensitiveKey lib.toStdlib key = true → isBlanked lib key child = true)
        ∧ Shielded key child ∧ shieldedEntries rest

/-- Items of a list under a key that are shielded. -/
def shieldedItems (key : String) : List Json → Prop
  | [] => True
  | item :: rest => Shielded key item ∧ shieldedItems key rest

end

end Safe

section Laws

variable {std : Stdlib} {lib : AuditLibrary}

/-- Entries are safe one by one. -/
theorem keysSafeEntries_iff (entries : List (String × Json)) :
    keysSafeEntries std entries ↔ ∀ entry ∈ entries,
      (isSensitiveKey std entry.1 = true → isBlank entry.2 = true) ∧ KeysSafe std entry.2 := by
  induction entries with
  | nil => exact iff_of_true trivial fun _ member => (List.not_mem_nil member).elim
  | cons entry rest ih => rw [keysSafeEntries, ih, List.forall_mem_cons, and_assoc]

/-- Items are safe one by one. -/
theorem keysSafeItems_iff (items : List Json) :
    keysSafeItems std items ↔ ∀ item ∈ items, KeysSafe std item := by
  induction items with
  | nil => exact iff_of_true trivial fun _ member => (List.not_mem_nil member).elim
  | cons item rest ih => rw [keysSafeItems, ih, List.forall_mem_cons]

/-- Entries are shielded one by one. -/
theorem shieldedEntries_iff (entries : List (String × Json)) :
    shieldedEntries lib entries ↔ ∀ entry ∈ entries,
      (isSensitiveKey lib.toStdlib entry.1 = true → isBlanked lib entry.1 entry.2 = true)
        ∧ Shielded lib entry.1 entry.2 := by
  induction entries with
  | nil => exact iff_of_true trivial fun _ member => (List.not_mem_nil member).elim
  | cons entry rest ih => rw [shieldedEntries, ih, List.forall_mem_cons, and_assoc]

mutual

/-- The check passes exactly where the keys are safe. -/
theorem assertNoUnredactedSensitiveKeys_eq_ok (v : Json) :
    assertNoUnredactedSensitiveKeys std v = .ok () ↔ KeysSafe std v := by
  match v with
  | .null | .bool _ | .int _ | .float _ | .str _ =>
      rw [assertNoUnredactedSensitiveKeys, KeysSafe]
      all_goals simp
  | .obj entries =>
      rw [assertNoUnredactedSensitiveKeys, KeysSafe, assertEntries_eq_ok entries]
  | .list items =>
      rw [assertNoUnredactedSensitiveKeys, KeysSafe, assertItems_eq_ok items]

/-- **The check passes** exactly the entries that are safe. -/
theorem assertEntries_eq_ok (entries : List (String × Json)) :
    assertEntries std entries = .ok () ↔ keysSafeEntries std entries := by
  match entries with
  | [] => exact iff_of_true rfl trivial
  | (key, child) :: rest =>
      rw [assertEntries, keysSafeEntries]
      rw [except_check_eq_ok, except_check_eq_ok, raiseIf_eq_ok, assertEntries_eq_ok rest,
        assertNoUnredactedSensitiveKeys_eq_ok child, not_and, Bool.not_eq_false]

/-- **The check passes** exactly the items that are safe. -/
theorem assertItems_eq_ok (items : List Json) :
    assertItems std items = .ok () ↔ keysSafeItems std items := by
  match items with
  | [] => exact iff_of_true rfl trivial
  | item :: rest =>
      rw [assertItems, keysSafeItems, except_check_eq_ok, assertItems_eq_ok rest,
        assertNoUnredactedSensitiveKeys_eq_ok item]

end

/-! ## Values that are read back -/

/-- Being blank does not depend on the order of entries. -/
theorem isBlank_norm (v : Json) : isBlank (Json.norm v) = isBlank v := by
  cases v <;> rfl

mutual

/-- Reading a value back changes nothing about its keys. -/
theorem keysSafe_norm_iff (v : Json) : KeysSafe std (Json.norm v) ↔ KeysSafe std v := by
  match v with
  | .null | .bool _ | .int _ | .float _ | .str _ => exact Iff.rfl
  | .obj entries =>
      rw [Json.norm_obj, KeysSafe, KeysSafe, ← keysSafeEntries_norm_iff entries,
        keysSafeEntries_iff, keysSafeEntries_iff]
      exact forall_congr' fun entry => by
        rw [Json.sortEntries, (List.perm_insertionSort _ _).mem_iff]
  | .list items => rw [Json.norm, KeysSafe, KeysSafe, keysSafeItems_norm_iff items]

/-- Entries in their normal form are as safe as before. -/
theorem keysSafeEntries_norm_iff (entries : List (String × Json)) :
    keysSafeEntries std (Json.normEntries entries) ↔ keysSafeEntries std entries := by
  match entries with
  | [] => exact Iff.rfl
  | (key, child) :: rest =>
      rw [Json.normEntries, keysSafeEntries, keysSafeEntries, isBlank_norm, keysSafe_norm_iff child,
        keysSafeEntries_norm_iff rest]

/-- Items in their normal form are as safe as before. -/
theorem keysSafeItems_norm_iff (items : List Json) :
    keysSafeItems std (Json.normItems items) ↔ keysSafeItems std items := by
  match items with
  | [] => exact Iff.rfl
  | item :: rest =>
      rw [Json.normItems, keysSafeItems, keysSafeItems, keysSafe_norm_iff item,
        keysSafeItems_norm_iff rest]

end

/-- Entries that are written and read back are as safe as before. -/
theorem keysSafeEntries_reread_iff (entries : List (String × Json)) :
    keysSafeEntries std (Json.reread entries) ↔ keysSafeEntries std entries := by
  have same := @keysSafe_norm_iff std (.obj entries)
  rw [Json.norm_obj_reread] at same
  exact same

/-- Whether redaction blanks a value does not depend on the order of entries. -/
theorem isBlanked_norm (key : String) (v : Json) :
    isBlanked lib key (Json.norm v) = isBlanked lib key v := by
  cases v <;> rfl

mutual

/-- Reading a value back changes nothing about whether it is shielded. -/
theorem shielded_norm_iff (key : String) (v : Json) :
    Shielded lib key (Json.norm v) ↔ Shielded lib key v := by
  match v with
  | .null | .bool _ | .int _ | .float _ | .str _ => exact Iff.rfl
  | .obj entries =>
      rw [Json.norm_obj, Shielded, Shielded, ← shieldedEntries_norm_iff entries,
        shieldedEntries_iff, shieldedEntries_iff]
      refine or_congr_right (forall_congr' fun entry => ?_)
      rw [Json.sortEntries, (List.perm_insertionSort _ _).mem_iff]
  | .list items =>
      rw [Json.norm, Shielded, Shielded, keysSafeItems_norm_iff items, shieldedItems_norm_iff key items]

/-- Entries in their normal form are as shielded as before. -/
theorem shieldedEntries_norm_iff (entries : List (String × Json)) :
    shieldedEntries lib (Json.normEntries entries) ↔ shieldedEntries lib entries := by
  match entries with
  | [] => exact Iff.rfl
  | (key, child) :: rest =>
      rw [Json.normEntries, shieldedEntries, shieldedEntries, isBlanked_norm, shielded_norm_iff key child,
        shieldedEntries_norm_iff rest]

/-- Items in their normal form are as shielded as before. -/
theorem shieldedItems_norm_iff (key : String) (items : List Json) :
    shieldedItems lib key (Json.normItems items) ↔ shieldedItems lib key items := by
  match items with
  | [] => exact Iff.rfl
  | item :: rest =>
      rw [Json.normItems, shieldedItems, shieldedItems, shielded_norm_iff key item,
        shieldedItems_norm_iff key rest]

end

/-- Entries that are written and read back are as shielded as before. -/
theorem shieldedEntries_reread_iff (entries : List (String × Json)) :
    shieldedEntries lib (Json.reread entries) ↔ shieldedEntries lib entries := by
  rw [Json.reread, shieldedEntries_iff, ← shieldedEntries_norm_iff entries, shieldedEntries_iff]
  exact forall_congr' fun entry => by
    rw [Json.sortEntries, (List.perm_insertionSort _ _).mem_iff]

/-! ## Redacted values -/

/-- A list of redacted paths is under no secret key. -/
theorem secret_of_redactionsKey {key : String} (redactions : isRedactionsKey std key = true) :
    isSecretKey std key = false := by
  rw [isRedactionsKey, decide_eq_true_eq] at redactions
  rw [isSecretKey, isCredentialFieldKey, redactions]
  decide

/-- Typed text is under no sensitive key. -/
theorem typed_of_sensitiveKey {key : String} (sensitive : isSensitiveKey std key = true) :
    isHidTextKey std key = false := by
  rw [isHidTextKey, decide_eq_false_iff_not]
  intro typed
  have none : ∀ name ∈ hidTextKeys, sensitiveKeyFragments.any (containsText name) = false := by
    decide +kernel
  rw [isSensitiveKey, none _ typed] at sensitive
  cases sensitive

/-- Under a sensitive key, what redaction leaves is blank exactly where the value is blanked. -/
theorem isBlank_redactJson {key : String} (sensitive : isSensitiveKey lib.toStdlib key = true)
    (fullCapture : Bool) (v : Json) :
    isBlank (redactJson lib key fullCapture v) = isBlanked lib key v := by
  have typed := typed_of_sensitiveKey sensitive
  cases v with
  | null | bool _ | int _ | float _ =>
      simp only [redactJson, isBlanked]
      split_ifs with secret
      · rw [secret]
        rfl
      · rw [Bool.eq_false_iff.mpr secret]
        rfl
  | obj entries =>
      simp only [redactJson, isBlanked]
      split_ifs with secret
      · rw [secret]
        rfl
      · rw [Bool.eq_false_iff.mpr secret]
        rfl
  | list items =>
      simp only [redactJson, isBlanked]
      split_ifs with paths secret
      · rw [secret_of_redactionsKey paths]
        rfl
      · rw [secret]
        rfl
      · rw [Bool.eq_false_iff.mpr secret]
        rfl
  | str s =>
      simp only [redactJson, isBlanked, leftText, typed, Bool.false_eq_true, if_false]
      split_ifs with secret looks
      · rw [secret]
        rfl
      · rw [Bool.eq_false_iff.mpr looks.1, looks.2]
        simp [isBlank]
      · rw [Bool.eq_false_iff.mpr secret]
        rw [not_and_or, not_not, Bool.not_eq_true] at looks
        rcases looks with structural | harmless
        · simp [isBlank, structural]
        · simp [isBlank, harmless]

mutual

/-- **What redaction leaves has safe keys** exactly where the value is shielded. -/
theorem keysSafe_redactJson_iff (key : String) (fullCapture : Bool) (v : Json) :
    KeysSafe lib.toStdlib (redactJson lib key fullCapture v) ↔ Shielded lib key v := by
  match v with
  | .null | .bool _ | .int _ | .float _ | .str _ =>
      simp only [redactJson, Shielded]
      split_ifs
      all_goals exact iff_of_true trivial trivial
  | .obj entries =>
      rw [redactJson, Shielded]
      split_ifs with secret
      · exact iff_of_true trivial (.inl secret)
      · rw [KeysSafe, keysSafeEntries_redactJson_iff]
        exact ⟨.inr, fun shielded => shielded.resolve_left secret⟩
  | .list items =>
      rw [redactJson, Shielded]
      split_ifs with paths secret
      · rw [KeysSafe]
      · exact iff_of_true trivial (.inl secret)
      · rw [KeysSafe, keysSafeItems_redactJson_iff]
        exact ⟨.inr, fun shielded => shielded.resolve_left secret⟩

/-- **Redacted entries are safe** exactly where the entries are shielded. -/
theorem keysSafeEntries_redactJson_iff (fullCapture : Bool) (entries : List (String × Json)) :
    keysSafeEntries lib.toStdlib (redactJsonEntries lib fullCapture entries)
      ↔ shieldedEntries lib entries := by
  match entries with
  | [] => exact Iff.rfl
  | (key, child) :: rest =>
      rw [redactJsonEntries, keysSafeEntries, shieldedEntries, keysSafe_redactJson_iff key,
        keysSafeEntries_redactJson_iff fullCapture rest]
      refine and_congr_left fun _ => forall_congr' fun sensitive => ?_
      rw [isBlank_redactJson sensitive]

/-- **Redacted items are safe** exactly where the items are shielded. -/
theorem keysSafeItems_redactJson_iff (key : String) (fullCapture : Bool) (items : List Json) :
    keysSafeItems lib.toStdlib (redactJsonItems lib key fullCapture items)
      ↔ shieldedItems lib key items := by
  match items with
  | [] => exact Iff.rfl
  | item :: rest =>
      rw [redactJsonItems, keysSafeItems, shieldedItems, keysSafe_redactJson_iff key,
        keysSafeItems_redactJson_iff key fullCapture rest]

end

/-- Whatever stands under a secret key is blanked. -/
theorem isBlanked_of_secret {key : String} (secret : isSecretKey lib.toStdlib key = true) (v : Json) :
    isBlanked lib key v = true := by
  cases v
  all_goals simp only [isBlanked, secret, Bool.true_or]

/-- Under a sensitive key, what redaction leaves is blanked exactly where the value is. -/
theorem isBlanked_redactJson {key : String} (sensitive : isSensitiveKey lib.toStdlib key = true)
    (fullCapture : Bool) (v : Json) :
    isBlanked lib key (redactJson lib key fullCapture v) = isBlanked lib key v := by
  by_cases secret : isSecretKey lib.toStdlib key = true
  · rw [isBlanked_of_secret secret, isBlanked_of_secret secret]
  · cases v with
    | null | bool _ | int _ | float _ => simp only [redactJson, if_neg secret]
    | obj _ =>
        simp only [redactJson, if_neg secret]
        rfl
    | list items =>
        simp only [redactJson, if_neg secret]
        split_ifs
        · rfl
        · rfl
    | str s =>
        -- a text is left, or is replaced by the mark, which is blank
        simp only [redactJson, if_neg secret, leftText, typed_of_sensitiveKey sensitive,
          Bool.false_eq_true, if_false]
        split_ifs with looks
        · rw [isBlanked, isBlanked, Bool.eq_false_iff.mpr looks.1, looks.2]
          simp
        · rfl

mutual

/-- **Redacting a value changes nothing about whether it is shielded.** -/
theorem shielded_redactJson_iff (key : String) (fullCapture : Bool) (v : Json) :
    Shielded lib key (redactJson lib key fullCapture v) ↔ Shielded lib key v := by
  match v with
  | .null | .bool _ | .int _ | .float _ | .str _ =>
      simp only [redactJson]
      split_ifs
      all_goals exact iff_of_true trivial trivial
  | .obj entries =>
      rw [redactJson]
      split_ifs with secret
      · exact iff_of_true trivial (.inl secret)
      · rw [Shielded, Shielded, shieldedEntries_redactJson_iff]
  | .list items =>
      rw [redactJson]
      split_ifs with paths secret
      · exact Iff.rfl
      · refine iff_of_true trivial ?_
        rw [Shielded, if_neg paths]
        exact .inl secret
      · rw [Shielded, Shielded, if_neg paths, if_neg paths, shieldedItems_redactJson_iff]

/-- Redaction shields no entries that were not shielded before, and exposes none. -/
theorem shieldedEntries_redactJson_iff (fullCapture : Bool) (entries : List (String × Json)) :
    shieldedEntries lib (redactJsonEntries lib fullCapture entries) ↔ shieldedEntries lib entries := by
  match entries with
  | [] => exact Iff.rfl
  | (key, child) :: rest =>
      rw [redactJsonEntries, shieldedEntries, shieldedEntries, shielded_redactJson_iff key,
        shieldedEntries_redactJson_iff fullCapture rest]
      refine and_congr_left fun _ => forall_congr' fun sensitive => ?_
      rw [isBlanked_redactJson sensitive]

/-- Redaction shields no items that were not shielded before, and exposes none. -/
theorem shieldedItems_redactJson_iff (key : String) (fullCapture : Bool) (items : List Json) :
    shieldedItems lib key (redactJsonItems lib key fullCapture items)
      ↔ shieldedItems lib key items := by
  match items with
  | [] => exact Iff.rfl
  | item :: rest =>
      rw [redactJsonItems, shieldedItems, shieldedItems, shielded_redactJson_iff key,
        shieldedItems_redactJson_iff key fullCapture rest]

end

/-- A blank value stays blank. -/
theorem isBlanked_of_isBlank {key : String} {v : Json} (blank : isBlank v = true) :
    isBlanked lib key v = true := by
  cases v with
  | str s =>
      rw [isBlank] at blank
      rw [isBlanked, Bool.or_assoc (isSecretKey _ _), blank, Bool.or_true, Bool.true_or]
  | _ => simp only [isBlanked, blank, Bool.or_true]

mutual

/-- A value with safe keys is shielded. -/
theorem shielded_of_keysSafe (key : String) (v : Json) (safe : KeysSafe lib.toStdlib v) :
    Shielded lib key v := by
  match v with
  | .null | .bool _ | .int _ | .float _ | .str _ => trivial
  | .obj entries => exact .inr (shieldedEntries_of_keysSafe entries safe)
  | .list items =>
      rw [Shielded]
      split_ifs
      · exact safe
      · exact .inr (shieldedItems_of_keysSafe key items safe)

/-- Entries that are safe as they are need no redaction. -/
theorem shieldedEntries_of_keysSafe (entries : List (String × Json))
    (safe : keysSafeEntries lib.toStdlib entries) : shieldedEntries lib entries := by
  match entries with
  | [] => trivial
  | (key, child) :: rest =>
      exact ⟨fun sensitive => isBlanked_of_isBlank (safe.1 sensitive),
        shielded_of_keysSafe key child safe.2.1, shieldedEntries_of_keysSafe rest safe.2.2⟩

/-- Items that are safe as they are need no redaction. -/
theorem shieldedItems_of_keysSafe (key : String) (items : List Json)
    (safe : keysSafeItems lib.toStdlib items) : shieldedItems lib key items := by
  match items with
  | [] => trivial
  | item :: rest =>
      exact ⟨shielded_of_keysSafe key item safe.1, shieldedItems_of_keysSafe key rest safe.2⟩

end

/-- What redaction leaves of an object with safe keys has safe keys. -/
theorem keysSafe_redactedRecord {record : Record} (safe : keysSafeEntries lib.toStdlib record) :
    keysSafeEntries lib.toStdlib (redactedRecord lib record) :=
  (keysSafeEntries_redactJson_iff _ record).mpr (shieldedEntries_of_keysSafe record safe)

/-! ## Names -/

/-- Names in lower case without a sensitive word. -/
def plainNames (keys : List String) : Bool :=
  keys.all fun key => isName key && !sensitiveKeyFragments.any (containsText key)

/-- A name without a sensitive word is no sensitive key. -/
theorem TextLaws.insensitive (laws : TextLaws lib) {keys : List String}
    (names : plainNames keys = true) {key : String} (member : key ∈ keys) :
    isSensitiveKey lib.toStdlib key = false := by
  have name := List.all_eq_true.mp names key member
  rw [Bool.and_eq_true, Bool.not_eq_true'] at name
  rw [isSensitiveKey, laws.lower key name.1, name.2]

/-- Under such names the keys are safe where they are below. -/
theorem keysSafe_of_names (laws : TextLaws lib) {entries : List (String × Json)}
    (names : plainNames (entries.map Prod.fst) = true) :
    keysSafeEntries lib.toStdlib entries
      ↔ ∀ entry ∈ entries, KeysSafe lib.toStdlib entry.2 := by
  rw [keysSafeEntries_iff]
  refine forall₂_congr fun entry member => and_iff_right fun sensitive => ?_
  rw [laws.insensitive names (List.mem_map_of_mem member)] at sensitive
  cases sensitive

/-- Under such names a payload that is read back has safe keys where the keys below are. -/
theorem safeKeys_reread (laws : TextLaws lib) {record : Record}
    (names : plainNames (record.map Prod.fst) = true)
    (below : ∀ entry ∈ record, KeysSafe lib.toStdlib entry.2) :
    SafeKeys lib.toStdlib (Json.reread record) :=
  ⟨(keysSafeEntries_reread_iff record).mpr ((keysSafe_of_names laws names).mpr below)⟩

/-- Under such names entries are shielded where they are below. -/
theorem shielded_of_names (laws : TextLaws lib) {entries : List (String × Json)}
    (names : plainNames (entries.map Prod.fst) = true) :
    shieldedEntries lib entries ↔ ∀ entry ∈ entries, Shielded lib entry.1 entry.2 := by
  rw [shieldedEntries_iff]
  refine forall₂_congr fun entry member => and_iff_right fun sensitive => ?_
  rw [laws.insensitive names (List.mem_map_of_mem member)] at sensitive
  cases sensitive

/-- A list of texts has no keys at all. -/
theorem keysSafe_strings (texts : List String) : KeysSafe std (.list (texts.map .str)) := by
  rw [KeysSafe, keysSafeItems_iff]
  rintro _ member
  obtain ⟨text, -, rfl⟩ := List.mem_map.mp member
  trivial

/-- A text or `null` has no keys at all. -/
theorem keysSafe_jsonOptional (text : Option String) : KeysSafe std (jsonOptional text) := by
  cases text <;> trivial

/-- The keys below an entry that is found are safe. -/
theorem keysSafe_lookup {entries : List (String × Json)} (safe : keysSafeEntries std entries)
    {key : String} {v : Json} (found : entries.lookup key = some v) : KeysSafe std v := by
  obtain ⟨before, after, split, -⟩ := List.lookup_eq_some_iff.mp found
  have member : (key, v) ∈ entries := split ▸ List.mem_append_right _ List.mem_cons_self
  exact ((keysSafeEntries_iff entries).mp safe (key, v) member).2

/-- What stands under a key of a safe payload is safe. -/
theorem keysSafe_get {payload : Record} (safe : SafeKeys std payload) (key : String) :
    KeysSafe std (payload.get key) := by
  rw [Record.get]
  cases found : payload.lookup key with
  | none => trivial
  | some v => exact keysSafe_lookup safe.entries found

/-- Setting an entry under a key that is not sensitive keeps the keys safe. -/
theorem SafeKeys.dictSet {payload : Record} (safe : SafeKeys std payload) {key : String}
    (plain : isSensitiveKey std key = false) {v : Json} (below : KeysSafe std v) :
    SafeKeys std (AgenticKVM.dictSet payload key v) := by
  constructor
  have each := (keysSafeEntries_iff payload).mp safe.entries
  rw [keysSafeEntries_iff]
  have new : (isSensitiveKey std key = true → isBlank v = true) ∧ KeysSafe std v := by
    refine ⟨fun sensitive => ?_, below⟩
    rw [plain] at sensitive
    cases sensitive
  intro entry member
  rw [AgenticKVM.dictSet] at member
  split_ifs at member
  · obtain ⟨old, inside, same⟩ := List.mem_map.mp member
    split_ifs at same with named
    · rw [← same]
      exact new
    · rw [← same]
      exact each old inside
  · rcases List.mem_append.mp member with inside | added
    · exact each entry inside
    · rw [List.mem_singleton.mp added]
      exact new

/-! ## What passes -/

section Passing

variable {payload : Record}

/-- A check under a condition passes where the condition fails or the check passes. -/
theorem checkIf_eq_ok {condition : Prop} [Decidable condition] {check : Except PyExc Unit} :
    checkIf condition check = .ok () ↔ (condition → check = .ok ()) := by
  rw [checkIf]
  split_ifs with holds
  · exact ⟨fun passed _ => passed, fun passed => passed holds⟩
  · exact iff_of_true rfl fun applies => absurd applies holds

/-- The fields are there exactly where each holds a text. -/
theorem requireTexts_eq_ok {noun : String} {fields : List String} :
    requireTexts noun payload fields = .ok ()
      ↔ ∀ field ∈ fields, isStr (payload.get field) = true := by
  induction fields with
  | nil => exact iff_of_true rfl fun _ member => (List.not_mem_nil member).elim
  | cons field rest ih =>
      rw [requireTexts, except_check_eq_ok, List.forall_mem_cons, raiseIf_eq_ok, ih,
        Bool.not_eq_false]

/-- The fields of an approval are filled exactly where each holds a text that is not empty. -/
theorem requireApprovalTexts_eq_ok {fields : List String} :
    requireApprovalTexts payload fields = .ok ()
      ↔ ∀ field ∈ fields, isFilled (payload.get field) = true := by
  induction fields with
  | nil => exact iff_of_true rfl fun _ member => (List.not_mem_nil member).elim
  | cons field rest ih =>
      rw [requireApprovalTexts, except_check_eq_ok, List.forall_mem_cons, raiseIf_eq_ok, ih,
        Bool.not_eq_false]

/-- **A tool's result passes** where its keys are safe, it has the fields of its status, a waiting
result has its approval request, and a provider's error has its code. -/
theorem validateHostResult_tool (status : HostResultStatus)
    (stated : payload.get "status" = .str status.value) :
    validateHostResult std payload = .ok () ↔
      SafeKeys std payload ∧ isStr (payload.get "reason") = true ∧
      (status ∈ [HostResultStatus.ok, .denied, .approvalRequired, .providerError] →
        ∀ field ∈ ["tool_name", "target", "provider"], isStr (payload.get field) = true) ∧
      (status = .approvalRequired → validateApprovalRequest payload = .ok ()) ∧
      (status = .providerError → validateProviderError payload = .ok ()) := by
  have found : (hostResultStatuses.find? fun other => other.value = status.value) = some status := by
    cases status <;> decide
  have text : isStr (payload.get "status") = true := by
    rw [stated]
    rfl
  rw [validateHostResult, stated, assertNoUnredactedSensitiveKeys, except_check_eq_ok]
  dsimp only
  rw [found, assertEntries_eq_ok]
  dsimp only
  rw [validateToolResult, except_check_eq_ok, except_check_eq_ok, except_check_eq_ok,
    requireTexts_eq_ok, checkIf_eq_ok, requireTexts_eq_ok, checkIf_eq_ok, checkIf_eq_ok,
    List.forall_mem_cons, List.forall_mem_singleton]
  exact and_congr ⟨fun safe => ⟨safe⟩, fun safe => safe.entries⟩
    (and_congr_left fun _ => and_iff_right text)

/-- **An approval's result passes** where its keys are safe and it has its fields. -/
theorem validateHostResult_approval {status : HostApprovalResultStatus}
    (stated : payload.get "status" = .str status.value)
    (safe : SafeKeys std payload)
    (texts : ∀ field ∈ ["request_id", "reason"], isStr (payload.get field) = true) :
    validateHostResult std payload = .ok () := by
  by_cases shared : status = .validationError
  · -- the validator takes the status for that of a tool's result
    subst shared
    refine (validateHostResult_tool .validationError stated).mpr
      ⟨safe, texts "reason" (by decide), fun other => ?_, fun other => ?_, fun other => ?_⟩
    · exact absurd other (by decide)
    · cases other
    · cases other
  · have other : (hostResultStatuses.find? fun other => other.value = status.value) = none := by
      cases status with
      | validationError => exact absurd rfl shared
      | _ => decide
    have listed : status.value ∈ approvalResultStatuses.map HostApprovalResultStatus.value := by
      cases status <;> decide
    rw [validateHostResult, stated, assertNoUnredactedSensitiveKeys]
    dsimp only
    rw [other]
    dsimp only
    rw [if_pos listed, (assertEntries_eq_ok payload).mpr safe.entries, except_ok_bind, validateApprovalResult,
      requireTexts_eq_ok]
    rintro field member
    rcases List.mem_cons.mp member with rfl | member
    · rw [stated]
      rfl
    · exact texts field member

end Passing

end Laws

end AgenticKVM
