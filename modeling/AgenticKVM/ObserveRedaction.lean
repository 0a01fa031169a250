import AgenticKVM.MutationTransports
import AgenticKVM.RedactionPaths
import AgenticKVM.StorableTrees

/-! # Redaction of observed payloads

What `redact_pikvm_observe_payload` makes of the entries of a mapping. It masks the keys that name a
target or raw bytes, goes on into the other values by itself where these are mappings, and leaves
every list to the generic redactor. The generic redactor runs once more over each mapping. -/

namespace AgenticKVM

/-- `str.lower` of an ASCII text lowers it letter by letter. -/
def LowersAscii (std : Stdlib) : Prop :=
  ∀ text : String, text.toList.all (fun c => c.toNat < 128) = true → std.lower text = text.toLower

section Keys

variable (std : Stdlib) (key : String)

/-- A key that names raw bytes. -/
def isRawBytesKey : Bool :=
  std.lower key ≠ "raw_bytes_included" ∧
    (containsText (std.lower key) "raw_bytes" ∨ std.lower key ∈ ["bytes", "image_bytes"])

/-- A key that contains a fragment of `_TARGET_SENSITIVE_KEYS`. -/
def isTargetKey : Bool := targetSensitiveKeys.any (containsText (std.lower key))

/-- **A sensitive key**: its value is masked. -/
def isMaskedKey : Bool := isRawBytesKey std key || isTargetKey std key

/-- The keys redaction neither masks nor replaces. -/
structure OpenKey (std : Stdlib) (key : String) : Prop where
  insensitive : isMaskedKey std key = false
  plain : isSecretKey std key = false

/-- Whether an ASCII key is one shows in its lower case. -/
theorem openKey_of_lower {std : Stdlib} (lowers : LowersAscii std) {key : String}
    (ascii : key.toList.all (fun c => c.toNat < 128) = true)
    (others : key.toLower ∉ credentialFieldKeys ++ rawArtifactKeys)
    (fragments : ("raw_bytes" :: targetSensitiveKeys).all
      (fun fragment => !containsText key.toLower fragment) = true) : OpenKey std key := by
  have same := lowers key ascii
  simp only [List.mem_append, not_or] at others
  obtain ⟨noCredential, noRaw⟩ := others
  rw [List.all_cons, Bool.and_eq_true, Bool.not_eq_true'] at fragments
  obtain ⟨noBytes, noTarget⟩ := fragments
  have target : targetSensitiveKeys.any (containsText key.toLower) = false := by
    rw [List.any_eq_false]
    intro fragment member
    have absent := List.all_eq_true.mp noTarget fragment member
    rw [Bool.not_eq_true'] at absent
    rw [absent]
    exact Bool.false_ne_true
  have bytes : key.toLower ∉ ["bytes", "image_bytes"] := by
    intro member
    refine noRaw ?_
    revert member
    generalize key.toLower = name
    simp only [rawArtifactKeys, List.mem_cons, List.not_mem_nil, or_false]
    rintro (rfl | rfl)
    exacts [.inr (.inr (.inr (.inr rfl))), .inr (.inl rfl)]
  constructor
  · rw [isMaskedKey, isRawBytesKey, isTargetKey, same, target, noBytes, Bool.or_false,
      decide_eq_false_iff_not]
    rintro ⟨-, contained | listed⟩
    · exact Bool.false_ne_true contained
    · exact bytes listed
  · simp only [isSecretKey, isCredentialFieldKey, same, noCredential, noRaw, decide_false,
      Bool.or_self]

/-- A sensitive key is no key of typed text. -/
theorem isHidTextKey_of_masked {std : Stdlib} {key : String}
    (sensitive : isMaskedKey std key = true) : isHidTextKey std key = false := by
  have apart : ∀ name ∈ hidTextKeys, containsText name "raw_bytes" = false
      ∧ name ∉ ["bytes", "image_bytes"] ∧ targetSensitiveKeys.any (containsText name) = false := by
    decide +kernel
  by_contra typed
  rw [Bool.not_eq_false, isHidTextKey, decide_eq_true_eq] at typed
  obtain ⟨raw, bytes, target⟩ := apart _ typed
  rw [isMaskedKey, isRawBytesKey, isTargetKey, raw, target, Bool.or_false,
    decide_eq_true_eq] at sensitive
  rcases sensitive.2 with contained | listed
  · exact Bool.false_ne_true contained
  · exact bytes listed

end Keys

section Entries

variable {lib : AuditLibrary}

/-- What a value becomes under its key, before the generic redactor runs over the mapping. -/
def observedChild (lib : AuditLibrary) (key : String) (child : PyValue) : PyValue :=
  if isMaskedKey lib.toStdlib key then .str redactedMark
  else redactPikvmObservePayload lib child

theorem redactPikvmObserveEntries_cons (key : String) (child : PyValue) (rest : Params) :
    redactPikvmObserveEntries lib ((.str key, child) :: rest)
      = (key, observedChild lib key child) :: redactPikvmObserveEntries lib rest := by
  rw [redactPikvmObserveEntries]
  refine congrArg (· :: redactPikvmObserveEntries lib rest) (congrArg (Prod.mk key) ?_)
  change (if lib.lower key ≠ "raw_bytes_included"
      ∧ (containsText (lib.lower key) "raw_bytes" = true ∨ lib.lower key ∈ ["bytes", "image_bytes"])
    then PyValue.str redactedMark
    else if targetSensitiveKeys.any (containsText (lib.lower key)) = true
      then PyValue.str redactedMark else redactPikvmObservePayload lib child) = _
  unfold observedChild isMaskedKey isRawBytesKey isTargetKey
  simp only [Bool.or_eq_true, decide_eq_true_eq]
  by_cases raw : lib.lower key ≠ "raw_bytes_included"
      ∧ (containsText (lib.lower key) "raw_bytes" = true ∨ lib.lower key ∈ ["bytes", "image_bytes"])
  · rw [if_pos raw, if_pos (.inl raw)]
  · rw [if_neg raw]
    by_cases target : targetSensitiveKeys.any (containsText (lib.lower key)) = true
    · rw [if_pos target, if_pos (.inr target)]
    · rw [if_neg target, if_neg (not_or.mpr ⟨raw, target⟩)]

/-- Under each key stands what its value became. -/
theorem paramGet_observeEntries {entries : Params} (keyed : PyValue.stringKeyedEntries entries)
    (key : String) :
    paramGet ((redactPikvmObserveEntries lib entries).map fun entry => (.str entry.1, entry.2)) key
      = (paramGet entries key).map (observedChild lib key) := by
  induction entries with
  | nil => rfl
  | cons entry rest ih =>
      obtain ⟨entryKey, value⟩ := entry
      cases entryKey with
      | str k =>
          rw [redactPikvmObserveEntries_cons, List.map_cons, paramGet_cons, paramGet_cons,
            ih keyed.2.2]
          split
          · next same =>
              subst same
              rfl
          · rfl
      | _ => exact keyed.elim

/-- The keys are distinct. -/
theorem redactPikvmObserveEntries_nodup {entries : Params}
    (keyed : PyValue.stringKeyedEntries entries) :
    ((redactPikvmObserveEntries lib entries).map Prod.fst).Nodup := by
  induction entries with
  | nil => exact List.nodup_nil
  | cons entry rest ih =>
      obtain ⟨entryKey, value⟩ := entry
      cases entryKey with
      | str k =>
          obtain ⟨absent, -, later⟩ := keyed
          rw [redactPikvmObserveEntries_cons, List.map_cons, List.nodup_cons]
          refine ⟨notMem_of_paramGet ?_, ih later⟩
          rw [paramGet_observeEntries later, absent]
          rfl
      | _ => exact keyed.elim

/-- The mapping the generic redactor runs over. -/
def observedDict (lib : AuditLibrary) (entries : Params) : Params :=
  (redactPikvmObserveEntries lib entries).map fun entry => (.str entry.1, entry.2)

theorem redactPikvmObservePayload_dict {entries : Params}
    (keyed : PyValue.stringKeyedEntries entries) :
    redactPikvmObservePayload lib (.dict entries)
      = (redactValue lib "" "" false (.dict (observedDict lib entries))).value := by
  rw [redactPikvmObservePayload, pyDict_of_nodup (redactPikvmObserveEntries_nodup keyed)]
  rfl

mutual

/-- An observed payload that can be stored is redacted to one that can. -/
theorem redactPikvmObservePayload_storable {value : PyValue}
    (storable : value.Storable lib.readFloat) :
    (redactPikvmObservePayload lib value).Storable lib.readFloat := by
  match value with
  | .dict entries =>
      rw [redactPikvmObservePayload_dict (PyValue.stringKeyedEntries_of_storable storable)]
      have storable' : (PyValue.dict (observedDict lib entries)).Storable lib.readFloat :=
        observedDict_storable storable
      exact redactValue_storable storable' "" "" false
  | .none | .bool _ | .int _ | .float _ | .str _ | .bytes _ | .list _ | .tuple _ | .set _
  | .object _ _ =>
      exact redactValue_storable storable "" "" false

theorem observedDict_storable {entries : Params}
    (storable : PyValue.storableEntries lib.readFloat entries) :
    PyValue.storableEntries lib.readFloat (observedDict lib entries) := by
  match entries with
  | [] => trivial
  | (.str key, value) :: rest =>
      obtain ⟨absent, here, later⟩ := storable
      have child : (observedChild lib key value).Storable lib.readFloat := by
        unfold observedChild
        split_ifs
        · trivial
        · exact redactPikvmObservePayload_storable here
      have rest' := observedDict_storable later
      unfold observedDict at rest' ⊢
      rw [redactPikvmObserveEntries_cons, List.map_cons]
      refine ⟨?_, child, rest'⟩
      rw [paramGet_observeEntries (PyValue.stringKeyedEntries_of_storable later), absent]
      rfl

end

/-- The empty key is no secret: it stands for no key at all. -/
theorem isSecretKey_empty (lower : lib.lower "" = "") : isSecretKey lib.toStdlib "" = false := by
  rw [isSecretKey, isCredentialFieldKey, lower]
  decide

/-- **What a redacted payload has under a key**: what the value became, redacted once more. -/
theorem redactPikvmObservePayload_child (lower : lib.lower "" = "") {entries : Params}
    (storable : PyValue.storableEntries lib.readFloat entries) (key : String) :
    ∃ path capture, (redactPikvmObservePayload lib (.dict entries)).child (.key key)
      = (paramGet entries key).map fun child =>
        (redactValue lib key path capture (observedChild lib key child)).value := by
  have keyed := PyValue.stringKeyedEntries_of_storable storable
  have keyed' : (PyValue.dict (observedDict lib entries)).StringKeyed :=
    PyValue.stringKeyedEntries_of_storable (observedDict_storable storable)
  obtain ⟨path, children⟩ := @redactValue_child lib "" "" false (.dict (observedDict lib entries))
    (isSecretKey_empty lower) (Bool.and_false _) keyed' (.key key)
  refine ⟨path, childCapture lib.toStdlib false (.dict (observedDict lib entries)), ?_⟩
  rw [redactPikvmObservePayload_dict keyed, children]
  change (paramGet (observedDict lib entries) key).map _ = _
  rw [observedDict, paramGet_observeEntries keyed, Option.map_map]
  rfl

end Entries

end AgenticKVM
