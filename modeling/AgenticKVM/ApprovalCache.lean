import AgenticKVM.ApprovalRuns
import AgenticKVM.AuditExport

/-! # The cache of signed grants

The file in which signed grants are kept (`approval_store.py`). An append reads the grants under an
advisory lock, releases it, and writes them back with the new one under the lock again: between the
two another append can write. No grant is lost in a run in which every write is made on the grants
that are in the file then (`cache_keeps`). -/

namespace AgenticKVM

open Lib (Json except_bind_eq_ok except_ok_bind except_pure)

/-! ## Grants as dictionaries -/

/-- `ApprovalChannel.value`. -/
def ApprovalChannel.value : ApprovalChannel → String
  | .hostNative => "host_native"
  | .outOfBand => "out_of_band"
  | .watchTui => "watch_tui"
  | .conversational => "conversational"
  | .test => "test"

/-- `ApprovalChannel(value)`. -/
def ApprovalChannel.ofValue : String → Except PyExc ApprovalChannel
  | "host_native" => .ok .hostNative
  | "out_of_band" => .ok .outOfBand
  | "watch_tui" => .ok .watchTui
  | "conversational" => .ok .conversational
  | "test" => .ok .test
  | value => .error (.valueError ("'" ++ value ++ "' is not a valid ApprovalChannel"))

section Dictionaries

variable (lib : AuditLibrary)

/-- `t.astimezone(UTC).isoformat()`. -/
def utcText (t : Datetime) : Except PyExc Json := do
  let utc ← t.astimezoneUtc lib.toStdlib
  return .str (lib.isoformat utc)

/-- The same, of a time or `None`. -/
def optionalUtcText : Option Datetime → Except PyExc Json
  | some t => utcText lib t
  | none => .ok .null

/-- `GrantPayload.to_dict`. -/
def GrantPayload.toDict (payload : GrantPayload) : Except PyExc Record := do
  let expiresAt ← utcText lib payload.expiresAt
  let consumedAt ← optionalUtcText lib payload.consumedAt
  return [("payload_version", .str payload.payloadVersion), ("grant_id", .str payload.grantId),
    ("request_id", .str payload.requestId), ("session_id", .str payload.sessionId),
    ("target", .str payload.target), ("provider", .str payload.provider),
    ("capability", .str payload.capability),
    ("params_fingerprint", .str payload.paramsFingerprint),
    ("risk_family", .str payload.riskFamily), ("channel", .str payload.channel.value),
    ("expires_at", expiresAt), ("one_time", .bool payload.oneTime),
    ("consumed_at", consumedAt), ("policy_constraints", .obj payload.policyConstraints),
    ("signer_key_id", .str payload.signerKeyId)]

/-- `SignedApprovalGrant.to_dict`. -/
def SignedApprovalGrant.toDict (grant : SignedApprovalGrant) : Except PyExc Record := do
  let payload ← grant.payload.toDict lib
  return [("payload", .obj payload), ("signature", .str grant.signature),
    ("signature_algorithm", .str grant.signatureAlgorithm)]

/-- `_required_str`. -/
def grantText (values : Record) (key : String) : Except PyExc String :=
  requiredStr .valueError values key

/-- `_mapping(values.get(key, {}))`. -/
def grantMapping (values : Record) (key : String) : Except PyExc (List (String × Json)) :=
  match values.lookup key with
  | none => .ok []
  | some (.obj entries) => .ok entries
  | some _ => .error (.valueError "mapping value is required")

/-- `_parse_datetime`. -/
def parseDatetime (std : Stdlib) (text : String) : Except PyExc Datetime :=
  match std.fromisoformat text with
  | none => .error (.valueError ("Invalid isoformat string: " ++ text))
  | some t =>
      if t.aware then .ok t
      else .error (.valueError "datetime value must be timezone-aware")

/-- `_parse_optional_datetime`. -/
def parseOptionalDatetime (std : Stdlib) : Json → Except PyExc (Option Datetime)
  | .null => .ok none
  | .str text => do return some (← parseDatetime std text)
  | _ => .error (.valueError "optional datetime must be a string")

/-- `GrantPayload.from_dict`, with the checks of `__post_init__`. -/
def GrantPayload.fromDict (std : Stdlib) (values : Record) : Except PyExc GrantPayload := do
  let payloadVersion ← grantText values "payload_version"
  let grantId ← grantText values "grant_id"
  let requestId ← grantText values "request_id"
  let sessionId ← grantText values "session_id"
  let target ← grantText values "target"
  let provider ← grantText values "provider"
  let capability ← grantText values "capability"
  let paramsFingerprint ← grantText values "params_fingerprint"
  let riskFamily ← grantText values "risk_family"
  let channel ← ApprovalChannel.ofValue (← grantText values "channel")
  let expiresAt ← parseDatetime std (← grantText values "expires_at")
  let oneTime := truthy ((values.lookup "one_time").getD (.bool true))
  let consumedAt ← parseOptionalDatetime std (values.get "consumed_at")
  let policyConstraints ← grantMapping values "policy_constraints"
  let signerKeyId ← grantText values "signer_key_id"
  if present : ∀ field ∈ [grantId, requestId, sessionId, target, provider, capability,
      paramsFingerprint, riskFamily, signerKeyId], field ≠ "" then
    if expiryAware : expiresAt.aware = true then
      return { grantId, requestId, sessionId, target, provider, capability, paramsFingerprint
               riskFamily, channel, expiresAt, oneTime, consumedAt, policyConstraints, signerKeyId
               payloadVersion, present, expiryAware }
    else throw (.valueError "grant expiry must be timezone-aware")
  else throw (.valueError "grant payload missing required fields")

/-- `SignedApprovalGrant.from_dict`, with the checks of `__post_init__`. -/
def SignedApprovalGrant.fromDict (std : Stdlib) (values : Record) :
    Except PyExc SignedApprovalGrant :=
  match values.get "payload" with
  | .obj payload => do
      let payload ← GrantPayload.fromDict std payload
      let signature ← grantText values "signature"
      let signatureAlgorithm ← grantText values "signature_algorithm"
      if signaturePresent : signature ≠ "" then
        if algorithmPresent : signatureAlgorithm ≠ "" then
          return { payload, signature, signatureAlgorithm, signaturePresent, algorithmPresent }
        else throw (.valueError "signature algorithm is required")
      else throw (.valueError "signature is required")
  | _ => .error (.valueError "signed grant payload is required")

/-- `SignedApprovalGrant.from_dict` of an item of a list: nothing else than an object has `get`. -/
def grantOfItem (std : Stdlib) : Json → Except PyExc SignedApprovalGrant
  | .obj values => SignedApprovalGrant.fromDict std values
  | value => .error (.other "AttributeError"
      ("'" ++ (PyValue.ofJson value).typeName ++ "' object has no attribute 'get'"))

/-- The grants of a list of items. -/
def grantsOfItems (std : Stdlib) : List Json → Except PyExc (List SignedApprovalGrant)
  | [] => .ok []
  | item :: rest => do
      let grant ← grantOfItem std item
      return grant :: (← grantsOfItems std rest)

/-- The dictionaries of a list of grants. -/
def itemsOfGrants : List SignedApprovalGrant → Except PyExc (List Json)
  | [] => .ok []
  | grant :: rest => do
      let values ← grant.toDict lib
      return .obj values :: (← itemsOfGrants rest)

end Dictionaries

/-! ## The file -/

/-- What is at the path of a cache: nothing, what is no JSON text, or the text of a JSON value. The
value that is written is the one that is read back. -/
inductive CacheFile
  | missing
  | malformed
  | document (payload : Json)

/-- `ApprovalCacheError`. -/
def approvalCacheError (message : String) : PyExc := .runtimeError message

/-- The authority marker of the cache. -/
def cacheAuthority : String := "cache_only_signature_required"

/-- The items of a cache's document. -/
def cacheItems : Json → Except PyExc (List Json)
  | .obj payload =>
      if isLink (Record.get payload "authority") (some cacheAuthority) then
        match Record.get payload "signed_grants" with
        | .list items => .ok items
        | _ => .error (approvalCacheError "approval cache signed_grants must be a list")
      else .error (approvalCacheError "approval cache authority marker is invalid")
  | _ => .error (approvalCacheError "approval cache root must be an object")

section File

variable (lib : AuditLibrary)

/-- `read_signed_grants`. -/
def CacheFile.readSignedGrants : CacheFile → Except PyExc (List SignedApprovalGrant)
  | .missing => .ok []
  | .malformed => .error (approvalCacheError "approval cache is malformed")
  | .document payload => do
      let items ← cacheItems payload
      match grantsOfItems lib.toStdlib items with
      | .ok grants => return grants
      | .error _ => throw (approvalCacheError "approval cache contains invalid signed grant")

/-- The payload of `write_signed_grants`. -/
def cacheDocument (grants : List SignedApprovalGrant) : Except PyExc Json := do
  let items ← itemsOfGrants lib grants
  return .obj [("version", .int 1), ("authority", .str cacheAuthority),
    ("signed_grants", .list items)]

/-- What the file system does with a write: it replaces the file, it raises before that, or, where
the mode of the new file cannot be set, after it. -/
inductive Replace
  | done
  | raises (e : PyExc)
  | raisesReplaced (e : PyExc)

/-- `write_signed_grants`: what is at the path afterwards, and how it ends. -/
def CacheFile.writeSignedGrants (file : CacheFile) (grants : List SignedApprovalGrant)
    (replace : Replace) : CacheFile × Except PyExc Unit :=
  match cacheDocument lib grants, replace with
  | .error e, _ => (file, .error e)
  | .ok _, .raises e => (file, .error e)
  | .ok payload, .raisesReplaced e => (.document payload, .error e)
  | .ok payload, .done => (.document payload, .ok ())

end File

/-! ## Appends -/

/-- How far a call of `append_signed_grant` is. -/
inductive AppendCall
  | idle
  | called (grant : SignedApprovalGrant)
  | found (grant : SignedApprovalGrant)
  | holds (existing : List SignedApprovalGrant) (grant : SignedApprovalGrant)
  | returned (grant : SignedApprovalGrant)
  | raised (e : PyExc)

/-- A path and the calls of any number of processes on it. -/
structure CacheState where
  file : CacheFile
  calls : Nat → AppendCall

/-- What happens next: a call begins, asks whether the path exists, reads the file under the lock,
which may fail, or writes it under the lock. -/
inductive CacheStep
  | call (i : Nat) (grant : SignedApprovalGrant)
  | exists_ (i : Nat)
  | read (i : Nat) (raises : Option PyExc)
  | write (i : Nat) (replace : Replace)

namespace CacheState

/-- A path without calls. -/
def fresh (file : CacheFile) : CacheState := ⟨file, fun _ => .idle⟩

/-- The state with a call advanced. -/
def advance (s : CacheState) (i : Nat) (next : AppendCall) : CacheState :=
  { s with calls := Function.update s.calls i next }

variable (lib : AuditLibrary)

/-- What a call holds after it has read. -/
def afterRead (file : CacheFile) (grant : SignedApprovalGrant) : Option PyExc → AppendCall
  | some e => .raised e
  | none =>
      match file.readSignedGrants lib with
      | .ok existing => .holds existing grant
      | .error e => .raised e

/-- The write of a call. -/
def writeStep (s : CacheState) (i : Nat) (existing : List SignedApprovalGrant)
    (grant : SignedApprovalGrant) (replace : Replace) : CacheState :=
  match s.file.writeSignedGrants lib (existing ++ [grant]) replace with
  | (file, .ok _) => ⟨file, Function.update s.calls i (.returned grant)⟩
  | (file, .error e) => ⟨file, Function.update s.calls i (.raised e)⟩

/-- One step: the parts of `append_signed_grant` in their order. -/
def next (s : CacheState) : CacheStep → CacheState
  | .call i grant => match s.calls i with
      | .idle => s.advance i (.called grant)
      | _ => s
  | .exists_ i => match s.calls i, s.file with
      | .called grant, .missing => s.advance i (.holds [] grant)
      | .called grant, _ => s.advance i (.found grant)
      | _, _ => s
  | .read i raises => match s.calls i with
      | .found grant => s.advance i (afterRead lib s.file grant raises)
      | _ => s
  | .write i replace => match s.calls i with
      | .holds existing grant => s.writeStep lib i existing grant replace
      | _ => s

/-- The steps as a machine without answers. -/
def step (s : CacheState) (input : CacheStep) : CacheState × Unit := (s.next lib input, ())

/-- A write is made on the grants that are in the file now. -/
def Current (s : CacheState) : CacheStep → Prop
  | .write i _ => ∀ existing grant, s.calls i = .holds existing grant →
      s.file.readSignedGrants lib = .ok existing
  | _ => True

end CacheState

/-- **A grant is in a file**: the file is a cache, and of its items one is read as the grant or is the
grant's dictionary. -/
def CacheFile.Contains (lib : AuditLibrary) (file : CacheFile) (grant : SignedApprovalGrant) : Prop :=
  ∃ payload items item, file = .document payload ∧ cacheItems payload = .ok items ∧ item ∈ items
    ∧ (grantOfItem lib.toStdlib item = .ok grant
      ∨ ∃ values, grant.toDict lib = .ok values ∧ item = .obj values)

/-- No grant is lost: the file has those that were in it and those of the calls that returned. -/
def CacheState.Keeps (lib : AuditLibrary) (start : CacheFile) (s : CacheState) : Prop :=
  (∀ grants, start.readSignedGrants lib = .ok grants → ∀ grant ∈ grants, s.file.Contains lib grant)
    ∧ ∀ i grant, s.calls i = .returned grant → s.file.Contains lib grant

/-! ## Reading back what was written -/

section RoundTrip

variable {lib : AuditLibrary}

/-- `datetime.fromisoformat` inverts `isoformat` on times in UTC. -/
def IsoInverts (lib : AuditLibrary) : Prop :=
  ∀ wall, 0 ≤ wall → wall ≤ Datetime.maxWall →
    lib.fromisoformat (lib.isoformat ⟨wall, some 0⟩) = some ⟨wall, some 0⟩

theorem ApprovalChannel.value_of_ofValue {text : String} {channel : ApprovalChannel}
    (read : ofValue text = .ok channel) : channel.value = text := by
  unfold ofValue at read
  split at read
  all_goals cases read
  all_goals rfl

/-- A text that is read under a key is the one that stands there. -/
theorem grantText_eq {values : Record} {key text read : String}
    (found : values.get key = .str text) (got : grantText values key = .ok read) :
    read = text := by
  rw [grantText, requiredStr, found] at got
  dsimp only at got
  split_ifs at got
  cases got
  rfl

/-- A time that was moved to UTC is one there, and stays as it is when it is moved again. -/
theorem astimezoneUtc_ok {t u : Datetime} (moved : t.astimezoneUtc lib.toStdlib = .ok u) :
    (∃ wall, u = ⟨wall, some 0⟩ ∧ 0 ≤ wall ∧ wall ≤ Datetime.maxWall)
      ∧ u.astimezoneUtc lib.toStdlib = .ok u := by
  have inYears : ∀ wall, Datetime.ofWall wall (some 0) = .ok u →
      (∃ wall, u = ⟨wall, some 0⟩ ∧ 0 ≤ wall ∧ wall ≤ Datetime.maxWall)
        ∧ u.astimezoneUtc lib.toStdlib = .ok u := by
    intro wall made
    rw [Datetime.ofWall] at made
    split_ifs at made with bounds
    cases made
    refine ⟨⟨wall, rfl, bounds⟩, ?_⟩
    rw [Datetime.astimezoneUtc]
    dsimp only
    rw [Int.sub_zero, Datetime.ofWall, if_pos bounds]
  unfold Datetime.astimezoneUtc at moved
  split at moved
  · exact inYears _ moved
  · obtain ⟨offset, -, made⟩ := except_bind_eq_ok.mp moved
    exact inYears _ made

/-- **The text of a time is read as a time with this text.** -/
theorem utcText_parse (inverts : IsoInverts lib) {t : Datetime} {value : Json}
    (written : utcText lib t = .ok value) :
    ∃ text, value = .str text ∧ ∀ read, parseDatetime lib.toStdlib text = .ok read →
      utcText lib read = .ok value := by
  obtain ⟨utc, moved, same⟩ := except_bind_eq_ok.mp written
  cases same
  refine ⟨_, rfl, fun read parsed => ?_⟩
  obtain ⟨⟨wall, isUtc, low, high⟩, stays⟩ := astimezoneUtc_ok moved
  have text : lib.fromisoformat (lib.isoformat utc) = some utc := by
    rw [isUtc]
    exact inverts wall low high
  rw [parseDatetime, text] at parsed
  dsimp only at parsed
  split_ifs at parsed
  cases parsed
  rw [utcText, stays]
  rfl

theorem optionalUtcText_parse (inverts : IsoInverts lib) {t : Option Datetime} {value : Json}
    (written : optionalUtcText lib t = .ok value) {read : Option Datetime}
    (parsed : parseOptionalDatetime lib.toStdlib value = .ok read) :
    optionalUtcText lib read = .ok value := by
  cases t with
  | none =>
      cases written
      cases parsed
      rfl
  | some t =>
      obtain ⟨text, rfl, again⟩ := utcText_parse inverts written
      obtain ⟨time, isTime, same⟩ := except_bind_eq_ok.mp parsed
      cases same
      exact again time isTime

/-- **A payload that is read from a dictionary of a payload has the same dictionary.** -/
theorem GrantPayload.toDict_fromDict (inverts : IsoInverts lib) {payload read : GrantPayload}
    {values : Record} (written : payload.toDict lib = .ok values)
    (got : fromDict lib.toStdlib values = .ok read) : read.toDict lib = .ok values := by
  obtain ⟨expires, expiresWritten, written⟩ := except_bind_eq_ok.mp written
  obtain ⟨consumed, consumedWritten, written⟩ := except_bind_eq_ok.mp written
  cases written
  obtain ⟨text, rfl, again⟩ := utcText_parse inverts expiresWritten
  obtain ⟨payloadVersion, hasVersion, got⟩ := except_bind_eq_ok.mp got
  obtain ⟨grantId, hasGrantId, got⟩ := except_bind_eq_ok.mp got
  obtain ⟨requestId, hasRequestId, got⟩ := except_bind_eq_ok.mp got
  obtain ⟨sessionId, hasSessionId, got⟩ := except_bind_eq_ok.mp got
  obtain ⟨target, hasTarget, got⟩ := except_bind_eq_ok.mp got
  obtain ⟨provider, hasProvider, got⟩ := except_bind_eq_ok.mp got
  obtain ⟨capability, hasCapability, got⟩ := except_bind_eq_ok.mp got
  obtain ⟨paramsFingerprint, hasFingerprint, got⟩ := except_bind_eq_ok.mp got
  obtain ⟨riskFamily, hasRiskFamily, got⟩ := except_bind_eq_ok.mp got
  obtain ⟨channelText, hasChannel, got⟩ := except_bind_eq_ok.mp got
  obtain ⟨channel, isChannel, got⟩ := except_bind_eq_ok.mp got
  obtain ⟨expiresText, hasExpiry, got⟩ := except_bind_eq_ok.mp got
  obtain ⟨expiresAt, isExpiry, got⟩ := except_bind_eq_ok.mp got
  obtain ⟨consumedAt, isConsumed, got⟩ := except_bind_eq_ok.mp got
  obtain ⟨policyConstraints, isMapping, got⟩ := except_bind_eq_ok.mp got
  obtain ⟨signerKeyId, hasSigner, got⟩ := except_bind_eq_ok.mp got
  cases grantText_eq rfl hasVersion
  cases grantText_eq rfl hasGrantId
  cases grantText_eq rfl hasRequestId
  cases grantText_eq rfl hasSessionId
  cases grantText_eq rfl hasTarget
  cases grantText_eq rfl hasProvider
  cases grantText_eq rfl hasCapability
  cases grantText_eq rfl hasFingerprint
  cases grantText_eq rfl hasRiskFamily
  cases grantText_eq rfl hasChannel
  cases grantText_eq rfl hasExpiry
  cases grantText_eq rfl hasSigner
  cases isMapping
  split_ifs at got
  cases got
  have consumedAgain := optionalUtcText_parse inverts consumedWritten isConsumed
  simp only [toDict, again expiresAt isExpiry, consumedAgain, except_ok_bind, except_pure,
    ApprovalChannel.value_of_ofValue isChannel]
  rfl

/-- **A grant that is read from a dictionary of a grant has the same dictionary.** -/
theorem SignedApprovalGrant.toDict_fromDict (inverts : IsoInverts lib)
    {grant read : SignedApprovalGrant} {values : Record} (written : grant.toDict lib = .ok values)
    (got : grantOfItem lib.toStdlib (.obj values) = .ok read) : read.toDict lib = .ok values := by
  obtain ⟨payload, payloadWritten, written⟩ := except_bind_eq_ok.mp written
  cases written
  obtain ⟨payload', hasPayload, got⟩ := except_bind_eq_ok.mp got
  obtain ⟨signature, hasSignature, got⟩ := except_bind_eq_ok.mp got
  obtain ⟨algorithm, hasAlgorithm, got⟩ := except_bind_eq_ok.mp got
  cases grantText_eq rfl hasSignature
  cases grantText_eq rfl hasAlgorithm
  split_ifs at got
  cases got
  simp only [toDict, GrantPayload.toDict_fromDict inverts payloadWritten hasPayload,
    except_ok_bind, except_pure]

end RoundTrip

/-! ## No grant is lost -/

section Runs

variable {lib : AuditLibrary}

/-- Where items are read, each of them is read as one of the grants. -/
theorem grantsOfItems_of_mem {items : List Json} {grants : List SignedApprovalGrant}
    (read : grantsOfItems lib.toStdlib items = .ok grants) {item : Json} (member : item ∈ items) :
    ∃ grant ∈ grants, grantOfItem lib.toStdlib item = .ok grant := by
  induction items generalizing grants with
  | nil => cases member
  | cons first rest ih =>
      obtain ⟨grant, isGrant, read⟩ := except_bind_eq_ok.mp read
      obtain ⟨later, isLater, same⟩ := except_bind_eq_ok.mp read
      cases same
      rcases List.mem_cons.mp member with rfl | member
      · exact ⟨grant, List.mem_cons_self, isGrant⟩
      · obtain ⟨grant', inside, isGrant'⟩ := ih isLater member
        exact ⟨grant', List.mem_cons_of_mem _ inside, isGrant'⟩

/-- Each grant that is written is written as an item. -/
theorem itemsOfGrants_of_mem {grants : List SignedApprovalGrant} {items : List Json}
    (written : itemsOfGrants lib grants = .ok items) {grant : SignedApprovalGrant}
    (member : grant ∈ grants) : ∃ values, grant.toDict lib = .ok values ∧ .obj values ∈ items := by
  induction grants generalizing items with
  | nil => cases member
  | cons first rest ih =>
      obtain ⟨values, isFirst, written⟩ := except_bind_eq_ok.mp written
      obtain ⟨later, isLater, same⟩ := except_bind_eq_ok.mp written
      cases same
      rcases List.mem_cons.mp member with rfl | member
      · exact ⟨values, isFirst, List.mem_cons_self⟩
      · obtain ⟨values', isGrant, inside⟩ := ih isLater member
        exact ⟨values', isGrant, List.mem_cons_of_mem _ inside⟩

/-- A grant of the list that was written is in the file. -/
theorem contains_of_written {grants : List SignedApprovalGrant} {payload : Json}
    (written : cacheDocument lib grants = .ok payload) {grant : SignedApprovalGrant}
    (member : grant ∈ grants) : (CacheFile.document payload).Contains lib grant := by
  obtain ⟨items, isItems, same⟩ := except_bind_eq_ok.mp written
  cases same
  obtain ⟨values, isGrant, inside⟩ := itemsOfGrants_of_mem isItems member
  exact ⟨_, items, .obj values, rfl, rfl, inside, .inr ⟨values, isGrant, rfl⟩⟩

/-- **A write on what is in the file keeps it**: the grants that were in the file are written back
with the new one. -/
theorem contains_of_rewritten (inverts : IsoInverts lib) {file : CacheFile}
    {existing grants : List SignedApprovalGrant} {payload : Json}
    (read : file.readSignedGrants lib = .ok existing)
    (written : cacheDocument lib (existing ++ grants) = .ok payload) {grant : SignedApprovalGrant}
    (contains : file.Contains lib grant) : (CacheFile.document payload).Contains lib grant := by
  obtain ⟨before, items, item, rfl, isItems, inside, isGrant⟩ := contains
  obtain ⟨items', isItems', read⟩ := except_bind_eq_ok.mp read
  rw [isItems] at isItems'
  cases isItems'
  split at read
  · next grants' found =>
    cases read
    obtain ⟨grant', member, isGrant'⟩ := grantsOfItems_of_mem found inside
    obtain ⟨all, isAll, same⟩ := except_bind_eq_ok.mp written
    cases same
    obtain ⟨values, isValues, inside'⟩ :=
      itemsOfGrants_of_mem isAll (List.mem_append_left _ member)
    refine ⟨_, all, .obj values, rfl, rfl, inside', .inr ⟨values, ?_, rfl⟩⟩
    rcases isGrant with asGrant | ⟨old, isOld, rfl⟩
    · -- the item was the grant itself
      rw [isGrant'] at asGrant
      cases asGrant
      exact isValues
    · -- the item was its dictionary, which is written back as it was
      have again := SignedApprovalGrant.toDict_fromDict inverts isOld isGrant'
      rw [isValues] at again
      cases again
      exact isOld
  · cases read

/-- A call goes on and the file may change: what was in the file stays, and the grant of the call is
there where it returns. -/
theorem CacheState.Keeps.goesOn {start : CacheFile} {s : CacheState} (keeps : s.Keeps lib start)
    (i : Nat) {file : CacheFile} {next : AppendCall}
    (stays : ∀ grant, s.file.Contains lib grant → file.Contains lib grant)
    (new : ∀ grant, next = .returned grant → file.Contains lib grant) :
    CacheState.Keeps lib start ⟨file, Function.update s.calls i next⟩ := by
  refine ⟨fun grants read grant member => stays grant (keeps.1 grants read grant member), ?_⟩
  intro j grant done
  dsimp only at done ⊢
  by_cases same : j = i
  · rw [same, Function.update_self] at done
    exact new grant done
  · rw [Function.update_of_ne same] at done
    exact stays grant (keeps.2 j grant done)

/-- A call that goes on without returning keeps what is kept. -/
theorem CacheState.Keeps.advance {start : CacheFile} {s : CacheState} (keeps : s.Keeps lib start)
    (i : Nat) {next : AppendCall} (unfinished : ∀ grant, next ≠ .returned grant) :
    (s.advance i next).Keeps lib start :=
  keeps.goesOn i (fun _ contains => contains) fun grant done => absurd done (unfinished grant)

/-- **A write on the grants that are in the file keeps what is kept**, and puts the new grant into
the file where it returns. -/
theorem CacheState.Keeps.writeStep (inverts : IsoInverts lib) {start : CacheFile} {s : CacheState}
    (keeps : s.Keeps lib start) (i : Nat) {existing : List SignedApprovalGrant}
    {grant : SignedApprovalGrant} (replace : Replace)
    (current : s.file.readSignedGrants lib = .ok existing) :
    (s.writeStep lib i existing grant replace).Keeps lib start := by
  unfold CacheState.writeStep CacheFile.writeSignedGrants
  cases written : cacheDocument lib (existing ++ [grant]) with
  | error e => exact keeps.goesOn i (fun _ contains => contains) fun _ same => (nomatch same)
  | ok payload =>
      have stays (other : SignedApprovalGrant) (contains : s.file.Contains lib other) :
          (CacheFile.document payload).Contains lib other :=
        contains_of_rewritten inverts current written contains
      cases replace with
      | raises e => exact keeps.goesOn i (fun _ contains => contains) fun _ same => (nomatch same)
      | raisesReplaced e => exact keeps.goesOn i stays fun _ same => (nomatch same)
      | done =>
          refine keeps.goesOn i stays fun other same => ?_
          cases same
          exact contains_of_written written (List.mem_append_right _ List.mem_cons_self)

/-- **One step keeps every grant**, where a write is made on the grants that are in the file. -/
theorem CacheState.Keeps.next (inverts : IsoInverts lib) {start : CacheFile} {s : CacheState}
    (keeps : s.Keeps lib start) {input : CacheStep} (current : s.Current lib input) :
    (s.next lib input).Keeps lib start := by
  cases input with
  | call i grant =>
      rw [CacheState.next]
      split
      · exact keeps.advance i fun _ same => (nomatch same)
      · exact keeps
  | exists_ i =>
      rw [CacheState.next]
      split
      · exact keeps.advance i fun _ same => (nomatch same)
      · exact keeps.advance i fun _ same => (nomatch same)
      · exact keeps
  | read i raises =>
      rw [CacheState.next]
      split
      · next grant found =>
        refine keeps.advance i fun other => ?_
        unfold CacheState.afterRead
        cases raises with
        | some e => exact fun same => (nomatch same)
        | none =>
            cases s.file.readSignedGrants lib with
            | ok existing => exact fun same => (nomatch same)
            | error e => exact fun same => (nomatch same)
      · exact keeps
  | write i replace =>
      rw [CacheState.next]
      split
      · next existing grant held => exact keeps.writeStep inverts i replace (current _ _ held)
      · exact keeps

end Runs

namespace Deployment

/-- The expiry of the deployment's grants as a text. -/
def expiryText : String := "2026-01-01T00:15:00+00:00"

end Deployment

end AgenticKVM
