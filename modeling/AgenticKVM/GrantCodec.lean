import AgenticKVM.ApprovalQueue
import AgenticKVM.Lib.JsonLookup

/-! # The codec of signed grants

A signature covers the canonical text of a payload, and a cache keeps the payload as JSON. The two
fit: what is read back from any JSON text of a payload has the canonical text that was signed, so it
meets the same verdict in every context, and the canonical text determines all of the payload's
fifteen fields (`grantPayload_codec`). -/

namespace AgenticKVM

open Lib (Json except_bind_eq_ok except_ok_bind except_pure)

/-! ## The canonical text -/

section Canonical

variable (lib : AuditLibrary)

/-- `GrantPayload.canonical_payload`. -/
def GrantPayload.canonicalPayload (payload : GrantPayload) : Except PyExc String := do
  canonicalJson (.dict (PyValue.ofEntries (← payload.toDict lib)))

/-- The entries of a payload whose times have these texts. -/
def GrantPayload.entries (payload : GrantPayload) (expiresAt consumedAt : Json) : Record :=
  [("payload_version", .str payload.payloadVersion), ("grant_id", .str payload.grantId),
    ("request_id", .str payload.requestId), ("session_id", .str payload.sessionId),
    ("target", .str payload.target), ("provider", .str payload.provider),
    ("capability", .str payload.capability),
    ("params_fingerprint", .str payload.paramsFingerprint),
    ("risk_family", .str payload.riskFamily), ("channel", .str payload.channel.value),
    ("expires_at", expiresAt), ("one_time", .bool payload.oneTime),
    ("consumed_at", consumedAt), ("policy_constraints", .obj payload.policyConstraints),
    ("signer_key_id", .str payload.signerKeyId)]

variable {lib}

/-- What a dictionary of a payload is. -/
theorem GrantPayload.toDict_eq_ok {payload : GrantPayload} {values : Record} :
    payload.toDict lib = .ok values ↔
      ∃ expiresAt consumedAt, utcText lib payload.expiresAt = .ok expiresAt
        ∧ optionalUtcText lib payload.consumedAt = .ok consumedAt
        ∧ values = payload.entries expiresAt consumedAt := by
  constructor
  · intro written
    obtain ⟨expiresAt, expires, written⟩ := except_bind_eq_ok.mp written
    obtain ⟨consumedAt, consumed, written⟩ := except_bind_eq_ok.mp written
    cases written
    exact ⟨expiresAt, consumedAt, expires, consumed, rfl⟩
  · rintro ⟨expiresAt, consumedAt, expires, consumed, rfl⟩
    rw [toDict, expires, except_ok_bind, consumed]
    rfl

/-- The canonical text is that of the dictionary, whose keys are sorted. -/
theorem GrantPayload.canonicalPayload_of_toDict {payload : GrantPayload} {values : Record}
    (written : payload.toDict lib = .ok values) :
    payload.canonicalPayload lib = .ok (Json.dumps (.obj values)) := by
  have value : normalize (.dict (PyValue.ofEntries values)) = .ok (.obj values) :=
    normalize_ofJson (.obj values)
  rw [canonicalPayload, written, except_ok_bind, canonicalJson, value]
  rfl

/-- The keys of a payload's dictionary are distinct. -/
theorem GrantPayload.entries_distinct (payload : GrantPayload) (expiresAt consumedAt : Json) :
    ((payload.entries expiresAt consumedAt).map Prod.fst).Nodup := by
  simp only [entries, List.map_cons, List.map_nil]
  decide

end Canonical

/-! ## Signers -/

section Signers

/-- `hmac.compare_digest` of texts, which have to be ASCII. -/
def compareDigest (a b : String) : Except PyExc Bool :=
  if a.toList.all (fun c => c.toNat < 128) && b.toList.all (fun c => c.toNat < 128) then
    .ok (a = b)
  else .error (.typeError "comparing strings with non-ASCII characters is not supported")

/-- `HMACDevelopmentSigner`. -/
structure HMACDevelopmentSigner where
  keyId : String
  secret : List UInt8
  signatureAlgorithm : String
  keyPresent : keyId ≠ ""
  secretPresent : secret ≠ []

/-- `HMACDevelopmentSigner.verify`, with `hmac.new(secret, message, sha256).hexdigest()`. -/
def HMACDevelopmentSigner.verify (lib : AuditLibrary) (hmac : List UInt8 → String → String)
    (signer : HMACDevelopmentSigner) : ApprovalSigner := fun signedGrant =>
  if signedGrant.signatureAlgorithm ≠ signer.signatureAlgorithm then .ok false
  else if signedGrant.payload.signerKeyId ≠ signer.keyId then .ok false
  else do
    let message ← signedGrant.payload.canonicalPayload lib
    compareDigest (hmac signer.secret message) signedGrant.signature

/-- `KeychainApprovalSigner`, with its backend's verification of a message. -/
structure KeychainApprovalSigner where
  keyId : String
  backend : String → String → String → Except PyExc Bool
  signatureAlgorithm : String
  keyPresent : keyId ≠ ""

/-- `KeychainApprovalSigner.verify`. -/
def KeychainApprovalSigner.verify (lib : AuditLibrary) (signer : KeychainApprovalSigner) :
    ApprovalSigner := fun signedGrant =>
  if signedGrant.signatureAlgorithm ≠ signer.signatureAlgorithm then .ok false
  else if signedGrant.payload.signerKeyId ≠ signer.keyId then .ok false
  else do
    let message ← signedGrant.payload.canonicalPayload lib
    signer.backend signer.keyId message signedGrant.signature

variable (lib : AuditLibrary)

/-- A signer reads a grant through its envelope, its key id and the canonical text. -/
def ReadsCanonical (signer : ApprovalSigner) : Prop :=
  ∀ grant other : SignedApprovalGrant, grant.signature = other.signature →
    grant.signatureAlgorithm = other.signatureAlgorithm →
    grant.payload.signerKeyId = other.payload.signerKeyId →
    grant.payload.canonicalPayload lib = other.payload.canonicalPayload lib →
      signer grant = signer other

/-- The signers a verifier trusts read grants through their canonical texts. -/
def ApprovalGrantVerifier.ReadsCanonical (verifier : ApprovalGrantVerifier) : Prop :=
  ∀ keyId signer, verifier.signers keyId = some signer → AgenticKVM.ReadsCanonical lib signer

theorem HMACDevelopmentSigner.readsCanonical (hmac : List UInt8 → String → String)
    (signer : HMACDevelopmentSigner) : ReadsCanonical lib (signer.verify lib hmac) := by
  intro grant other signature algorithm keyId canonical
  simp only [verify, signature, algorithm, keyId, canonical]

theorem KeychainApprovalSigner.readsCanonical (signer : KeychainApprovalSigner) :
    ReadsCanonical lib (signer.verify lib) := by
  intro grant other signature algorithm keyId canonical
  simp only [verify, signature, algorithm, keyId, canonical]

end Signers

/-! ## Reading a payload back -/

section Codec

variable {lib : AuditLibrary}

/-- The payloads the codec is for: their version is not empty, their times are ones in UTC, and their
constraints are what JSON has, with distinct keys in every object. -/
structure GrantPayload.Encodable (lib : AuditLibrary) (payload : GrantPayload) : Prop where
  version : payload.payloadVersion ≠ ""
  expiry : ∃ utc, payload.expiresAt.astimezoneUtc lib.toStdlib = .ok utc
  consumption : ∀ t ∈ payload.consumedAt, ∃ utc, t.astimezoneUtc lib.toStdlib = .ok utc
  constraints : Json.Readable lib.readFloat (.obj payload.policyConstraints)

/-- What `json.loads` makes of a text `json.dumps` writes of a mapping, in whatever order the text
has the entries of its objects. -/
structure Rereads (document values : Record) : Prop where
  distinct : (document.map Prod.fst).Nodup
  same : Json.norm (.obj document) = Json.norm (.obj values)

/-- Two payloads have the same fields, their times as instants and their constraints as mappings. -/
structure GrantPayload.SameFields (std : Stdlib) (payload other : GrantPayload) : Prop where
  payloadVersion : payload.payloadVersion = other.payloadVersion
  grantId : payload.grantId = other.grantId
  requestId : payload.requestId = other.requestId
  sessionId : payload.sessionId = other.sessionId
  target : payload.target = other.target
  provider : payload.provider = other.provider
  capability : payload.capability = other.capability
  paramsFingerprint : payload.paramsFingerprint = other.paramsFingerprint
  riskFamily : payload.riskFamily = other.riskFamily
  channel : payload.channel = other.channel
  expiresAt : payload.expiresAt.astimezoneUtc std = other.expiresAt.astimezoneUtc std
  oneTime : payload.oneTime = other.oneTime
  consumedAt : payload.consumedAt.map (·.astimezoneUtc std)
    = other.consumedAt.map (·.astimezoneUtc std)
  policyConstraints : Json.norm (.obj payload.policyConstraints)
    = Json.norm (.obj other.policyConstraints)
  signerKeyId : payload.signerKeyId = other.signerKeyId

/-- A time in UTC has a zone. -/
theorem zoned_of_astimezoneUtc {t utc : Datetime}
    (moved : t.astimezoneUtc lib.toStdlib = .ok utc) : utc.Zoned := by
  obtain ⟨⟨wall, rfl, low, high⟩, -⟩ := astimezoneUtc_ok moved
  refine ⟨⟨low, high, fun offset same => ?_⟩, rfl⟩
  cases same
  exact ⟨by decide, by decide⟩

/-- The text of a time in UTC is not empty and is read as the time. -/
theorem parse_isoformat (laws : IsoLaws lib) {t : Datetime} (zoned : t.Zoned) :
    lib.isoformat t ≠ "" ∧ parseDatetime lib.toStdlib (lib.isoformat t) = .ok t := by
  have inverts := laws.inverts t zoned
  refine ⟨fun empty => ?_, ?_⟩
  · rw [empty, laws.empty] at inverts
    cases inverts
  · rw [parseDatetime, inverts]
    exact if_pos zoned.2

/-- Different instants have different texts. -/
theorem utcText_inj (laws : IsoLaws lib) {t u : Datetime} {text : Json}
    (first : utcText lib t = .ok text) (second : utcText lib u = .ok text) :
    t.astimezoneUtc lib.toStdlib = u.astimezoneUtc lib.toStdlib := by
  obtain ⟨utc, moved, written⟩ := except_bind_eq_ok.mp first
  obtain ⟨utc', moved', written'⟩ := except_bind_eq_ok.mp second
  cases written
  have texts : lib.isoformat utc' = lib.isoformat utc := Json.str.inj (Except.ok.inj written')
  have parsed := laws.inverts utc (zoned_of_astimezoneUtc moved)
  have parsed' := laws.inverts utc' (zoned_of_astimezoneUtc moved')
  rw [texts, parsed] at parsed'
  cases parsed'
  rw [moved, moved']

/-- The text of a time or `None` is that of the instant. -/
theorem optionalUtcText_eq (t : Option Datetime) :
    optionalUtcText lib t = match t.map (·.astimezoneUtc lib.toStdlib) with
      | some moved => moved.map fun utc => .str (lib.isoformat utc)
      | none => .ok .null := by
  cases t with
  | none => rfl
  | some t =>
      rw [optionalUtcText, utcText, Option.map_some]
      cases t.astimezoneUtc lib.toStdlib <;> rfl

theorem optionalUtcText_inj (laws : IsoLaws lib) {t u : Option Datetime} {text : Json}
    (first : optionalUtcText lib t = .ok text) (second : optionalUtcText lib u = .ok text) :
    t.map (·.astimezoneUtc lib.toStdlib) = u.map (·.astimezoneUtc lib.toStdlib) := by
  have isText {t : Datetime} {text : Json} (written : utcText lib t = .ok text) : text ≠ .null := by
    obtain ⟨utc, -, same⟩ := except_bind_eq_ok.mp written
    cases same
    exact nofun
  cases t with
  | none =>
      cases first
      cases u with
      | none => rfl
      | some u => exact absurd rfl (isText second)
  | some t =>
      cases u with
      | none =>
          cases second
          exact absurd rfl (isText first)
      | some u => rw [Option.map_some, Option.map_some, utcText_inj laws first second]

/-- A time moved to UTC compares as it did. -/
theorem Datetime.ge_astimezoneUtc {now t utc : Datetime} (aware : t.aware = true)
    (moved : t.astimezoneUtc lib.toStdlib = .ok utc) : Datetime.ge now utc = Datetime.ge now t := by
  obtain ⟨wall, offset⟩ := t
  cases offset with
  | none => cases aware
  | some offset =>
      rw [astimezoneUtc] at moved
      dsimp only at moved
      rw [ofWall] at moved
      split_ifs at moved
      cases moved
      unfold ge lt
      cases now.utcoffset with
      | none => rfl
      | some own =>
          dsimp only
          rw [Int.sub_zero]

/-- A leaf is the normal form of nothing else. -/
theorem norm_eq_str {value : Json} {text : String} : Json.norm value = .str text ↔ value = .str text := by
  cases value <;> simp [Json.norm]

theorem norm_eq_bool {value : Json} {b : Bool} : Json.norm value = .bool b ↔ value = .bool b := by
  cases value <;> simp [Json.norm]

theorem norm_eq_null {value : Json} : Json.norm value = .null ↔ value = .null := by
  cases value <;> simp [Json.norm]

/-- A key is found in what is read back with the same value, up to the order of entries. -/
theorem Rereads.lookup {document values : Record} (rereads : Rereads document values)
    (distinct : (values.map Prod.fst).Nodup) (key : String) :
    (document.lookup key).map Json.norm = (values.lookup key).map Json.norm := by
  have same : Json.reread document = Json.reread values := Json.obj.inj rereads.same
  rw [← Json.lookup_reread rereads.distinct, ← Json.lookup_reread distinct, same]

theorem Rereads.get {document values : Record} (rereads : Rereads document values)
    (distinct : (values.map Prod.fst).Nodup) (key : String) :
    Json.norm (Record.get document key) = Json.norm (Record.get values key) := by
  have norms (found : Option Json) :
      Json.norm (found.getD .null) = (found.map Json.norm).getD .null := by
    cases found <;> rfl
  unfold Record.get
  rw [norms, norms, rereads.lookup distinct]

/-- A text that is there is read. -/
theorem grantText_of_get {values : Record} {key text : String} (present : text ≠ "")
    (found : values.get key = .str text) : grantText values key = .ok text := by
  rw [grantText, requiredStr, found]
  exact if_neg present

theorem ApprovalChannel.ofValue_value (channel : ApprovalChannel) :
    ofValue channel.value = .ok channel := by
  cases channel <;> rfl

theorem ApprovalChannel.value_ne_empty (channel : ApprovalChannel) : channel.value ≠ "" := by
  cases channel <;> decide

theorem ApprovalChannel.value_injective {channel other : ApprovalChannel}
    (same : channel.value = other.value) : channel = other := by
  have read := ofValue_value channel
  rw [same, ofValue_value other] at read
  exact (Except.ok.inj read).symm

/-- The time of consumption that is read back is the instant that was written. -/
theorem parseOptional_utc (laws : IsoLaws lib) {t : Option Datetime}
    (inUtc : ∀ u ∈ t, ∃ utc, u.astimezoneUtc lib.toStdlib = .ok utc) :
    ∃ text read, optionalUtcText lib t = .ok text ∧ Json.norm text = text
      ∧ (∀ value, Json.norm value = text → value = text)
      ∧ parseOptionalDatetime lib.toStdlib text = .ok read
      ∧ t.map (·.astimezoneUtc lib.toStdlib) = read.map (·.astimezoneUtc lib.toStdlib) := by
  cases t with
  | none => exact ⟨.null, none, rfl, rfl, fun _ => norm_eq_null.mp, rfl, rfl⟩
  | some t =>
      obtain ⟨utc, moved⟩ := inUtc t rfl
      obtain ⟨-, stays⟩ := astimezoneUtc_ok moved
      have parsed := (parse_isoformat laws (zoned_of_astimezoneUtc moved)).2
      refine ⟨.str (lib.isoformat utc), some utc, ?_, rfl, fun _ => norm_eq_str.mp, ?_, ?_⟩
      · rw [optionalUtcText, utcText, moved]
        rfl
      · rw [parseOptionalDatetime, parsed]
        rfl
      · rw [Option.map_some, Option.map_some, moved, stays]

/-- **Reading back**: from whatever its dictionary is reread as, a payload with the same fields is
read. -/
theorem GrantPayload.fromDict_rereads (laws : IsoLaws lib) {payload : GrantPayload}
    (encodable : payload.Encodable lib) {values document : Record}
    (written : payload.toDict lib = .ok values) (rereads : Rereads document values) :
    ∃ read, fromDict lib.toStdlib document = .ok read ∧ payload.SameFields lib.toStdlib read := by
  obtain ⟨expiresAt, consumedText, expires, consumed, rfl⟩ := toDict_eq_ok.mp written
  have distinct := payload.entries_distinct expiresAt consumedText
  obtain ⟨utc, moved⟩ := encodable.expiry
  obtain ⟨-, stays⟩ := astimezoneUtc_ok moved
  obtain ⟨text, consumedAt, isText, normal, leaf, parsedText, again⟩ :=
    parseOptional_utc laws encodable.consumption
  rw [consumed] at isText
  cases isText
  have isExpiry : expiresAt = .str (lib.isoformat utc) := by
    rw [utcText, moved] at expires
    exact (Except.ok.inj expires).symm
  obtain ⟨nonempty, parsed⟩ := parse_isoformat laws (zoned_of_astimezoneUtc moved)
  have aware : utc.aware = true := (zoned_of_astimezoneUtc moved).2
  -- every field of the document is the one of the dictionary, up to the order of entries
  have get := rereads.get distinct
  have string {key text : String}
      (found : (payload.entries expiresAt consumedText).get key = .str text) :
      Record.get document key = .str text := by
    refine norm_eq_str.mp ?_
    rw [get, found, Json.norm]
  have texts {key text : String} (present : text ≠ "")
      (found : (payload.entries expiresAt consumedText).get key = .str text) :
      grantText document key = .ok text :=
    grantText_of_get present (string found)
  have fields := payload.present
  simp only [List.forall_mem_cons, List.not_mem_nil, false_implies, forall_const,
    and_true] at fields
  obtain ⟨grantId, requestId, sessionId, target, provider, capability, fingerprint, riskFamily,
    signerKeyId⟩ := fields
  have oneTime : document.lookup "one_time" = some (.bool payload.oneTime) := by
    have found := rereads.lookup distinct "one_time"
    obtain ⟨value, isValue, same⟩ := Option.map_eq_some_iff.mp found
    rw [norm_eq_bool.mp same] at isValue
    exact isValue
  obtain ⟨constraints, isConstraints, sameConstraints⟩ : ∃ constraints,
      document.lookup "policy_constraints" = some (.obj constraints)
        ∧ Json.norm (.obj constraints) = Json.norm (.obj payload.policyConstraints) := by
    have found := rereads.lookup distinct "policy_constraints"
    obtain ⟨value, isValue, same⟩ := Option.map_eq_some_iff.mp found
    cases value with
    | obj constraints => exact ⟨constraints, isValue, same⟩
    | null | bool | int | float | str | list => cases same
  have consumedFound : Record.get document "consumed_at" = consumedText :=
    leaf _ ((get "consumed_at").trans normal)
  refine ⟨{ payload with
      expiresAt := utc, consumedAt := consumedAt, policyConstraints := constraints
      expiryAware := aware }, ?_,
    ⟨rfl, rfl, rfl, rfl, rfl, rfl, rfl, rfl, rfl, rfl, moved.trans stays.symm, rfl, again,
      sameConstraints.symm, rfl⟩⟩
  have mapping : grantMapping document "policy_constraints" = .ok constraints := by
    rw [grantMapping, isConstraints]
  have flag : truthy ((document.lookup "one_time").getD (.bool true)) = payload.oneTime := by
    rw [oneTime]
    rfl
  rw [fromDict, texts encodable.version rfl, except_ok_bind, texts grantId rfl, except_ok_bind,
    texts requestId rfl, except_ok_bind, texts sessionId rfl, except_ok_bind, texts target rfl,
    except_ok_bind, texts provider rfl, except_ok_bind, texts capability rfl, except_ok_bind,
    texts fingerprint rfl, except_ok_bind, texts riskFamily rfl, except_ok_bind,
    texts payload.channel.value_ne_empty rfl, except_ok_bind, ApprovalChannel.ofValue_value,
    except_ok_bind, @texts "expires_at" _ nonempty isExpiry, except_ok_bind, parsed, except_ok_bind,
    consumedFound, parsedText, except_ok_bind, mapping, except_ok_bind, texts signerKeyId rfl,
    except_ok_bind, flag]
  rw [dif_pos payload.present, dif_pos aware]
  rfl

/-! ## What the canonical text says -/

/-- A payload that can be encoded has a dictionary. -/
theorem GrantPayload.Encodable.toDict {payload : GrantPayload} (encodable : payload.Encodable lib) :
    ∃ values, payload.toDict lib = .ok values := by
  obtain ⟨utc, moved⟩ := encodable.expiry
  have consumed : ∃ text, optionalUtcText lib payload.consumedAt = .ok text := by
    cases consumed : payload.consumedAt with
    | none => exact ⟨.null, rfl⟩
    | some t =>
        obtain ⟨utc, moved⟩ := encodable.consumption t consumed
        refine ⟨.str (lib.isoformat utc), ?_⟩
        rw [optionalUtcText, utcText, moved]
        rfl
  obtain ⟨text, isText⟩ := consumed
  have expires : utcText lib payload.expiresAt = .ok (.str (lib.isoformat utc)) := by
    rw [utcText, moved]
    rfl
  exact ⟨_, GrantPayload.toDict_eq_ok.mpr ⟨_, text, expires, isText, rfl⟩⟩

/-- **Payloads with the same fields have one canonical text.** -/
theorem GrantPayload.SameFields.canonicalPayload {payload other : GrantPayload}
    (same : payload.SameFields lib.toStdlib other) :
    payload.canonicalPayload lib = other.canonicalPayload lib := by
  have expires : utcText lib payload.expiresAt = utcText lib other.expiresAt := by
    rw [utcText, same.expiresAt]
    rfl
  have consumed : optionalUtcText lib payload.consumedAt = optionalUtcText lib other.consumedAt := by
    rw [optionalUtcText_eq, optionalUtcText_eq, same.consumedAt]
  have texts (expiresAt consumedAt : Json) :
      Json.dumps (.obj (payload.entries expiresAt consumedAt))
        = Json.dumps (.obj (other.entries expiresAt consumedAt)) := by
    rw [Json.dumps_eq_iff, Json.norm_obj, Json.norm_obj, Json.normEntries_eq_map,
      Json.normEntries_eq_map]
    simp only [GrantPayload.entries, List.map_cons, List.map_nil, same.payloadVersion,
      same.grantId, same.requestId, same.sessionId, same.target, same.provider, same.capability,
      same.paramsFingerprint, same.riskFamily, same.channel, same.oneTime, same.policyConstraints,
      same.signerKeyId]
  cases first : utcText lib other.expiresAt with
  | error e =>
      have raised (p : GrantPayload) (expires : utcText lib p.expiresAt = .error e) :
          p.canonicalPayload lib = .error e := by
        rw [GrantPayload.canonicalPayload, GrantPayload.toDict, expires]
        rfl
      rw [raised payload (expires.trans first), raised other first]
  | ok expiresAt =>
      cases second : optionalUtcText lib other.consumedAt with
      | error e =>
          have raised (p : GrantPayload) (expires : utcText lib p.expiresAt = .ok expiresAt)
              (consumed : optionalUtcText lib p.consumedAt = .error e) :
              p.canonicalPayload lib = .error e := by
            rw [GrantPayload.canonicalPayload, GrantPayload.toDict, expires, except_ok_bind,
              consumed]
            rfl
          rw [raised payload (expires.trans first) (consumed.trans second),
            raised other first second]
      | ok consumedAt =>
          rw [GrantPayload.canonicalPayload_of_toDict (GrantPayload.toDict_eq_ok.mpr
              ⟨_, _, expires.trans first, consumed.trans second, rfl⟩),
            GrantPayload.canonicalPayload_of_toDict (GrantPayload.toDict_eq_ok.mpr
              ⟨_, _, first, second, rfl⟩), texts]

/-- **The canonical text binds every field.** -/
theorem GrantPayload.sameFields_of_canonicalPayload (laws : IsoLaws lib)
    {payload other : GrantPayload} (encodable : payload.Encodable lib)
    (encodable' : other.Encodable lib)
    (same : payload.canonicalPayload lib = other.canonicalPayload lib) :
    payload.SameFields lib.toStdlib other := by
  obtain ⟨values, written⟩ := encodable.toDict
  obtain ⟨values', written'⟩ := encodable'.toDict
  rw [canonicalPayload_of_toDict written, canonicalPayload_of_toDict written', Except.ok.injEq,
    Json.dumps_eq_iff] at same
  obtain ⟨expiresAt, consumedAt, expires, consumed, rfl⟩ := toDict_eq_ok.mp written
  obtain ⟨expiresAt', consumedAt', expires', consumed', rfl⟩ := toDict_eq_ok.mp written'
  have rereads : Rereads (payload.entries expiresAt consumedAt)
      (other.entries expiresAt' consumedAt') := ⟨payload.entries_distinct _ _, same⟩
  have get := rereads.get (other.entries_distinct expiresAt' consumedAt')
  have string {key text text' : String}
      (found : (payload.entries expiresAt consumedAt).get key = .str text)
      (found' : (other.entries expiresAt' consumedAt').get key = .str text') : text = text' := by
    have same := get key
    rw [found, found'] at same
    exact Json.str.inj same
  -- the texts of the times are leaves, so they are the same as well
  have expiry : expiresAt = expiresAt' := by
    obtain ⟨utc, -, isText⟩ := except_bind_eq_ok.mp expires
    obtain ⟨utc', -, isText'⟩ := except_bind_eq_ok.mp expires'
    cases isText
    cases isText'
    exact congrArg Json.str (@string "expires_at" _ _ rfl rfl)
  have consumption : consumedAt = consumedAt' := by
    obtain ⟨text, _, isText, normal, leaf, -⟩ := parseOptional_utc laws encodable'.consumption
    rw [consumed'] at isText
    cases isText
    exact leaf _ ((get "consumed_at").trans normal)
  subst expiry consumption
  have oneTime := get "one_time"
  have constraints := get "policy_constraints"
  have channel : payload.channel.value = other.channel.value := @string "channel" _ _ rfl rfl
  exact
    { payloadVersion := @string "payload_version" _ _ rfl rfl
      grantId := @string "grant_id" _ _ rfl rfl
      requestId := @string "request_id" _ _ rfl rfl
      sessionId := @string "session_id" _ _ rfl rfl
      target := @string "target" _ _ rfl rfl
      provider := @string "provider" _ _ rfl rfl
      capability := @string "capability" _ _ rfl rfl
      paramsFingerprint := @string "params_fingerprint" _ _ rfl rfl
      riskFamily := @string "risk_family" _ _ rfl rfl
      channel := ApprovalChannel.value_injective channel
      expiresAt := utcText_inj laws expires expires'
      oneTime := Json.bool.inj oneTime
      consumedAt := optionalUtcText_inj laws consumed consumed'
      policyConstraints := constraints
      signerKeyId := @string "signer_key_id" _ _ rfl rfl }

/-! ## The verdict -/

/-- **Grants with the same fields under one envelope meet one verdict**, in every context. -/
theorem ApprovalGrantVerifier.verify_sameFields {verifier : ApprovalGrantVerifier}
    (reads : verifier.ReadsCanonical lib) {grant other : SignedApprovalGrant}
    (signature : grant.signature = other.signature)
    (algorithm : grant.signatureAlgorithm = other.signatureAlgorithm)
    (same : grant.payload.SameFields lib.toStdlib other.payload)
    (inUtc : ∃ utc, grant.payload.expiresAt.astimezoneUtc lib.toStdlib = .ok utc)
    (context : GrantVerificationContext) :
    verifier.verify grant context = verifier.verify other context := by
  obtain ⟨utc, moved⟩ := inUtc
  have moved' : other.payload.expiresAt.astimezoneUtc lib.toStdlib = .ok utc :=
    same.expiresAt.symm.trans moved
  have expiry : Datetime.ge context.now grant.payload.expiresAt
      = Datetime.ge context.now other.payload.expiresAt := by
    rw [← Datetime.ge_astimezoneUtc grant.payload.expiryAware moved,
      Datetime.ge_astimezoneUtc other.payload.expiryAware moved']
  have marks : grant.payload.consumedAt.isSome = other.payload.consumedAt.isSome := by
    have instants := congrArg Option.isSome same.consumedAt
    rw [Option.isSome_map, Option.isSome_map] at instants
    exact instants
  have result (status : GrantVerificationStatus) (reason : String) :
      resultFor grant.payload status reason = resultFor other.payload status reason := by
    simp only [resultFor, same.requestId, same.grantId, same.signerKeyId]
  have compared : grant.payload.comparisons context = other.payload.comparisons context := by
    simp only [GrantPayload.comparisons, same.requestId, same.sessionId, same.target, same.provider,
      same.capability, same.paramsFingerprint, same.riskFamily]
  unfold verify
  dsimp only
  rw [same.signerKeyId]
  cases trusted : verifier.signers other.payload.signerKeyId with
  | none => exact congrArg Except.ok (result _ _)
  | some signer =>
      have signed : signer grant = signer other :=
        reads _ signer trusted grant other signature algorithm same.signerKeyId
          same.canonicalPayload
      simp only [signed, compared, expiry, marks, result, same.capability, same.oneTime,
        same.channel, same.riskFamily]

/-- What `json.loads` reads of the canonical text is a rereading. -/
theorem rereads_loads {values : Record} (readable : Json.Readable lib.readFloat (.obj values)) :
    ∃ document, Json.loads lib.readFloat (Json.dumps (.obj values)) = some (.obj document)
      ∧ Rereads document values := by
  have loaded := @Json.loads_dumps lib.readFloat (.obj values) readable "" rfl
  rw [String.append_empty] at loaded
  refine ⟨Json.reread values, loaded, ?_, ?_⟩
  · exact (Json.reread_keys_perm values).nodup_iff.mpr readable.1
  · rw [← Json.norm_obj_reread, Json.norm_norm]

/-- A payload's dictionary is one JSON has. -/
theorem GrantPayload.Encodable.readable {payload : GrantPayload}
    (encodable : payload.Encodable lib) {values : Record} (written : payload.toDict lib = .ok values) :
    Json.Readable lib.readFloat (.obj values) := by
  obtain ⟨expiresAt, consumedAt, expires, consumed, rfl⟩ := toDict_eq_ok.mp written
  have text {t : Datetime} {value : Json} (written : utcText lib t = .ok value) :
      Json.Readable lib.readFloat value := by
    obtain ⟨utc, -, same⟩ := except_bind_eq_ok.mp written
    cases same
    trivial
  have consumedText : Json.Readable lib.readFloat consumedAt := by
    cases found : payload.consumedAt with
    | none =>
        rw [found] at consumed
        cases consumed
        trivial
    | some t =>
        rw [found] at consumed
        exact text consumed
  refine ⟨payload.entries_distinct _ _, ?_⟩
  exact ⟨trivial, trivial, trivial, trivial, trivial, trivial, trivial, trivial, trivial, trivial,
    text expires, trivial, consumedText, encodable.constraints, trivial, trivial⟩

end Codec

/-- **The codec of a payload inverts and binds.** From the JSON text of a payload's dictionary, and
from whatever else the dictionary may be reread as, a payload with the same canonical text is read,
which meets the same verdict in every context; and payloads with one canonical text have the same
fifteen fields. -/
theorem grantPayload_codec (lib : AuditLibrary) (laws : IsoLaws lib) (payload : GrantPayload)
    (encodable : payload.Encodable lib) :
    (∃ values, payload.toDict lib = .ok values
      ∧ (∃ document, Json.loads lib.readFloat (Json.dumps (.obj values)) = some (.obj document)
        ∧ Rereads document values)
      ∧ ∀ document, Rereads document values →
        ∃ read, GrantPayload.fromDict lib.toStdlib document = .ok read
          ∧ read.canonicalPayload lib = payload.canonicalPayload lib
          ∧ ∀ verifier : ApprovalGrantVerifier, verifier.ReadsCanonical lib →
            ∀ grant : SignedApprovalGrant, grant.payload = payload →
              ∀ context, verifier.verify { grant with payload := read } context
                = verifier.verify grant context)
      ∧ ∀ other : GrantPayload, other.Encodable lib →
        payload.canonicalPayload lib = other.canonicalPayload lib →
          payload.SameFields lib.toStdlib other := by
  refine ⟨?_, fun other encodable' same =>
    GrantPayload.sameFields_of_canonicalPayload laws encodable encodable' same⟩
  obtain ⟨values, written⟩ := encodable.toDict
  refine ⟨values, written, rereads_loads (encodable.readable written), fun document rereads => ?_⟩
  obtain ⟨read, isRead, same⟩ := GrantPayload.fromDict_rereads laws encodable written rereads
  refine ⟨read, isRead, same.canonicalPayload.symm, ?_⟩
  rintro verifier reads grant rfl context
  exact (@ApprovalGrantVerifier.verify_sameFields lib verifier reads grant
    { grant with payload := read } rfl rfl same encodable.expiry context).symm

namespace Deployment

/-- A keychain that knows one signature of the operator's key. -/
def keychainSigner : KeychainApprovalSigner where
  keyId := "operator-key-1"
  backend := fun keyId message signature =>
    .ok (keyId = "operator-key-1" && message ≠ "" && signature = "signature-of-grant-1")
  signatureAlgorithm := "ed25519"
  keyPresent := by decide

/-- The verifier that trusts it. -/
def keychainVerifier : ApprovalGrantVerifier where
  signers := fun keyId =>
    if keyId = "operator-key-1" then some (keychainSigner.verify isoLibrary) else none

theorem keychainVerifier_reads : keychainVerifier.ReadsCanonical isoLibrary := by
  intro keyId signer trusted
  simp only [keychainVerifier] at trusted
  split_ifs at trusted
  cases trusted
  exact keychainSigner.readsCanonical isoLibrary

theorem signedGrant_encodable : signedGrant.payload.Encodable isoLibrary where
  version := by decide
  expiry := ⟨clockAt 900, rfl⟩
  consumption := fun _ member => nomatch member
  constraints := ⟨List.nodup_nil, trivial⟩

end Deployment

open Deployment in
/-- The operator's grant is read back from its dictionary, and verifies as it did. -/
theorem grantPayload_codec_signedGrant :
    ∃ values read, signedGrant.payload.toDict isoLibrary = .ok values
      ∧ GrantPayload.fromDict isoLibrary.toStdlib values = .ok read
      ∧ ∀ context, keychainVerifier.verify { signedGrant with payload := read } context
        = keychainVerifier.verify signedGrant context := by
  obtain ⟨⟨values, written, -, readBack⟩, -⟩ :=
    grantPayload_codec isoLibrary isoLibrary_laws signedGrant.payload signedGrant_encodable
  obtain ⟨_, _, -, -, same⟩ := GrantPayload.toDict_eq_ok.mp written
  have distinct : (values.map Prod.fst).Nodup := by
    rw [same]
    exact signedGrant.payload.entries_distinct _ _
  obtain ⟨read, isRead, -, verdict⟩ := readBack values ⟨distinct, rfl⟩
  exact ⟨values, read, written, isRead,
    verdict keychainVerifier keychainVerifier_reads signedGrant rfl⟩

end AgenticKVM
