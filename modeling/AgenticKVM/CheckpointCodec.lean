import Mathlib.Data.List.Dedup
import AgenticKVM.ApprovalQueue
import AgenticKVM.JsonPayloads

/-! # Checkpoints as they are stored

A checkpoint is written as a dictionary and read back (`AuditCheckpoint.to_dict`, `from_dict`). Reading
redacts the metadata again, adds the paths that this reports and compares the hash of the outcome, so a
checkpoint is read back exactly where a second redaction finds nothing new (`checkpoint_codec_iff`). -/

namespace AgenticKVM

open Lib (Json FloatToken except_bind_eq_ok except_ok_bind)

/-! ## Sorted sets of texts -/

section SortedSets

theorem mem_sortedSet {items : List String} {item : String} :
    item ∈ sortedSet items ↔ item ∈ items := by
  rw [sortedSet, List.mem_insertionSort, List.mem_dedup]

/-- A sorted set is determined by its members. -/
theorem sortedSet_congr {items others : List String} (same : ∀ item, item ∈ items ↔ item ∈ others) :
    sortedSet items = sortedSet others := by
  have perm : items.dedup.Perm others.dedup := by
    rw [List.perm_ext_iff_of_nodup (List.nodup_dedup _) (List.nodup_dedup _)]
    intro item
    rw [List.mem_dedup, List.mem_dedup, same]
  unfold sortedSet
  exact List.Perm.eq_of_pairwise' (List.pairwise_insertionSort _ _)
    (List.pairwise_insertionSort _ _)
    (((List.perm_insertionSort _ _).trans perm).trans (List.perm_insertionSort _ _).symm)

/-- Adding to a sorted set leaves it as it is exactly where nothing new is added. -/
theorem sortedSet_append_eq_iff {items more : List String} :
    sortedSet (sortedSet items ++ more) = sortedSet items ↔ ∀ item ∈ more, item ∈ items := by
  constructor
  · intro same item member
    rw [← mem_sortedSet, ← same, mem_sortedSet, List.mem_append]
    exact .inr member
  · intro known
    refine sortedSet_congr fun item => ?_
    rw [List.mem_append, mem_sortedSet]
    exact ⟨fun member => member.elim id (known item), .inl⟩

end SortedSets

/-! ## The stored form -/

/-- The number of a checkpoint as JSON. -/
def PyInt.toJson : PyInt → Json
  | .int i => .int i
  | .bool b => .bool b

section Stored

variable {lib : AuditLibrary} {fields : CheckpointFields} {metadata : Record}

/-- What the hash of a checkpoint is taken of, with JSON metadata. -/
def CheckpointFields.hashedRecord (lib : AuditLibrary) (fields : CheckpointFields)
    (metadata : Record) : Record :=
  [("checkpoint_id", .str fields.checkpointId), ("audit_log_id", .str fields.auditLogId),
    ("last_event_index", fields.lastEventIndex.toJson), ("event_count", fields.eventCount.toJson),
    ("last_event_hash", linkValue fields.lastEventHash),
    ("created_at", .str (lib.isoformat fields.createdAt)),
    ("previous_checkpoint_hash", linkValue fields.previousCheckpointHash),
    ("metadata", .obj metadata), ("redactions", .list ((sortedSet fields.redactions).map .str))]

/-- What is stored of a checkpoint with JSON metadata. -/
def CheckpointFields.storedRecord (lib : AuditLibrary) (fields : CheckpointFields)
    (metadata : Record) : Record :=
  fields.hashedRecord lib metadata ++ [("checkpoint_hash", linkValue fields.checkpointHash)]

theorem PyInt.toValue_eq (i : PyInt) : i.toValue = PyValue.ofJson i.toJson := by
  cases i <;> rfl

theorem optionalStr_eq (text : Option String) :
    optionalStr text = PyValue.ofJson (linkValue text) := by
  cases text <;> rfl

/-- The payload of a checkpoint with JSON metadata. -/
theorem unsignedPayload_eq (stored : fields.metadata = PyValue.ofEntries metadata) :
    fields.unsignedPayload lib
      = (fields.hashedRecord lib metadata).map fun entry =>
        (entry.1, PyValue.ofJson entry.2) := by
  rw [CheckpointFields.unsignedPayload, stored, PyInt.toValue_eq, PyInt.toValue_eq, optionalStr_eq,
    optionalStr_eq, ← ofJson_strings]
  rfl

/-- The hash of a checkpoint with JSON metadata. -/
theorem contentHash_eq (stored : fields.metadata = PyValue.ofEntries metadata) :
    fields.contentHash lib
      = lib.sha256 (Json.dumps (.obj (fields.hashedRecord lib metadata))) := by
  have value : strDict (fields.unsignedPayload lib)
      = PyValue.ofJson (.obj (fields.hashedRecord lib metadata)) := by
    rw [unsignedPayload_eq stored, strDict, PyValue.ofJson, ofEntries_eq_map, List.map_map]
    rfl
  rw [CheckpointFields.contentHash, value, hashMapping, jsonDefaultStr_ofJson]

theorem readable_linkValue {readFloat : FloatToken → FloatToken} (hash : Option String) :
    Json.Readable readFloat (linkValue hash) := by
  cases hash <;> trivial

theorem readable_pyInt {readFloat : FloatToken → FloatToken} (i : PyInt) :
    Json.Readable readFloat i.toJson := by
  cases i <;> trivial

/-- The keys of a stored checkpoint are distinct. -/
theorem storedRecord_nodup : ((fields.storedRecord lib metadata).map Prod.fst).Nodup := by
  change ["checkpoint_id", "audit_log_id", "last_event_index", "event_count", "last_event_hash",
    "created_at", "previous_checkpoint_hash", "metadata", "redactions", "checkpoint_hash"].Nodup
  decide

theorem hashedRecord_nodup : ((fields.hashedRecord lib metadata).map Prod.fst).Nodup := by
  have distinct := @storedRecord_nodup lib fields metadata
  rw [CheckpointFields.storedRecord, List.map_append] at distinct
  exact (List.nodup_append.mp distinct).1

/-- What is stored of a checkpoint can be read back. -/
theorem readable_storedRecord (readable : Json.Readable lib.readFloat (.obj metadata)) :
    Json.Readable lib.readFloat (.obj (fields.storedRecord lib metadata)) :=
  ⟨storedRecord_nodup, trivial, trivial, readable_pyInt _, readable_pyInt _, readable_linkValue _,
    trivial, readable_linkValue _, readable, Json.readable_strings _, readable_linkValue _, trivial⟩

/-- **`to_dict`** of a checkpoint with JSON metadata. -/
theorem AuditCheckpoint.toDict_eq {c : AuditCheckpoint lib}
    (stored : c.metadata = PyValue.ofEntries metadata)
    (readable : Json.Readable lib.readFloat (.obj metadata)) :
    c.toDict lib = .ok (Json.reread (c.storedRecord lib metadata)) := by
  refine jsonSafeEntriesOf_json ?_ (readable_storedRecord readable)
  rw [unsignedPayload_eq stored, optionalStr_eq, strDict, PyValue.ofJson, ofEntries_eq_map,
    CheckpointFields.storedRecord, List.map_append, List.map_append, List.map_map]
  rfl

/-- What is read back is written and read back as itself. -/
theorem loads_reread {record : Record} (readable : Json.Readable lib.readFloat (.obj record)) :
    Json.loads lib.readFloat (Json.dumps (.obj (Json.reread record)))
      = some (.obj (Json.reread record)) := by
  have loaded := Json.loads_dumps (Json.readable_reread.mpr readable)
    (show "".toList.all Json.isBlank = true from rfl)
  rw [String.append_empty] at loaded
  rw [loaded, ← Json.norm_obj_reread, Json.norm_norm]

/-- A key of a record, as it is read back. -/
theorem get_reread {record : Record} (distinct : (record.map Prod.fst).Nodup) (key : String) :
    Record.get (Json.reread record) key = Json.norm (record.get key) := by
  rw [Record.get, Json.lookup_reread distinct, Record.get]
  cases record.lookup key <;> rfl

/-- The fields as they are read back: JSON metadata with its entries in order, the hash as the one that
is claimed, and the redactions as a sorted set. -/
def CheckpointFields.readBack (fields : CheckpointFields) (metadata : Record) : CheckpointFields :=
  { fields with
    metadata := PyValue.ofEntries (Json.reread metadata)
    redactions := sortedSet fields.redactions }

/-- **`from_dict`** of a stored checkpoint makes a checkpoint of the fields as they are read back. -/
theorem AuditCheckpoint.fromDict_reread (iso : IsoLaws lib)
    (digest : ∀ text, lib.sha256 text ≠ "") {c : AuditCheckpoint lib}
    (zoned : c.createdAt.Zoned) :
    AuditCheckpoint.fromDict lib (Json.reread (c.storedRecord lib metadata))
      = AuditCheckpoint.new lib (c.toCheckpointFields.readBack metadata) := by
  have get (key : String) : Record.get (Json.reread (c.storedRecord lib metadata)) key
      = Json.norm (Record.get (c.storedRecord lib metadata) key) :=
    get_reread storedRecord_nodup key
  have lookup (key : String) : (Json.reread (c.storedRecord lib metadata)).lookup key
      = ((c.storedRecord lib metadata).lookup key).map Json.norm :=
    Json.lookup_reread storedRecord_nodup key
  have text {key value : String} (present : value ≠ "")
      (found : Record.get (c.storedRecord lib metadata) key = .str value) :
      requiredStr checkpointError (Json.reread (c.storedRecord lib metadata)) key = .ok value := by
    rw [requiredStr, get, found]
    exact if_neg present
  have number {key : String} {i : PyInt}
      (found : Record.get (c.storedRecord lib metadata) key = i.toJson) :
      requiredInt checkpointError (Json.reread (c.storedRecord lib metadata)) key = .ok i := by
    rw [requiredInt, get, found]
    cases i <;> rfl
  have link {key : String} {hash : Option String}
      (found : Record.get (c.storedRecord lib metadata) key = linkValue hash) :
      optionalText (Record.get (Json.reread (c.storedRecord lib metadata)) key) = .ok hash := by
    rw [get, found]
    cases hash <;> rfl
  have time : datetimeFromValue lib.toStdlib
      (Record.get (Json.reread (c.storedRecord lib metadata)) "created_at") = .ok c.createdAt := by
    have inverts := iso.inverts c.createdAt zoned
    have present : lib.isoformat c.createdAt ≠ "" := by
      intro empty
      rw [empty, iso.empty] at inverts
      cases inverts
    rw [get, show Record.get (c.storedRecord lib metadata) "created_at"
      = .str (lib.isoformat c.createdAt) from rfl, Json.norm, datetimeFromValue, if_neg present,
      inverts]
    dsimp only
    rw [if_pos zoned.2]
  have tree : metadataOf (Json.reread (c.storedRecord lib metadata))
      = .ok (PyValue.ofEntries (Json.reread metadata)) := by
    rw [metadataOf, lookup]
    rfl
  have listed : redactionsOf lib.toStdlib (Json.reread (c.storedRecord lib metadata))
      = .ok (sortedSet c.redactions) := by
    rw [redactionsOf, lookup, show (c.storedRecord lib metadata).lookup "redactions"
      = some (.list ((sortedSet c.redactions).map .str)) from rfl, Option.map_some,
      Json.norm_strings]
    dsimp only
    rw [List.map_map]
    exact congrArg Except.ok (List.map_id _)
  have hash : requiredStr checkpointError (Json.reread (c.storedRecord lib metadata))
      "checkpoint_hash" = .ok (c.contentHash lib) := by
    refine text (digest _) ?_
    rw [show Record.get (c.storedRecord lib metadata) "checkpoint_hash"
      = linkValue c.checkpointHash from rfl, c.hashMatches]
    rfl
  rw [AuditCheckpoint.fromDict, text c.idPresent rfl, text c.logIdPresent rfl,
    @number "last_event_index" c.lastEventIndex rfl, @number "event_count" c.eventCount rfl,
    @link "last_event_hash" c.lastEventHash rfl, time,
    @link "previous_checkpoint_hash" c.previousCheckpointHash rfl, tree, hash, listed]
  simp only [except_ok_bind]
  rw [CheckpointFields.readBack, c.hashMatches]

end Stored

/-! ## Reading back -/

/-- **A checkpoint that is stored and read back**: its dictionary is written as JSON, `from_dict`
accepts what is read, and the outcome has the same dictionary and verifies the same logs. -/
def CheckpointRoundTrips (lib : AuditLibrary) (c : AuditCheckpoint lib) : Prop :=
  ∃ payload read c', c.toDict lib = .ok payload
    ∧ Json.loads lib.readFloat (Json.dumps (.obj payload)) = some (.obj read)
    ∧ AuditCheckpoint.fromDict lib read = .ok c' ∧ c'.toDict lib = .ok payload
    ∧ ∀ file, verifyAuditCheckpoint lib file c' = verifyAuditCheckpoint lib file c

/-- **Metadata that a second redaction leaves as it is**, with all the paths that are reported then
listed already. -/
structure Restorable (lib : AuditLibrary) (redactions : List String) (metadata : Record) :
    Prop where
  settled : settledEntries lib
    (mappingFullCapture lib.toStdlib (PyValue.ofEntries metadata) false) metadata
  listed : ∀ path ∈ (redactMapping lib (PyValue.ofEntries metadata) none).2,
    "metadata." ++ path ∈ redactions

section Codec

variable {lib : AuditLibrary} {metadata : Record}

/-- An object is left as it is by redaction exactly where it is settled. -/
theorem norm_redactedRecord_iff (readable : Json.Readable lib.readFloat (.obj metadata)) :
    Json.norm (.obj (redactedRecord lib metadata)) = Json.norm (.obj metadata)
      ↔ settledEntries lib
        (mappingFullCapture lib.toStdlib (PyValue.ofEntries metadata) false) metadata := by
  rw [← normEntries_redactJson_iff metadata readable.2, Json.norm_obj, Json.norm_obj, Json.obj.injEq]
  refine ⟨Json.sortEntries_inj ?_ ?_, congrArg Json.sortEntries⟩
  · rw [Json.normEntries_eq_map, Json.normEntries_eq_map, List.map_map, List.map_map]
    exact redactJsonEntries_keys _ metadata
  · rw [Json.normEntries_eq_map, List.map_map]
    exact readable.1

/-- The hashed content depends on the metadata up to the order of entries and on the set of
redactions. -/
theorem normEntries_hashedRecord {fields : CheckpointFields} {redactions redactions' : List String}
    {metadata' : Record} (tree : Json.norm (.obj metadata) = Json.norm (.obj metadata'))
    (listed : sortedSet redactions = sortedSet redactions') :
    Json.normEntries ({ fields with redactions := redactions }.hashedRecord lib metadata)
      = Json.normEntries ({ fields with redactions := redactions' }.hashedRecord lib metadata') := by
  rw [CheckpointFields.hashedRecord, CheckpointFields.hashedRecord, listed]
  simp only [Json.normEntries_eq_map, List.map_cons, List.map_nil]
  rw [tree]

/-- The hashed content determines the metadata and the set of redactions. -/
theorem norm_hashedRecord_iff {fields : CheckpointFields} {redactions redactions' : List String}
    {metadata' : Record} :
    Json.norm (.obj ({ fields with redactions := redactions }.hashedRecord lib metadata))
        = Json.norm (.obj ({ fields with redactions := redactions' }.hashedRecord lib metadata'))
      ↔ Json.norm (.obj metadata) = Json.norm (.obj metadata')
        ∧ sortedSet redactions = sortedSet redactions' := by
  constructor
  · intro same
    have entries : Json.reread ({ fields with redactions := redactions }.hashedRecord lib metadata)
        = Json.reread ({ fields with redactions := redactions' }.hashedRecord lib metadata') :=
      Json.obj.inj same
    have key (name : String) :
        (({ fields with redactions := redactions }.hashedRecord lib metadata).lookup name).map
            Json.norm
          = (({ fields with redactions := redactions' }.hashedRecord lib metadata').lookup name).map
            Json.norm := by
      rw [← Json.lookup_reread hashedRecord_nodup, ← Json.lookup_reread hashedRecord_nodup, entries]
    have tree := key "metadata"
    have listed := key "redactions"
    refine ⟨Option.some.inj tree, ?_⟩
    have texts : Json.norm (.list ((sortedSet redactions).map .str))
        = Json.norm (.list ((sortedSet redactions').map .str)) := Option.some.inj listed
    rw [Json.norm_strings, Json.norm_strings, Json.list.injEq] at texts
    exact List.map_injective_iff.mpr (fun _ _ => Json.str.inj) texts
  · rintro ⟨tree, listed⟩
    rw [Json.norm_obj, Json.norm_obj, normEntries_hashedRecord tree listed]

variable {c : AuditCheckpoint lib}

/-- What is read back is redacted to JSON metadata again. -/
theorem redactedMetadata_readBack (fields : CheckpointFields)
    (readable : Json.Readable lib.readFloat (.obj metadata)) :
    (fields.readBack metadata).redactedMetadata lib =
      { fields with
        metadata := PyValue.ofEntries (redactedRecord lib (Json.reread metadata))
        redactions := sortedSet fields.redactions
          ++ (redactMapping lib (PyValue.ofEntries (Json.reread metadata)) none).2.map
            fun path => "metadata." ++ path } := by
  rw [← redactMapping_record (Json.readable_reread.mpr readable)]
  rfl

/-- Fields that pass the other checks make a checkpoint exactly where no hash is claimed or the one of
the content. -/
theorem AuditCheckpoint.new_isOk_iff {given : CheckpointFields} (id : given.checkpointId ≠ "")
    (logId : given.auditLogId ≠ "") (count : ¬ given.eventCount.value < 0)
    (index : ¬ given.lastEventIndex.value ≠ given.eventCount.value - 1)
    (empty : ¬ (given.eventCount.value = 0 ∧ given.lastEventHash ≠ none))
    (present : ¬ (0 < given.eventCount.value
      ∧ (given.lastEventHash = none ∨ given.lastEventHash = some ""))) :
    (∃ c, AuditCheckpoint.new lib given = .ok c) ↔ given.checkpointHash = none
      ∨ given.checkpointHash = some ((given.redactedMetadata lib).contentHash lib) := by
  rw [AuditCheckpoint.new, dif_neg id, dif_neg logId, dif_neg count, dif_neg index, dif_neg empty,
    dif_neg present]
  dsimp only
  split_ifs with accepted
  · exact iff_of_true ⟨_, rfl⟩ accepted
  · refine iff_of_false ?_ accepted
    rintro ⟨_, made⟩
    cases made

/-- Fields that are read back make a checkpoint exactly where their content has the hash. -/
theorem new_readBack_isOk_iff :
    (∃ c', AuditCheckpoint.new lib (c.toCheckpointFields.readBack metadata) = .ok c')
      ↔ ((c.toCheckpointFields.readBack metadata).redactedMetadata lib).contentHash lib
        = c.contentHash lib := by
  -- the checks before the hash are those the checkpoint has passed
  have checked := @AuditCheckpoint.new_isOk_iff lib (c.toCheckpointFields.readBack metadata)
    c.idPresent c.logIdPresent (not_lt.mpr c.countNonneg) (not_not.mpr c.indexMatches)
    (fun ⟨zero, hash⟩ => hash (c.emptyHash zero))
    (fun ⟨positive, absent⟩ => not_or.mpr (c.hashPresent positive) absent)
  have claimed : (c.toCheckpointFields.readBack metadata).checkpointHash
      = some (c.contentHash lib) := c.hashMatches
  rw [checked, claimed, Option.some.injEq]
  exact ⟨fun accepted => (accepted.resolve_left nofun).symm, fun same => .inr same.symm⟩

/-- A second redaction keeps the content exactly where the metadata is restorable, if SHA-256 has no
collisions; where it is restorable, in any case. -/
theorem contentHash_readBack (stored : c.metadata = PyValue.ofEntries metadata)
    (readable : Json.Readable lib.readFloat (.obj metadata)) :
    (Restorable lib c.redactions (Json.reread metadata) →
      ((c.toCheckpointFields.readBack metadata).redactedMetadata lib).contentHash lib
        = c.contentHash lib)
    ∧ (Function.Injective lib.sha256 →
      ((c.toCheckpointFields.readBack metadata).redactedMetadata lib).contentHash lib
        = c.contentHash lib → Restorable lib c.redactions (Json.reread metadata)) := by
  have readable' := Json.readable_reread.mpr readable
  have again := redactedMetadata_readBack c.toCheckpointFields readable
  have hash := @contentHash_eq lib
    ((c.toCheckpointFields.readBack metadata).redactedMetadata lib)
    (redactedRecord lib (Json.reread metadata)) (congrArg CheckpointFields.metadata again)
  have content : Json.norm (.obj (((c.toCheckpointFields.readBack metadata).redactedMetadata
        lib).hashedRecord lib (redactedRecord lib (Json.reread metadata))))
      = Json.norm (.obj (c.hashedRecord lib metadata))
      ↔ Restorable lib c.redactions (Json.reread metadata) := by
    have iff := @norm_hashedRecord_iff lib (redactedRecord lib (Json.reread metadata))
      c.toCheckpointFields (sortedSet c.redactions ++ (redactMapping lib
        (PyValue.ofEntries (Json.reread metadata)) none).2.map fun path => "metadata." ++ path)
      c.redactions metadata
    rw [again]
    refine iff.trans ?_
    rw [sortedSet_append_eq_iff, List.forall_mem_map, ← Json.norm_norm (.obj metadata),
      Json.norm_obj_reread metadata, norm_redactedRecord_iff readable']
    exact ⟨fun ⟨settled, listed⟩ => ⟨settled, listed⟩, fun ⟨settled, listed⟩ => ⟨settled, listed⟩⟩
  rw [hash, contentHash_eq stored]
  refine ⟨fun restorable => ?_, fun injective same => ?_⟩
  · rw [(Json.dumps_eq_iff _ _).mpr (content.mpr restorable)]
  · exact content.mp ((Json.dumps_eq_iff _ _).mp (injective same))

/-- What is made of fields that are read back, where a second redaction keeps the content. -/
theorem fields_of_readBack (readable : Json.Readable lib.readFloat (.obj metadata))
    {c' : AuditCheckpoint lib}
    (made : AuditCheckpoint.new lib (c.toCheckpointFields.readBack metadata) = .ok c') :
    c'.toCheckpointFields =
      { c.toCheckpointFields with
        metadata := PyValue.ofEntries (redactedRecord lib (Json.reread metadata))
        redactions := sortedSet c.redactions
          ++ (redactMapping lib (PyValue.ofEntries (Json.reread metadata)) none).2.map
            fun path => "metadata." ++ path } := by
  have same := new_readBack_isOk_iff.mp ⟨c', made⟩
  rw [AuditCheckpoint.new_eq_ok made, same, redactedMetadata_readBack _ readable, ← c.hashMatches]

/-- Where the metadata is restorable, what is read back has the same dictionary. -/
theorem reread_storedRecord (readable : Json.Readable lib.readFloat (.obj metadata))
    (restorable : Restorable lib c.redactions (Json.reread metadata)) {c' : AuditCheckpoint lib}
    (made : AuditCheckpoint.new lib (c.toCheckpointFields.readBack metadata) = .ok c') :
    Json.reread (c'.storedRecord lib (redactedRecord lib (Json.reread metadata)))
      = Json.reread (c.storedRecord lib metadata) := by
  have tree := (norm_redactedRecord_iff (Json.readable_reread.mpr readable)).mpr restorable.settled
  rw [← Json.norm_obj_reread, Json.norm_norm] at tree
  have listed : sortedSet (sortedSet c.redactions
        ++ (redactMapping lib (PyValue.ofEntries (Json.reread metadata)) none).2.map
          fun path => "metadata." ++ path)
      = sortedSet c.redactions :=
    sortedSet_append_eq_iff.mpr (List.forall_mem_map.mpr restorable.listed)
  have content := @normEntries_hashedRecord lib _ c.toCheckpointFields _ _ _ tree listed
  have entries (fields : CheckpointFields) (metadata : Record) :
      Json.normEntries (fields.storedRecord lib metadata)
        = Json.normEntries (fields.hashedRecord lib metadata)
          ++ [("checkpoint_hash", Json.norm (linkValue fields.checkpointHash))] := by
    rw [CheckpointFields.storedRecord, Json.normEntries_eq_map, Json.normEntries_eq_map,
      List.map_append]
    rfl
  refine congrArg Json.sortEntries ?_
  rw [entries, entries, fields_of_readBack readable made]
  exact congrArg (· ++ _) content

/-- A verification depends on the counts, the last hash and the identifiers. -/
theorem verifyAuditCheckpoint_congr {c c' : AuditCheckpoint lib}
    (id : c'.checkpointId = c.checkpointId) (logId : c'.auditLogId = c.auditLogId)
    (index : c'.lastEventIndex = c.lastEventIndex) (count : c'.eventCount = c.eventCount)
    (hash : c'.lastEventHash = c.lastEventHash) (file : LogFile) :
    verifyAuditCheckpoint lib file c' = verifyAuditCheckpoint lib file c := by
  simp only [verifyAuditCheckpoint, checkedCheckpoint, verification, id, logId, index, count, hash]

/-- What is read back was restorable, if SHA-256 has no collisions. -/
theorem restorable_of_roundTrips (iso : IsoLaws lib) (digest : ∀ text, lib.sha256 text ≠ "")
    (stored : c.metadata = PyValue.ofEntries metadata)
    (readable : Json.Readable lib.readFloat (.obj metadata)) (zoned : c.createdAt.Zoned)
    (injective : Function.Injective lib.sha256) (roundTrips : CheckpointRoundTrips lib c) :
    Restorable lib c.redactions (Json.reread metadata) := by
  obtain ⟨payload, read, c', written, reads, accepted, -⟩ := roundTrips
  cases (AuditCheckpoint.toDict_eq stored readable).symm.trans written
  cases (loads_reread (readable_storedRecord readable)).symm.trans reads
  rw [AuditCheckpoint.fromDict_reread iso digest zoned] at accepted
  exact (contentHash_readBack stored readable).2 injective (new_readBack_isOk_iff.mp ⟨c', accepted⟩)

end Codec

/-- **When a checkpoint can be read back**: where a second redaction of its metadata leaves it as it is
and reports no path that is not listed; and, if SHA-256 has no collisions, only there. -/
theorem checkpoint_codec (lib : AuditLibrary) (iso : IsoLaws lib)
    (digest : ∀ text, lib.sha256 text ≠ "") {c : AuditCheckpoint lib} {metadata : Record}
    (stored : c.metadata = PyValue.ofEntries metadata)
    (readable : Json.Readable lib.readFloat (.obj metadata)) (zoned : c.createdAt.Zoned) :
    (Restorable lib c.redactions (Json.reread metadata) → CheckpointRoundTrips lib c)
    ∧ (Function.Injective lib.sha256 → CheckpointRoundTrips lib c →
      Restorable lib c.redactions (Json.reread metadata)) := by
  have dict := AuditCheckpoint.toDict_eq stored readable
  have loaded := loads_reread (@readable_storedRecord lib c.toCheckpointFields metadata readable)
  have parsed := @AuditCheckpoint.fromDict_reread lib metadata iso digest c zoned
  constructor
  · intro restorable
    obtain ⟨c', made⟩ := new_readBack_isOk_iff.mpr
      ((contentHash_readBack stored readable).1 restorable)
    have fields := fields_of_readBack readable made
    have dict' := @AuditCheckpoint.toDict_eq lib (redactedRecord lib (Json.reread metadata)) c'
      (congrArg CheckpointFields.metadata fields)
      (readable_redactedRecord (Json.readable_reread.mpr readable))
    rw [reread_storedRecord readable restorable made] at dict'
    exact ⟨_, _, c', dict, loaded, parsed.trans made, dict',
      verifyAuditCheckpoint_congr (by rw [fields]) (by rw [fields]) (by rw [fields])
        (by rw [fields]) (by rw [fields])⟩
  · exact fun injective => restorable_of_roundTrips iso digest stored readable zoned injective

namespace Deployment

/-- A checkpoint of an empty log with metadata. -/
def emptyCheckpoint (metadata : Record) : CheckpointFields where
  checkpointId := "checkpoint-1"
  auditLogId := "audit-log"
  lastEventIndex := .int (-1)
  eventCount := .int 0
  lastEventHash := none
  createdAt := clockAt 0
  previousCheckpointHash := none
  metadata := PyValue.ofEntries metadata
  checkpointHash := none
  redactions := []

/-- The checkpoint is made, with its metadata redacted. -/
theorem emptyCheckpoint_isOk {metadata : Record}
    (readable : Json.Readable isoLibrary.readFloat (.obj metadata)) :
    ∃ c, AuditCheckpoint.new isoLibrary (emptyCheckpoint metadata) = .ok c
      ∧ c.metadata = PyValue.ofEntries (redactedRecord isoLibrary metadata)
      ∧ c.redactions = (redactMapping isoLibrary (PyValue.ofEntries metadata) none).2.map
        (fun path => "metadata." ++ path)
      ∧ c.createdAt.Zoned := by
  have checked := @AuditCheckpoint.new_isOk_iff isoLibrary (emptyCheckpoint metadata)
    (show "checkpoint-1" ≠ "" by decide) (show "audit-log" ≠ "" by decide)
    (show ¬ (0 : Int) < 0 by decide) (show ¬ (-1 : Int) ≠ 0 - 1 by decide)
    (fun ⟨_, hash⟩ => hash rfl) (fun ⟨positive, _⟩ => lt_irrefl (0 : Int) positive)
  obtain ⟨c, made⟩ := checked.mpr (.inl rfl)
  have fields := AuditCheckpoint.new_eq_ok made
  refine ⟨c, made, ?_, ?_, ?_⟩
  · rw [fields, ← redactMapping_record readable]
    rfl
  · rw [fields]
    rfl
  · have zoned : (clockAt 0).Zoned :=
      ⟨⟨by decide, by decide, fun offset same => by cases same; decide⟩, rfl⟩
    rw [fields]
    exact zoned

/-- Metadata with a code in it. -/
def codeMetadata : Record := [("pin", .int 7)]

/-- Metadata that declares full capture, with a text that looks like a secret only once another part of
it is stripped. -/
def capturedMetadata : Record :=
  [("full_capture", .bool true),
    ("text", .str "aaaaaaaaaaaaaaaaaaa1 0123456789abcdef0123456789abcdef")]

end Deployment

/-- A checkpoint with a code in its metadata is read back. -/
theorem checkpoint_codec_codeMetadata :
    ∃ c, AuditCheckpoint.new Deployment.isoLibrary
        (Deployment.emptyCheckpoint Deployment.codeMetadata) = .ok c
      ∧ CheckpointRoundTrips Deployment.isoLibrary c := by
  have readable : Json.Readable Deployment.isoLibrary.readFloat (.obj Deployment.codeMetadata) :=
    ⟨List.nodup_singleton _, trivial, trivial⟩
  have secret : isSecretKey Deployment.isoLibrary.toStdlib "pin" = true := by decide +kernel
  obtain ⟨c, made, stored, listed, zoned⟩ := Deployment.emptyCheckpoint_isOk readable
  refine ⟨c, made, (checkpoint_codec Deployment.isoLibrary Deployment.isoLibrary_laws
    Deployment.sha256_ne_empty stored (readable_redactedRecord readable) zoned).1 ?_⟩
  have left : Json.reread (redactedRecord Deployment.isoLibrary Deployment.codeMetadata)
      = [("pin", .str redactedMark)] := by
    simp only [redactedRecord, Deployment.codeMetadata, redactJsonEntries, redactJson, secret, if_true]
    rfl
  rw [left, listed]
  refine ⟨⟨?_, trivial⟩, ?_⟩
  · rw [Settled, if_pos secret]
  · decide +kernel

/-- A checkpoint whose metadata declares full capture can be written and not read back: stripping the
text that is left strips more. -/
theorem not_checkpointRoundTrips :
    ∃ c metadata, AuditCheckpoint.new Deployment.isoLibrary
        (Deployment.emptyCheckpoint Deployment.capturedMetadata) = .ok c
      ∧ c.metadata = PyValue.ofEntries metadata
      ∧ Json.Readable Deployment.isoLibrary.readFloat (.obj metadata) ∧ c.createdAt.Zoned
      ∧ ¬ CheckpointRoundTrips Deployment.isoLibrary c := by
  have readable :
      Json.Readable Deployment.isoLibrary.readFloat (.obj Deployment.capturedMetadata) := by
    refine ⟨?_, trivial, trivial, trivial⟩
    change ["full_capture", "text"].Nodup
    decide
  obtain ⟨c, made, stored, -, zoned⟩ := Deployment.emptyCheckpoint_isOk readable
  refine ⟨c, _, made, stored, readable_redactedRecord readable, zoned, fun roundTrips => ?_⟩
  have restorable := restorable_of_roundTrips Deployment.isoLibrary_laws Deployment.sha256_ne_empty
    stored (readable_redactedRecord readable) zoned Deployment.sha256_injective roundTrips
  have plain : isSecretKey Deployment.isoLibrary.toStdlib "full_capture" = false
      ∧ isSecretKey Deployment.isoLibrary.toStdlib "text" = false
      ∧ isHidTextKey Deployment.isoLibrary.toStdlib "text" = true := by
    decide +kernel
  obtain ⟨posture, text, typed⟩ := plain
  have left : Json.reread (redactedRecord Deployment.isoLibrary Deployment.capturedMetadata)
      = [("full_capture", .bool true), ("text", .str (stripSecretText Deployment.isoLibrary
        "aaaaaaaaaaaaaaaaaaa1 0123456789abcdef0123456789abcdef"))] := by
    simp only [redactedRecord, Deployment.capturedMetadata, redactJsonEntries, redactJson,
      posture, text, leftText, typed, if_true, Bool.false_eq_true, if_false]
    rfl
  obtain ⟨-, settled, -⟩ := left ▸ restorable.settled
  rw [Settled, text, typed, if_neg Bool.false_ne_true, if_pos rfl] at settled
  revert settled
  decide +kernel

end AgenticKVM
