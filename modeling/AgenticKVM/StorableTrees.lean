import AgenticKVM.AuditLog
import AgenticKVM.Lib.JsonLookup

/-! # What a log can store

A tree with strings as keys, each once, is redacted to such a tree, and where `json.dumps` writes it,
it writes what was hashed, in a form that is read back (`jsonSafe_eq_ok`). -/

namespace AgenticKVM

open Lib (Json FloatToken)

/-! ## Trees that can be stored -/

mutual

/-- **A tree that can be stored**: its mappings have strings as keys, each once, and its floats have
a text that is read as the float. Of its leaves, not all need be JSON. -/
def PyValue.Storable (readFloat : FloatToken → FloatToken) : PyValue → Prop
  | .float x => Json.isFloatLiteral x.text.toList = true ∧ readFloat x = x
  | .dict entries => storableEntries readFloat entries
  | .list items | .tuple items => storableItems readFloat items
  | _ => True

/-- Items that can be stored. -/
def PyValue.storableItems (readFloat : FloatToken → FloatToken) : List PyValue → Prop
  | [] => True
  | item :: rest => item.Storable readFloat ∧ storableItems readFloat rest

/-- Entries that can be stored: their keys are distinct texts. -/
def PyValue.storableEntries (readFloat : FloatToken → FloatToken) :
    List (PyValue × PyValue) → Prop
  | [] => True
  | (.str key, value) :: rest =>
      paramGet rest key = Option.none ∧ value.Storable readFloat ∧ storableEntries readFloat rest
  | _ :: _ => False

end

section Storable

variable {readFloat : FloatToken → FloatToken}

mutual

/-- In a tree that can be stored every key is a text. -/
theorem PyValue.Storable.stringKeyed {value : PyValue} (storable : value.Storable readFloat) :
    value.StringKeyed := by
  match value with
  | .none | .bool _ | .int _ | .float _ | .str _ | .bytes _ | .set _ | .object _ _ => trivial
  | .list items | .tuple items => exact PyValue.stringKeyedItems_of_storable storable
  | .dict entries => exact PyValue.stringKeyedEntries_of_storable storable

/-- In items that can be stored every key is a text. -/
theorem PyValue.stringKeyedItems_of_storable {items : List PyValue}
    (storable : storableItems readFloat items) : stringKeyedItems items := by
  match items with
  | [] => trivial
  | item :: rest =>
      exact ⟨storable.1.stringKeyed, PyValue.stringKeyedItems_of_storable storable.2⟩

/-- In entries that can be stored every key is a text. -/
theorem PyValue.stringKeyedEntries_of_storable {entries : Params}
    (storable : storableEntries readFloat entries) : stringKeyedEntries entries := by
  match entries with
  | [] => trivial
  | (.str key, value) :: rest =>
      exact ⟨storable.1, storable.2.1.stringKeyed,
        PyValue.stringKeyedEntries_of_storable storable.2.2⟩

end

/-- A key that is no key of the mapping is not looked up successfully. -/
theorem paramGet_of_notMem {entries : List (String × PyValue)} {key : String}
    (absent : key ∉ entries.map Prod.fst) :
    paramGet (entries.map fun entry => (.str entry.1, entry.2)) key = none := by
  induction entries with
  | nil => rfl
  | cons entry rest ih =>
      rw [List.map_cons, List.mem_cons, not_or] at absent
      rw [List.map_cons, paramGet_cons, if_neg (Ne.symm absent.1), ih absent.2]

/-- The entries of a mapping that can be stored: the keys are distinct and the values can be. -/
structure StorableEntries (readFloat : FloatToken → FloatToken) (entries : List (String × PyValue)) :
    Prop where
  distinct : (entries.map Prod.fst).Nodup
  values : ∀ entry ∈ entries, entry.2.Storable readFloat

/-- A mapping with text keys can be stored exactly where its keys are distinct and its values can be
stored. -/
theorem storable_strDict {entries : List (String × PyValue)} :
    (strDict entries).Storable readFloat ↔ StorableEntries readFloat entries := by
  induction entries with
  | nil => exact iff_of_true trivial ⟨List.nodup_nil, fun _ member => by cases member⟩
  | cons entry rest ih =>
      rw [strDict, PyValue.Storable] at ih ⊢
      rw [List.map_cons, PyValue.storableEntries, ih]
      constructor
      · rintro ⟨absent, here, distinct, later⟩
        exact ⟨List.nodup_cons.mpr ⟨notMem_of_paramGet absent, distinct⟩,
          List.forall_mem_cons.mpr ⟨here, later⟩⟩
      · rintro ⟨distinct, values⟩
        rw [List.map_cons, List.nodup_cons] at distinct
        rw [List.forall_mem_cons] at values
        exact ⟨paramGet_of_notMem distinct.1, values.1, distinct.2, values.2⟩

/-- What is looked up in the entries of an object. -/
theorem paramGet_ofEntries (entries : Record) (key : String) :
    paramGet (PyValue.ofEntries entries) key = (entries.lookup key).map PyValue.ofJson := by
  induction entries with
  | nil => rfl
  | cons entry rest ih =>
      rw [PyValue.ofEntries, paramGet_cons, ih, List.lookup_cons]
      by_cases same : entry.1 = key
      · rw [if_pos same, same, beq_self_eq_true]
        rfl
      · rw [if_neg same, beq_false_of_ne fun equal => same equal.symm]

mutual

/-- A JSON value that can be read back is a tree that can be stored. -/
theorem storable_ofJson {v : Json} (readable : Json.Readable readFloat v) :
    (PyValue.ofJson v).Storable readFloat := by
  match v with
  | .null | .bool _ | .int _ | .str _ => trivial
  | .float x => exact readable
  | .list items => exact storableItems_ofItems readable
  | .obj entries => exact storableEntries_ofEntries readable.1 readable.2

/-- Items that were read can be stored. -/
theorem storableItems_ofItems {items : List Json} (readable : Json.readableItems readFloat items) :
    PyValue.storableItems readFloat (PyValue.ofItems items) := by
  match items with
  | [] => trivial
  | v :: rest => exact ⟨storable_ofJson readable.1, storableItems_ofItems readable.2⟩

/-- Entries that were read can be stored, where no key occurs twice. -/
theorem storableEntries_ofEntries {entries : Record} (distinct : (entries.map Prod.fst).Nodup)
    (readable : Json.readableEntries readFloat entries) :
    PyValue.storableEntries readFloat (PyValue.ofEntries entries) := by
  match entries with
  | [] => trivial
  | (key, v) :: rest =>
      rw [List.map_cons, List.nodup_cons] at distinct
      refine ⟨?_, storable_ofJson readable.1, storableEntries_ofEntries distinct.2 readable.2⟩
      rw [paramGet_ofEntries, Option.map_eq_none_iff, List.lookup_eq_none_iff]
      intro entry member
      rw [bne_iff_ne]
      rintro rfl
      exact distinct.1 (List.mem_map.mpr ⟨entry, member, rfl⟩)

end

/-- Storing a value under a key keeps the keys apart. -/
theorem dictSet_keys (entries : List (String × PyValue)) (key : String) (value : PyValue) :
    (dictSet entries key value).map Prod.fst
      = if key ∈ entries.map Prod.fst then entries.map Prod.fst
        else entries.map Prod.fst ++ [key] := by
  by_cases member : key ∈ entries.map Prod.fst
  · have found : entries.any (fun entry => entry.1 == key) = true := by
      obtain ⟨entry, inside, same⟩ := List.mem_map.mp member
      exact List.any_eq_true.mpr ⟨entry, inside, beq_iff_eq.mpr same⟩
    rw [if_pos member, dictSet, if_pos found, List.map_map]
    refine List.map_congr_left fun entry _ => ?_
    rw [Function.comp_apply]
    split
    · next same => exact (beq_iff_eq.mp same).symm
    · rfl
  · rw [if_neg member, dictSet_of_new member, List.map_append]
    rfl

/-- What is in a dictionary after a value was stored: that value under its key, and under the other
keys what was there before. -/
theorem mem_dictSet {β : Type} {entries : List (String × β)} {key : String} {value : β}
    {entry : String × β} (member : entry ∈ dictSet entries key value) :
    entry = (key, value) ∨ entry ∈ entries ∧ entry.1 ≠ key := by
  unfold dictSet at member
  split at member
  · obtain ⟨old, inside, same⟩ := List.mem_map.mp member
    split at same
    · exact .inl same.symm
    · next other =>
        subst same
        exact .inr ⟨inside, fun equal => other (beq_iff_eq.mpr equal)⟩
  · next absent =>
      rcases List.mem_append.mp member with inside | last
      · refine .inr ⟨inside, fun equal => absent ?_⟩
        exact List.any_eq_true.mpr ⟨entry, inside, beq_iff_eq.mpr equal⟩
      · exact .inl (List.mem_singleton.mp last)

/-- A storable value can be stored under any key. -/
theorem StorableEntries.set {entries : List (String × PyValue)} {key : String} {value : PyValue}
    (storable : StorableEntries readFloat entries) (stored : value.Storable readFloat) :
    StorableEntries readFloat (dictSet entries key value) := by
  refine ⟨?_, fun entry member => ?_⟩
  · rw [dictSet_keys]
    split
    · exact storable.distinct
    · next absent =>
        rw [List.nodup_append']
        refine ⟨storable.distinct, List.nodup_singleton key, ?_⟩
        rw [List.disjoint_singleton]
        exact absent
  · rcases mem_dictSet member with rfl | ⟨inside, -⟩
    · exact stored
    · exact storable.values entry inside

/-- A list of texts can be stored. -/
theorem storable_strList (items : List String) : (strList items).Storable readFloat := by
  rw [strList, PyValue.Storable]
  induction items with
  | nil => trivial
  | cons item rest ih => exact ⟨trivial, ih⟩

end Storable

/-! ## Redacted events

Redaction turns the keys of every mapping into strings, but for the lists under a `redactions` key,
which it leaves as they are. -/

section RedactedEvents

variable {lib : AuditLibrary} {fullCapture : Bool}

mutual

/-- **A tree that can be logged** under a key: what redaction leaves as it is, the items of a list
under a `redactions` key and every float, can be stored. Elsewhere keys are of any type. -/
def PyValue.Loggable (lib : AuditLibrary) (key : String) : PyValue → Prop
  | .float x => Json.isFloatLiteral x.text.toList = true ∧ lib.readFloat x = x
  | .list items | .tuple items =>
      if isRedactionsKey lib.toStdlib key then PyValue.storableItems lib.readFloat items
      else loggableItems lib key items
  | .dict entries => loggableEntries lib entries
  | _ => True

/-- The items of a list under a key can be logged. -/
def PyValue.loggableItems (lib : AuditLibrary) (key : String) : List PyValue → Prop
  | [] => True
  | item :: rest => item.Loggable lib key ∧ loggableItems lib key rest

/-- The values of a mapping can be logged, each under the text of its key. -/
def PyValue.loggableEntries (lib : AuditLibrary) : Params → Prop
  | [] => True
  | (key, value) :: rest =>
      value.Loggable lib (pyStr lib.toStdlib key) ∧ loggableEntries lib rest

end

mutual

/-- A tree that can be stored can be logged under any key. -/
theorem PyValue.Storable.loggable {value : PyValue} (storable : value.Storable lib.readFloat)
    (key : String) : value.Loggable lib key := by
  match value with
  | .none | .bool _ | .int _ | .str _ | .bytes _ | .set _ | .object _ _ => trivial
  | .float x => exact storable
  | .list items | .tuple items =>
      rw [PyValue.Loggable]
      split
      · exact storable
      · exact loggableItems_of_storable storable key
  | .dict entries => exact loggableEntries_of_storable storable

/-- Items that can be stored can be logged. -/
theorem loggableItems_of_storable {items : List PyValue}
    (storable : PyValue.storableItems lib.readFloat items) (key : String) :
    PyValue.loggableItems lib key items := by
  match items with
  | [] => trivial
  | item :: rest =>
      exact ⟨storable.1.loggable key, loggableItems_of_storable storable.2 key⟩

/-- A mapping that can be stored can be logged. -/
theorem loggableEntries_of_storable {entries : Params}
    (storable : PyValue.storableEntries lib.readFloat entries) :
    PyValue.loggableEntries lib entries := by
  match entries with
  | [] => trivial
  | (.str key, value) :: rest =>
      exact ⟨storable.2.1.loggable key, loggableEntries_of_storable storable.2.2⟩

end

/-- A dictionary that is built of values that can be stored can be stored itself. -/
theorem storable_pyDict {entries : List (String × PyValue)}
    (storable : ∀ entry ∈ entries, entry.2.Storable lib.readFloat) :
    (PyValue.dict (pyDict entries)).Storable lib.readFloat := by
  have built (done : List (String × PyValue)) (held : StorableEntries lib.readFloat done) :
      StorableEntries lib.readFloat
        (entries.foldl (fun done entry => dictSet done entry.1 entry.2) done) := by
    induction entries generalizing done with
    | nil => exact held
    | cons entry rest ih =>
        rw [List.forall_mem_cons] at storable
        exact ih storable.2 _ (held.set storable.1)
  exact storable_strDict.mpr (built [] ⟨List.nodup_nil, fun _ member => by cases member⟩)

mutual

/-- **Redaction leaves a tree that can be stored** of one that can be logged. -/
theorem redactValue_loggable {key : String} {value : PyValue} (loggable : value.Loggable lib key)
    (path : String) (fullCapture : Bool) :
    (redactValue lib key path fullCapture value).value.Storable lib.readFloat := by
  match value with
  | .list items =>
      rw [PyValue.Loggable] at loggable
      rw [redactValue]
      split_ifs with kept secret
      · rw [if_pos kept] at loggable
        exact loggable
      · trivial
      · rw [if_neg kept] at loggable
        exact redactItems_loggable loggable path fullCapture 0
  | .tuple items =>
      rw [PyValue.Loggable] at loggable
      rw [redactValue]
      split_ifs with secret kept
      · trivial
      · rw [if_pos kept] at loggable
        exact loggable
      · rw [if_neg kept] at loggable
        exact redactItems_loggable loggable path fullCapture 0
  | .dict entries =>
      rw [redactValue]
      split_ifs
      · trivial
      · refine storable_pyDict (List.forall_mem_map.mpr ?_)
        exact redactEntries_loggable loggable path _
  | .str s =>
      rw [redactValue]
      split_ifs
      · trivial
      · obtain ⟨left, same⟩ := @redactText_value lib key fullCapture s
        rw [same]
        trivial
  | .bytes _ =>
      rw [redactValue]
      split_ifs
      all_goals trivial
  | .none | .bool _ | .int _ | .set _ | .object _ _ | .float _ =>
      simp only [redactValue]
      split_ifs
      exacts [trivial, loggable]

/-- So it does of the items of a list. -/
theorem redactItems_loggable {key : String} {items : List PyValue}
    (loggable : PyValue.loggableItems lib key items) (path : String) (fullCapture : Bool)
    (index : Nat) :
    PyValue.storableItems lib.readFloat
      ((redactItems lib key path fullCapture index items).map Prod.fst) := by
  match items with
  | [] => trivial
  | item :: rest =>
      exact ⟨redactValue_loggable loggable.1 _ fullCapture,
        redactItems_loggable loggable.2 path fullCapture (index + 1)⟩

/-- So it does of the values of a mapping. -/
theorem redactEntries_loggable {entries : Params} (loggable : PyValue.loggableEntries lib entries)
    (path : String) (fullCapture : Bool) :
    ∀ child ∈ redactEntries lib path fullCapture entries,
      child.2.1.Storable lib.readFloat := by
  match entries with
  | [] =>
      intro child member
      cases member
  | (key, value) :: rest =>
      rw [redactEntries, List.forall_mem_cons]
      exact ⟨redactValue_loggable loggable.1 _ fullCapture,
        redactEntries_loggable loggable.2 path fullCapture⟩

end

/-- Redaction leaves a tree that can be stored. -/
theorem redactValue_storable {value : PyValue} (storable : value.Storable lib.readFloat)
    (key path : String) (fullCapture : Bool) :
    (redactValue lib key path fullCapture value).value.Storable lib.readFloat :=
  redactValue_loggable (storable.loggable key) path fullCapture

/-- The entries of a mapping that can be stored are redacted to such entries. -/
theorem redactedEntries_storable {entries : Params}
    (storable : PyValue.storableEntries lib.readFloat entries) (path : String)
    (fullCapture : Bool) :
    (strDict (redactedEntries lib path fullCapture entries)).Storable lib.readFloat := by
  match entries with
  | [] => trivial
  | (.str key, value) :: rest =>
      obtain ⟨absent, here, later⟩ := storable
      have keyed := PyValue.stringKeyedEntries_of_storable later
      rw [redactedEntries_cons]
      refine ⟨?_, redactValue_storable here key _ fullCapture,
        redactedEntries_storable later path fullCapture⟩
      rw [paramGet_redactedEntries keyed, absent]
      rfl

/-- An event whose request, result and approval can be stored. -/
def AuditEvent.Storable (readFloat : FloatToken → FloatToken) (event : AuditEvent) : Prop :=
  ∀ section_, event.request = some section_ ∨ event.result = some section_
    ∨ event.approval = some section_ → (PyValue.dict section_).Storable readFloat

/-- **An event whose request, result and approval can be logged.** -/
def AuditEvent.Loggable (lib : AuditLibrary) (event : AuditEvent) : Prop :=
  ∀ section_, event.request = some section_ ∨ event.result = some section_
    ∨ event.approval = some section_ → PyValue.loggableEntries lib section_

/-- An event that can be stored can be logged. -/
theorem AuditEvent.Storable.loggable {event : AuditEvent}
    (storable : event.Storable lib.readFloat) : event.Loggable lib :=
  fun section_ found => loggableEntries_of_storable (storable section_ found)

/-- The keys of an optional entry. -/
theorem optional_keys {α : Type} (value : Option α) (key : String) (toValue : α → PyValue) :
    List.Sublist ((value.toList.map fun value => (key, toValue value)).map Prod.fst) [key] := by
  cases value
  · exact List.nil_sublist _
  · exact List.Sublist.refl _

/-- The keys of an event are distinct. -/
theorem AuditEvent.toDict_keys (event : AuditEvent) :
    ((event.toDict lib).map Prod.fst).Nodup := by
  have distinct : ["id", "timestamp", "event_type", "correlation_id", "session_id", "actor",
      "capability", "policy_decision", "redactions", "target_id", "approval", "provider",
      "request", "result", "material_risks"].Nodup := by decide
  have risks : List.Sublist
      ((if event.materialRisks.isEmpty then []
        else [("material_risks", strList event.materialRisks)]).map Prod.fst)
      ["material_risks"] := by
    split
    · exact List.nil_sublist _
    · exact List.Sublist.refl _
  rw [AuditEvent.toDict]
  simp only [List.map_append]
  refine distinct.sublist ?_
  exact ((((((List.Sublist.refl
    ["id", "timestamp", "event_type", "correlation_id", "session_id", "actor", "capability",
      "policy_decision", "redactions"]).append
    (optional_keys event.targetId "target_id" .str)).append
    (optional_keys event.approval "approval" .dict)).append
    (optional_keys event.provider "provider" ProviderRef.toDict)).append
    (optional_keys event.request "request" .dict)).append
    (optional_keys event.result "result" .dict)).append risks

/-- A mapping of texts can be stored. -/
theorem storable_texts {entries : List (String × PyValue)} (distinct : (entries.map Prod.fst).Nodup)
    (texts : ∀ entry ∈ entries, (∃ s, entry.2 = .str s) ∨ ∃ b, entry.2 = .bool b) :
    (strDict entries).Storable lib.readFloat := by
  refine storable_strDict.mpr ⟨distinct, fun entry member => ?_⟩
  rcases texts entry member with ⟨_, same⟩ | ⟨_, same⟩
  all_goals rw [same]; trivial

/-- An actor's dictionary can be stored. -/
theorem Actor.storable_toDict (actor : Actor) : actor.toDict.Storable lib.readFloat :=
  storable_texts (show ["type", "id"].Nodup by decide) (by simp)

/-- A capability's dictionary can be stored. -/
theorem CapabilityRef.storable_toDict (capability : CapabilityRef) :
    capability.toDict.Storable lib.readFloat :=
  storable_texts (show ["id", "family", "action"].Nodup by decide) (by simp)

/-- A provider's dictionary can be stored. -/
theorem ProviderRef.storable_toDict (provider : ProviderRef) :
    provider.toDict.Storable lib.readFloat :=
  storable_texts (show ["id", "kind", "is_real_hardware"].Nodup by decide) (by simp)

/-- **Redacted so far**: the keys are distinct, and each value can be stored, or is a section that is
still to be redacted and can be logged. -/
structure RedactedBut (lib : AuditLibrary) (names : List String)
    (entries : List (String × PyValue)) : Prop where
  distinct : (entries.map Prod.fst).Nodup
  values : ∀ entry ∈ entries, entry.2.Storable lib.readFloat ∨ entry.1 ∈ names ∧
    ∃ section_, entry.2 = .dict section_ ∧ PyValue.loggableEntries lib section_

/-- Of an event that can be logged, all but its sections can be stored. -/
theorem AuditEvent.Loggable.toDict {event : AuditEvent} (loggable : event.Loggable lib) :
    RedactedBut lib ["request", "result", "approval"] (event.toDict lib) := by
  refine ⟨event.toDict_keys, ?_⟩
  simp only [AuditEvent.toDict, List.forall_mem_append, List.forall_mem_cons, List.forall_mem_map,
    Option.mem_toList]
  refine ⟨⟨⟨⟨⟨⟨⟨.inl trivial, .inl trivial, .inl trivial, .inl trivial, .inl trivial,
    .inl event.actor.storable_toDict, .inl event.capability.storable_toDict, .inl trivial,
    .inl (storable_strList _), ?_⟩, ?_⟩, ?_⟩, ?_⟩, ?_⟩, ?_⟩, ?_⟩
  · exact fun _ member => by cases member
  · exact fun _ _ => .inl trivial
  · exact fun section_ found =>
      .inr ⟨by simp, section_, rfl, loggable section_ (.inr (.inr found))⟩
  · exact fun provider _ => .inl provider.storable_toDict
  · exact fun section_ found => .inr ⟨by simp, section_, rfl, loggable section_ (.inl found)⟩
  · exact fun section_ found =>
      .inr ⟨by simp, section_, rfl, loggable section_ (.inr (.inl found))⟩
  · intro entry member
    split at member
    · cases member
    · rw [List.mem_singleton.mp member]
      exact .inl (storable_strList _)

/-- Redacting a section makes it one that can be stored. -/
theorem RedactedBut.redactSection {name : String} {names : List String}
    {state : List (String × PyValue) × List String} (held : RedactedBut lib (name :: names) state.1) :
    RedactedBut lib names (AgenticKVM.redactSection lib state name).1 := by
  have others {entry : String × PyValue} (member : entry ∈ state.1) (other : entry.1 ≠ name) :
      entry.2.Storable lib.readFloat ∨ entry.1 ∈ names ∧
        ∃ section_, entry.2 = .dict section_ ∧ PyValue.loggableEntries lib section_ := by
    rcases held.values entry member with stored | ⟨listed, rest⟩
    · exact .inl stored
    · exact .inr ⟨(List.mem_cons.mp listed).resolve_left other, rest⟩
  unfold AgenticKVM.redactSection
  split
  · next values found =>
      have inside : (name, .dict values) ∈ state.1 :=
        (Lib.lookup_eq_some_iff_mem held.distinct).mp found
      have loggable : PyValue.loggableEntries lib values := by
        rcases held.values _ inside with stored | ⟨-, section_, same, loggable⟩
        · exact loggableEntries_of_storable stored
        · cases same
          exact loggable
      refine ⟨?_, fun entry member => ?_⟩
      · rw [dictSet_keys, if_pos (List.mem_map_of_mem inside)]
        exact held.distinct
      · rcases mem_dictSet member with rfl | ⟨before, other⟩
        · refine .inl (storable_pyDict (List.forall_mem_map.mpr ?_))
          exact redactEntries_loggable loggable "" _
        · exact others before other
  · next other =>
      refine ⟨held.distinct, fun entry member => ?_⟩
      by_cases here : entry.1 = name
      · rcases held.values entry member with stored | ⟨-, section_, same, -⟩
        · exact .inl stored
        · -- a section that is there is found
          obtain ⟨_, value⟩ := entry
          cases here
          cases same
          exact absurd ((Lib.lookup_eq_some_iff_mem held.distinct).mpr member) (other section_)
      · exact others member here

/-- **A redacted event can be stored** where the event can be logged. -/
theorem redactedEventPayload_storable {event : AuditEvent} (loggable : event.Loggable lib) :
    StorableEntries lib.readFloat (redactedEventPayload lib event) := by
  have each (names : List String) : ∀ state : List (String × PyValue) × List String,
      RedactedBut lib names state.1 →
      RedactedBut lib [] (names.foldl (redactSection lib) state).1 := by
    induction names with
    | nil => exact fun _ held => held
    | cons name names ih => exact fun state held => ih _ held.redactSection
  have sections := each _ (event.toDict lib, event.redactions) loggable.toDict
  unfold redactedEventPayload
  generalize List.foldl _ _ _ = state at sections ⊢
  refine StorableEntries.set ⟨sections.distinct, fun entry member => ?_⟩ (storable_strList _)
  rcases sections.values entry member with stored | ⟨none, -⟩
  · exact stored
  · cases none

end RedactedEvents

/-! ## Serialisation -/

section Serialisation

variable {std : Stdlib} {readFloat : FloatToken → FloatToken}

mutual

/-- **What is written is what was hashed**, and it can be read back. -/
theorem jsonSafe_eq_ok {value : PyValue} (storable : value.Storable readFloat) {j : Json}
    (safe : jsonSafe value = .ok j) :
    jsonDefaultStr std value = j ∧ Json.Readable readFloat j := by
  match value with
  | .none | .bool _ | .int _ | .str _ =>
      cases safe
      exact ⟨rfl, trivial⟩
  | .float x =>
      cases safe
      exact ⟨rfl, storable⟩
  | .list items | .tuple items =>
      rw [jsonSafe, Lib.except_bind_eq_ok] at safe
      obtain ⟨written, safe, same⟩ := safe
      cases same
      obtain ⟨hashed, readable⟩ := jsonSafeItems_eq_ok storable safe
      exact ⟨by rw [jsonDefaultStr, hashed], readable⟩
  | .dict entries =>
      rw [jsonSafe, Lib.except_bind_eq_ok] at safe
      obtain ⟨written, safe, same⟩ := safe
      cases same
      obtain ⟨hashed, distinct, -, readable⟩ := jsonSafeEntries_eq_ok storable safe
      exact ⟨by rw [jsonDefaultStr, hashed], distinct, readable⟩
  | .bytes _ | .set _ | .object _ _ => cases safe

/-- **Items that can be stored** are written as they are hashed, and can be read again. -/
theorem jsonSafeItems_eq_ok {items : List PyValue}
    (storable : PyValue.storableItems readFloat items) {js : List Json}
    (safe : jsonSafeItems items = .ok js) :
    jsonDefaultStrItems std items = js ∧ Json.readableItems readFloat js := by
  match items with
  | [] =>
      cases safe
      exact ⟨rfl, trivial⟩
  | item :: rest =>
      simp only [jsonSafeItems, Lib.except_bind_eq_ok] at safe
      obtain ⟨first, here, others, later, same⟩ := safe
      cases same
      obtain ⟨hashed, readable⟩ := jsonSafe_eq_ok storable.1 here
      obtain ⟨hashed', readable'⟩ := jsonSafeItems_eq_ok storable.2 later
      exact ⟨by rw [jsonDefaultStrItems, hashed, hashed'], readable, readable'⟩

/-- **Entries that can be stored** are written as they are hashed, under distinct keys and under no
new one, and can be read again. -/
theorem jsonSafeEntries_eq_ok {entries : Params}
    (storable : PyValue.storableEntries readFloat entries) {js : List (String × Json)}
    (safe : jsonSafeEntries entries = .ok js) :
    jsonDefaultStrEntries std entries = js ∧ (js.map Prod.fst).Nodup
      ∧ (∀ key, paramGet entries key = none → key ∉ js.map Prod.fst)
      ∧ Json.readableEntries readFloat js := by
  match entries with
  | [] =>
      cases safe
      exact ⟨rfl, List.nodup_nil, fun _ _ => List.not_mem_nil, trivial⟩
  | (.str key, value) :: rest =>
      obtain ⟨absent, storable, storable'⟩ := storable
      simp only [jsonSafeEntries, jsonKey, Lib.except_bind_eq_ok] at safe
      obtain ⟨_, named, first, here, others, later, same⟩ := safe
      cases named
      cases same
      obtain ⟨hashed, readable⟩ := jsonSafe_eq_ok storable here
      obtain ⟨hashed', distinct, keys, readable'⟩ := jsonSafeEntries_eq_ok storable' later
      refine ⟨by rw [jsonDefaultStrEntries, hashed, hashed']; rfl, ?_, ?_, readable, readable'⟩
      · exact List.nodup_cons.mpr ⟨keys key absent, distinct⟩
      · intro other missing
        rw [paramGet_cons] at missing
        split at missing
        · cases missing
        · next unlike =>
            rw [List.map_cons, List.mem_cons, not_or]
            exact ⟨Ne.symm unlike, keys other missing⟩

end

end Serialisation

end AgenticKVM
