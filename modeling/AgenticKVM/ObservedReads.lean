import AgenticKVM.ObservedPayloads
import AgenticKVM.RedfishEvidence
import AgenticKVM.StoredRedaction

/-! # What the read transports return

Everything the PiKVM and Redfish read transports return is a redacted payload, or is put together
from parts of redacted payloads, except the `Id` of a log service. So a sensitive entry of what they
return is hidden exactly where its list is covered, and below that `Id` only where it is the mark
(`observed_covers_iff`). -/

namespace AgenticKVM

open Lib (Json)
open Lib.CachedM (direct)
open LiveRedfishReadTransport

section Returned

variable {lib : AuditLibrary}

/-! ## PiKVM -/

/-- A redacted mapping is a mapping. -/
theorem dict_redactPikvmObserveMapping (lower : lib.lower "" = "") {payload : Params}
    (keyed : PyValue.stringKeyedEntries payload) :
    PyValue.dict (redactPikvmObserveMapping lib payload)
      = redactPikvmObservePayload lib (.dict payload) := by
  have mapping : ∃ redacted, redactPikvmObservePayload lib (.dict payload) = .dict redacted := by
    rw [redactPikvmObservePayload_dict keyed, redactValue, isSecretKey_empty lower]
    exact ⟨_, rfl⟩
  obtain ⟨redacted, same⟩ := mapping
  rw [redactPikvmObserveMapping, same]

/-- What both PiKVM transports return of a payload is the redacted payload. -/
theorem observedMapping_eq_ok {payload : List (String × Json)} {required : List String}
    {returned : Params} (observed : observedMapping lib payload required = .ok returned) :
    returned = redactPikvmObserveMapping lib (PyValue.ofEntries payload) := by
  obtain ⟨_, -, same⟩ := Lib.except_bind_eq_ok.mp observed
  exact (Except.ok.inj same).symm

/-- The check for raw bytes returns the payload it is given. -/
theorem withoutRawBytes_eq_ok {message : String} {payload returned : Params}
    (checked : withoutRawBytes message payload = .ok returned) : returned = payload := by
  unfold withoutRawBytes at checked
  split at checked
  · cases checked
  · exact (Except.ok.inj checked).symm

/-- **What the live transport returns** is the redacted payload of the operation's path. -/
theorem PiKVMLiveRead.run_eq_ok {served : ServedResources} {operation : PiKVMLiveRead}
    {returned : Params} (ran : operation.run lib served = .ok returned) :
    ∃ payload, served operation.request.1 = .ok payload
      ∧ returned = redactPikvmObserveMapping lib (PyValue.ofEntries payload) := by
  obtain ⟨read, isRead, same⟩ := Lib.except_bind_eq_ok.mp ran
  have same : returned = read := by
    split_ifs at same
    · exact withoutRawBytes_eq_ok same
    · exact (Except.ok.inj same).symm
  unfold PiKVMLiveRead.getMapping at isRead
  split at isRead
  · next payload found => exact ⟨payload, found, same.trans (observedMapping_eq_ok isRead)⟩
  · cases isRead
  · cases isRead

/-- **What the fixture transport returns** is the redacted payload of the operation's route. -/
theorem PiKVMFakeRead.run_eq_ok {routes : FakeRoutes} {operation : PiKVMFakeRead}
    {returned : Params} (ran : operation.run lib routes = .ok returned) :
    ∃ payload, routes.body operation.request.1 = some payload
      ∧ returned = redactPikvmObserveMapping lib (PyValue.ofEntries payload) := by
  obtain ⟨read, isRead, same⟩ := Lib.except_bind_eq_ok.mp ran
  have same : returned = read := by
    split_ifs at same
    · exact withoutRawBytes_eq_ok same
    · exact (Except.ok.inj same).symm
  unfold PiKVMFakeRead.getMapping at isRead
  split_ifs at isRead
  · split at isRead
    · cases isRead
    · next payload found =>
        obtain ⟨_, -, observed⟩ := Lib.except_bind_eq_ok.mp isRead
        exact ⟨payload, found, same.trans (observedMapping_eq_ok observed)⟩
  · cases isRead

/-- A mapping that is redacted is covered exactly where its lists are. -/
theorem covers_redactPikvmObserveMapping (lower : lib.lower "" = "")
    {payload : List (String × Json)}
    (readable : Json.Readable lib.readFloat (.obj payload)) :
    CoversSensitive lib.toStdlib (.dict (PyValue.ofEntries payload))
        (.dict (redactPikvmObserveMapping lib (PyValue.ofEntries payload)))
      ↔ ListsCovered lib (.dict (PyValue.ofEntries payload)) := by
  have keyed := PyValue.stringKeyedEntries_of_storable
    (storableEntries_ofEntries readable.1 readable.2)
  rw [dict_redactPikvmObserveMapping lower keyed]
  exact observePayload_covers_iff lower readable

/-! ## Parts of payloads -/

/-- **A covered part**: where it stands in a payload, each sensitive entry of it is hidden in what
is returned of it exactly where it is covered. -/
def PartCovered (lib : AuditLibrary) (part returned : PyValue) : Prop :=
  ∀ path k hidden, isMaskedKey lib.toStdlib k = true → part.at (path ++ [.key k]) = some hidden →
    (MaskedAt returned (path ++ [.key k]) ↔ EntryCovered lib part path k hidden)

/-- A redacted payload is a covered part. -/
theorem partCovered_mapping (lower : lib.lower "" = "") {payload : List (String × Json)}
    (readable : Json.Readable lib.readFloat (.obj payload)) :
    PartCovered lib (.dict (PyValue.ofEntries payload))
      (.dict (redactPikvmObserveMapping lib (PyValue.ofEntries payload))) := by
  intro path k hidden masked found
  have keyed := PyValue.stringKeyedEntries_of_storable
    (storableEntries_ofEntries readable.1 readable.2)
  rw [dict_redactPikvmObserveMapping lower keyed]
  exact maskedAt_iff_covered lower readable masked found

/-- What is hidden below a key of a mapping is hidden in the value under the key. -/
theorem maskedAt_child {value child : PyValue} {step : PathStep} {rest : List PathStep}
    (found : value.child step = some child) (container : value ≠ .str redactedMark) :
    MaskedAt value (step :: rest) ↔ MaskedAt child rest := by
  constructor
  · rintro ⟨p, before, mark⟩
    cases p with
    | nil => exact absurd (Option.some.inj mark) container
    | cons step' p =>
        obtain ⟨same, before⟩ := List.cons_prefix_cons.mp before
        rw [PyValue.at, same, found] at mark
        exact ⟨p, before, mark⟩
  · rintro ⟨p, before, mark⟩
    refine ⟨step :: p, List.cons_prefix_cons.mpr ⟨rfl, before⟩, ?_⟩
    rw [PyValue.at, found]
    exact mark

/-- The value under an open key of a covered part is one. -/
theorem PartCovered.child {part returned inner innerReturned : PyValue} {key : String}
    (covered : PartCovered lib part returned) (openKey : OpenKey lib.toStdlib key)
    (found : part.child (.key key) = some inner)
    (found' : returned.child (.key key) = some innerReturned) :
    PartCovered lib inner innerReturned := by
  intro path k hidden masked isHidden
  have below : part.at (.key key :: path ++ [.key k]) = some hidden := by
    rw [List.cons_append, PyValue.at, found]
    exact isHidden
  have whole := covered (.key key :: path) k hidden masked below
  have container : returned ≠ .str redactedMark := by
    rintro rfl
    cases found'
  rw [entryCovered_child openKey found, List.cons_append, maskedAt_child found' container] at whole
  exact whole

/-- A text has no entries. -/
theorem at_text (s : String) (path : List PathStep) (k : String) :
    (PyValue.str s).at (path ++ [.key k]) = none := by
  cases path with
  | nil => rfl
  | cons step rest => cases step <;> rfl

/-- A list of texts has no entries. -/
theorem partCovered_texts {items : List PyValue} (texts : ∀ item ∈ items, ∃ s, item = .str s)
    (returned : PyValue) : PartCovered lib (.list items) returned := by
  intro path k hidden _ found
  cases path with
  | nil => cases found
  | cons step rest =>
      obtain ⟨child, isChild, later⟩ := Option.bind_eq_some_iff.mp found
      cases step with
      | key k' => cases isChild
      | item i =>
          have member : items[i]? = some child := isChild
          obtain ⟨s, rfl⟩ := texts child (List.mem_of_getElem? member)
          cases (at_text s rest k).symm.trans later

/-- Under a plain key a list stays a list. -/
theorem redactValue_list {key path : String} {fullCapture : Bool} {items : List PyValue}
    (plain : isSecretKey lib.toStdlib key = false) :
    ∃ left, (redactValue lib key path fullCapture (.list items)).value = .list left := by
  simp only [redactValue, plain, Bool.false_eq_true, if_false]
  split_ifs
  · exact ⟨_, rfl⟩
  · exact ⟨_, rfl⟩

/-- **What is listed of a redacted payload is a covered part**: under an open key, a list is listed
item by item, and a text or an object as texts. -/
theorem partCovered_listed (lower : lib.lower "" = "") {key : String}
    (openKey : OpenKey lib.toStdlib key) {payload : List (String × Json)}
    (readable : Json.Readable lib.readFloat (.obj payload)) {listedItems : List PyValue}
    (isListed : listed (redactRedfishReadPayload lib (PyValue.ofEntries payload)) key
      = .ok listedItems) :
    ∃ items, listed (PyValue.ofEntries payload) key = .ok items
      ∧ PartCovered lib (.list items) (.list listedItems) := by
  have storable := storableEntries_ofEntries readable.1 readable.2
  have keyed := PyValue.stringKeyedEntries_of_storable storable
  obtain ⟨path, capture, child⟩ := redactPikvmObservePayload_child lower storable key
  rw [← dict_redactPikvmObserveMapping lower keyed] at child
  have found : paramGet (redactRedfishReadPayload lib (PyValue.ofEntries payload)) key = _ := child
  have whole := partCovered_mapping lower readable
  unfold listed at isListed ⊢
  rw [found] at isListed
  rw [paramGet_ofEntries] at isListed child ⊢
  cases lookup : payload.lookup key with
  | none =>
      rw [lookup] at isListed
      exact ⟨[], rfl, partCovered_texts (fun _ member => by cases member) _⟩
  | some v =>
      have isChild : (PyValue.dict (PyValue.ofEntries payload)).child (.key key)
          = some (PyValue.ofJson v) := by
        change paramGet (PyValue.ofEntries payload) key = _
        rw [paramGet_ofEntries, lookup]
        rfl
      rw [lookup, Option.map_some, Option.map_some, observedChild, openKey.insensitive,
        if_neg Bool.false_ne_true] at isListed child
      have inner := whole.child openKey isChild child
      have iterable : (PyValue.ofJson v).isIterable = true := by
        by_contra scalar
        rw [Bool.not_eq_true, ← isIterable_redactPikvmObservePayload lower,
          ← isIterable_redactValue openKey.plain] at scalar
        obtain ⟨e, raised⟩ := pyList_eq_error.mpr scalar
        cases raised.symm.trans isListed
      cases v with
      | list items =>
          obtain ⟨once, isOnce⟩ := @redactValue_list lib "" "" false (PyValue.ofItems items)
            (isSecretKey_empty lower)
          obtain ⟨twice, isTwice⟩ :=
            @redactValue_list lib key path capture once openKey.plain
          have same : (redactValue lib key path capture
              (redactPikvmObservePayload lib (PyValue.ofJson (.list items)))).value
              = .list twice := by
            rw [← isTwice, ← isOnce]
            rfl
          rw [same] at isListed inner
          cases isListed
          exact ⟨PyValue.ofItems items, rfl, inner⟩
      | str s => exact ⟨_, rfl, partCovered_texts (by simp) _⟩
      | obj entries =>
          refine ⟨_, rfl, partCovered_texts (fun item member => ?_) _⟩
          rw [ofEntries_eq_map] at member
          obtain ⟨entry, isEntry, rfl⟩ := List.mem_map.mp member
          obtain ⟨_, -, rfl⟩ := List.mem_map.mp isEntry
          exact ⟨_, rfl⟩
      | null | bool _ | int _ | float _ => cases iterable

/-! ## Redfish -/

/-- What is returned under an open key is hidden where it is hidden in the part under the key. -/
theorem PartCovered.entry {original returned part partReturned : PyValue} {key : String}
    (openKey : OpenKey lib.toStdlib key) (found : original.child (.key key) = some part)
    (found' : returned.child (.key key) = some partReturned)
    (covered : PartCovered lib part partReturned) {path : List PathStep} {k : String}
    {hidden : PyValue} (masked : isMaskedKey lib.toStdlib k = true)
    (isHidden : original.at (.key key :: path ++ [.key k]) = some hidden) :
    MaskedAt returned (.key key :: path ++ [.key k])
      ↔ EntryCovered lib original (.key key :: path) k hidden := by
  rw [List.cons_append, PyValue.at, found, Option.bind_some] at isHidden
  have container : returned ≠ .str redactedMark := by
    rintro rfl
    cases found'
  rw [entryCovered_child openKey found, List.cons_append, maskedAt_child found' container]
  exact covered path k hidden masked isHidden

/-- **A mapping of covered parts** under open keys is a covered part. -/
theorem partCovered_entries {original returned : Params}
    (parts : ∀ key part, paramGet original key = some part → OpenKey lib.toStdlib key
      ∧ ∃ partReturned, paramGet returned key = some partReturned
        ∧ PartCovered lib part partReturned) :
    PartCovered lib (.dict original) (.dict returned) := by
  intro path k hidden masked found
  cases path with
  | nil =>
      -- a sensitive key is not open
      obtain ⟨child, isChild, -⟩ := Option.bind_eq_some_iff.mp found
      obtain ⟨openKey, -⟩ := parts k child isChild
      exact absurd (openKey.insensitive.symm.trans masked) Bool.false_ne_true
  | cons step rest =>
      obtain ⟨part, isPart, -⟩ := Option.bind_eq_some_iff.mp found
      cases step with
      | item i => cases isPart
      | key key =>
          obtain ⟨openKey, partReturned, isReturned, covered⟩ := parts key part isPart
          have isReturned' : (PyValue.dict returned).child (.key key) = some partReturned :=
            isReturned
          exact PartCovered.entry openKey isPart isReturned' covered masked found

/-- **What is covered of what an operation returns**: below the `Id` of a log service the sensitive
entries that are the mark, and everywhere else the covered ones. -/
def ReturnedCovered (lib : AuditLibrary) (original : Params) : Prop :=
  ∀ path k hidden, isMaskedKey lib.toStdlib k = true →
    (PyValue.dict original).at (path ++ [.key k]) = some hidden →
    if path.head? = some (.key "log_service_id") then hidden = .str redactedMark
    else EntryCovered lib (.dict original) path k hidden

/-- What is put together from covered parts only is covered exactly where it should be. -/
theorem PartCovered.covers_iff {original returned : Params}
    (covered : PartCovered lib (.dict original) (.dict returned))
    (noLogs : paramGet original "log_service_id" = none) :
    CoversSensitive lib.toStdlib (.dict original) (.dict returned)
      ↔ ReturnedCovered lib original := by
  refine forall₅_congr fun path k hidden masked found => ?_
  have elsewhere : path.head? ≠ some (.key "log_service_id") := by
    intro logs
    cases path with
    | nil => cases logs
    | cons step rest =>
        cases logs
        obtain ⟨part, isPart, -⟩ := Option.bind_eq_some_iff.mp found
        cases noLogs.symm.trans isPart
  rw [if_neg elsewhere]
  exact covered path k hidden masked found

/-- A default that is JSON, or what a decoded object has under a key. -/
theorem readable_jsonGetD {entries : List (String × Json)}
    (readable : Json.Readable lib.readFloat (.obj entries)) (key : String) {default : Json}
    (isJson : Json.Readable lib.readFloat default) :
    Json.Readable lib.readFloat (jsonGetD entries key default) := by
  unfold jsonGetD
  cases found : entries.lookup key with
  | none => exact isJson
  | some v => exact readable.lookup found

/-- The mappings that summarise a system are decoded JSON. -/
theorem readable_powerStateSummary {system : List (String × Json)}
    (readable : Json.Readable lib.readFloat (.obj system)) :
    Json.Readable lib.readFloat (.obj (powerStateSummary system)) :=
  ⟨List.nodup_singleton _, readable_jsonGetD readable _ trivial, trivial⟩

theorem readable_bootStatusSummary {system : List (String × Json)}
    (readable : Json.Readable lib.readFloat (.obj system)) :
    Json.Readable lib.readFloat (.obj (bootStatusSummary system)) := by
  have empty : Json.Readable lib.readFloat (.obj []) := ⟨List.nodup_nil, trivial⟩
  have boot : Json.Readable lib.readFloat
      (.obj ((asMapping (jsonGetD system "Boot" (.obj []))).getD [])) := by
    have under := readable_jsonGetD readable "Boot" empty
    cases value : jsonGetD system "Boot" (.obj []) with
    | obj entries =>
        rw [value] at under
        exact under
    | _ => exact empty
  have distinct : ["boot_source_override", "boot_source_override_enabled"].Nodup := by decide
  exact ⟨distinct, readable_jsonGetD boot _ trivial, readable_jsonGetD boot _ trivial, trivial⟩

theorem readable_hardwareInventorySummary {system : List (String × Json)}
    (readable : Json.Readable lib.readFloat (.obj system)) :
    Json.Readable lib.readFloat (.obj (hardwareInventorySummary system)) := by
  have empty : Json.Readable lib.readFloat (.obj []) := ⟨List.nodup_nil, trivial⟩
  have field (key : String) : Json.Readable lib.readFloat (jsonGet system key) :=
    readable_jsonGetD readable key trivial
  have counted (key : String) : Json.Readable lib.readFloat (jsonGetD system key (.obj [])) :=
    readable_jsonGetD readable key empty
  have distinct : ["system_id", "name", "manufacturer", "model", "bios_version", "processors",
      "memory", "status"].Nodup := by decide
  exact ⟨distinct, field _, field _, field _, field _, field _, counted _, counted _, counted _,
    trivial⟩

/-- The keys of what the operations return are open. -/
structure ReturnedKeysOpen (std : Stdlib) : Prop where
  serviceRoot : OpenKey std "service_root"
  manager : OpenKey std "manager"
  source : OpenKey std "source"
  temperatures : OpenKey std "temperatures"
  fans : OpenKey std "fans"
  sensors : OpenKey std "sensors"
  events : OpenKey std "events"
  logServiceId : OpenKey std "log_service_id"
  listedTemperatures : OpenKey std "Temperatures"
  listedFans : OpenKey std "Fans"
  listedMembers : OpenKey std "Members"

theorem returnedKeysOpen {std : Stdlib} (lowers : LowersAscii std) : ReturnedKeysOpen std where
  serviceRoot := openKey_of_lower lowers (by decide) (by decide +kernel) (by decide +kernel)
  manager := openKey_of_lower lowers (by decide) (by decide +kernel) (by decide +kernel)
  source := openKey_of_lower lowers (by decide) (by decide +kernel) (by decide +kernel)
  temperatures := openKey_of_lower lowers (by decide) (by decide +kernel) (by decide +kernel)
  fans := openKey_of_lower lowers (by decide) (by decide +kernel) (by decide +kernel)
  sensors := openKey_of_lower lowers (by decide) (by decide +kernel) (by decide +kernel)
  events := openKey_of_lower lowers (by decide) (by decide +kernel) (by decide +kernel)
  logServiceId := openKey_of_lower lowers (by decide) (by decide +kernel) (by decide +kernel)
  listedTemperatures := openKey_of_lower lowers (by decide) (by decide +kernel) (by decide +kernel)
  listedFans := openKey_of_lower lowers (by decide) (by decide +kernel) (by decide +kernel)
  listedMembers := openKey_of_lower lowers (by decide) (by decide +kernel) (by decide +kernel)

section Operations

variable {served : ServedResources}

/-- A text is a covered part. -/
theorem partCovered_text (s : String) (returned : PyValue) : PartCovered lib (.str s) returned := by
  intro path k hidden _ found
  cases (at_text s path k).symm.trans found

/-- What an operation that summarises a system returns. -/
theorem covers_summary (lower : lib.lower "" = "")
    {summary : List (String × Json) → List (String × Json)}
    (decodedSummary : ∀ system, Json.Readable lib.readFloat (.obj system) →
      Json.Readable lib.readFloat (.obj (summary system)))
    (noLogs : ∀ system, (summary system).lookup "log_service_id" = none)
    (decoded : ∀ path payload, served path = .ok payload →
      Json.Readable lib.readFloat (.obj payload)) {returned : Params}
    (ran : direct (do
        let system ← firstMemberRaw served "Systems"
        return redactRedfishReadPayload lib (PyValue.ofEntries (summary system))) = .ok returned) :
    ∃ original, direct (do
        let system ← firstMemberRaw served "Systems"
        return id (PyValue.ofEntries (summary system))) = .ok original
      ∧ (CoversSensitive lib.toStdlib (.dict original) (.dict returned)
        ↔ ReturnedCovered lib original) := by
  obtain ⟨system, first, rfl⟩ := ((reads_summary summary).returned returned).mp ran
  refine ⟨_, ((reads_summary summary).returned _).mpr ⟨system, first, rfl⟩, ?_⟩
  have readable : Json.Readable lib.readFloat (.obj system) := by
    obtain ⟨ref, -, found⟩ := first
    exact decoded ref system found
  refine (partCovered_mapping lower (decodedSummary system readable)).covers_iff ?_
  rw [paramGet_ofEntries, noLogs system]
  rfl

/-- What a mapping with one entry has under a key. -/
theorem paramGet_cons_eq_some {name key : String} {value found : PyValue} {rest : Params}
    (isFound : paramGet ((.str name, value) :: rest) key = some found) :
    (key = name ∧ found = value) ∨ (key ≠ name ∧ paramGet rest key = some found) := by
  rw [paramGet_cons] at isFound
  split_ifs at isFound with same
  · exact .inl ⟨same.symm, (Option.some.inj isFound).symm⟩
  · exact .inr ⟨fun other => same other.symm, isFound⟩

/-- What is there as it was sent is hidden where it is the mark. -/
theorem maskedAt_self {value left : PyValue} {steps : List PathStep}
    (found : value.at steps = some left) : MaskedAt value steps ↔ left = .str redactedMark := by
  constructor
  · intro masked
    by_contra other
    exact not_maskedAt found other masked
  · rintro rfl
    exact ⟨steps, List.prefix_rfl, found⟩

/-- **What an operation returns is covered** exactly where it should be. -/
theorem covers_alone (lowers : LowersAscii lib.toStdlib)
    (decoded : ∀ path payload, served path = .ok payload →
      Json.Readable lib.readFloat (.obj payload)) (operation : RedfishReadOperation)
    {returned : Params} (ran : alone lib served operation = .ok returned) :
    ∃ original, direct (operation.runner served id) = .ok original
      ∧ (CoversSensitive lib.toStdlib (.dict original) (.dict returned)
        ↔ ReturnedCovered lib original) := by
  have lower : lib.lower "" = "" := (lowers "" rfl).trans (by decide +kernel)
  have keys := returnedKeysOpen lowers
  cases operation with
  | status =>
      obtain ⟨root, manager, found, first, rfl⟩ := (reads_status.returned returned).mp ran
      refine ⟨_, (reads_status.returned _).mpr ⟨root, manager, found, first, rfl⟩, ?_⟩
      have readableManager : Json.Readable lib.readFloat (.obj manager) := by
        obtain ⟨ref, -, found'⟩ := first
        exact decoded ref manager found'
      refine PartCovered.covers_iff (partCovered_entries fun key part isPart => ?_) rfl
      rcases paramGet_cons_eq_some isPart with ⟨rfl, rfl⟩ | ⟨other, isPart⟩
      · exact ⟨keys.serviceRoot, _, rfl, partCovered_mapping lower (decoded _ root found)⟩
      · rcases paramGet_cons_eq_some isPart with ⟨rfl, rfl⟩ | ⟨other', isPart⟩
        · exact ⟨keys.manager, _, rfl, partCovered_mapping lower readableManager⟩
        · cases isPart
  | powerState =>
      exact covers_summary lower (fun _ => readable_powerStateSummary) (fun _ => rfl) decoded ran
  | bootStatus =>
      exact covers_summary lower (fun _ => readable_bootStatusSummary) (fun _ => rfl) decoded ran
  | hardwareInventory =>
      exact covers_summary lower (fun _ => readable_hardwareInventorySummary) (fun _ => rfl) decoded
        ran
  | sensors =>
      obtain ⟨chassis, first, read⟩ := (reads_sensors.returned returned).mp ran
      rcases read with
        ⟨ref, thermal, temperatures, fans, refers, found, isTemperatures, isFans, rfl⟩
        | ⟨ref, sensors, members, none, refers, found, isMembers, rfl⟩
      · have readable := decoded ref thermal found
        obtain ⟨originals, isOriginals, covered⟩ :=
          partCovered_listed lower keys.listedTemperatures readable isTemperatures
        obtain ⟨originals', isOriginals', covered'⟩ :=
          partCovered_listed lower keys.listedFans readable isFans
        refine ⟨_, (reads_sensors.returned _).mpr ⟨chassis, first,
          .inl ⟨ref, thermal, originals, originals', refers, found, isOriginals, isOriginals',
            rfl⟩⟩,
          ?_⟩
        refine PartCovered.covers_iff (partCovered_entries fun key part isPart => ?_) rfl
        rcases paramGet_cons_eq_some isPart with ⟨rfl, rfl⟩ | ⟨other, isPart⟩
        · exact ⟨keys.source, _, rfl, partCovered_text _ _⟩
        · rcases paramGet_cons_eq_some isPart with ⟨rfl, rfl⟩ | ⟨other', isPart⟩
          · exact ⟨keys.temperatures, _, rfl, covered⟩
          · rcases paramGet_cons_eq_some isPart with ⟨rfl, rfl⟩ | ⟨other'', isPart⟩
            · exact ⟨keys.fans, _, rfl, covered'⟩
            · cases isPart
      · obtain ⟨originals, isOriginals, covered⟩ :=
          partCovered_listed lower keys.listedMembers (decoded ref sensors found) isMembers
        refine ⟨_, (reads_sensors.returned _).mpr ⟨chassis, first,
          .inr ⟨ref, sensors, originals, none, refers, found, isOriginals, rfl⟩⟩, ?_⟩
        refine PartCovered.covers_iff (partCovered_entries fun key part isPart => ?_) rfl
        rcases paramGet_cons_eq_some isPart with ⟨rfl, rfl⟩ | ⟨other, isPart⟩
        · exact ⟨keys.source, _, rfl, partCovered_text _ _⟩
        · rcases paramGet_cons_eq_some isPart with ⟨rfl, rfl⟩ | ⟨other', isPart⟩
          · exact ⟨keys.sensors, _, rfl, covered⟩
          · cases isPart
  | eventLogs =>
      obtain ⟨members, items, service, entries, events, services, iterated, first, isEvents, rfl⟩ :=
        (reads_eventLogs.returned returned).mp ran
      obtain ⟨ref, found⟩ := served_of_firstEntries first
      obtain ⟨originals, isOriginals, covered⟩ :=
        partCovered_listed lower keys.listedMembers (decoded ref entries found) isEvents
      refine ⟨_, (reads_eventLogs.returned _).mpr ⟨members, items, service, entries, originals,
        services, iterated, first, isOriginals, rfl⟩, ?_⟩
      refine forall₅_congr fun path k hidden masked isHidden => ?_
      cases path with
      | nil =>
          obtain ⟨child, isChild, -⟩ := Option.bind_eq_some_iff.mp isHidden
          have sensitive : isMaskedKey lib.toStdlib k = false := by
            rcases paramGet_cons_eq_some isChild with ⟨rfl, rfl⟩ | ⟨other, isChild⟩
            · exact keys.logServiceId.insensitive
            · rcases paramGet_cons_eq_some isChild with ⟨rfl, rfl⟩ | ⟨other', isChild⟩
              · exact keys.events.insensitive
              · cases isChild
          cases sensitive.symm.trans masked
      | cons step rest =>
          obtain ⟨part, isPart, later⟩ := Option.bind_eq_some_iff.mp isHidden
          cases step with
          | item i => cases isPart
          | key key =>
              rcases paramGet_cons_eq_some isPart with ⟨rfl, rfl⟩ | ⟨other, isPart⟩
              · -- the `Id` of the log service is returned as it is served
                rw [if_pos (by rfl), List.cons_append, maskedAt_child rfl (by simp)]
                exact maskedAt_self later
              · rcases paramGet_cons_eq_some isPart with ⟨rfl, rfl⟩ | ⟨other', isPart⟩
                · rw [if_neg (by simp)]
                  exact PartCovered.entry keys.events rfl rfl covered masked isHidden
                · cases isPart

end Operations

/-! ## Everything that is returned -/

/-- **Observed payloads are redacted exactly where their lists are covered.** A sensitive value at
any depth of a payload is hidden unless it stands in a list that is reached through mappings under
open keys and holds it uncovered. What the PiKVM transports return is a redacted payload. What the
Redfish transport returns is covered in the same way, but for the `Id` of a log service, below which
nothing is redacted. -/
theorem observed_covers_iff (lowers : LowersAscii lib.toStdlib) :
    (∀ payload, Json.Readable lib.readFloat payload →
      (CoversSensitive lib.toStdlib (PyValue.ofJson payload)
          (redactPikvmObservePayload lib (PyValue.ofJson payload))
        ↔ ListsCovered lib (PyValue.ofJson payload)))
    ∧ (∀ routes : FakeRoutes, (∀ path payload, routes.body path = some payload →
        Json.Readable lib.readFloat (.obj payload)) →
      ∀ (operation : PiKVMFakeRead) returned, operation.run lib routes = .ok returned →
      ∃ payload, routes.body operation.request.1 = some payload
        ∧ (CoversSensitive lib.toStdlib (.dict (PyValue.ofEntries payload)) (.dict returned)
          ↔ ListsCovered lib (.dict (PyValue.ofEntries payload))))
    ∧ ∀ served : ServedResources, (∀ path payload, served path = .ok payload →
        Json.Readable lib.readFloat (.obj payload)) →
      (∀ (operation : PiKVMLiveRead) returned, operation.run lib served = .ok returned →
        ∃ payload, served operation.request.1 = .ok payload
          ∧ (CoversSensitive lib.toStdlib (.dict (PyValue.ofEntries payload)) (.dict returned)
            ↔ ListsCovered lib (.dict (PyValue.ofEntries payload))))
      ∧ ∀ operation returned, alone lib served operation = .ok returned →
        ∃ original, direct (operation.runner served id) = .ok original
          ∧ (CoversSensitive lib.toStdlib (.dict original) (.dict returned)
            ↔ ReturnedCovered lib original) := by
  have lower : lib.lower "" = "" := (lowers "" rfl).trans (by decide +kernel)
  refine ⟨fun payload readable => observePayload_covers_iff lower readable,
    fun routes decoded operation returned ran => ?_,
    fun served decoded => ⟨fun operation returned ran => ?_, fun operation returned ran =>
      covers_alone lowers decoded operation ran⟩⟩
  · obtain ⟨payload, found, rfl⟩ := PiKVMFakeRead.run_eq_ok ran
    exact ⟨payload, found, covers_redactPikvmObserveMapping lower (decoded _ payload found)⟩
  · obtain ⟨payload, found, rfl⟩ := PiKVMLiveRead.run_eq_ok ran
    exact ⟨payload, found, covers_redactPikvmObserveMapping lower (decoded _ payload found)⟩

end Returned

namespace Deployment

/-- What a device reports: its name, its address in an object, and a list with a host that is hidden
and a host that stands below a password. -/
def reported : List (String × Json) :=
  [("provider", .str "pikvm"), ("hostname", .str "bmc-7"),
    ("network", .obj [("ip_address", .str "192.0.2.7")]),
    ("events", .list [.obj [("host", .str redactedMark)],
      .obj [("password", .obj [("host", .str "192.0.2.8")])]])]

theorem reported_readable : Json.Readable auditLibrary.readFloat (.obj reported) := by
  have distinct : (reported.map Prod.fst).Nodup := by decide
  exact ⟨distinct, trivial, trivial, ⟨List.nodup_singleton _, trivial, trivial⟩,
    ⟨⟨List.nodup_singleton _, trivial, trivial⟩,
      ⟨List.nodup_singleton _, ⟨List.nodup_singleton _, trivial, trivial⟩, trivial⟩, trivial⟩, trivial⟩

/-- The list of what is reported. -/
def reportedEvents : List PyValue :=
  [.dict [(.str "host", .str redactedMark)],
    .dict [(.str "password", .dict [(.str "host", .str "192.0.2.8")])]]

/-- What is reached in a mapping with one entry is reached in its value. -/
theorem at_singleton {name : String} {value left : PyValue} {step : PathStep} {rest : List PathStep}
    (reached : (PyValue.dict [(.str name, value)]).at (step :: rest) = some left) :
    step = .key name ∧ value.at rest = some left := by
  obtain ⟨child, isChild, later⟩ := Option.bind_eq_some_iff.mp reached
  cases step with
  | item i => cases isChild
  | key key =>
      rcases paramGet_cons_eq_some isChild with ⟨rfl, rfl⟩ | ⟨-, isChild⟩
      · exact ⟨rfl, later⟩
      · cases isChild

/-- There is no list in a text. -/
theorem not_list_of_text {s : String} {way : List PathStep} {items : List PyValue} :
    (PyValue.str s).at way ≠ some (.list items) := by
  intro reached
  cases way with
  | nil => cases reached
  | cons step rest => cases step <;> cases reached

/-- The list is the only one that is reported. -/
theorem list_of_reported {way : List PathStep} {items : List PyValue}
    (openWay : OpenWay auditLibrary.toStdlib way)
    (reached : (PyValue.dict (PyValue.ofEntries reported)).at way = some (.list items)) :
    way = [.key "events"] ∧ items = reportedEvents := by
  cases way with
  | nil => cases reached
  | cons step rest =>
      obtain ⟨child, isChild, later⟩ := Option.bind_eq_some_iff.mp reached
      cases step with
      | item i => cases isChild
      | key key =>
          rcases paramGet_cons_eq_some isChild with ⟨rfl, rfl⟩ | ⟨-, isChild⟩
          · exact absurd later not_list_of_text
          rcases paramGet_cons_eq_some isChild with ⟨rfl, rfl⟩ | ⟨-, isChild⟩
          · exact absurd later not_list_of_text
          rcases paramGet_cons_eq_some isChild with ⟨rfl, rfl⟩ | ⟨-, isChild⟩
          · -- the address is a text
            cases rest with
            | nil => cases later
            | cons step rest => exact absurd (at_singleton later).2 not_list_of_text
          rcases paramGet_cons_eq_some isChild with ⟨rfl, rfl⟩ | ⟨-, isChild⟩
          · cases rest with
            | nil =>
                cases later
                exact ⟨rfl, rfl⟩
            | cons step rest =>
                -- an open way does not go into a list
                obtain ⟨name, isKey, -⟩ := openWay step (by simp)
                rw [isKey] at later
                cases later
          · cases isChild

/-- What is reported is covered: one host is hidden already, the other stands below a password. -/
theorem reported_covered :
    ListsCovered auditLibrary (.dict (PyValue.ofEntries reported)) := by
  intro path k hidden masked found way items rest split openWay reached
  obtain ⟨rfl, rfl⟩ := list_of_reported openWay reached
  subst split
  have inList : (PyValue.list reportedEvents).at (rest ++ [.key k]) = some hidden := found
  cases rest with
  | nil => cases inList
  | cons step rest =>
      obtain ⟨item, isItem, later⟩ := Option.bind_eq_some_iff.mp inList
      cases step with
      | key key => cases isItem
      | item i =>
          rcases i with _ | _ | i
          · cases isItem
            cases rest with
            | nil => exact .inl (Option.some.inj (at_singleton later).2).symm
            | cons step rest =>
                cases (at_text redactedMark rest k).symm.trans (at_singleton later).2
          · cases isItem
            have replaced : [PathStep.item 1, .key "password"]
                ∈ replacedAt auditLibrary "" false (.list reportedEvents) := by decide +kernel
            refine .inr ⟨_, ?_, replaced⟩
            cases rest with
            | nil =>
                rw [← (at_singleton later).1]
                exact List.prefix_rfl
            | cons step rest =>
                rw [(at_singleton later).1]
                exact ⟨rest ++ [.key k], rfl⟩
          · cases isItem

/-- A BMC whose manager reports it, and which serves it as the information on the device. -/
def reportingBmc : ServedResources := fun path =>
  if path = "/api/device-info" then .ok reported
  else if path = redfishServiceRootPath then
    .ok [("Managers", .obj [("@odata.id", .str "/redfish/v1/Managers")])]
  else if path = "/redfish/v1/Managers" then
    .ok [("Members", .list [.obj [("@odata.id", .str "/redfish/v1/Managers/1")]])]
  else if path = "/redfish/v1/Managers/1" then .ok reported
  else .error .transportError

theorem reportingBmc_readable (path : String) (payload : List (String × Json))
    (served : reportingBmc path = .ok payload) :
    Json.Readable auditLibrary.readFloat (.obj payload) := by
  unfold reportingBmc at served
  split_ifs at served
  · cases served
    exact reported_readable
  · cases served
    exact ⟨List.nodup_singleton _, ⟨List.nodup_singleton _, trivial, trivial⟩, trivial⟩
  · cases served
    exact ⟨List.nodup_singleton _, ⟨⟨List.nodup_singleton _, trivial, trivial⟩, trivial⟩, trivial⟩
  · cases served
    exact reported_readable

/-- The fixtures of a device that has it among its events. -/
def reportingRoutes : FakeRoutes where
  allowsGet := true
  body path := if path = "/api/events" then some reported else none

theorem reportingRoutes_readable (path : String) (payload : List (String × Json))
    (found : reportingRoutes.body path = some payload) :
    Json.Readable auditLibrary.readFloat (.obj payload) := by
  change (if path = "/api/events" then some reported else none) = some payload at found
  split_ifs at found
  cases found
  exact reported_readable

end Deployment

open Deployment in
/-- What a device reports is covered, wherever it is read: by itself, from a fixture, over PiKVM,
and over Redfish exactly as far as it should be. -/
theorem observed_covers_iff_deployment :
    CoversSensitive auditLibrary.toStdlib (PyValue.ofJson (.obj reported))
        (redactPikvmObservePayload auditLibrary (PyValue.ofJson (.obj reported))) ∧
    (∃ returned, PiKVMFakeRead.eventLogs.run auditLibrary reportingRoutes = .ok returned ∧
      CoversSensitive auditLibrary.toStdlib (.dict (PyValue.ofEntries reported))
        (.dict returned)) ∧
    (∃ returned, PiKVMLiveRead.deviceInfo.run auditLibrary reportingBmc = .ok returned ∧
      CoversSensitive auditLibrary.toStdlib (.dict (PyValue.ofEntries reported))
        (.dict returned)) ∧
    ∃ returned original, alone auditLibrary reportingBmc .status = .ok returned ∧
      direct (RedfishReadOperation.status.runner reportingBmc id) = .ok original ∧
      (CoversSensitive auditLibrary.toStdlib (.dict original) (.dict returned)
        ↔ ReturnedCovered auditLibrary original) := by
  obtain ⟨payloads, fixtures, reads⟩ := @observed_covers_iff auditLibrary fun _ _ => rfl
  obtain ⟨live, redfish⟩ := reads reportingBmc reportingBmc_readable
  have events : PiKVMFakeRead.eventLogs.run auditLibrary reportingRoutes
      = .ok (redactPikvmObserveMapping auditLibrary (PyValue.ofEntries reported)) := rfl
  have info : PiKVMLiveRead.deviceInfo.run auditLibrary reportingBmc
      = .ok (redactPikvmObserveMapping auditLibrary (PyValue.ofEntries reported)) := rfl
  obtain ⟨returned, status⟩ : ∃ returned, alone auditLibrary reportingBmc .status = .ok returned :=
    ⟨_, rfl⟩
  refine ⟨(payloads (.obj reported) reported_readable).mpr reported_covered, ⟨_, events, ?_⟩,
    ⟨_, info, ?_⟩, ?_⟩
  · obtain ⟨payload, found, covers⟩ :=
      fixtures reportingRoutes reportingRoutes_readable .eventLogs _ events
    cases found
    exact covers.mpr reported_covered
  · obtain ⟨payload, found, covers⟩ := live .deviceInfo _ info
    cases found
    exact covers.mpr reported_covered
  · obtain ⟨original, plain, covers⟩ := redfish .status returned status
    exact ⟨returned, original, status, plain, covers⟩

/-- The host names of a list of servers are returned as the device sent them. -/
theorem not_observed_covers :
    ¬ ∀ (lib : AuditLibrary) (payload : Json), LowersAscii lib.toStdlib →
      Json.Readable lib.readFloat payload →
      CoversSensitive lib.toStdlib (PyValue.ofJson payload)
        (redactPikvmObservePayload lib (PyValue.ofJson payload)) := by
  intro covers
  let host : Json := .obj [("host", .str "10.0.0.1")]
  have readable : Json.Readable Deployment.auditLibrary.readFloat
      (.obj [("entries", .list [host])]) :=
    ⟨List.nodup_singleton _, ⟨⟨List.nodup_singleton _, trivial, trivial⟩, trivial⟩, trivial⟩
  have lowers : LowersAscii Deployment.auditLibrary.toStdlib := fun _ _ => rfl
  have masked : isMaskedKey Deployment.auditLibrary.toStdlib "host" = true := by decide +kernel
  have openKey : OpenKey Deployment.auditLibrary.toStdlib "entries" :=
    openKey_of_lower lowers (by decide) (by decide +kernel) (by decide +kernel)
  have found : (PyValue.ofJson (.obj [("entries", .list [host])])).at
      ([.key "entries", .item 0] ++ [.key "host"]) = some (.str "10.0.0.1") := rfl
  have hidden := covers Deployment.auditLibrary (.obj [("entries", .list [host])]) lowers readable
    [.key "entries", .item 0] "host" (.str "10.0.0.1") masked found
  have lower : Deployment.auditLibrary.lower "" = "" := by decide +kernel
  rw [maskedAt_iff_covered lower readable masked found] at hidden
  have openWay : OpenWay Deployment.auditLibrary.toStdlib [.key "entries"] := by
    intro step member
    rw [List.mem_singleton] at member
    exact ⟨"entries", member, openKey⟩
  rcases hidden [.key "entries"] _ [.item 0] rfl openWay rfl with same | ⟨p, -, member⟩
  · exact absurd (PyValue.str.inj same) (by decide +kernel)
  · have nothing : replacedAt Deployment.auditLibrary "" false (PyValue.ofJson (.list [host]))
        = [] := by decide +kernel
    change p ∈ replacedAt _ _ _ (PyValue.ofJson (.list [host])) at member
    rw [nothing] at member
    cases member

end AgenticKVM
