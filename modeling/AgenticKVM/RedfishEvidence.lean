import AgenticKVM.ObserveRedaction
import AgenticKVM.RedfishReads

/-! # Evidence of read operations

`collect_redfish_read_evidence` attempts six operations one after the other and records the provider
errors they raise. What it records of an operation is what the operation comes to on a transport of
its own (`collectFrom_eq`). Other exceptions are not caught, and a device can provoke some with
values that cannot be indexed or iterated over. The evidence is complete exactly where every
resource an operation reads has the shapes the operation relies on (`evidence_isolated_iff`). -/

namespace AgenticKVM

open Lib (Json CachedM)
open Lib.CachedM (direct)
open LiveRedfishReadTransport

/-! ## Lists in redacted payloads -/

section Lists

variable {lib : AuditLibrary}

/-- A value `list` takes. -/
def PyValue.isIterable : PyValue → Bool
  | .list _ | .tuple _ | .set _ | .dict _ | .str _ | .bytes _ => true
  | _ => false

/-- Only what cannot be iterated over makes `list` raise. -/
theorem pyList_eq_error {value : PyValue} :
    (∃ e, pyList value = .error e) ↔ value.isIterable = false := by
  cases value with
  | none | bool _ | int _ | float _ | object _ _ => exact iff_of_true ⟨_, rfl⟩ rfl
  | list _ | tuple _ | set _ | dict _ | str _ | bytes _ =>
      exact iff_of_false (fun ⟨_, same⟩ => by cases same) (fun same => by cases same)

theorem iterItems_eq_error {v : Json} :
    (∃ e, iterItems v = .error e) ↔ (PyValue.ofJson v).isIterable = false := by
  cases v with
  | null | bool _ | int _ | float _ => exact iff_of_true ⟨_, rfl⟩ rfl
  | list _ | obj _ | str _ =>
      exact iff_of_false (fun ⟨_, same⟩ => by cases same) (fun same => by cases same)

/-- Under a plain key the generic redactor leaves what can be iterated over such. -/
theorem isIterable_redactValue {key path : String} {fullCapture : Bool} {value : PyValue}
    (plain : isSecretKey lib.toStdlib key = false) :
    (redactValue lib key path fullCapture value).value.isIterable = value.isIterable := by
  cases value with
  | list items | tuple items =>
      simp only [redactValue, plain, Bool.false_eq_true, if_false]
      split_ifs <;> rfl
  | dict entries =>
      simp only [redactValue, plain, Bool.false_eq_true, if_false]
      rfl
  | str s =>
      obtain ⟨left, same⟩ := @redactText_value lib key fullCapture s
      rw [redactValue, plain, if_neg Bool.false_ne_true, same]
      rfl
  | _ =>
      simp only [redactValue, plain, Bool.false_eq_true, if_false]
      rfl

/-- So does the redaction of observed payloads. -/
theorem isIterable_redactPikvmObservePayload (lower : lib.lower "" = "") (value : PyValue) :
    (redactPikvmObservePayload lib value).isIterable = value.isIterable := by
  cases value with
  | dict entries => exact isIterable_redactValue (isSecretKey_empty lower)
  | _ => exact isIterable_redactValue (isSecretKey_empty lower)

/-- What a redacted payload has under a key that is neither sensitive nor secret can be iterated over
where what the device sent can. -/
theorem listed_redactRedfish (lower : lib.lower "" = "") {key : String}
    (openKey : OpenKey lib.toStdlib key) {payload : List (String × Json)}
    (readable : Json.Readable lib.readFloat (.obj payload)) :
    (∃ e, listed (redactRedfishReadPayload lib (PyValue.ofEntries payload)) key = .error e)
      ↔ ∃ e, iterItems (jsonGetD payload key (.list [])) = .error e := by
  have storable := storableEntries_ofEntries readable.1 readable.2
  obtain ⟨path, capture, child⟩ := redactPikvmObservePayload_child lower storable key
  have found : paramGet (redactRedfishReadPayload lib (PyValue.ofEntries payload)) key
      = (redactPikvmObservePayload lib (.dict (PyValue.ofEntries payload))).child (.key key) := by
    unfold redactRedfishReadPayload redactPikvmObserveMapping
    cases redactPikvmObservePayload lib (.dict (PyValue.ofEntries payload)) <;> rfl
  rw [listed, pyList_eq_error, iterItems_eq_error, found, child, paramGet_ofEntries, jsonGetD]
  cases payload.lookup key with
  | none => rfl
  | some v =>
      change (redactValue lib key path capture (observedChild lib key (PyValue.ofJson v))).value.isIterable
        = false ↔ _
      rw [isIterable_redactValue openKey.plain, observedChild, openKey.insensitive, if_neg Bool.false_ne_true,
        isIterable_redactPikvmObservePayload lower]
      rfl

end Lists

/-! ## Shapes -/

section Shapes

/-- A value that can be iterated over. -/
def Iterable (v : Json) : Prop := ∃ items, iterItems v = .ok items

/-- The readings of the first chassis can be iterated over. -/
def SensorsShaped (served : ServedResources) : Prop :=
  ∀ chassis, FirstResource served "Chassis" chassis →
    (∀ ref thermal, odataId (jsonGet chassis "Thermal") = some ref → served ref = .ok thermal →
      Iterable (jsonGetD thermal "Temperatures" (.list []))
        ∧ Iterable (jsonGetD thermal "Fans" (.list [])))
      ∧ ∀ ref sensors, odataId (jsonGet chassis "Thermal") = none →
        odataId (jsonGet chassis "Sensors") = some ref → served ref = .ok sensors →
        Iterable (jsonGetD sensors "Members" (.list []))

/-- The log services of the first manager, and the entries of the first of them that has some, can
be iterated over. -/
def LogsShaped (served : ServedResources) : Prop :=
  ∀ members, LogServices served members →
    ∃ items, iterItems members = .ok items ∧ ∀ service entries,
      FirstEntries served items service entries →
      Iterable (jsonGetD entries "Members" (.list []))

/-- **The shapes an operation relies on**: the members of the collection it starts from can be
indexed, and what it lists can be iterated over. -/
def OperationShaped (served : ServedResources) : RedfishReadOperation → Prop
  | .status => CollectionsIndexable served "Managers"
  | .powerState | .bootStatus | .hardwareInventory => CollectionsIndexable served "Systems"
  | .sensors => CollectionsIndexable served "Chassis" ∧ SensorsShaped served
  | .eventLogs => CollectionsIndexable served "Managers" ∧ LogsShaped served

theorem iterable_iff {v : Json} : Iterable v ↔ ¬ ∃ e, iterItems v = .error e := by
  unfold Iterable
  cases iterItems v with
  | ok items => exact iff_of_true ⟨items, rfl⟩ fun ⟨_, same⟩ => by cases same
  | error e => exact iff_of_false (fun ⟨_, same⟩ => by cases same) fun none => none ⟨e, rfl⟩

variable {lib : AuditLibrary} {served : ServedResources}

/-- What an operation comes to on a transport of its own. -/
def alone (lib : AuditLibrary) (served : ServedResources) (operation : RedfishReadOperation) :
    Except ClientRaise Params :=
  direct (operation.runner served (redactRedfishReadPayload lib))

/-- Entries that are read are served. -/
theorem served_of_firstEntries {items : List Json} {service entries : List (String × Json)}
    (first : FirstEntries served items service entries) : ∃ ref, served ref = .ok entries := by
  induction first with
  | unnamed _ _ ih => exact ih
  | empty _ _ _ _ ih => exact ih
  | here _ _ _ found => exact ⟨_, found⟩

/-- **An exception escapes from an operation** exactly where a resource lacks a shape the operation
relies on. -/
theorem escapes_alone_iff (lowers : LowersAscii lib.toStdlib)
    (decoded : ∀ path payload, served path = .ok payload →
      Json.Readable lib.readFloat (.obj payload)) (operation : RedfishReadOperation) :
    Escapes (alone lib served operation) ↔ ¬ OperationShaped served operation := by
  have lower : lib.lower "" = "" := (lowers "" rfl).trans (by decide +kernel)
  have temperatures : OpenKey lib.toStdlib "Temperatures" :=
    openKey_of_lower lowers (by decide) (by decide +kernel) (by decide +kernel)
  have fans : OpenKey lib.toStdlib "Fans" :=
    openKey_of_lower lowers (by decide) (by decide +kernel) (by decide +kernel)
  have members : OpenKey lib.toStdlib "Members" :=
    openKey_of_lower lowers (by decide) (by decide +kernel) (by decide +kernel)
  cases operation with
  | status => exact reads_status.escaped
  | powerState => exact (reads_summary powerStateSummary).escaped
  | bootStatus => exact (reads_summary bootStatusSummary).escaped
  | hardwareInventory => exact (reads_summary hardwareInventorySummary).escaped
  | sensors =>
      refine reads_sensors.escaped.trans ?_
      rw [OperationShaped, not_and_or]
      refine or_congr Iff.rfl ?_
      unfold SensorsShaped
      push Not
      refine exists_congr fun chassis => and_congr_right fun first => ?_
      rw [imp_iff_not_or]
      push Not
      unfold SensorsRaise
      refine or_congr ?_ ?_
      · refine exists_congr fun ref => exists_congr fun thermal => ?_
        refine and_congr_right fun _ => and_congr_right fun found => ?_
        have readable := decoded ref thermal found
        rw [listed_redactRedfish lower temperatures readable,
          listed_redactRedfish lower fans readable, iterable_iff, iterable_iff, not_not,
          ← or_iff_not_imp_left]
      · refine exists_congr fun ref => exists_congr fun sensors => ?_
        refine and_congr_right fun _ => and_congr_right fun _ => and_congr_right fun found => ?_
        rw [listed_redactRedfish lower members (decoded ref sensors found), iterable_iff, not_not]
  | eventLogs =>
      refine reads_eventLogs.escaped.trans ?_
      rw [OperationShaped, not_and_or]
      refine or_congr Iff.rfl ?_
      unfold LogsShaped
      push Not
      refine exists_congr fun listedMembers => and_congr_right fun services => ?_
      constructor
      · rintro (⟨e, raised⟩ | ⟨items, service, entries, iterated, first, error⟩) items' iterated'
        · cases raised.symm.trans iterated'
        · cases iterated.symm.trans iterated'
          obtain ⟨ref, found⟩ := served_of_firstEntries first
          refine ⟨service, entries, first, ?_⟩
          rw [iterable_iff, not_not]
          exact (listed_redactRedfish lower members (decoded ref entries found)).mp error
      · intro uneven
        cases iterated : iterItems listedMembers with
        | error e => exact .inl ⟨e, rfl⟩
        | ok items =>
            obtain ⟨service, entries, first, uniterable⟩ := uneven items iterated
            obtain ⟨ref, found⟩ := served_of_firstEntries first
            rw [iterable_iff, not_not] at uniterable
            exact .inr ⟨items, service, entries, rfl, first,
              (listed_redactRedfish lower members (decoded ref entries found)).mpr uniterable⟩

end Shapes

/-! ## The evidence -/

section Evidence

variable {lib : AuditLibrary} {served : ServedResources}

/-- What is recorded of an operation's outcome is an entry unless an exception escapes. -/
theorem recordedOutcome_isOk_iff {std : Stdlib} {outcome : Except ClientRaise Params} :
    (∃ entry, recordedOutcome std outcome = .ok entry) ↔ ¬ Escapes outcome := by
  cases outcome with
  | ok data => exact iff_of_true ⟨_, rfl⟩ (not_escapes_ok data)
  | error e =>
      cases e with
      | providerError error => exact iff_of_true ⟨_, rfl⟩ (not_escapes_refuse error)
      | exception e =>
          exact iff_of_false (fun ⟨_, same⟩ => by cases same) fun none => none ⟨e, rfl⟩

/-- **The loop**: from a cache that agrees with the served resources, every operation's entry is
recorded of what the operation comes to on a transport of its own. -/
theorem collectFrom_eq_ok {operations : List RedfishReadOperation}
    {cache : List (String × List (String × Json))}
    (agrees : CachedM.Agrees (getJson served) cache) {evidence : List (String × PyValue)} :
    collectFrom lib served operations cache = .ok evidence ↔
      List.Forall₂ (fun operation entry => entry.1 = operation.value
        ∧ recordedOutcome lib.toStdlib (alone lib served operation) = .ok entry.2)
        operations evidence := by
  induction operations generalizing cache evidence with
  | nil =>
      rw [collectFrom, Except.ok.injEq, List.forall₂_nil_left_iff]
      exact eq_comm
  | cons operation rest ih =>
      obtain ⟨result, after⟩ := @transparent_runner served (redactRedfishReadPayload lib) operation
        cache agrees
      rw [collectFrom]
      change (recordedOutcome lib.toStdlib
        (CachedM.outcome (operation.runner served (redactRedfishReadPayload lib)) cache).1
          >>= _) = _ ↔ _
      rw [result, Lib.except_bind_eq_ok]
      constructor
      · rintro ⟨entry, entryOk, collected⟩
        obtain ⟨others, othersOk, same⟩ := Lib.except_bind_eq_ok.mp collected
        cases same
        exact .cons ⟨rfl, entryOk⟩ ((ih after).mp othersOk)
      · intro each
        cases each with
        | @cons _ entry _ others here later =>
            refine ⟨entry.2, here.2, Lib.except_bind_eq_ok.mpr ⟨others, (ih after).mpr later, ?_⟩⟩
            rw [← here.1]
            rfl

/-- **Isolated operations**: the evidence has one entry for each operation, and the entry is what is
recorded of the operation on a transport of its own: its data or its own failure. -/
def Isolated (lib : AuditLibrary) (served : ServedResources)
    (collected : Except PyExc (List (String × PyValue))) : Prop :=
  ∃ evidence, collected = .ok evidence
    ∧ evidence.map Prod.fst = RedfishReadOperation.all.map RedfishReadOperation.value
    ∧ ∀ operation : RedfishReadOperation, ∃ entry,
      evidence.lookup operation.value = some entry
        ∧ recordedOutcome lib.toStdlib (alone lib served operation) = .ok entry

/-- The evidence is collected where every operation's entry can be recorded. -/
theorem isolated_iff_recorded {cache : List (String × List (String × Json))}
    (agrees : CachedM.Agrees (getJson served) cache) :
    Isolated lib served (collectRedfishReadEvidence lib served cache)
      ↔ ∀ operation, ∃ entry, recordedOutcome lib.toStdlib (alone lib served operation) = .ok entry := by
  constructor
  · rintro ⟨evidence, -, -, entries⟩ operation
    obtain ⟨entry, -, same⟩ := entries operation
    exact ⟨entry, same⟩
  · intro each
    choose entry entryOk using each
    refine ⟨RedfishReadOperation.all.map fun operation => (operation.value, entry operation),
      ?_, by rw [List.map_map]; rfl, fun operation => ⟨entry operation, ?_, entryOk operation⟩⟩
    · refine (collectFrom_eq_ok agrees).mpr ?_
      rw [List.forall₂_map_right_iff, List.forall₂_same]
      exact fun operation _ => ⟨rfl, entryOk operation⟩
    · cases operation <;> rfl

/-- **Evidence is isolated exactly where every operation finds the shapes it relies on.** For any
resources a device serves, with whatever provider and transport errors, and any transport whose
cache holds what was read from them: the members of the collections the operations start from can
be indexed, and what they list can be iterated over. -/
theorem evidence_isolated_iff (lowers : LowersAscii lib.toStdlib)
    (decoded : ∀ path payload, served path = .ok payload →
      Json.Readable lib.readFloat (.obj payload))
    {cache : List (String × List (String × Json))}
    (agrees : CachedM.Agrees (getJson served) cache) :
    Isolated lib served (collectRedfishReadEvidence lib served cache)
      ↔ ∀ operation, OperationShaped served operation := by
  rw [isolated_iff_recorded agrees]
  refine forall_congr' fun operation => ?_
  rw [recordedOutcome_isOk_iff, escapes_alone_iff lowers decoded, not_not]

end Evidence

namespace Deployment

/-- A device whose systems are a collection with the given members, and that serves nothing else. -/
def device (members : Json) : ServedResources := fun path =>
  if path = redfishServiceRootPath then
    .ok [("Systems", .obj [("@odata.id", .str "/redfish/v1/Systems")])]
  else if path = "/redfish/v1/Systems" then .ok [("Members", members)]
  else .error .transportError

/-- What the device serves is decoded JSON. -/
theorem device_decoded {members : Json} (readable : Json.Readable auditLibrary.readFloat members)
    (path : String) (payload : List (String × Json)) (found : device members path = .ok payload) :
    Json.Readable auditLibrary.readFloat (.obj payload) := by
  unfold device at found
  split_ifs at found
  · cases found
    exact ⟨List.nodup_singleton _, ⟨List.nodup_singleton _, trivial, trivial⟩, trivial⟩
  · cases found
    exact ⟨List.nodup_singleton _, readable, trivial⟩

end Deployment

/-- The evidence of a device without systems is complete. -/
theorem evidence_isolated_iff_noSystems :
    Isolated Deployment.auditLibrary (Deployment.device (.list []))
        (collectRedfishReadEvidence Deployment.auditLibrary (Deployment.device (.list [])) [])
      ↔ ∀ operation, OperationShaped (Deployment.device (.list [])) operation := by
  have readable : Json.Readable Deployment.auditLibrary.readFloat (.list []) := trivial
  exact evidence_isolated_iff (fun _ _ => rfl) (Deployment.device_decoded readable)
    (CachedM.agrees_nil _)

/-- An object in the place of a collection's members makes the evidence fail as a whole. -/
theorem not_evidence_isolated :
    ¬ ∀ (lib : AuditLibrary) (served : ServedResources), LowersAscii lib.toStdlib →
      (∀ path payload, served path = .ok payload → Json.Readable lib.readFloat (.obj payload)) →
      Isolated lib served (collectRedfishReadEvidence lib served []) := by
  intro isolated
  have readable : Json.Readable Deployment.auditLibrary.readFloat (.obj [("1", .null)]) :=
    ⟨List.nodup_singleton _, trivial, trivial⟩
  have decoded := Deployment.device_decoded readable
  have complete := isolated Deployment.auditLibrary (Deployment.device (.obj [("1", .null)]))
    (fun _ _ => rfl) decoded
  have entry := (isolated_iff_recorded (CachedM.agrees_nil _)).mp complete .powerState
  rw [recordedOutcome_isOk_iff, escapes_alone_iff (fun _ _ => rfl) decoded, not_not] at entry
  obtain ⟨_, first⟩ := entry [("Systems", .obj [("@odata.id", .str "/redfish/v1/Systems")])]
    "/redfish/v1/Systems" [("Members", .obj [("1", .null)])] rfl rfl rfl rfl
  cases first

end AgenticKVM
