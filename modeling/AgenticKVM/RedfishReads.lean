import AgenticKVM.RedfishTransport

/-! # What the read operations read

The results of the Redfish read operations, and the exceptions that escape from them, in terms of
the resources the device serves (`reads_status`, `reads_sensors`, `reads_eventLogs`). The cache of the
transport does not show in either (`transparent_runner`). -/

namespace AgenticKVM

open Lib (Json CachedM)
open Lib.CachedM (Transparent direct)

/-! ## What a computation reads -/

/-- An exception that is no provider error: nobody catches it. -/
def Escapes {α : Type} (result : Except ClientRaise α) : Prop :=
  ∃ e, result = .error (.exception e)

/-- **What a computation of the transport comes to**: the values it returns and when an exception
escapes from it, with any cache that agrees with the served resources. -/
structure Reading (served : ServedResources) {α : Type} (m : ReadM α) (returns : α → Prop)
    (escapes : Prop) : Prop where
  transparent : Transparent (getJson served) m
  returned : ∀ value, direct m = .ok value ↔ returns value
  escaped : Escapes (direct m) ↔ escapes

section Rules

variable {served : ServedResources} {α β : Type} {m : ReadM α} {f : α → ReadM β}

theorem not_escapes_ok (value : α) : ¬ Escapes (.ok value) :=
  fun ⟨_, same⟩ => by cases same

theorem not_escapes_refuse (error : ProviderError) : ¬ Escapes (refuse error : Except _ α) :=
  fun ⟨_, same⟩ => by cases same

/-- An exception escapes from a sequence where it escapes from one of its parts. -/
theorem escapes_bind {result : Except ClientRaise α} {results : α → Except ClientRaise β} :
    Escapes (result >>= results)
      ↔ Escapes result ∨ ∃ value, result = .ok value ∧ Escapes (results value) := by
  cases result with
  | ok value =>
      constructor
      · exact fun escapes => .inr ⟨value, rfl, escapes⟩
      · rintro (escapes | ⟨value', same, escapes⟩)
        · exact absurd escapes (not_escapes_ok value)
        · cases same
          exact escapes
  | error e =>
      constructor
      · rintro ⟨e', same⟩
        cases same
        exact .inl ⟨e', rfl⟩
      · rintro (⟨e', same⟩ | ⟨_, same, -⟩)
        · cases same
          exact ⟨e', rfl⟩
        · cases same

/-- The same facts in other words. -/
theorem Reading.congr {returns returns' : α → Prop} {escapes escapes' : Prop}
    (reads : Reading served m returns escapes) (sameReturns : ∀ value, returns value ↔ returns' value)
    (sameEscapes : escapes ↔ escapes') : Reading served m returns' escapes' :=
  ⟨reads.transparent, fun value => (reads.returned value).trans (sameReturns value),
    reads.escaped.trans sameEscapes⟩

theorem Reading.pure (value : α) :
    Reading served (pure value : ReadM α) (fun value' => value' = value) False := by
  refine ⟨Transparent.pure value, fun value' => ?_, iff_of_false (not_escapes_ok value) id⟩
  rw [CachedM.direct_pure, Except.ok.injEq]
  exact eq_comm

/-- A sequence of computations. -/
theorem Reading.bind {returns : α → Prop} {escapes : Prop} {returns' : α → β → Prop}
    {escapes' : α → Prop} (first : Reading served m returns escapes)
    (rest : ∀ value, Reading served (f value) (returns' value) (escapes' value)) :
    Reading served (m >>= f) (fun result => ∃ value, returns value ∧ returns' value result)
      (escapes ∨ ∃ value, returns value ∧ escapes' value) := by
  have sequence := CachedM.direct_bind first.transparent fun value => (rest value).transparent
  refine ⟨first.transparent.bind fun value => (rest value).transparent, fun result => ?_, ?_⟩
  · rw [sequence, Lib.except_bind_eq_ok]
    exact exists_congr fun value =>
      and_congr (first.returned value) ((rest value).returned result)
  · rw [sequence, escapes_bind]
    exact or_congr first.escaped (exists_congr fun value =>
      and_congr (first.returned value) (rest value).escaped)

/-- A refusal is a provider error. -/
theorem Reading.refuse (error : ProviderError) :
    Reading served (CachedM.lift (refuse error) : ReadM α) (fun _ => False) False :=
  ⟨Transparent.lift _, fun _ => ⟨fun same => (by cases same), False.elim⟩,
    iff_of_false (not_escapes_refuse error) id⟩

/-- What another function raises escapes. -/
theorem Reading.raised (result : Except PyExc α) :
    Reading served (CachedM.lift (raised result)) (fun value => result = .ok value)
      (∃ e, result = .error e) := by
  refine ⟨Transparent.lift _, fun value => ?_, ?_⟩
  · cases result with
    | ok value' => exact ⟨fun same => by cases same; rfl, fun same => by cases same; rfl⟩
    | error e => exact ⟨fun same => (by cases same), fun same => (by cases same)⟩
  · cases result with
    | ok value' => exact ⟨fun ⟨_, same⟩ => (by cases same), fun ⟨_, same⟩ => (by cases same)⟩
    | error e => exact ⟨fun _ => ⟨e, rfl⟩, fun _ => ⟨e, rfl⟩⟩

end Rules

namespace LiveRedfishReadTransport

section Operations

variable {served : ServedResources} {redact : Params → Params}

/-- A served resource is what `get_json` answers; its failures are provider errors. -/
theorem getJson_eq_ok {path : String} {payload : List (String × Json)} :
    getJson served path = .ok payload ↔ served path = .ok payload := by
  unfold getJson
  split
  · next found => rw [found, Except.ok.injEq, Except.ok.injEq]
  · next failure => exact ⟨fun same => (by cases same), fun same => by cases failure.symm.trans same⟩
  · next failure => exact ⟨fun same => (by cases same), fun same => by cases failure.symm.trans same⟩

theorem not_escapes_getJson (path : String) : ¬ Escapes (getJson served path) := by
  unfold getJson
  split
  exacts [not_escapes_ok _, not_escapes_refuse _, not_escapes_refuse _]

theorem reads_readRaw (path : String) :
    Reading served (readRaw served path) (fun payload => served path = .ok payload) False := by
  refine ⟨Transparent.fetch path, fun payload => ?_, ?_⟩
  · rw [readRaw, CachedM.direct_fetch]
    exact getJson_eq_ok
  · rw [readRaw, CachedM.direct_fetch]
    exact iff_of_false (not_escapes_getJson path) id

theorem reads_readJson (path : String) :
    Reading served (readJson served redact path)
      (fun value => ∃ payload, served path = .ok payload
        ∧ value = redact (PyValue.ofEntries payload)) False := by
  have lifted : Reading served (CachedM.lift (getJson served path))
      (fun payload => served path = .ok payload) False :=
    ⟨Transparent.lift _, fun _ => getJson_eq_ok, iff_of_false (not_escapes_getJson path) id⟩
  exact (lifted.bind fun payload => Reading.pure _).congr (fun _ => Iff.rfl) (by simp)

theorem reads_present (ref : Option String) (error : ProviderError) :
    Reading served (present ref error) (fun ref' => ref = some ref') False := by
  cases ref with
  | none => exact (Reading.refuse error).congr (fun _ => by simp) Iff.rfl
  | some ref => exact (Reading.pure ref).congr (fun _ => by simp [eq_comm]) Iff.rfl

/-- A value whose first item can be asked for, or that is taken for empty. -/
def Indexable (v : Json) : Prop := truthy v = true → ∃ item, firstItem v = .ok item

/-- The first member of a collection of the service root, as it is discovered. -/
def FirstMember (served : ServedResources) (collectionKey memberRef : String) : Prop :=
  ∃ root collectionRef collection first rest,
    served redfishServiceRootPath = .ok root
      ∧ odataId (jsonGet root collectionKey) = some collectionRef
      ∧ served collectionRef = .ok collection
      ∧ jsonGetD collection "Members" (.list []) = .list (first :: rest)
      ∧ odataId first = some memberRef

/-- Some collection of the service root has members that cannot be indexed. -/
def CollectionsIndexable (served : ServedResources) (collectionKey : String) : Prop :=
  ∀ root collectionRef collection, served redfishServiceRootPath = .ok root →
    odataId (jsonGet root collectionKey) = some collectionRef →
    served collectionRef = .ok collection →
    Indexable (jsonGetD collection "Members" (.list []))

/-- What refers to a resource as a first item is the first item of a list. -/
theorem list_of_firstItem {members item : Json} {ref : String} (first : firstItem members = .ok item)
    (refers : odataId item = some ref) : ∃ rest, members = .list (item :: rest) := by
  cases members with
  | list items =>
      cases items with
      | nil => cases first
      | cons item' rest =>
          cases first
          exact ⟨rest, rfl⟩
  | str s =>
      -- the first item of a text is a text
      cases chars : s.toList with
      | nil =>
          simp only [firstItem, chars] at first
          cases first
      | cons c rest =>
          simp only [firstItem, chars] at first
          cases first
          cases refers
  | _ => cases first

/-- Only the first item of a list can refer to a resource. -/
theorem firstRef_eq_some {members : Json} {ref : String} :
    (∃ found, (if truthy members then (firstItem members).map odataId else .ok none) = .ok found
        ∧ found = some ref)
      ↔ ∃ first rest, members = .list (first :: rest) ∧ odataId first = some ref := by
  constructor
  · rintro ⟨found, read, rfl⟩
    split at read
    · cases item : firstItem members with
      | error e =>
          rw [item] at read
          cases read
      | ok first =>
          rw [item] at read
          have refers : odataId first = some ref := Except.ok.inj read
          obtain ⟨rest, list⟩ := list_of_firstItem item refers
          exact ⟨first, rest, list, refers⟩
    · cases read
  · rintro ⟨first, rest, rfl, refers⟩
    exact ⟨some ref, by rw [← refers]; rfl, rfl⟩

/-- Asking for the first member raises where the members cannot be indexed. -/
theorem firstRef_eq_error {members : Json} :
    (∃ e, (if truthy members then (firstItem members).map odataId else .ok none)
        = (.error e : Except PyExc (Option String))) ↔ ¬ Indexable members := by
  unfold Indexable
  by_cases filled : truthy members = true
  · rw [if_pos filled]
    cases firstItem members with
    | ok item => exact iff_of_false (fun ⟨_, same⟩ => by cases same) fun no => no fun _ => ⟨item, rfl⟩
    | error e =>
        exact iff_of_true ⟨e, rfl⟩ fun indexable => by
          obtain ⟨_, same⟩ := indexable filled
          cases same
  · rw [if_neg filled]
    exact iff_of_false (fun ⟨_, same⟩ => by cases same) fun no => no fun filled' =>
      absurd filled' filled

/-- **Discovery**: the first member is found as it is served, and an exception escapes exactly where
the collection's members cannot be indexed. -/
theorem reads_firstMemberRef (collectionKey : String) :
    Reading served (firstMemberRef served collectionKey) (FirstMember served collectionKey)
      (¬ CollectionsIndexable served collectionKey) := by
  refine ((reads_readRaw _).bind fun root => (reads_present _ _).bind fun collectionRef =>
    (reads_readRaw _).bind fun collection => (Reading.raised _).bind fun memberRef =>
      reads_present _ _).congr ?_ ?_
  · intro memberRef
    simp only [firstRef_eq_some]
    constructor
    · rintro ⟨root, served, collectionRef, refers, collection, served', first, rest, list, refers'⟩
      exact ⟨root, collectionRef, collection, first, rest, served, refers, served', list, refers'⟩
    · rintro ⟨root, collectionRef, collection, first, rest, served, refers, served', list, refers'⟩
      exact ⟨root, served, collectionRef, refers, collection, served', first, rest, list, refers'⟩
  · simp only [firstRef_eq_error, false_or, or_false, and_false, exists_false]
    unfold CollectionsIndexable
    push Not
    constructor
    · rintro ⟨root, served, collectionRef, refers, collection, served', unindexable⟩
      exact ⟨root, collectionRef, collection, served, refers, served', unindexable⟩
    · rintro ⟨root, collectionRef, collection, served, refers, served', unindexable⟩
      exact ⟨root, served, collectionRef, refers, collection, served', unindexable⟩

/-- A discovered resource, as it is served. -/
def FirstResource (served : ServedResources) (collectionKey : String)
    (resource : List (String × Json)) : Prop :=
  ∃ memberRef, FirstMember served collectionKey memberRef ∧ served memberRef = .ok resource

theorem reads_firstMemberRaw (collectionKey : String) :
    Reading served (firstMemberRaw served collectionKey) (FirstResource served collectionKey)
      (¬ CollectionsIndexable served collectionKey) :=
  ((reads_firstMemberRef collectionKey).bind fun ref => reads_readRaw ref).congr
    (fun _ => Iff.rfl) (by simp)

theorem reads_managerStatus :
    Reading served (managerStatus served redact)
      (fun value => ∃ resource, FirstResource served "Managers" resource
        ∧ value = redact (PyValue.ofEntries resource))
      (¬ CollectionsIndexable served "Managers") := by
  refine ((reads_firstMemberRef "Managers").bind fun ref => reads_readJson ref).congr ?_ (by simp)
  intro value
  constructor
  · rintro ⟨ref, member, resource, found, same⟩
    exact ⟨resource, ⟨ref, member, found⟩, same⟩
  · rintro ⟨resource, ⟨ref, member, found⟩, same⟩
    exact ⟨ref, member, resource, found, same⟩

/-- The items of a redacted payload's list. -/
def listed (payload : Params) (key : String) : Except PyExc (List PyValue) :=
  pyList ((paramGet payload key).getD (.list []))

theorem reads_listOf (payload : Params) (key : String) :
    Reading served (listOf payload key)
      (fun value => ∃ items, listed payload key = .ok items ∧ value = .list items)
      (∃ e, listed payload key = .error e) := by
  refine (Reading.raised _).congr (fun value => ?_) ?_
  · unfold listed
    cases pyList ((paramGet payload key).getD (.list [])) with
    | ok items => exact ⟨fun same => ⟨items, rfl, (Except.ok.inj same).symm⟩,
        fun ⟨_, same, value⟩ => by cases same; rw [value]; rfl⟩
    | error e => exact ⟨fun same => (by cases same), fun ⟨_, same, _⟩ => (by cases same)⟩
  · unfold listed
    cases pyList ((paramGet payload key).getD (.list [])) with
    | ok items => exact ⟨fun ⟨_, same⟩ => (by cases same), fun ⟨_, same⟩ => (by cases same)⟩
    | error e => exact iff_of_true ⟨e, rfl⟩ ⟨e, rfl⟩

/-! ## The operations -/

theorem reads_status :
    Reading served (status served redact)
      (fun value => ∃ root manager, served redfishServiceRootPath = .ok root
        ∧ FirstResource served "Managers" manager
        ∧ value = [(.str "service_root", .dict (redact (PyValue.ofEntries root))),
          (.str "manager", .dict (redact (PyValue.ofEntries manager)))])
      (¬ CollectionsIndexable served "Managers") := by
  refine ((reads_readJson _).bind fun root => reads_managerStatus.bind fun manager =>
    Reading.pure _).congr ?_ ?_
  · intro value
    constructor
    · rintro ⟨_, ⟨root, found, rfl⟩, _, ⟨manager, first, rfl⟩, same⟩
      exact ⟨root, manager, found, first, same⟩
    · rintro ⟨root, manager, found, first, same⟩
      exact ⟨_, ⟨root, found, rfl⟩, _, ⟨manager, first, rfl⟩, same⟩
  · simp only [false_or, or_false, and_false, exists_false]
    refine ⟨fun ⟨_, _, unindexable⟩ => unindexable, fun unindexable => ?_⟩
    -- the root that shows the members was served
    have shown := unindexable
    unfold CollectionsIndexable at shown
    push Not at shown
    obtain ⟨root, _, _, found, -⟩ := shown
    exact ⟨_, ⟨root, found, rfl⟩, unindexable⟩

/-- The operations that summarise the first system. -/
theorem reads_summary (summary : List (String × Json) → List (String × Json)) :
    Reading served (do
        let system ← firstMemberRaw served "Systems"
        return redact (PyValue.ofEntries (summary system)))
      (fun value => ∃ system, FirstResource served "Systems" system
        ∧ value = redact (PyValue.ofEntries (summary system)))
      (¬ CollectionsIndexable served "Systems") :=
  ((reads_firstMemberRaw "Systems").bind fun system => Reading.pure _).congr
    (fun _ => Iff.rfl) (by simp)

/-- What the sensors of a chassis are read from. -/
def SensorsRead (served : ServedResources) (redact : Params → Params)
    (chassis : List (String × Json)) (value : Params) : Prop :=
  (∃ ref thermal temperatures fans, odataId (jsonGet chassis "Thermal") = some ref
      ∧ served ref = .ok thermal
      ∧ listed (redact (PyValue.ofEntries thermal)) "Temperatures" = .ok temperatures
      ∧ listed (redact (PyValue.ofEntries thermal)) "Fans" = .ok fans
      ∧ value = [(.str "source", .str "thermal"), (.str "temperatures", .list temperatures),
        (.str "fans", .list fans)])
    ∨ ∃ ref sensors members, odataId (jsonGet chassis "Thermal") = none
      ∧ odataId (jsonGet chassis "Sensors") = some ref ∧ served ref = .ok sensors
      ∧ listed (redact (PyValue.ofEntries sensors)) "Members" = .ok members
      ∧ value = [(.str "source", .str "sensors"), (.str "sensors", .list members)]

/-- The readings of a chassis are no lists. -/
def SensorsRaise (served : ServedResources) (redact : Params → Params)
    (chassis : List (String × Json)) : Prop :=
  (∃ ref thermal, odataId (jsonGet chassis "Thermal") = some ref ∧ served ref = .ok thermal
      ∧ ((∃ e, listed (redact (PyValue.ofEntries thermal)) "Temperatures" = .error e)
        ∨ ∃ e, listed (redact (PyValue.ofEntries thermal)) "Fans" = .error e))
    ∨ ∃ ref sensors, odataId (jsonGet chassis "Thermal") = none
      ∧ odataId (jsonGet chassis "Sensors") = some ref ∧ served ref = .ok sensors
      ∧ ∃ e, listed (redact (PyValue.ofEntries sensors)) "Members" = .error e

theorem reads_sensors :
    Reading served (sensors served redact)
      (fun value => ∃ chassis, FirstResource served "Chassis" chassis
        ∧ SensorsRead served redact chassis value)
      (¬ CollectionsIndexable served "Chassis"
        ∨ ∃ chassis, FirstResource served "Chassis" chassis
          ∧ SensorsRaise served redact chassis) := by
  refine (reads_firstMemberRaw "Chassis").bind fun chassis => ?_
  unfold SensorsRead SensorsRaise
  cases thermalRef : odataId (jsonGet chassis "Thermal") with
  | some ref =>
      refine ((reads_readJson ref).bind fun thermal => (reads_listOf thermal "Temperatures").bind
        fun temperatures => (reads_listOf thermal "Fans").bind fun fans => Reading.pure _).congr ?_ ?_
      · intro value
        constructor
        · rintro ⟨_, ⟨thermal, found, rfl⟩, _, ⟨temperatures, read, rfl⟩, _, ⟨fans, read', rfl⟩,
            same⟩
          exact .inl ⟨ref, thermal, temperatures, fans, rfl, found, read, read', same⟩
        · rintro (⟨ref', thermal, temperatures, fans, same, found, read, read', result⟩
            | ⟨_, _, _, same, -⟩)
          · cases same
            exact ⟨_, ⟨thermal, found, rfl⟩, _, ⟨temperatures, read, rfl⟩, _, ⟨fans, read', rfl⟩,
              result⟩
          · cases same
      · simp only [false_or, or_false, and_false, exists_false]
        constructor
        · rintro ⟨_, ⟨thermal, found, rfl⟩, error | ⟨_, ⟨_, _, _⟩, error⟩⟩
          · exact .inl ⟨ref, thermal, rfl, found, .inl error⟩
          · exact .inl ⟨ref, thermal, rfl, found, .inr error⟩
        · rintro (⟨ref', thermal, same, found, errors⟩ | ⟨_, _, same, -⟩)
          · cases same
            refine ⟨_, ⟨thermal, found, rfl⟩, ?_⟩
            -- the fans are read where the temperatures are a list
            cases temperatures : listed (redact (PyValue.ofEntries thermal)) "Temperatures" with
            | error e => exact .inl ⟨e, rfl⟩
            | ok items =>
                rcases errors with ⟨e, same⟩ | error
                · cases temperatures.symm.trans same
                · exact .inr ⟨_, ⟨items, rfl, rfl⟩, error⟩
          · cases same
  | none =>
      dsimp only
      cases sensorsRef : odataId (jsonGet chassis "Sensors") with
      | some ref =>
          refine ((reads_readJson ref).bind fun sensors => (reads_listOf sensors "Members").bind
            fun members => Reading.pure _).congr ?_ ?_
          · intro value
            constructor
            · rintro ⟨_, ⟨sensors, found, rfl⟩, _, ⟨members, read, rfl⟩, same⟩
              exact .inr ⟨ref, sensors, members, rfl, rfl, found, read, same⟩
            · rintro (⟨_, _, _, _, same, -⟩ | ⟨ref', sensors, members, -, same, found, read, result⟩)
              · cases same
              · cases same
                exact ⟨_, ⟨sensors, found, rfl⟩, _, ⟨members, read, rfl⟩, result⟩
          · simp only [false_or, or_false, and_false, exists_false]
            constructor
            · rintro ⟨_, ⟨sensors, found, rfl⟩, error⟩
              exact .inr ⟨ref, sensors, trivial, rfl, found, error⟩
            · rintro (⟨_, _, same, -⟩ | ⟨ref', sensors, -, same, found, error⟩)
              · cases same
              · cases same
                exact ⟨_, ⟨sensors, found, rfl⟩, error⟩
      | none =>
          refine (Reading.refuse _).congr (fun value => iff_of_false id ?_) (iff_of_false id ?_)
          · rintro (⟨_, _, _, _, same, -⟩ | ⟨_, _, _, _, same, -⟩) <;> cases same
          · rintro (⟨_, _, same, -⟩ | ⟨_, _, _, same, -⟩) <;> cases same

/-- The log service whose entries are read: the first one that has some. -/
inductive FirstEntries (served : ServedResources) :
    List Json → List (String × Json) → List (String × Json) → Prop
  | unnamed {member rest service entries} : odataId member = none →
      FirstEntries served rest service entries →
      FirstEntries served (member :: rest) service entries
  | empty {member rest service entries ref other} : odataId member = some ref →
      served ref = .ok other → odataId (jsonGet other "Entries") = none →
      FirstEntries served rest service entries →
      FirstEntries served (member :: rest) service entries
  | here {member rest ref service entriesRef entries} : odataId member = some ref →
      served ref = .ok service → odataId (jsonGet service "Entries") = some entriesRef →
      served entriesRef = .ok entries → FirstEntries served (member :: rest) service entries

/-- The log service whose entries are read, once a service has been looked at: that service, or the
first one of the rest. -/
def FromService (served : ServedResources) (rest : List Json)
    (service service' entries : List (String × Json)) : Prop :=
  match odataId (jsonGet service "Entries") with
  | none => FirstEntries served rest service' entries
  | some entriesRef => service' = service ∧ served entriesRef = .ok entries

/-- A member that is named leads to its service. -/
theorem firstEntries_cons {member : Json} {rest : List Json} {ref : String}
    (refers : odataId member = some ref) {service' entries : List (String × Json)} :
    FirstEntries served (member :: rest) service' entries
      ↔ ∃ service, served ref = .ok service ∧ FromService served rest service service' entries := by
  unfold FromService
  constructor
  · intro first
    cases first with
    | unnamed unnamed => cases refers.symm.trans unnamed
    | @empty _ _ _ _ ref' other refers' found none later =>
        cases refers.symm.trans refers'
        refine ⟨other, found, ?_⟩
        rw [none]
        exact later
    | @here _ _ ref' _ entriesRef _ refers' found some read =>
        cases refers.symm.trans refers'
        refine ⟨service', found, ?_⟩
        rw [some]
        exact ⟨rfl, read⟩
  · rintro ⟨service, found, from'⟩
    cases entriesRef : odataId (jsonGet service "Entries") with
    | none =>
        rw [entriesRef] at from'
        exact .empty refers found entriesRef from'
    | some ref' =>
        rw [entriesRef] at from'
        obtain ⟨rfl, read⟩ := from'
        exact .here refers found entriesRef read

/-- **The loop over the log services** reads the entries of the first service that has some. -/
theorem reads_eventLogsOf (members : List Json) :
    Reading served (eventLogsOf served redact members)
      (fun value => ∃ service entries events, FirstEntries served members service entries
        ∧ listed (redact (PyValue.ofEntries entries)) "Members" = .ok events
        ∧ value = [(.str "log_service_id", PyValue.ofJson (jsonGet service "Id")),
          (.str "events", .list events)])
      (∃ service entries, FirstEntries served members service entries
        ∧ ∃ e, listed (redact (PyValue.ofEntries entries)) "Members" = .error e) := by
  induction members with
  | nil =>
      refine (Reading.refuse _).congr (fun value => iff_of_false id ?_) (iff_of_false id ?_)
      · rintro ⟨_, _, _, first, -⟩
        cases first
      · rintro ⟨_, _, first, -⟩
        cases first
  | cons member rest ih =>
      rw [eventLogsOf]
      cases memberRef : odataId member with
      | none =>
          have passed {service entries} : FirstEntries served (member :: rest) service entries
              ↔ FirstEntries served rest service entries := by
            refine ⟨fun first => ?_, .unnamed memberRef⟩
            cases first with
            | unnamed _ later => exact later
            | empty refers => cases memberRef.symm.trans refers
            | here refers => cases memberRef.symm.trans refers
          simpa only [passed] using ih
      | some ref =>
          have logService (service : List (String × Json)) :
              Reading served (match odataId (jsonGet service "Entries") with
                | none => eventLogsOf served redact rest
                | some entriesRef => do
                    let entries ← readJson served redact entriesRef
                    let events ← listOf entries "Members"
                    return [(.str "log_service_id", PyValue.ofJson (jsonGet service "Id")),
                      (.str "events", events)])
                (fun value => ∃ service' entries events,
                  FromService served rest service service' entries
                  ∧ listed (redact (PyValue.ofEntries entries)) "Members" = .ok events
                  ∧ value = [(.str "log_service_id", PyValue.ofJson (jsonGet service' "Id")),
                    (.str "events", .list events)])
                (∃ service' entries, FromService served rest service service' entries
                  ∧ ∃ e, listed (redact (PyValue.ofEntries entries)) "Members" = .error e) := by
            unfold FromService
            cases entriesRef : odataId (jsonGet service "Entries") with
            | none => exact ih
            | some ref' =>
                refine ((reads_readJson ref').bind fun entries =>
                  (reads_listOf entries "Members").bind fun events => Reading.pure _).congr ?_ ?_
                · intro value
                  constructor
                  · rintro ⟨_, ⟨entries, found, rfl⟩, _, ⟨events, read, rfl⟩, same⟩
                    exact ⟨service, entries, events, ⟨rfl, found⟩, read, same⟩
                  · rintro ⟨_, entries, events, ⟨rfl, found⟩, read, same⟩
                    exact ⟨_, ⟨entries, found, rfl⟩, _, ⟨events, read, rfl⟩, same⟩
                · simp only [false_or, or_false, and_false, exists_false]
                  constructor
                  · rintro ⟨_, ⟨entries, found, rfl⟩, error⟩
                    exact ⟨service, entries, ⟨rfl, found⟩, error⟩
                  · rintro ⟨_, entries, ⟨rfl, found⟩, error⟩
                    exact ⟨_, ⟨entries, found, rfl⟩, error⟩
          refine ((reads_readRaw ref).bind logService).congr (fun value => ?_) ?_
          · constructor
            · rintro ⟨service, found, service', entries, events, first, read, same⟩
              exact ⟨service', entries, events, (firstEntries_cons memberRef).mpr
                ⟨service, found, first⟩, read, same⟩
            · rintro ⟨service', entries, events, first, read, same⟩
              obtain ⟨service, found, first⟩ := (firstEntries_cons memberRef).mp first
              exact ⟨service, found, service', entries, events, first, read, same⟩
          · rw [false_or]
            constructor
            · rintro ⟨service, found, service', entries, first, error⟩
              exact ⟨service', entries, (firstEntries_cons memberRef).mpr
                ⟨service, found, first⟩, error⟩
            · rintro ⟨service', entries, first, error⟩
              obtain ⟨service, found, first⟩ := (firstEntries_cons memberRef).mp first
              exact ⟨service, found, service', entries, first, error⟩

/-- The log services of a manager whose event logs are read. -/
def LogServices (served : ServedResources) (members : Json) : Prop :=
  ∃ manager ref services, FirstResource served "Managers" manager
    ∧ odataId (jsonGet manager "LogServices") = some ref ∧ served ref = .ok services
    ∧ jsonGetD services "Members" (.list []) = members

theorem reads_eventLogs :
    Reading served (eventLogs served redact)
      (fun value => ∃ members items service entries events, LogServices served members
        ∧ iterItems members = .ok items ∧ FirstEntries served items service entries
        ∧ listed (redact (PyValue.ofEntries entries)) "Members" = .ok events
        ∧ value = [(.str "log_service_id", PyValue.ofJson (jsonGet service "Id")),
          (.str "events", .list events)])
      (¬ CollectionsIndexable served "Managers"
        ∨ ∃ members, LogServices served members
          ∧ ((∃ e, iterItems members = .error e)
            ∨ ∃ items service entries, iterItems members = .ok items
              ∧ FirstEntries served items service entries
              ∧ ∃ e, listed (redact (PyValue.ofEntries entries)) "Members" = .error e)) := by
  refine ((reads_firstMemberRaw "Managers").bind fun manager => (reads_present _ _).bind fun ref =>
    (reads_readRaw ref).bind fun services => (Reading.raised _).bind fun members =>
      reads_eventLogsOf members).congr ?_ ?_
  · intro value
    constructor
    · rintro ⟨manager, first, ref, refers, services, found, items, iterated, service, entries, events,
        read⟩
      exact ⟨_, items, service, entries, events, ⟨manager, ref, services, first, refers, found, rfl⟩,
        iterated, read⟩
    · rintro ⟨_, items, service, entries, events, ⟨manager, ref, services, first, refers, found, rfl⟩,
        iterated, read⟩
      exact ⟨manager, first, ref, refers, services, found, items, iterated, service, entries, events,
        read⟩
  · refine or_congr Iff.rfl ?_
    simp only [false_or]
    constructor
    · rintro ⟨manager, first, ref, refers, services, found, error | ⟨items, iterated, service, entries,
        read⟩⟩
      · exact ⟨_, ⟨manager, ref, services, first, refers, found, rfl⟩, .inl error⟩
      · exact ⟨_, ⟨manager, ref, services, first, refers, found, rfl⟩,
          .inr ⟨items, service, entries, iterated, read⟩⟩
    · rintro ⟨_, ⟨manager, ref, services, first, refers, found, rfl⟩, error | ⟨items, service, entries,
        iterated, read⟩⟩
      · exact ⟨manager, first, ref, refers, services, found, .inl error⟩
      · exact ⟨manager, first, ref, refers, services, found,
          .inr ⟨items, iterated, service, entries, read⟩⟩

/-- **The cache does not show** in any operation. -/
theorem transparent_runner (operation : RedfishReadOperation) :
    Transparent (getJson served) (operation.runner served redact) := by
  cases operation with
  | status => exact reads_status.transparent
  | powerState => exact (reads_summary powerStateSummary).transparent
  | bootStatus => exact (reads_summary bootStatusSummary).transparent
  | hardwareInventory => exact (reads_summary hardwareInventorySummary).transparent
  | sensors => exact reads_sensors.transparent
  | eventLogs => exact reads_eventLogs.transparent

end Operations

end LiveRedfishReadTransport

end AgenticKVM
