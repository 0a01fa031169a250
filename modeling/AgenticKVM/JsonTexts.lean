import Mathlib.Data.List.Perm.Basic
import Mathlib.Data.List.TakeWhile
import AgenticKVM.Lib.Except
import AgenticKVM.Lib.JsonPrefix
import AgenticKVM.Python

/-! # JSON texts of Python values

What `json.dumps` makes of a dynamically typed value: without options it refuses what is no JSON
(`jsonSafe`), with `default=str` it writes the `str` of it, and with `sort_keys=True` it sorts the
items of every mapping before it writes a key (`jsonSorted`). A value that is JSON already is written
as itself, and sorted it is its normal form. What is sent to somebody else is what they read of the
text (`receivedJson`). -/

namespace AgenticKVM

open Lib (Json FloatToken except_ok_bind)

/-! ## Plain texts -/

/-- The text of a mapping's key. -/
def jsonKey : PyValue → Except PyExc String
  | .str key => .ok key
  | .none => .ok "null"
  | .bool true => .ok "true"
  | .bool false => .ok "false"
  | .int i => .ok (toString i)
  | .float x => .ok x.text
  | key => .error (.typeError
      ("keys must be str, int, float, bool or None, not " ++ key.typeName))

mutual

/-- The JSON value `json.dumps` writes, which raises on everything else. -/
def jsonSafe : PyValue → Except PyExc Json
  | .none => .ok .null
  | .bool b => .ok (.bool b)
  | .int i => .ok (.int i)
  | .float x => .ok (.float x)
  | .str s => .ok (.str s)
  | .list items | .tuple items => do return .list (← jsonSafeItems items)
  | .dict entries => do return .obj (← jsonSafeEntries entries)
  | value => .error (.typeError
      ("Object of type " ++ value.typeName ++ " is not JSON serializable"))

def jsonSafeItems : List PyValue → Except PyExc (List Json)
  | [] => .ok []
  | item :: rest => do
      let item ← jsonSafe item
      return item :: (← jsonSafeItems rest)

def jsonSafeEntries : List (PyValue × PyValue) → Except PyExc (List (String × Json))
  | [] => .ok []
  | (key, value) :: rest => do
      let key ← jsonKey key
      let value ← jsonSafe value
      return (key, value) :: (← jsonSafeEntries rest)

end

/-! ## Texts with `default=str` -/

section Default

variable (std : Stdlib)

mutual

/-- The JSON value `json.dumps` writes with `default=str`. -/
def jsonDefaultStr : PyValue → Json
  | .none => .null
  | .bool b => .bool b
  | .int i => .int i
  | .float x => .float x
  | .str s => .str s
  | .list items | .tuple items => .list (jsonDefaultStrItems items)
  | .dict entries => .obj (jsonDefaultStrEntries entries)
  | value => .str (std.str value)

def jsonDefaultStrItems : List PyValue → List Json
  | [] => []
  | item :: rest => jsonDefaultStr item :: jsonDefaultStrItems rest

def jsonDefaultStrEntries : List (PyValue × PyValue) → List (String × Json)
  | [] => []
  | (key, item) :: rest => (pyStr std key, jsonDefaultStr item) :: jsonDefaultStrEntries rest

end

end Default

section Native

variable {std : Stdlib}

/-- The entries of a JSON object, each under its string. -/
theorem ofEntries_eq_map (entries : List (String × Json)) :
    PyValue.ofEntries entries = entries.map fun entry => (.str entry.1, PyValue.ofJson entry.2) := by
  induction entries with
  | nil => rfl
  | cons entry rest ih => rw [PyValue.ofEntries, ih, List.map_cons]

mutual

/-- A JSON value is hashed as itself. -/
theorem jsonDefaultStr_ofJson (v : Json) : jsonDefaultStr std (PyValue.ofJson v) = v := by
  match v with
  | .null | .bool _ | .int _ | .float _ | .str _ => rfl
  | .list items => rw [PyValue.ofJson, jsonDefaultStr, jsonDefaultStrItems_ofItems items]
  | .obj entries => rw [PyValue.ofJson, jsonDefaultStr, jsonDefaultStrEntries_ofEntries entries]

theorem jsonDefaultStrItems_ofItems (items : List Json) :
    jsonDefaultStrItems std (PyValue.ofItems items) = items := by
  match items with
  | [] => rfl
  | v :: rest =>
      rw [PyValue.ofItems, jsonDefaultStrItems, jsonDefaultStr_ofJson v,
        jsonDefaultStrItems_ofItems rest]

theorem jsonDefaultStrEntries_ofEntries (entries : List (String × Json)) :
    jsonDefaultStrEntries std (PyValue.ofEntries entries) = entries := by
  match entries with
  | [] => rfl
  | (key, v) :: rest =>
      rw [PyValue.ofEntries, jsonDefaultStrEntries, jsonDefaultStr_ofJson v,
        jsonDefaultStrEntries_ofEntries rest]
      rfl

end

mutual

/-- A JSON value is written as itself. -/
theorem jsonSafe_ofJson (v : Json) : jsonSafe (PyValue.ofJson v) = .ok v := by
  match v with
  | .null | .bool _ | .int _ | .float _ | .str _ => rfl
  | .list items =>
      rw [PyValue.ofJson, jsonSafe, jsonSafeItems_ofItems items]
      rfl
  | .obj entries =>
      rw [PyValue.ofJson, jsonSafe, jsonSafeEntries_ofEntries entries]
      rfl

theorem jsonSafeItems_ofItems (items : List Json) :
    jsonSafeItems (PyValue.ofItems items) = .ok items := by
  match items with
  | [] => rfl
  | v :: rest =>
      rw [PyValue.ofItems, jsonSafeItems, jsonSafe_ofJson v, jsonSafeItems_ofItems rest]
      rfl

theorem jsonSafeEntries_ofEntries (entries : List (String × Json)) :
    jsonSafeEntries (PyValue.ofEntries entries) = .ok entries := by
  match entries with
  | [] => rfl
  | (key, v) :: rest =>
      rw [PyValue.ofEntries, jsonSafeEntries, jsonSafe_ofJson v, jsonSafeEntries_ofEntries rest]
      rfl

end

/-- A mapping is the image of one list of entries. -/
theorem PyValue.ofEntries_inj {entries other : List (String × Json)}
    (same : PyValue.ofEntries entries = PyValue.ofEntries other) : entries = other := by
  have written := jsonSafeEntries_ofEntries entries
  rw [same, jsonSafeEntries_ofEntries other] at written
  exact (Except.ok.inj written).symm

end Native

/-! ## The module -/

/-- **A value of texts**: null, texts and booleans, in lists and objects that are nested no deeper than
a bound. -/
inductive TextValue : Nat → Json → Prop
  | null (depth : Nat) : TextValue depth .null
  | bool (depth : Nat) (b : Bool) : TextValue depth (.bool b)
  | str (depth : Nat) (s : String) : TextValue depth (.str s)
  | list {depth : Nat} {items : List Json} (each : ∀ item ∈ items, TextValue depth item) :
      TextValue (depth + 1) (.list items)
  | obj {depth : Nat} {entries : List (String × Json)}
      (each : ∀ entry ∈ entries, TextValue depth entry.2) : TextValue (depth + 1) (.obj entries)

/-- The record of an audit log, as a value. -/
def auditRecord (previousHash event : Json) (eventHash : String) : Json :=
  .obj [("previous_hash", previousHash), ("event", event), ("event_hash", .str eventHash)]

/-- **The `json` module**, as the audit logs rest on it. The interpreter limits the digits of an
integer and the nesting of values, and a text may be written in ways of which no log makes use; of
all texts, the module reads back the records it has written, refuses blank ones, and refuses to read
on behind an object. -/
structure JsonModule (readFloat : FloatToken → FloatToken) where
  /-- What `json.dumps` raises at the record of an event that is beyond a limit. -/
  limit : Json → Option PyExc
  /-- `json.loads`. -/
  loads : String → Except PyExc Json
  /-- Texts that are nested a little are within the limits. -/
  limit_texts : ∀ event, TextValue 3 event → limit event = none
  /-- A record that was written is read back in its normal form, whatever blanks follow it. -/
  loads_record : ∀ {event previousHash : Json} {eventHash blanks : String}, limit event = none →
    previousHash = .null ∨ (∃ hash, previousHash = .str hash) → Json.Readable readFloat event →
    blanks.toList.all Json.isBlank = true →
    loads (Json.dumps (auditRecord previousHash event eventHash) ++ blanks)
      = .ok (Json.norm (auditRecord previousHash event eventHash))
  /-- A blank text is refused. -/
  loads_blank : ∀ text, strip text = "" → ∃ e, loads text = .error e
  /-- Nothing but blanks may follow an object. -/
  loads_more : ∀ {text more : String} {entries : List (String × Json)} {c : Char}
    {tail : List Char}, loads text = .ok (.obj entries) → more.toList = c :: tail →
    Json.isBlank c = false → ∃ e, loads (text ++ more) = .error e

/-- `json.loads` of the JSON grammar, which has no limits. -/
def grammarLoads (readFloat : FloatToken → FloatToken) (text : String) : Except PyExc Json :=
  match Json.loads readFloat text with
  | some value => .ok value
  | none => .error (.other "JSONDecodeError" "Expecting value")

/-- What the grammar reads. -/
theorem grammarLoads_eq_ok {readFloat : FloatToken → FloatToken} {text : String} {value : Json} :
    grammarLoads readFloat text = .ok value ↔ Json.loads readFloat text = some value := by
  unfold grammarLoads
  cases Json.loads readFloat text with
  | none =>
      constructor
      · intro read
        cases read
      · intro read
        cases read
  | some other => rw [Except.ok.injEq, Option.some.injEq]

/-- No value begins with a character that is stripped. -/
theorem isSpace_starts {c : Char} (space : isSpace c = true) :
    Lib.startsNumber c = false ∧ c ∉ ['"', '[', '\x7b', 'n', 't', 'f'] := by
  have visible : ∀ d : Char, isSpace d = false → c ≠ d := by
    rintro d other rfl
    exact Bool.noConfusion (space.symm.trans other)
  have digit : c.isDigit = false := by
    by_contra digit
    rw [Bool.not_eq_false, Char.isDigit, Bool.and_eq_true, decide_eq_true_eq,
      decide_eq_true_eq] at digit
    have low : '0'.toNat ≤ c.toNat := digit.1
    have high : c.toNat ≤ '9'.toNat := digit.2
    have zero : '0'.toNat = 48 := rfl
    have nine : '9'.toNat = 57 := rfl
    simp only [isSpace, Bool.or_eq_true, Bool.and_eq_true, decide_eq_true_eq, beq_iff_eq] at space
    omega
  refine ⟨?_, ?_⟩
  · rw [Lib.startsNumber, Lib.isIntChar, digit, beq_false_of_ne (visible '-' rfl),
      beq_false_of_ne (visible 'N' rfl), beq_false_of_ne (visible 'I' rfl)]
    rfl
  · intro member
    have shown : ∀ d ∈ ['"', '[', '\x7b', 'n', 't', 'f'], (!isSpace d) = true :=
      List.all_eq_true.mp (by decide)
    exact visible c ((Bool.not_eq_true' _).mp (shown c member)) rfl

/-- A text that strips to nothing is white space only. -/
theorem isSpace_of_strip {s : String} (blank : strip s = "") : ∀ c ∈ s.toList, isSpace c = true := by
  have reversed := congrArg String.toList blank
  rw [strip, String.toList_ofList, String.toList_empty, List.reverse_eq_nil_iff,
    List.dropWhile_eq_nil_iff] at reversed
  have front : s.toList.dropWhile isSpace = [] := by
    cases kept : s.toList.dropWhile isSpace with
    | nil => rfl
    | cons c rest =>
        have space := reversed c (by rw [kept]; exact List.mem_reverse.mpr List.mem_cons_self)
        have other := List.head?_dropWhile_not isSpace s.toList
        rw [kept] at other
        exact absurd space (by simpa using other)
  exact List.dropWhile_eq_nil_iff.mp front

/-- A blank text is not read. -/
theorem loads_blank {readFloat : FloatToken → FloatToken} {text : String}
    (blank : strip text = "") : Json.loads readFloat text = none := by
  refine Json.loads_eq_none fun c member => isSpace_starts (isSpace_of_strip blank c ?_)
  exact (List.dropWhile_sublist _).mem (List.mem_of_mem_head? member)

/-- A record is as readable as its event. -/
theorem readable_auditRecord {readFloat : FloatToken → FloatToken} {previousHash event : Json}
    (link : previousHash = .null ∨ ∃ hash, previousHash = .str hash)
    (readable : Json.Readable readFloat event) (eventHash : String) :
    Json.Readable readFloat (auditRecord previousHash event eventHash) := by
  have distinct : ["previous_hash", "event", "event_hash"].Nodup := by decide
  have readableLink : Json.Readable readFloat previousHash := by
    rcases link with rfl | ⟨hash, rfl⟩
    all_goals exact trivial
  exact ⟨distinct, readableLink, readable, trivial, trivial⟩

/-- **A module without limits**, which reads the JSON grammar. -/
def grammarModule (readFloat : FloatToken → FloatToken) : JsonModule readFloat where
  limit _ := none
  loads := grammarLoads readFloat
  limit_texts _ _ := rfl
  loads_record _ link readable blank :=
    grammarLoads_eq_ok.mpr (Json.loads_dumps (readable_auditRecord link readable _) blank)
  loads_blank text blank := ⟨_, by rw [grammarLoads, loads_blank blank]⟩
  loads_more read follows visible := by
    rw [grammarLoads, Json.loads_append_eq_none (grammarLoads_eq_ok.mp read) follows visible]
    exact ⟨_, rfl⟩

/-! ## Sorted texts -/

section Sorted

variable (std : Stdlib)

/-- The entries of a mapping by the texts of their keys, where all keys are strings. -/
def stringKeys {α : Type} : List (PyValue × α) → Option (List (String × α))
  | [] => some []
  | (.str key, value) :: rest => (stringKeys rest).map ((key, value) :: ·)
  | _ :: _ => none

/-- `sorted(items)` of the items of a mapping, whose keys are all different: strings are sorted as
strings, and a single key is compared with none. Other keys are compared by the library, which raises
where two of them have no order. -/
def sortItems {α : Type} (items : List (PyValue × α)) : Except PyExc (List (PyValue × α)) :=
  match stringKeys items with
  | some named =>
      .ok ((named.insertionSort fun e f => e.1 ≤ f.1).map fun entry => (.str entry.1, entry.2))
  | none =>
      if items.length ≤ 1 then .ok items
      else do
        let order ← std.sorted (items.zipIdx.map fun item => .tuple [item.1.1, .int item.2])
        return order.filterMap fun key => match key with
          | .tuple [_, .int i] => items[i.toNat]?
          | _ => none

/-- An item whose value is written, under the text of its key. -/
def writtenItem (item : PyValue × Except PyExc Json) : Except PyExc (String × Json) := do
  return (← jsonKey item.1, ← item.2)

mutual

/-- The JSON value `json.dumps` writes with `sort_keys=True` and `default=str`, its entries in the
order in which they are written. -/
def jsonSorted : PyValue → Except PyExc Json
  | .none => .ok .null
  | .bool b => .ok (.bool b)
  | .int i => .ok (.int i)
  | .float x => .ok (.float x)
  | .str s => .ok (.str s)
  | .list items | .tuple items => do return .list (← jsonSortedItems items)
  | .dict entries => do
      -- the items are sorted before the first of them is written
      let items ← sortItems std (jsonSortedEntries entries)
      return .obj (← items.mapM writtenItem)
  | value => .ok (.str (std.str value))

/-- The items of a list as they are written. -/
def jsonSortedItems : List PyValue → Except PyExc (List Json)
  | [] => .ok []
  | item :: rest => do
      let item ← jsonSorted item
      return item :: (← jsonSortedItems rest)

/-- The entries of a mapping, each with what writing its value gives. -/
def jsonSortedEntries : List (PyValue × PyValue) → List (PyValue × Except PyExc Json)
  | [] => []
  | (key, value) :: rest => (key, jsonSorted value) :: jsonSortedEntries rest

end

end Sorted

section SortedNative

variable {std : Stdlib}

/-- The keys of entries under strings are these strings. -/
theorem stringKeys_map {α : Type} (entries : List (String × α)) :
    stringKeys (entries.map fun entry => (.str entry.1, entry.2)) = some entries := by
  induction entries with
  | nil => rfl
  | cons entry rest ih =>
      rw [List.map_cons, stringKeys, ih]
      rfl

/-- Entries under strings are sorted by the strings. -/
theorem sortItems_map {α : Type} (entries : List (String × α)) :
    sortItems std (entries.map fun entry => (.str entry.1, entry.2))
      = .ok ((entries.insertionSort fun e f => e.1 ≤ f.1).map fun entry =>
        (.str entry.1, entry.2)) := by
  rw [sortItems, stringKeys_map]

/-- Sorting by the keys does not look at the values. -/
theorem insertionSort_map_values {α β : Type} (f : α → β) (entries : List (String × α)) :
    (entries.map fun entry => (entry.1, f entry.2)).insertionSort (fun e g => e.1 ≤ g.1)
      = (entries.insertionSort fun e g => e.1 ≤ g.1).map fun entry => (entry.1, f entry.2) := by
  have order := List.map_insertionSort (fun e g : String × α => e.1 ≤ g.1)
    (fun e g : String × β => e.1 ≤ g.1) (fun entry : String × α => (entry.1, f entry.2)) entries
  exact (order fun e _ g _ => Iff.rfl).symm

/-- The entries of a mapping under strings, each with what writing its value gives. -/
theorem jsonSortedEntries_strEntries (entries : List (String × PyValue)) :
    jsonSortedEntries std (strEntries entries)
      = entries.map fun entry => (.str entry.1, jsonSorted std entry.2) := by
  induction entries with
  | nil => rfl
  | cons entry rest ih =>
      rw [strEntries, List.map_cons, jsonSortedEntries]
      exact congrArg (_ :: ·) ih

/-- **A mapping under strings** is written in the order of the strings. -/
theorem jsonSorted_strEntries (entries : List (String × PyValue)) :
    jsonSorted std (.dict (strEntries entries)) = (do
      return .obj (← (entries.insertionSort fun e f => e.1 ≤ f.1).mapM fun entry =>
        (jsonSorted std entry.2).map (entry.1, ·))) := by
  have sorted := @sortItems_map std _ (entries.map fun entry => (entry.1, jsonSorted std entry.2))
  rw [List.map_map, insertionSort_map_values, List.map_map] at sorted
  rw [jsonSorted, jsonSortedEntries_strEntries]
  refine (congrArg (· >>= _) sorted).trans ?_
  rw [except_ok_bind, List.mapM_map]
  refine congrArg (· >>= _) (congrArg (List.mapM · _) (funext fun entry => ?_))
  change writtenItem (.str entry.1, jsonSorted std entry.2) = _
  rw [writtenItem]
  cases jsonSorted std entry.2 <;> rfl

mutual

/-- Every mapping in a value has strings as keys. -/
def PyValue.TextKeyed : PyValue → Prop
  | .list items | .tuple items => textKeyedItems items
  | .dict entries => textKeyedEntries entries
  | _ => True

/-- Every mapping in the items of a list does. -/
def PyValue.textKeyedItems : List PyValue → Prop
  | [] => True
  | item :: rest => item.TextKeyed ∧ textKeyedItems rest

/-- The entries of a mapping are under strings, and every mapping in their values does. -/
def PyValue.textKeyedEntries : Params → Prop
  | [] => True
  | (.str _, value) :: rest => value.TextKeyed ∧ textKeyedEntries rest
  | _ :: _ => False

end

/-- Entries under strings. -/
theorem exists_strEntries {entries : Params} (keyed : PyValue.textKeyedEntries entries) :
    ∃ named, entries = strEntries named := by
  induction entries with
  | nil => exact ⟨[], rfl⟩
  | cons entry rest ih =>
      obtain ⟨key, value⟩ := entry
      cases key with
      | str key =>
          obtain ⟨named, same⟩ := ih keyed.2
          exact ⟨(key, value) :: named, congrArg (_ :: ·) same⟩
      | _ => exact keyed.elim

/-- The entries of a mapping under strings, with `default=str`. -/
theorem jsonDefaultStrEntries_strEntries (entries : List (String × PyValue)) :
    jsonDefaultStrEntries std (strEntries entries)
      = entries.map fun entry => (entry.1, jsonDefaultStr std entry.2) := by
  induction entries with
  | nil => rfl
  | cons entry rest ih =>
      rw [strEntries, List.map_cons, jsonDefaultStrEntries]
      exact congrArg (_ :: ·) ih

mutual

/-- **A value whose mappings have strings as keys is written**, in the normal form of what it is
without the sorting. -/
theorem jsonSorted_textKeyed {value : PyValue} (keyed : value.TextKeyed) :
    jsonSorted std value = .ok (Json.norm (jsonDefaultStr std value)) := by
  match value with
  | .none | .bool _ | .int _ | .float _ | .str _ | .bytes _ | .set _ | .object _ _ => rfl
  | .list items | .tuple items =>
      rw [jsonSorted, jsonSortedItems_textKeyed keyed, jsonDefaultStr]
      rfl
  | .dict entries =>
      obtain ⟨named, same⟩ := exists_strEntries keyed
      have written : (named.insertionSort fun e f => e.1 ≤ f.1).mapM
          (fun entry => (jsonSorted std entry.2).map (entry.1, ·))
          = .ok ((named.insertionSort fun e f => e.1 ≤ f.1).map fun entry =>
            (entry.1, Json.norm (jsonDefaultStr std entry.2))) := by
        refine Lib.except_mapM_eq_ok (List.forall₂_map_right_iff.mpr
          (List.forall₂_same.mpr fun entry member => ?_))
        have inside : (.str entry.1, entry.2) ∈ entries := by
          rw [same]
          exact List.mem_map_of_mem ((List.mem_insertionSort _).mp member)
        rw [jsonSorted_textKeyedEntry keyed inside]
        rfl
      rw [jsonDefaultStr, same, jsonSorted_strEntries, written, jsonDefaultStrEntries_strEntries,
        Json.norm_obj, Json.normEntries_eq_map, Json.sortEntries, List.map_map]
      exact congrArg (fun entries => Except.ok (Json.obj entries))
        (insertionSort_map_values (fun value => Json.norm (jsonDefaultStr std value)) named).symm

/-- The items of a list are written so. -/
theorem jsonSortedItems_textKeyed {items : List PyValue}
    (keyed : PyValue.textKeyedItems items) :
    jsonSortedItems std items = .ok (Json.normItems (jsonDefaultStrItems std items)) := by
  match items with
  | [] => rfl
  | item :: rest =>
      rw [jsonSortedItems, jsonSorted_textKeyed keyed.1, jsonSortedItems_textKeyed keyed.2]
      rfl

/-- The value of an entry is written so. -/
theorem jsonSorted_textKeyedEntry {entries : Params}
    (keyed : PyValue.textKeyedEntries entries) {entry : PyValue × PyValue}
    (member : entry ∈ entries) :
    jsonSorted std entry.2 = .ok (Json.norm (jsonDefaultStr std entry.2)) := by
  match entries with
  | [] => cases member
  | (.str key, value) :: rest =>
      rcases List.mem_cons.mp member with rfl | later
      · exact jsonSorted_textKeyed keyed.1
      · exact jsonSorted_textKeyedEntry keyed.2 later

end

mutual

/-- The mappings in a JSON value have strings as keys. -/
theorem textKeyed_ofJson (v : Json) : (PyValue.ofJson v).TextKeyed := by
  match v with
  | .null | .bool _ | .int _ | .float _ | .str _ => exact trivial
  | .list items => exact textKeyedItems_ofItems items
  | .obj entries => exact textKeyedEntries_ofEntries entries

/-- So do those in the items of a JSON list. -/
theorem textKeyedItems_ofItems (items : List Json) :
    PyValue.textKeyedItems (PyValue.ofItems items) := by
  match items with
  | [] => exact trivial
  | v :: rest => exact ⟨textKeyed_ofJson v, textKeyedItems_ofItems rest⟩

/-- The entries of a JSON object are under strings. -/
theorem textKeyedEntries_ofEntries (entries : List (String × Json)) :
    PyValue.textKeyedEntries (PyValue.ofEntries entries) := by
  match entries with
  | [] => exact trivial
  | (key, v) :: rest => exact ⟨textKeyed_ofJson v, textKeyedEntries_ofEntries rest⟩

end

/-- **A JSON value is written in its normal form.** -/
theorem jsonSorted_ofJson (v : Json) : jsonSorted std (PyValue.ofJson v) = .ok (Json.norm v) := by
  rw [jsonSorted_textKeyed (textKeyed_ofJson v), jsonDefaultStr_ofJson]

end SortedNative

/-! ## Received texts -/

mutual

/-- The value that is read of a text: of several entries with one key the last stays. -/
def collapse : Json → Json
  | .list items => .list (collapseItems items)
  | .obj entries => .obj (Json.storeAll (collapseEntries entries))
  | v => v

/-- The items of a list as they are read. -/
def collapseItems : List Json → List Json
  | [] => []
  | v :: rest => collapse v :: collapseItems rest

/-- The values of an object as they are read. -/
def collapseEntries : List (String × Json) → List (String × Json)
  | [] => []
  | (key, v) :: rest => (key, collapse v) :: collapseEntries rest

end

/-- `json.loads(json.dumps(value))`: what somebody receives to whom the value is sent. -/
def receivedJson (value : PyValue) : Except PyExc Json := (jsonSafe value).map collapse

section Received

variable {readFloat : FloatToken → FloatToken}

mutual

/-- A value that can be read back is read as it is. -/
theorem collapse_of_readable (v : Json) (readable : Json.Readable readFloat v) : collapse v = v := by
  match v with
  | .null | .bool _ | .int _ | .float _ | .str _ => rfl
  | .list items => rw [collapse, collapseItems_of_readable items readable]
  | .obj entries =>
      rw [collapse, collapseEntries_of_readable entries readable.2,
        Json.storeAll_of_nodup readable.1]

/-- The items of a list that can be read back are read as they are. -/
theorem collapseItems_of_readable (items : List Json)
    (readable : Json.readableItems readFloat items) : collapseItems items = items := by
  match items with
  | [] => rfl
  | v :: rest =>
      rw [collapseItems, collapse_of_readable v readable.1,
        collapseItems_of_readable rest readable.2]

/-- The values of an object that can be read back are read as they are. -/
theorem collapseEntries_of_readable (entries : List (String × Json))
    (readable : Json.readableEntries readFloat entries) : collapseEntries entries = entries := by
  match entries with
  | [] => rfl
  | (key, v) :: rest =>
      rw [collapseEntries, collapse_of_readable v readable.1,
        collapseEntries_of_readable rest readable.2]

end

/-- **A JSON value is received as it was sent.** -/
theorem receivedJson_ofJson {v : Json} (readable : Json.Readable readFloat v) :
    receivedJson (PyValue.ofJson v) = .ok v := by
  rw [receivedJson, jsonSafe_ofJson]
  exact congrArg Except.ok (collapse_of_readable v readable)

end Received

/-! ## Values that are the same -/

mutual

/-- **The same value**, with the entries of its mappings in any order: a tuple is no list, and a
number no text. -/
inductive PyValue.Same : PyValue → PyValue → Prop
  | refl (value : PyValue) : Same value value
  | list {items others : List PyValue} (each : SameItems items others) :
      Same (.list items) (.list others)
  | tuple {items others : List PyValue} (each : SameItems items others) :
      Same (.tuple items) (.tuple others)
  | dict {entries order others : Params} (perm : entries.Perm order)
      (each : SameEntries order others) : Same (.dict entries) (.dict others)

/-- Lists with the same values. -/
inductive PyValue.SameItems : List PyValue → List PyValue → Prop
  | nil : SameItems [] []
  | cons {item other : PyValue} {rest others : List PyValue} (here : PyValue.Same item other)
      (later : SameItems rest others) : SameItems (item :: rest) (other :: others)

/-- Entries with the same values under equal keys. -/
inductive PyValue.SameEntries : Params → Params → Prop
  | nil : SameEntries [] []
  | cons {key value other : PyValue} {rest others : Params} (here : PyValue.Same value other)
      (later : SameEntries rest others) :
      SameEntries ((key, value) :: rest) ((key, other) :: others)

end

section SameNative

/-- Entries with one normal form each have the same values, where values with one normal form are the
same. -/
theorem sameEntries_of_norm {entries others : List (String × Json)}
    (each : ∀ entry ∈ entries, ∀ w, Json.norm entry.2 = Json.norm w →
      (PyValue.ofJson entry.2).Same (PyValue.ofJson w))
    (same : Json.normEntries entries = Json.normEntries others) :
    PyValue.SameEntries (PyValue.ofEntries entries) (PyValue.ofEntries others) := by
  induction entries generalizing others with
  | nil =>
      cases others with
      | nil => exact .nil
      | cons other others => cases same
  | cons entry rest ih =>
      cases others with
      | nil => cases same
      | cons other others =>
          obtain ⟨key, value⟩ := entry
          obtain ⟨key', value'⟩ := other
          obtain ⟨here, later⟩ := List.cons.inj same
          obtain ⟨rfl, normal⟩ := Prod.mk.inj here
          rw [List.forall_mem_cons] at each
          exact .cons (each.1 value' normal) (ih each.2 later)

/-- Objects with one normal form have, in some order, entries with one normal form each. -/
theorem exists_perm_of_norm {entries others : List (String × Json)}
    (same : Json.norm (.obj entries) = Json.norm (.obj others)) :
    ∃ order, entries.Perm order ∧ Json.normEntries order = Json.normEntries others := by
  have sorted : Json.sortEntries (Json.normEntries entries)
      = Json.sortEntries (Json.normEntries others) := Json.obj.inj same
  have perm : (Json.normEntries others).Perm (Json.normEntries entries) := by
    have left := List.perm_insertionSort (fun e f : String × Json => e.1 ≤ f.1)
      (Json.normEntries entries)
    have right := List.perm_insertionSort (fun e f : String × Json => e.1 ≤ f.1)
      (Json.normEntries others)
    rw [Json.sortEntries, Json.sortEntries] at sorted
    rw [sorted] at left
    exact right.symm.trans left
  simp only [Json.normEntries_eq_map] at perm ⊢
  -- the permutation of the normal forms is one of the entries
  obtain ⟨order, images, isPerm⟩ := (congrFun (congrFun (List.eq_map_comp_perm
    fun entry : String × Json => (entry.1, Json.norm entry.2)) _) _).mpr perm
  exact ⟨order, isPerm.symm, images.symm⟩

mutual

/-- **JSON values with one normal form are the same.** -/
theorem same_of_norm (v w : Json) (same : Json.norm v = Json.norm w) :
    (PyValue.ofJson v).Same (PyValue.ofJson w) := by
  match v, w with
  | .list items, .list others =>
      exact .list (sameItems_of_norm items others (Json.list.inj same))
  | .obj entries, .obj others =>
      obtain ⟨order, perm, images⟩ := exists_perm_of_norm same
      have keyed : (PyValue.ofEntries entries).Perm (PyValue.ofEntries order) := by
        rw [ofEntries_eq_map, ofEntries_eq_map]
        exact perm.map _
      refine .dict keyed (sameEntries_of_norm (fun entry member w same => ?_) images)
      exact same_of_norm_entry entries entry (perm.mem_iff.mpr member) w same
  | .null, w | .bool _, w | .int _, w | .float _, w | .str _, w =>
      cases w <;> cases same
      all_goals exact .refl _

/-- Items with one normal form each are the same. -/
theorem sameItems_of_norm (items others : List Json)
    (same : Json.normItems items = Json.normItems others) :
    PyValue.SameItems (PyValue.ofItems items) (PyValue.ofItems others) := by
  match items, others with
  | [], [] => exact .nil
  | v :: rest, w :: others =>
      obtain ⟨here, later⟩ := List.cons.inj same
      exact .cons (same_of_norm v w here) (sameItems_of_norm rest others later)

/-- The value of an entry is the same as every value with its normal form. -/
theorem same_of_norm_entry (entries : List (String × Json)) (entry : String × Json)
    (member : entry ∈ entries) (w : Json) (same : Json.norm entry.2 = Json.norm w) :
    (PyValue.ofJson entry.2).Same (PyValue.ofJson w) := by
  match entries with
  | [] => cases member
  | (key, v) :: rest =>
      rcases List.mem_cons.mp member with rfl | later
      · exact same_of_norm v w same
      · exact same_of_norm_entry rest entry later w same

end

end SameNative

end AgenticKVM
