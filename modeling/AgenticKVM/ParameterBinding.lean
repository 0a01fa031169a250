import AgenticKVM.Lib.JsonLookup
import AgenticKVM.ClearanceBinding
import AgenticKVM.StorableTrees

/-! # What a fingerprint binds

Three canonical texts are hashed for parameters: the strict one of signed grants, the lax one of
stored grants and the tower's. On trees of JSON values with strings as keys they are one text, which
is equal exactly for trees that are equal up to the order of entries (`canonicalJson_agree`). Other
parameters are bound by the lax text only up to its coercions (`actionFingerprint_binds_iff`). -/

namespace AgenticKVM

open Lib (Json FloatToken except_bind_eq_ok except_ok_bind)

/-! ## JSON trees -/

mutual

/-- **A JSON tree**: mappings with strings as keys, each once, lists, tuples and JSON scalars. -/
def PyValue.JsonTree : PyValue → Prop
  | .none | .bool _ | .int _ | .float _ | .str _ => True
  | .list items | .tuple items => jsonTreeItems items
  | .dict entries => jsonTreeEntries entries
  | .bytes _ | .set _ | .object _ _ => False

/-- Items that are trees of JSON values. -/
def PyValue.jsonTreeItems : List PyValue → Prop
  | [] => True
  | item :: rest => item.JsonTree ∧ jsonTreeItems rest

/-- Entries that are trees of JSON values under distinct texts. -/
def PyValue.jsonTreeEntries : List (PyValue × PyValue) → Prop
  | [] => True
  | (.str key, value) :: rest =>
      paramGet rest key = Option.none ∧ value.JsonTree ∧ jsonTreeEntries rest
  | _ :: _ => False

end

/-- The items of a list or a tuple. -/
def PyValue.items? : PyValue → Option (List PyValue)
  | .list items | .tuple items => some items
  | _ => Option.none

mutual

/-- **Trees that are equal up to the order of entries**, tuples counted as lists: the same scalars,
the same items in order, and mappings with the same keys and the same value under each. -/
def PyValue.SameTree : PyValue → PyValue → Prop
  | .none, .none => True
  | .bool b, .bool c => b = c
  | .int i, .int j => i = j
  | .float x, .float y => x = y
  | .str s, .str t => s = t
  | .list items, other | .tuple items, other => ∃ others, other.items? = some others
      ∧ sameItems items others
  | .dict entries, .dict others =>
      sameEntries entries others
        ∧ ∀ key, (paramGet others key).isSome = true → (paramGet entries key).isSome = true
  | _, _ => False

/-- Items that are the same trees, place by place. -/
def PyValue.sameItems : List PyValue → List PyValue → Prop
  | [], [] => True
  | item :: rest, other :: others => item.SameTree other ∧ sameItems rest others
  | _, _ => False

/-- Under each key of the entries the others have the same value. -/
def PyValue.sameEntries : List (PyValue × PyValue) → List (PyValue × PyValue) → Prop
  | [], _ => True
  | (.str key, value) :: rest, others =>
      (∃ other, paramGet others key = some other ∧ value.SameTree other)
        ∧ sameEntries rest others
  | _ :: _, _ => False

end

/-- `_canonical_json_value` and `json.dumps` of `approvals.fingerprint_parameters`: the lax
canonical text. -/
def laxCanonicalJson (std : Stdlib) (value : PyValue) : Except PyExc String := do
  return Json.dumps (jsonDefaultStr std (← canonicalJsonValue std value))

section Trees

variable {std : Stdlib}

/-- The stored grants' fingerprint hashes the lax text. -/
theorem actionFingerprint_eq (parameters : Params) :
    actionFingerprint std parameters
      = (laxCanonicalJson std (.dict parameters)).map std.sha256 := by
  unfold actionFingerprint laxCanonicalJson
  cases canonicalJsonValue std (.dict parameters) <;> rfl

/-! ## Normal forms -/

mutual

/-- **A JSON tree stands for one JSON value** in all three texts. -/
theorem normalize_jsonTree {value : PyValue} (tree : value.JsonTree) :
    ∃ v, normalize value = .ok v ∧ jsonDefaultStr std value = v
      ∧ ∃ canonical, canonicalJsonValue std value = .ok canonical
        ∧ jsonDefaultStr std canonical = v := by
  match value with
  | .none | .bool _ | .int _ | .float _ | .str _ => exact ⟨_, rfl, rfl, _, rfl, rfl⟩
  | .list items | .tuple items =>
      obtain ⟨vs, strict, act, canonical, lax, same⟩ := normalizeItems_jsonTree tree
      refine ⟨.list vs, ?_, ?_, .list canonical, ?_, ?_⟩
      · rw [normalize, strict]
        rfl
      · rw [jsonDefaultStr, act]
      · rw [canonicalJsonValue, lax]
        rfl
      · rw [jsonDefaultStr, same]
  | .dict entries =>
      obtain ⟨es, strict, act, canonical, lax, same⟩ := normalizeEntries_jsonTree tree
      have built := lax [] fun key member => by cases member
      refine ⟨.obj es, ?_, ?_, .dict (canonical.map fun entry => (.str entry.1, entry.2)), ?_, ?_⟩
      · rw [normalize, strict]
        rfl
      · rw [jsonDefaultStr, act]
      · rw [canonicalJsonValue, built]
        rfl
      · rw [jsonDefaultStr, same]

/-- Items of JSON values are normalised, and coerced by the other fingerprint, to the JSON they are
written as. -/
theorem normalizeItems_jsonTree {items : List PyValue} (tree : PyValue.jsonTreeItems items) :
    ∃ vs, normalizeItems items = .ok vs ∧ jsonDefaultStrItems std items = vs
      ∧ ∃ canonical, canonicalJsonItems std items = .ok canonical
        ∧ jsonDefaultStrItems std canonical = vs := by
  match items with
  | [] => exact ⟨_, rfl, rfl, _, rfl, rfl⟩
  | item :: rest =>
      obtain ⟨v, strict, act, canonical, lax, same⟩ := normalize_jsonTree tree.1
      obtain ⟨vs, strict', act', canonical', lax', same'⟩ := normalizeItems_jsonTree tree.2
      refine ⟨v :: vs, ?_, ?_, canonical :: canonical', ?_, ?_⟩
      · rw [normalizeItems, strict, strict']
        rfl
      · rw [jsonDefaultStrItems, act, act']
      · rw [canonicalJsonItems, lax, lax']
        rfl
      · rw [jsonDefaultStrItems, same, same']

/-- Entries of JSON values are normalised, and coerced by the other fingerprint, to the JSON they
are written as, whatever other entries were coerced before. -/
theorem normalizeEntries_jsonTree {entries : Params} (tree : PyValue.jsonTreeEntries entries) :
    ∃ es, normalizeEntries entries = .ok es ∧ jsonDefaultStrEntries std entries = es
      ∧ ∃ canonical : List (String × PyValue),
        (∀ done : List (String × PyValue),
          (∀ key ∈ done.map Prod.fst, paramGet entries key = none) →
          canonicalJsonEntries std done entries
            = .ok ((done ++ canonical).map fun entry => (.str entry.1, entry.2)))
        ∧ jsonDefaultStrEntries std (canonical.map fun entry => (.str entry.1, entry.2)) = es := by
  match entries with
  | [] =>
      refine ⟨[], rfl, rfl, [], fun done _ => ?_, rfl⟩
      rw [canonicalJsonEntries, List.append_nil]
  | (.str key, value) :: rest =>
      obtain ⟨absent, here, later⟩ := tree
      obtain ⟨v, strict, act, c, lax, same⟩ := normalize_jsonTree here
      obtain ⟨es, strict', act', canonical, lax', same'⟩ := normalizeEntries_jsonTree later
      refine ⟨(key, v) :: es, ?_, ?_, (key, c) :: canonical, fun done fresh => ?_, ?_⟩
      · rw [normalizeEntries, strict, strict']
        rfl
      · rw [jsonDefaultStrEntries, act, act']
        rfl
      · -- the key is new among those stored so far, so the entry is appended
        have new : key ∉ done.map Prod.fst := by
          intro member
          have none := fresh key member
          rw [paramGet_cons, if_pos rfl] at none
          cases none
        have fresh' : ∀ k ∈ (done ++ [(key, c)]).map Prod.fst, paramGet rest k = none := by
          intro k member
          rw [List.map_append, List.mem_append] at member
          rcases member with before | last
          · have none := fresh k before
            rw [paramGet_cons] at none
            split at none
            · cases none
            · exact none
          · rw [List.mem_singleton.mp last]
            exact absent
        rw [canonicalJsonEntries, lax, except_ok_bind, pyStr, dictSet_of_new new, lax' _ fresh',
          List.append_assoc]
        rfl
      · rw [List.map_cons, jsonDefaultStrEntries, same, same']
        rfl

end

mutual

/-- The mappings in a tree have strings as keys. -/
theorem textKeyed_jsonTree {value : PyValue} (tree : value.JsonTree) : value.TextKeyed := by
  match value with
  | .none | .bool _ | .int _ | .float _ | .str _ => exact trivial
  | .list items | .tuple items => exact textKeyedItems_jsonTree tree
  | .dict entries => exact textKeyedEntries_jsonTree tree

/-- So do those in the items of a list. -/
theorem textKeyedItems_jsonTree {items : List PyValue} (tree : PyValue.jsonTreeItems items) :
    PyValue.textKeyedItems items := by
  match items with
  | [] => exact trivial
  | item :: rest => exact ⟨textKeyed_jsonTree tree.1, textKeyedItems_jsonTree tree.2⟩

/-- So do the entries of a mapping. -/
theorem textKeyedEntries_jsonTree {entries : Params} (tree : PyValue.jsonTreeEntries entries) :
    PyValue.textKeyedEntries entries := by
  match entries with
  | [] => exact trivial
  | (.str key, value) :: rest =>
      exact ⟨textKeyed_jsonTree tree.2.1, textKeyedEntries_jsonTree tree.2.2⟩

end

/-- What a tree's mapping has under a key, as JSON. -/
theorem lookup_jsonDefaultStrEntries {entries : Params} (tree : PyValue.jsonTreeEntries entries)
    (key : String) : (jsonDefaultStrEntries std entries).lookup key
      = (paramGet entries key).map (jsonDefaultStr std) := by
  induction entries with
  | nil => rfl
  | cons entry rest ih =>
      obtain ⟨entryKey, value⟩ := entry
      cases entryKey with
      | str entryKey =>
          rw [jsonDefaultStrEntries, pyStr, paramGet_cons, List.lookup_cons]
          by_cases same : entryKey = key
          · subst same
            rw [if_pos rfl, beq_self_eq_true]
            rfl
          · rw [if_neg same, beq_false_of_ne fun equal => same equal.symm]
            exact ih tree.2.2
      | _ => exact tree.elim

/-- The keys of a tree's mapping are distinct. -/
theorem jsonDefaultStrEntries_nodup {entries : Params} (tree : PyValue.jsonTreeEntries entries) :
    ((jsonDefaultStrEntries std entries).map Prod.fst).Nodup := by
  induction entries with
  | nil => exact List.nodup_nil
  | cons entry rest ih =>
      obtain ⟨entryKey, value⟩ := entry
      cases entryKey with
      | str entryKey =>
          obtain ⟨absent, -, later⟩ := tree
          rw [jsonDefaultStrEntries, pyStr, List.map_cons, List.nodup_cons]
          refine ⟨fun member => ?_, ih later⟩
          obtain ⟨entry, inside, same⟩ := List.mem_map.mp member
          have missing := @lookup_jsonDefaultStrEntries std _ later entryKey
          rw [absent, Option.map_none] at missing
          have unequal := List.lookup_eq_none_iff.mp missing entry inside
          rw [same] at unequal
          exact absurd unequal (by simp)
      | _ => exact tree.elim

/-- The values of a tree's mapping are trees. -/
theorem jsonTree_of_paramGet {entries : Params} (tree : PyValue.jsonTreeEntries entries)
    {key : String} {value : PyValue} (found : paramGet entries key = some value) :
    value.JsonTree := by
  induction entries with
  | nil => cases found
  | cons entry rest ih =>
      obtain ⟨entryKey, entryValue⟩ := entry
      cases entryKey with
      | str entryKey =>
          rw [paramGet_cons] at found
          split at found
          · cases found
            exact tree.2.1
          · exact ih tree.2.2 found
      | _ => exact tree.elim

/-! ## Equal trees -/

mutual

/-- **Trees stand for JSON values that are equal up to the order of entries** exactly where they are
equal so themselves. -/
theorem norm_jsonTree_iff {value other : PyValue} (tree : value.JsonTree) (tree' : other.JsonTree) :
    Json.norm (jsonDefaultStr std value) = Json.norm (jsonDefaultStr std other)
      ↔ value.SameTree other := by
  match value with
  | .none | .bool _ | .int _ | .float _ | .str _ =>
      cases other with
      | bytes data | set items | object typeName text => exact tree'.elim
      | _ => simp [jsonDefaultStr, Json.norm, PyValue.SameTree]
  | .list items | .tuple items =>
      cases other with
      | list others | tuple others =>
          simp only [jsonDefaultStr, Json.norm, PyValue.SameTree, PyValue.items?, Json.list.injEq,
            Option.some.injEq, exists_eq_left']
          exact normItems_jsonTree_iff tree tree'
      | _ => simp [jsonDefaultStr, Json.norm, PyValue.SameTree, PyValue.items?]
  | .dict entries =>
      cases other with
      | dict others =>
          simp only [jsonDefaultStr, PyValue.SameTree]
          rw [Json.norm_obj_eq_iff (jsonDefaultStrEntries_nodup tree)
            (jsonDefaultStrEntries_nodup tree'), ← sameEntries_iff tree tree']
          simp only [lookup_jsonDefaultStrEntries tree, lookup_jsonDefaultStrEntries tree']
          constructor
          · intro found
            refine ⟨fun key value isValue => ?_, fun key isOther => ?_⟩
            · have same := found key
              rw [isValue] at same
              cases isOther : paramGet others key with
              | none =>
                  rw [isOther] at same
                  cases same
              | some other =>
                  rw [isOther] at same
                  exact ⟨other, rfl, Option.some.inj same⟩
            · obtain ⟨other, isOther⟩ := Option.isSome_iff_exists.mp isOther
              have same := found key
              rw [isOther] at same
              cases isValue : paramGet entries key with
              | none =>
                  rw [isValue] at same
                  cases same
              | some value => rfl
          · rintro ⟨found, back⟩ key
            cases isValue : paramGet entries key with
            | none =>
                have missing : paramGet others key = none := by
                  by_contra present
                  have some := back key (Option.isSome_iff_ne_none.mpr present)
                  rw [isValue] at some
                  cases some
                rw [missing]
            | some value =>
                obtain ⟨other, isOther, same⟩ := found key value isValue
                rw [isOther]
                exact congrArg some same
      | _ => simp [jsonDefaultStr, Json.norm, PyValue.SameTree]
termination_by sizeOf value

/-- **Items are written alike** exactly where they are the same trees. -/
theorem normItems_jsonTree_iff {items others : List PyValue} (tree : PyValue.jsonTreeItems items)
    (tree' : PyValue.jsonTreeItems others) :
    Json.normItems (jsonDefaultStrItems std items) = Json.normItems (jsonDefaultStrItems std others)
      ↔ PyValue.sameItems items others := by
  match items, others with
  | [], [] => exact iff_of_true rfl trivial
  | [], _ :: _ | _ :: _, [] =>
      simp [jsonDefaultStrItems, Json.normItems, PyValue.sameItems]
  | item :: rest, other :: others =>
      rw [jsonDefaultStrItems, jsonDefaultStrItems, Json.normItems, Json.normItems, List.cons.injEq,
        PyValue.sameItems, norm_jsonTree_iff tree.1 tree'.1, normItems_jsonTree_iff tree.2 tree'.2]
termination_by sizeOf items

/-- The values of entries are written as those of others under the same keys exactly where they are
the same trees. -/
theorem sameEntries_iff {entries others : Params} (tree : PyValue.jsonTreeEntries entries)
    (tree' : PyValue.jsonTreeEntries others) :
    (∀ key value, paramGet entries key = some value → ∃ other, paramGet others key = some other
      ∧ Json.norm (jsonDefaultStr std value) = Json.norm (jsonDefaultStr std other))
      ↔ PyValue.sameEntries entries others := by
  match entries with
  | [] => exact iff_of_true (fun _ _ found => by cases found) trivial
  | (.str entryKey, entryValue) :: rest =>
      obtain ⟨absent, here, later⟩ := tree
      rw [PyValue.sameEntries, ← sameEntries_iff later tree']
      constructor
      · intro found
        refine ⟨?_, fun key value isValue => found key value ?_⟩
        · obtain ⟨other, isOther, same⟩ := found entryKey entryValue
            (by rw [paramGet_cons, if_pos rfl])
          exact ⟨other, isOther,
            (norm_jsonTree_iff here (jsonTree_of_paramGet tree' isOther)).mp same⟩
        · rw [paramGet_cons, if_neg]
          · exact isValue
          · rintro rfl
            cases absent.symm.trans isValue
      · rintro ⟨⟨other, isOther, same⟩, found⟩ key value isValue
        rw [paramGet_cons] at isValue
        split at isValue
        · next equal =>
          cases isValue
          subst equal
          exact ⟨other, isOther,
            (norm_jsonTree_iff here (jsonTree_of_paramGet tree' isOther)).mpr same⟩
        · exact found key value isValue
termination_by sizeOf entries

end

/-- The three texts of a JSON tree are one. -/
theorem canonicalJson_texts {value : PyValue} (tree : value.JsonTree) :
    canonicalJson value = .ok (Json.dumps (jsonDefaultStr std value))
      ∧ laxCanonicalJson std value = .ok (Json.dumps (jsonDefaultStr std value))
      ∧ actCanonicalJson std value = .ok (Json.dumps (jsonDefaultStr std value)) := by
  obtain ⟨v, strict, act, canonical, lax, same⟩ := @normalize_jsonTree std _ tree
  refine ⟨?_, ?_, ?_⟩
  · rw [canonicalJson, strict, act]
    rfl
  · rw [laxCanonicalJson, lax, act, ← same]
    rfl
  · rw [actCanonicalJson, jsonSorted_textKeyed (textKeyed_jsonTree tree), Json.dumps_eq_text]
    rfl

end Trees

/-- **Canonical JSON**: on JSON trees the strict, the lax and the tower's canonical text are one, so
the fingerprints hash the same text for the same parameters, and it is equal exactly for trees that
are equal up to the order of entries. -/
theorem canonicalJson_agree (std : Stdlib) {value other : PyValue} (tree : value.JsonTree)
    (tree' : other.JsonTree) :
    (canonicalJson value = canonicalJson other ↔ value.SameTree other)
      ∧ ∃ text, canonicalJson value = .ok text ∧ laxCanonicalJson std value = .ok text
        ∧ actCanonicalJson std value = .ok text
        ∧ actContentHash std value = .ok (std.sha256 text)
        ∧ ∀ parameters, value = .dict parameters →
          fingerprintParameters std parameters = .ok (std.sha256 text)
          ∧ actionFingerprint std parameters = .ok (std.sha256 text) := by
  obtain ⟨strict, lax, act⟩ := @canonicalJson_texts std _ tree
  refine ⟨?_, _, strict, lax, act, ?_, ?_⟩
  · rw [strict, (@canonicalJson_texts std _ tree').1, Except.ok.injEq, Json.dumps_eq_iff]
    exact norm_jsonTree_iff tree tree'
  · rw [actContentHash, act]
    rfl
  · rintro parameters rfl
    constructor
    · rw [fingerprintParameters, strict]
      rfl
    · rw [actionFingerprint_eq, lax]
      rfl

namespace Deployment

/-- Parameters with a tuple, and the same with a list and the entries in another order. -/
def tupleParameters : Params :=
  [(.str "keys", .tuple [.str "ctrl", .int 1]), (.str "hold", .bool true)]

def listParameters : Params :=
  [(.str "hold", .bool true), (.str "keys", .list [.str "ctrl", .int 1])]

end Deployment

/-- The tuple and the list have one canonical text. -/
theorem canonicalJson_tupleParameters :
    canonicalJson (.dict Deployment.tupleParameters)
      = canonicalJson (.dict Deployment.listParameters) := by
  have tree : (PyValue.dict Deployment.tupleParameters).JsonTree :=
    ⟨rfl, ⟨trivial, trivial, trivial⟩, rfl, trivial, trivial⟩
  have tree' : (PyValue.dict Deployment.listParameters).JsonTree :=
    ⟨rfl, trivial, rfl, ⟨trivial, trivial, trivial⟩, trivial⟩
  refine (canonicalJson_agree Deployment.library tree tree').1.mpr ⟨?_, ?_⟩
  · exact ⟨⟨_, rfl, _, rfl, rfl, rfl, trivial⟩, ⟨_, rfl, rfl⟩, trivial⟩
  · intro key present
    rw [Deployment.listParameters, paramGet_cons, paramGet_cons] at present
    rw [Deployment.tupleParameters, paramGet_cons, paramGet_cons]
    split_ifs at present ⊢
    all_goals first | rfl | exact present

/-! ## Coerced parameters -/

mutual

/-- A value as Python has it: no mapping has a string twice among its keys. -/
def PyValue.UniqueKeys : PyValue → Prop
  | .list items | .tuple items | .set items => uniqueKeysItems items
  | .dict entries => uniqueKeysEntries entries
  | _ => True

/-- Items in which no mapping has a text twice among its keys. -/
def PyValue.uniqueKeysItems : List PyValue → Prop
  | [] => True
  | item :: rest => item.UniqueKeys ∧ uniqueKeysItems rest

/-- Entries in which no mapping has a text twice among its keys. -/
def PyValue.uniqueKeysEntries : List (PyValue × PyValue) → Prop
  | [] => True
  | (key, value) :: rest =>
      (∀ text, key = .str text → paramGet rest text = Option.none) ∧ value.UniqueKeys
        ∧ uniqueKeysEntries rest

end

section Coerced

variable {std : Stdlib}

mutual

/-- What equals a tree up to the order of entries is a JSON tree. -/
theorem jsonTree_of_sameTree {value other : PyValue} (unique : value.UniqueKeys)
    (same : value.SameTree other) : value.JsonTree := by
  match value with
  | .none | .bool _ | .int _ | .float _ | .str _ => trivial
  | .list items | .tuple items =>
      obtain ⟨others, -, same⟩ := same
      exact jsonTreeItems_of_sameItems unique same
  | .dict entries =>
      cases other with
      | dict others => exact jsonTreeEntries_of_sameEntries unique same.1
      | _ => exact same.elim
  | .bytes _ | .set _ | .object _ _ => cases other <;> exact same.elim

/-- Items that are the same trees as others are JSON values, where keys are unique. -/
theorem jsonTreeItems_of_sameItems {items others : List PyValue}
    (unique : PyValue.uniqueKeysItems items) (same : PyValue.sameItems items others) :
    PyValue.jsonTreeItems items := by
  match items, others with
  | [], _ => trivial
  | _ :: _, [] => exact same.elim
  | item :: rest, other :: others =>
      exact ⟨jsonTree_of_sameTree unique.1 same.1, jsonTreeItems_of_sameItems unique.2 same.2⟩

/-- Entries that are the same trees as others are JSON values, where keys are unique. -/
theorem jsonTreeEntries_of_sameEntries {entries others : Params}
    (unique : PyValue.uniqueKeysEntries entries) (same : PyValue.sameEntries entries others) :
    PyValue.jsonTreeEntries entries := by
  match entries with
  | [] => trivial
  | (.str key, value) :: rest =>
      obtain ⟨⟨other, -, here⟩, later⟩ := same
      exact ⟨unique.1 key rfl, jsonTree_of_sameTree unique.2.1 here,
        jsonTreeEntries_of_sameEntries unique.2.2 later⟩
  | (.none, _) :: _ | (.bool _, _) :: _ | (.int _, _) :: _ | (.float _, _) :: _ | (.bytes _, _) :: _
  | (.list _, _) :: _ | (.tuple _, _) :: _ | (.set _, _) :: _ | (.dict _, _) :: _
  | (.object _ _, _) :: _ => exact same.elim

end

/-- The items of a JSON list are trees where each item is. -/
theorem jsonTreeItems_ofItems {items : List PyValue}
    (each : ∀ item ∈ items, (PyValue.ofJson (jsonDefaultStr std item)).JsonTree) :
    PyValue.jsonTreeItems (PyValue.ofItems (jsonDefaultStrItems std items)) := by
  induction items with
  | nil => trivial
  | cons item rest ih =>
      rw [List.forall_mem_cons] at each
      exact ⟨each.1, ih each.2⟩

/-- The entries of a JSON object are trees where the keys are distinct and each value is a tree. -/
theorem jsonTreeEntries_ofEntries {entries : List (String × PyValue)}
    (distinct : (entries.map Prod.fst).Nodup)
    (each : ∀ entry ∈ entries, (PyValue.ofJson (jsonDefaultStr std entry.2)).JsonTree) :
    PyValue.jsonTreeEntries (PyValue.ofEntries (jsonDefaultStrEntries std
      (entries.map fun entry => (.str entry.1, entry.2)))) := by
  induction entries with
  | nil => trivial
  | cons entry rest ih =>
      rw [List.map_cons, List.nodup_cons] at distinct
      rw [List.forall_mem_cons] at each
      refine ⟨?_, each.1, ih distinct.2 each.2⟩
      have values : PyValue.ofEntries (jsonDefaultStrEntries std
            (rest.map fun entry => (.str entry.1, entry.2)))
          = (rest.map fun entry => (entry.1, PyValue.ofJson (jsonDefaultStr std entry.2))).map
            fun entry => (.str entry.1, entry.2) := by
        clear ih distinct each
        induction rest with
        | nil => rfl
        | cons entry rest ih =>
            rw [List.map_cons, jsonDefaultStrEntries, PyValue.ofEntries, ih]
            rfl
      change paramGet (PyValue.ofEntries _) entry.1 = none
      rw [values]
      refine paramGet_of_notMem fun member => distinct.1 ?_
      rw [List.map_map] at member
      exact member

mutual

/-- **What the lax text is of** is a JSON tree, whatever is coerced to it. -/
theorem jsonTree_canonicalJsonValue
    (sorts : ∀ items sorted, std.sorted items = .ok sorted → sorted.Perm items) {value c : PyValue}
    (canonical : canonicalJsonValue std value = .ok c) :
    (PyValue.ofJson (jsonDefaultStr std c)).JsonTree := by
  match value with
  | .none | .bool _ | .int _ | .float _ | .str _ | .bytes _ | .object _ _ =>
      cases canonical
      trivial
  | .list items | .tuple items =>
      obtain ⟨cs, each, same⟩ := except_bind_eq_ok.mp canonical
      cases same
      exact jsonTreeItems_ofItems (jsonTree_canonicalJsonItems sorts each)
  | .set items =>
      obtain ⟨cs, each, canonical⟩ := except_bind_eq_ok.mp canonical
      obtain ⟨sorted, isSorted, same⟩ := except_bind_eq_ok.mp canonical
      cases same
      refine jsonTreeItems_ofItems fun item member => ?_
      exact jsonTree_canonicalJsonItems sorts each item ((sorts _ _ isSorted).mem_iff.mp member)
  | .dict entries =>
      obtain ⟨es, each, same⟩ := except_bind_eq_ok.mp canonical
      cases same
      obtain ⟨done, rfl, distinct, values⟩ := jsonTree_canonicalJsonEntries sorts each
        List.nodup_nil fun _ member => by cases member
      exact jsonTreeEntries_ofEntries distinct values

/-- What items are coerced to is JSON. -/
theorem jsonTree_canonicalJsonItems
    (sorts : ∀ items sorted, std.sorted items = .ok sorted → sorted.Perm items)
    {items cs : List PyValue} (canonical : canonicalJsonItems std items = .ok cs) :
    ∀ c ∈ cs, (PyValue.ofJson (jsonDefaultStr std c)).JsonTree := by
  match items with
  | [] =>
      cases canonical
      exact fun _ member => by cases member
  | item :: rest =>
      obtain ⟨c, here, canonical⟩ := except_bind_eq_ok.mp canonical
      obtain ⟨others, later, same⟩ := except_bind_eq_ok.mp canonical
      cases same
      exact List.forall_mem_cons.mpr ⟨jsonTree_canonicalJsonValue sorts here,
        jsonTree_canonicalJsonItems sorts later⟩

/-- What entries are coerced to is JSON, under the keys that were there before and the texts of the
new ones. -/
theorem jsonTree_canonicalJsonEntries
    (sorts : ∀ items sorted, std.sorted items = .ok sorted → sorted.Perm items)
    {done : List (String × PyValue)} {entries es : Params}
    (canonical : canonicalJsonEntries std done entries = .ok es)
    (distinct : (done.map Prod.fst).Nodup)
    (values : ∀ entry ∈ done, (PyValue.ofJson (jsonDefaultStr std entry.2)).JsonTree) :
    ∃ all : List (String × PyValue), es = all.map (fun entry => (.str entry.1, entry.2))
      ∧ (all.map Prod.fst).Nodup
      ∧ ∀ entry ∈ all, (PyValue.ofJson (jsonDefaultStr std entry.2)).JsonTree := by
  match entries with
  | [] =>
      cases canonical
      exact ⟨done, rfl, distinct, values⟩
  | (key, value) :: rest =>
      obtain ⟨c, here, canonical⟩ := except_bind_eq_ok.mp canonical
      refine jsonTree_canonicalJsonEntries sorts canonical ?_ ?_
      · rw [dictSet_keys]
        split
        · exact distinct
        · next absent =>
          rw [List.nodup_append']
          exact ⟨distinct, List.nodup_singleton _, List.disjoint_singleton.mpr absent⟩
      · intro entry member
        rcases mem_dictSet member with rfl | ⟨inside, -⟩
        · exact jsonTree_canonicalJsonValue sorts here
        · exact values entry inside

end

/-- Equal fingerprints are of equal JSON trees, if SHA-256 has no collisions. -/
theorem sameTree_of_actionFingerprint (injective : Function.Injective std.sha256)
    {parameters others : Params} (tree : (PyValue.dict parameters).JsonTree)
    (tree' : (PyValue.dict others).JsonTree)
    (same : actionFingerprint std parameters = actionFingerprint std others) :
    (PyValue.dict parameters).SameTree (.dict others) := by
  rw [actionFingerprint_eq, actionFingerprint_eq, (canonicalJson_texts tree).2.1,
    (canonicalJson_texts tree').2.1] at same
  have text := injective (Except.ok.inj same)
  exact (norm_jsonTree_iff tree tree').mp ((Json.dumps_eq_iff _ _).mp text)

/-- **Every fingerprint is one of a JSON tree**: that of what the parameters are coerced to. -/
theorem coerced_actionFingerprint
    (sorts : ∀ items sorted, std.sorted items = .ok sorted → sorted.Perm items)
    {parameters : Params} {fingerprint : String}
    (printed : actionFingerprint std parameters = .ok fingerprint) :
    ∃ others, (PyValue.dict others).JsonTree
      ∧ actionFingerprint std others = .ok fingerprint := by
  obtain ⟨c, canonical, hashed⟩ := except_bind_eq_ok.mp printed
  obtain ⟨es, -, same⟩ := except_bind_eq_ok.mp canonical
  have tree := jsonTree_canonicalJsonValue sorts canonical
  cases same
  refine ⟨PyValue.ofEntries (jsonDefaultStrEntries std es), tree, ?_⟩
  have text := (@canonicalJson_texts std _ tree).2.1
  rw [jsonDefaultStr_ofJson] at text
  rw [actionFingerprint_eq]
  exact (congrArg (Except.map std.sha256) text).trans hashed

end Coerced

/-- **When a stored grant binds the parameters**: only JSON trees that are equal up to the order of
entries, tuples counted as lists, have the fingerprint of the approved parameters, exactly where
these are a JSON tree. Other parameters have the fingerprint of what they are coerced to. -/
theorem actionFingerprint_binds_iff (std : Stdlib) (injective : Function.Injective std.sha256)
    (sorts : ∀ items sorted, std.sorted items = .ok sorted → sorted.Perm items)
    {parameters : Params} (unique : (PyValue.dict parameters).UniqueKeys) {fingerprint : String}
    (printed : actionFingerprint std parameters = .ok fingerprint) :
    (∀ others, (PyValue.dict others).JsonTree → actionFingerprint std others = .ok fingerprint →
        (PyValue.dict parameters).SameTree (.dict others))
      ↔ (PyValue.dict parameters).JsonTree := by
  constructor
  · intro binds
    obtain ⟨others, tree, same⟩ := coerced_actionFingerprint sorts printed
    exact jsonTree_of_sameTree unique (binds others tree same)
  · intro tree others tree' same
    exact sameTree_of_actionFingerprint injective tree tree' (printed.trans same.symm)

namespace Deployment

/-- Parameters with a number as a key, and with its text. -/
def numberedParameters : Params := [(.int 1, .str "on")]

def textParameters : Params := [(.str "1", .str "on")]

end Deployment

/-- Approved parameters with a text as a key are bound. -/
theorem actionFingerprint_binds_textParameters :
    ∃ fingerprint, actionFingerprint Deployment.library Deployment.textParameters = .ok fingerprint
      ∧ ((∀ others, (PyValue.dict others).JsonTree →
          actionFingerprint Deployment.library others = .ok fingerprint →
          (PyValue.dict Deployment.textParameters).SameTree (.dict others))
        ↔ (PyValue.dict Deployment.textParameters).JsonTree) := by
  have sorts (items sorted : List PyValue)
      (isSorted : Deployment.library.sorted items = .ok sorted) : sorted.Perm items := by
    cases isSorted
    exact List.Perm.refl _
  have unique : (PyValue.dict Deployment.textParameters).UniqueKeys :=
    ⟨fun _ _ => rfl, trivial, trivial⟩
  exact ⟨_, rfl, actionFingerprint_binds_iff Deployment.library Deployment.sha256_injective sorts
    unique rfl⟩

/-- The number and its text have one fingerprint. -/
theorem not_actionFingerprint_binds :
    actionFingerprint Deployment.library Deployment.numberedParameters
        = actionFingerprint Deployment.library Deployment.textParameters
      ∧ (∃ fingerprint,
        actionFingerprint Deployment.library Deployment.numberedParameters = .ok fingerprint)
      ∧ ¬ (PyValue.dict Deployment.numberedParameters).SameTree
        (.dict Deployment.textParameters) :=
  ⟨rfl, ⟨_, rfl⟩, fun same => same.1⟩

end AgenticKVM
