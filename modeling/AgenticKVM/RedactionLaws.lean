import AgenticKVM.Redaction
import AgenticKVM.TowerClearance

/-! # What redaction hides

Two laws of `redact_mapping`. It replaces the value under every secret key at any depth, except that
it does not look into the lists stored under a key `redactions` (`redactMapping_covers_iff`). And what
it hides does not show in what it leaves: neither in the redacted tree nor in the reported paths
(`redactMapping_noninterference`). -/

namespace AgenticKVM

/-! ## Positions in a tree -/

/-- One step into a container: to the value under a key, or to an item. -/
inductive PathStep
  | key (k : String)
  | item (i : Nat)
deriving DecidableEq

/-- The value a step leads to. -/
def PyValue.child : PyValue → PathStep → Option PyValue
  | .dict entries, .key k => paramGet entries k
  | .list items, .item i | .tuple items, .item i => items[i]?
  | _, _ => .none

/-- The value at a position. -/
def PyValue.at (value : PyValue) : List PathStep → Option PyValue
  | [] => some value
  | step :: rest => (value.child step).bind fun child => child.at rest

mutual

/-- A tree whose mappings have strings as keys, each once. -/
def PyValue.StringKeyed : PyValue → Prop
  | .dict entries => stringKeyedEntries entries
  | .list items | .tuple items => stringKeyedItems items
  | _ => True

def PyValue.stringKeyedItems : List PyValue → Prop
  | [] => True
  | item :: rest => item.StringKeyed ∧ stringKeyedItems rest

def PyValue.stringKeyedEntries : List (PyValue × PyValue) → Prop
  | [] => True
  | (.str key, value) :: rest =>
      paramGet rest key = Option.none ∧ value.StringKeyed ∧ stringKeyedEntries rest
  | _ :: _ => False

end

/-- A list or a tuple. -/
def PyValue.isSequence : PyValue → Bool
  | .list _ | .tuple _ => true
  | _ => false

@[simp] theorem paramGet_nil (key : String) : paramGet [] key = none := rfl

/-- Looking a key up goes through the entries in order. -/
theorem paramGet_cons (key' : String) (value : PyValue) (rest : Params) (key : String) :
    paramGet ((.str key', value) :: rest) key
      = if key' = key then some value else paramGet rest key := by
  unfold paramGet
  by_cases same : key' = key
  · rw [if_pos same, List.find?_cons_of_pos (by simpa using same)]
    rfl
  · rw [if_neg same, List.find?_cons_of_neg (by simpa using same)]

/-- The items of a tree are trees. -/
theorem PyValue.stringKeyed_item {items : List PyValue} (keyed : stringKeyedItems items)
    {i : Nat} {item : PyValue} (found : items[i]? = some item) : item.StringKeyed := by
  induction items generalizing i with
  | nil => cases found
  | cons first rest ih =>
      obtain ⟨here, later⟩ := keyed
      cases i with
      | zero =>
          cases found
          exact here
      | succ i => exact ih later found

/-- The values of a tree's mapping are trees. -/
theorem PyValue.stringKeyed_entry {entries : Params} (keyed : stringKeyedEntries entries)
    {key : String} {value : PyValue} (found : paramGet entries key = some value) :
    value.StringKeyed := by
  induction entries with
  | nil => cases found
  | cons entry rest ih =>
      obtain ⟨entryKey, entryValue⟩ := entry
      cases entryKey with
      | str k =>
          obtain ⟨-, here, later⟩ := keyed
          rw [paramGet_cons] at found
          split at found
          · cases found
            exact here
          · exact ih later found
      | _ => exact keyed.elim

theorem PyValue.StringKeyed.child {value child : PyValue} (keyed : value.StringKeyed)
    {step : PathStep} (found : value.child step = some child) : child.StringKeyed := by
  cases value with
  | dict entries =>
      cases step with
      | key k => exact stringKeyed_entry keyed found
      | item i => cases found
  | list items | tuple items =>
      cases step with
      | key k => cases found
      | item i => exact stringKeyed_item keyed found
  | _ => cases step <;> cases found

/-! ## Redacted mappings -/

section Dicts

/-- Storing under a key that is not there yet appends an entry. -/
theorem dictSet_of_new {entries : List (String × PyValue)} {key : String} {value : PyValue}
    (new : key ∉ entries.map Prod.fst) : dictSet entries key value = entries ++ [(key, value)] := by
  unfold dictSet
  rw [if_neg]
  simp only [List.any_eq_true, beq_iff_eq, not_exists, not_and]
  intro entry member same
  exact new (List.mem_map.mpr ⟨entry, member, same⟩)

/-- A mapping built from entries with distinct keys has exactly these entries. -/
theorem pyDict_of_nodup {entries : List (String × PyValue)}
    (distinct : (entries.map Prod.fst).Nodup) :
    pyDict entries = entries.map fun entry => (.str entry.1, entry.2) := by
  have build : ∀ (rest done : List (String × PyValue)),
      ((done ++ rest).map Prod.fst).Nodup →
      rest.foldl (fun done entry => dictSet done entry.1 entry.2) done = done ++ rest := by
    intro rest
    induction rest with
    | nil => exact fun done _ => (List.append_nil done).symm
    | cons entry rest ih =>
        intro done distinct
        have new : entry.1 ∉ done.map Prod.fst := by
          rw [List.map_append, List.nodup_append'] at distinct
          exact fun member => distinct.2.2 member (List.mem_map_of_mem List.mem_cons_self)
        rw [List.foldl_cons, dictSet_of_new new,
          ih (done ++ [entry]) (by rw [List.append_assoc]; exact distinct), List.append_assoc]
        rfl
  rw [pyDict, build entries [] distinct, List.nil_append]

/-- A key that is not looked up successfully is no key of the mapping. -/
theorem notMem_of_paramGet {entries : List (String × PyValue)} {key : String}
    (absent : paramGet (entries.map fun entry => (.str entry.1, entry.2)) key = none) :
    key ∉ entries.map Prod.fst := by
  induction entries with
  | nil => exact List.not_mem_nil
  | cons entry rest ih =>
      rw [List.map_cons, paramGet_cons] at absent
      split at absent
      · cases absent
      · next other =>
          rw [List.map_cons, List.mem_cons, not_or]
          exact ⟨fun same => other same.symm, ih absent⟩

end Dicts

section Children

variable {lib : AuditLibrary} {path : String} {fullCapture : Bool}

/-- The redacted entries of a mapping. -/
def redactedEntries (lib : AuditLibrary) (path : String) (fullCapture : Bool)
    (entries : Params) : List (String × PyValue) :=
  (redactEntries lib path fullCapture entries).map fun child => (child.1, child.2.1)

theorem redactedEntries_cons (key : String) (value : PyValue) (rest : Params) :
    redactedEntries lib path fullCapture ((.str key, value) :: rest)
      = (key, (redactValue lib key (childPath path key) fullCapture value).value)
        :: redactedEntries lib path fullCapture rest := by
  simp only [redactedEntries, redactEntries, pyStr, List.map_cons]

/-- Under each key stands its redacted value. -/
theorem paramGet_redactedEntries {entries : Params}
    (keyed : PyValue.stringKeyedEntries entries) (key : String) :
    paramGet ((redactedEntries lib path fullCapture entries).map fun entry =>
        (.str entry.1, entry.2)) key
      = (paramGet entries key).map fun value =>
        (redactValue lib key (childPath path key) fullCapture value).value := by
  induction entries with
  | nil => rfl
  | cons entry rest ih =>
      obtain ⟨entryKey, value⟩ := entry
      cases entryKey with
      | str k =>
          obtain ⟨-, -, later⟩ := keyed
          rw [redactedEntries_cons, List.map_cons, paramGet_cons, paramGet_cons, ih later]
          split
          · next same =>
              subst same
              rfl
          · rfl
      | _ => exact keyed.elim

/-- The keys of a redacted mapping are distinct. -/
theorem redactedEntries_nodup {entries : Params} (keyed : PyValue.stringKeyedEntries entries) :
    ((redactedEntries lib path fullCapture entries).map Prod.fst).Nodup := by
  induction entries with
  | nil => exact List.nodup_nil
  | cons entry rest ih =>
      obtain ⟨entryKey, value⟩ := entry
      cases entryKey with
      | str k =>
          obtain ⟨absent, -, later⟩ := keyed
          rw [redactedEntries_cons, List.map_cons, List.nodup_cons]
          refine ⟨notMem_of_paramGet ?_, ih later⟩
          rw [paramGet_redactedEntries later, absent]
          rfl
      | _ => exact keyed.elim

/-- The redacted mapping of a tree, entry by entry. -/
theorem pyDict_redactedEntries {entries : Params} (keyed : PyValue.stringKeyedEntries entries) :
    pyDict (redactedEntries lib path fullCapture entries)
      = (redactedEntries lib path fullCapture entries).map fun entry => (.str entry.1, entry.2) :=
  pyDict_of_nodup (redactedEntries_nodup keyed)

/-- Each item of a list is redacted under the list's own key. -/
theorem redactItems_get {key : String} {items : List PyValue} (start i : Nat) :
    ∃ itemPath, ((redactItems lib key path fullCapture start items).map Prod.fst)[i]?
      = items[i]?.map fun item => (redactValue lib key itemPath fullCapture item).value := by
  induction items generalizing start i with
  | nil => exact ⟨"", rfl⟩
  | cons item rest ih =>
      cases i with
      | zero => exact ⟨_, rfl⟩
      | succ i =>
          obtain ⟨itemPath, same⟩ := ih (start + 1) i
          exact ⟨itemPath, same⟩

end Children

/-! ## Coverage -/

section Coverage

/-- The key a child stands under: its own in a mapping, its list's in a list. -/
def PathStep.keyFrom (key : String) : PathStep → String
  | .key k => k
  | .item _ => key

/-- On the way to a position, from a value under a key, a list or a tuple is passed that stands under
a key `redactions`. -/
def throughRedactions (std : Stdlib) (key : String) (value : PyValue) : List PathStep → Bool
  | [] => isRedactionsKey std key && value.isSequence
  | step :: rest =>
      isRedactionsKey std key && value.isSequence
        || (value.child step).any fun child =>
          throughRedactions std (step.keyFrom key) child rest

/-- No key on a path is a secret key: no ancestor is replaced as a whole. -/
def plainPath (std : Stdlib) (path : List PathStep) : Prop :=
  ∀ k, .key k ∈ path → isSecretKey std k = false

variable {lib : AuditLibrary}

/-- The capture posture the children of a value are redacted in: a mapping may declare one. -/
def childCapture (std : Stdlib) (fullCapture : Bool) : PyValue → Bool
  | .dict entries => mappingFullCapture std entries fullCapture
  | _ => fullCapture

/-- A redacted text is a text. -/
theorem redactText_value {key : String} {fullCapture : Bool} {s : String} :
    ∃ left, (redactText lib key fullCapture s).value = .str left := by
  unfold redactText redactHidText
  split_ifs
  exacts [⟨_, rfl⟩, ⟨_, rfl⟩, ⟨_, rfl⟩, ⟨_, rfl⟩]

/-- The children of a redacted value are its redacted children, unless it is replaced as a whole or
taken for a list of paths. -/
theorem redactValue_child {key path : String} {fullCapture : Bool} {value : PyValue}
    (plain : isSecretKey lib.toStdlib key = false)
    (visited : (isRedactionsKey lib.toStdlib key && value.isSequence) = false)
    (keyed : value.StringKeyed) (step : PathStep) :
    ∃ path', (redactValue lib key path fullCapture value).value.child step
      = (value.child step).map fun child => (redactValue lib (step.keyFrom key) path'
        (childCapture lib.toStdlib fullCapture value) child).value := by
  cases value with
  | dict entries =>
      rw [redactValue, plain, if_neg Bool.false_ne_true]
      cases step with
      | item i => exact ⟨"", rfl⟩
      | key k =>
          refine ⟨childPath path k, ?_⟩
          change paramGet (pyDict (redactedEntries lib path _ entries)) k = _
          rw [pyDict_redactedEntries keyed]
          exact paramGet_redactedEntries keyed k
  | list items | tuple items =>
      rw [PyValue.isSequence, Bool.and_true] at visited
      rw [redactValue, plain, visited, if_neg Bool.false_ne_true, if_neg Bool.false_ne_true]
      cases step with
      | key k => exact ⟨"", rfl⟩
      | item i => exact redactItems_get 0 i
  | str s =>
      obtain ⟨left, text⟩ := @redactText_value lib key fullCapture s
      refine ⟨"", ?_⟩
      rw [redactValue, plain, if_neg Bool.false_ne_true, text]
      cases step <;> rfl
  | _ =>
      refine ⟨"", ?_⟩
      simp only [redactValue, plain, Bool.false_eq_true, if_false]
      cases step <;> rfl

/-- A secret key is no key `redactions`. -/
theorem isRedactionsKey_of_secret {key : String}
    (secret : isSecretKey lib.toStdlib key = true) :
    isRedactionsKey lib.toStdlib key = false := by
  by_contra redactions
  rw [Bool.not_eq_false, isRedactionsKey, decide_eq_true_eq] at redactions
  rw [isSecretKey, isCredentialFieldKey, redactions] at secret
  revert secret
  decide

/-- What stands under a secret key is replaced, whatever it is. -/
theorem redactValue_secret {key path : String} {fullCapture : Bool} {value : PyValue}
    (secret : isSecretKey lib.toStdlib key = true) :
    redactValue lib key path fullCapture value = .replaced redactedMark "credential_field" := by
  have other := isRedactionsKey_of_secret secret
  cases value with
  | list items => simp only [redactValue, secret, other, if_true, Bool.false_eq_true, if_false]
  | _ => simp only [redactValue, secret, if_true]

/-- A value taken for a list of paths is left as it is. -/
theorem redactValue_listed {key path : String} {fullCapture : Bool} {value : PyValue}
    (listed : (isRedactionsKey lib.toStdlib key && value.isSequence) = true)
    (plain : isSecretKey lib.toStdlib key = false) :
    (redactValue lib key path fullCapture value).value = value := by
  rw [Bool.and_eq_true] at listed
  cases value with
  | list items | tuple items =>
      simp only [redactValue, listed.1, plain, if_true, Bool.false_eq_true, if_false]
      rfl
  | _ => cases listed.2

/-- **What redaction leaves under a secret key** whose ancestors are not replaced: the mark, unless a
list under a key `redactions` was passed on the way; then the value is as it was. -/
theorem redactValue_at_secret {k : String} (secret : isSecretKey lib.toStdlib k = true)
    (path : List PathStep) (plainSteps : plainPath lib.toStdlib path) {key keyPath : String}
    {fullCapture : Bool} {value hidden : PyValue} (keyed : value.StringKeyed)
    (plain : isSecretKey lib.toStdlib key = false)
    (found : value.at (path ++ [.key k]) = some hidden) :
    (redactValue lib key keyPath fullCapture value).value.at (path ++ [.key k])
      = some (if throughRedactions lib.toStdlib key value path then hidden
        else .str redactedMark) := by
  induction path generalizing key keyPath fullCapture value with
  | nil =>
      rw [List.nil_append, PyValue.at] at found
      obtain ⟨child, isChild, same⟩ := Option.bind_eq_some_iff.mp found
      cases same
      have visited : (isRedactionsKey lib.toStdlib key && value.isSequence) = false := by
        cases value with
        | dict entries => exact Bool.and_false _
        | list items | tuple items => cases isChild
        | _ => cases isChild
      obtain ⟨path', children⟩ :=
        @redactValue_child lib key keyPath fullCapture value plain visited keyed (.key k)
      rw [throughRedactions, visited, List.nil_append, PyValue.at, children, isChild]
      simp only [Option.map_some, Option.bind_some, PyValue.at, PathStep.keyFrom,
        redactValue_secret secret, Bool.false_eq_true, if_false]
      rfl
  | cons step rest ih =>
      rw [List.cons_append, PyValue.at] at found ⊢
      obtain ⟨child, isChild, later⟩ := Option.bind_eq_some_iff.mp found
      by_cases listed : (isRedactionsKey lib.toStdlib key && value.isSequence) = true
      · -- the list is taken for a list of paths and left as it is
        rw [redactValue_listed listed plain, throughRedactions, listed, Bool.true_or, if_pos rfl]
        exact found
      · rw [Bool.not_eq_true] at listed
        obtain ⟨path', children⟩ :=
          @redactValue_child lib key keyPath fullCapture value plain listed keyed step
        have plainChild : isSecretKey lib.toStdlib (step.keyFrom key) = false := by
          cases step with
          | key k' => exact plainSteps k' List.mem_cons_self
          | item i => exact plain
        rw [throughRedactions, listed, Bool.false_or, children, isChild]
        exact ih (fun k' member => plainSteps k' (List.mem_cons_of_mem step member))
          (keyed.child isChild) plainChild later

/-- Under each key of a redacted mapping stands its redacted value. -/
theorem paramGet_redactMapping {values : Params} {fullCapture : Option Bool}
    (keyed : (PyValue.dict values).StringKeyed) (key : String) :
    ∃ fullCapture', paramGet (redactMapping lib values fullCapture).1 key
      = (paramGet values key).map fun value =>
        (redactValue lib key (childPath "" key) fullCapture' value).value := by
  refine ⟨mappingFullCapture lib.toStdlib values (fullCapture.getD false), ?_⟩
  change paramGet (pyDict (redactedEntries lib "" _ values)) key = _
  rw [pyDict_redactedEntries keyed]
  exact paramGet_redactedEntries keyed key

/-- At the top no list of paths is passed: the way goes through the children. -/
theorem throughRedactions_dict {key k : String} {values : Params} {rest : List PathStep} :
    throughRedactions lib.toStdlib key (.dict values) (.key k :: rest)
      = (paramGet values k).any fun child => throughRedactions lib.toStdlib k child rest := by
  simp only [throughRedactions, PyValue.isSequence, Bool.and_false, Bool.false_or]
  rfl

/-- What `redact_mapping` leaves under a secret key whose ancestors are not replaced. -/
theorem redactMapping_at_secret {k : String} (secret : isSecretKey lib.toStdlib k = true)
    {path : List PathStep} (plainSteps : plainPath lib.toStdlib path) {values : Params}
    {fullCapture : Option Bool} {hidden : PyValue} (keyed : (PyValue.dict values).StringKeyed)
    (found : (PyValue.dict values).at (path ++ [.key k]) = some hidden) :
    (PyValue.dict (redactMapping lib values fullCapture).1).at (path ++ [.key k])
      = some (if throughRedactions lib.toStdlib "" (.dict values) path then hidden
        else .str redactedMark) := by
  cases path with
  | nil =>
      obtain ⟨child, isChild, same⟩ := Option.bind_eq_some_iff.mp found
      cases same
      obtain ⟨fullCapture', children⟩ := @paramGet_redactMapping lib values fullCapture keyed k
      have isChild : paramGet values k = some hidden := isChild
      have unlisted : throughRedactions lib.toStdlib "" (.dict values) [] = false :=
        Bool.and_false _
      rw [isChild, Option.map_some, redactValue_secret secret] at children
      rw [unlisted, List.nil_append, PyValue.at]
      change (paramGet _ k).bind _ = _
      rw [children]
      rfl
  | cons step rest =>
      cases step with
      | item i => cases found
      | key k' =>
          obtain ⟨child, isChild, later⟩ := Option.bind_eq_some_iff.mp found
          obtain ⟨fullCapture', children⟩ :=
            @paramGet_redactMapping lib values fullCapture keyed k'
          have isEntry : paramGet values k' = some child := isChild
          rw [throughRedactions_dict, List.cons_append, PyValue.at]
          change (paramGet _ k').bind _ = _
          rw [children, isEntry]
          exact redactValue_at_secret secret rest
            (fun k'' member => plainSteps k'' (List.mem_cons_of_mem _ member))
            (keyed.child isChild) (plainSteps k' List.mem_cons_self) later

/-- **Coverage**: under every secret key of the original, at any depth and unless an ancestor is
replaced itself, the redacted mapping has the mark. -/
def CoversSecrets (std : Stdlib) (original redacted : Params) : Prop :=
  ∀ path k hidden, plainPath std path → isSecretKey std k = true →
    (PyValue.dict original).at (path ++ [.key k]) = some hidden →
    (PyValue.dict redacted).at (path ++ [.key k]) = some (.str redactedMark)

/-- The lists and tuples under a key `redactions` hold nothing to redact: every secret entry that is
reached through one, unless an ancestor is replaced, already is the mark. -/
def RedactionListsMasked (std : Stdlib) (values : Params) : Prop :=
  ∀ path k hidden, plainPath std path → isSecretKey std k = true →
    (PyValue.dict values).at (path ++ [.key k]) = some hidden →
    throughRedactions std "" (.dict values) path = true → hidden = .str redactedMark

/-- **`redact_mapping` covers every secret key**, in every capture posture, exactly where the lists
under a key `redactions` hold nothing to redact: these lists are left as they are. -/
theorem redactMapping_covers_iff (lib : AuditLibrary) (values : Params)
    (fullCapture : Option Bool) (keyed : (PyValue.dict values).StringKeyed) :
    CoversSecrets lib.toStdlib values (redactMapping lib values fullCapture).1 ↔
      RedactionListsMasked lib.toStdlib values := by
  constructor
  · intro covers path k hidden plainSteps secret found through
    have mark := covers path k hidden plainSteps secret found
    rw [redactMapping_at_secret secret plainSteps keyed found, through, if_pos rfl] at mark
    exact Option.some.inj mark
  · intro masked path k hidden plainSteps secret found
    rw [redactMapping_at_secret secret plainSteps keyed found]
    by_cases through : throughRedactions lib.toStdlib "" (.dict values) path = true
    · rw [if_pos through, masked path k hidden plainSteps secret found through]
    · rw [if_neg through]

end Coverage

namespace Deployment

/-- The library of the deployment, with the character classes of ASCII. -/
def auditLibrary : AuditLibrary :=
  { library with
    isalnum := Char.isAlphanum
    isdecimal := Char.isDigit
    readFloat := id
    isoformat := fun _ => "2026-01-01T00:00:00+00:00"
    json := grammarModule id }

/-- Parameters with a password in a list under `redactions`. -/
def listedPassword : Params :=
  [(.str "redactions", .list [.dict [(.str "password", .str "hunter2")]])]

/-- Parameters with a password and no list under `redactions`. -/
def plainPassword : Params := [(.str "password", .str "hunter2")]

end Deployment

/-- In ordinary parameters the password is covered. -/
theorem redactMapping_covers_plainPassword :
    CoversSecrets Deployment.library Deployment.plainPassword
      (redactMapping Deployment.auditLibrary Deployment.plainPassword none).1 := by
  refine (redactMapping_covers_iff Deployment.auditLibrary Deployment.plainPassword none
    ⟨rfl, trivial, trivial⟩).mpr ?_
  intro path k hidden plainSteps secret found through
  exfalso
  cases path with
  | nil => cases (show (_ && false) = true from through).symm.trans (Bool.and_false _)
  | cons step rest =>
      cases step with
      | item i => cases found
      | key k' =>
          -- the only key is secret, so a path through it is not plain
          by_cases same : "password" = k'
          · subst same
            have plain := plainSteps "password" List.mem_cons_self
            revert plain
            decide +kernel
          · have absent : paramGet Deployment.plainPassword k' = none := by
              rw [Deployment.plainPassword, paramGet_cons, if_neg same]
              rfl
            obtain ⟨child, isChild, -⟩ := Option.bind_eq_some_iff.mp found
            cases absent.symm.trans isChild

/-- The password in the list under `redactions` is not covered. -/
theorem not_redactMapping_covers :
    ¬ CoversSecrets Deployment.library Deployment.listedPassword
      (redactMapping Deployment.auditLibrary Deployment.listedPassword none).1 := by
  intro covers
  have plainSteps : plainPath Deployment.library [.key "redactions", .item 0] := by
    intro k member
    rw [List.mem_cons, List.mem_singleton] at member
    rcases member with same | other
    · cases same
      decide +kernel
    · cases other
  have mark := covers [.key "redactions", .item 0] "password" (.str "hunter2") plainSteps
    (by decide +kernel) rfl
  have shown : (((PyValue.dict (redactMapping Deployment.auditLibrary
      Deployment.listedPassword none).1).at
        ([.key "redactions", .item 0] ++ [.key "password"])).map (pyStr Deployment.library))
      = some "hunter2" := by decide +kernel
  rw [mark] at shown
  revert shown
  decide +kernel

/-! ## Non-interference -/

section Interference

variable {std : Stdlib} {lib : AuditLibrary}

mutual

/-- Two trees under a key that **differ only in sensitive places**: in the whole values under secret
keys and in the texts under the keys of typed and observed text, directly or inside lists. -/
inductive Alike (std : Stdlib) : String → PyValue → PyValue → Prop
  | secret {key : String} {x y : PyValue} (secret : isSecretKey std key = true) : Alike std key x y
  | typed {key s t : String} (typed : isHidTextKey std key = true) :
      Alike std key (.str s) (.str t)
  | same {key : String} (x : PyValue) : Alike std key x x
  | list {key : String} {xs ys : List PyValue} (items : ItemsAlike std key xs ys) :
      Alike std key (.list xs) (.list ys)
  | tuple {key : String} {xs ys : List PyValue} (items : ItemsAlike std key xs ys) :
      Alike std key (.tuple xs) (.tuple ys)
  | dict {key : String} {es fs : Params} (entries : EntriesAlike std es fs) :
      Alike std key (.dict es) (.dict fs)

/-- Lists that differ only in sensitive places, item by item. -/
inductive ItemsAlike (std : Stdlib) : String → List PyValue → List PyValue → Prop
  | nil {key : String} : ItemsAlike std key [] []
  | cons {key : String} {x y : PyValue} {xs ys : List PyValue} (item : Alike std key x y)
      (rest : ItemsAlike std key xs ys) : ItemsAlike std key (x :: xs) (y :: ys)

/-- Mappings with the same keys that differ only in sensitive places, entry by entry. -/
inductive EntriesAlike (std : Stdlib) : Params → Params → Prop
  | nil : EntriesAlike std [] []
  | cons {key x y : PyValue} {es fs : Params} (value : Alike std (pyStr std key) x y)
      (rest : EntriesAlike std es fs) : EntriesAlike std ((key, x) :: es) ((key, y) :: fs)

end

mutual

/-- A tree with **no key `redactions` and no enabled full capture**; nothing is asked of the values
under secret keys. -/
def PyValue.Plain (std : Stdlib) : PyValue → Prop
  | .dict entries => mappingFullCapture std entries false = false ∧ plainEntries std entries
  | .list items | .tuple items => plainItems std items
  | _ => True

def PyValue.plainItems (std : Stdlib) : List PyValue → Prop
  | [] => True
  | item :: rest => item.Plain std ∧ plainItems std rest

def PyValue.plainEntries (std : Stdlib) : List (PyValue × PyValue) → Prop
  | [] => True
  | (key, value) :: rest =>
      isRedactionsKey std (pyStr std key) = false
        ∧ (isSecretKey std (pyStr std key) = true ∨ value.Plain std) ∧ plainEntries std rest

end

mutual

/-- Trees that differ only in sensitive places are redacted to the same, with the same paths. -/
theorem redactValue_alike {key path : String} {x y : PyValue}
    (unlisted : isRedactionsKey lib.toStdlib key = false) (alike : Alike lib.toStdlib key x y)
    (plainX : isSecretKey lib.toStdlib key = true ∨ x.Plain lib.toStdlib)
    (plainY : isSecretKey lib.toStdlib key = true ∨ y.Plain lib.toStdlib) :
    redactValue lib key path false x = redactValue lib key path false y := by
  by_cases secret : isSecretKey lib.toStdlib key = true
  · rw [redactValue_secret secret, redactValue_secret secret]
  · have plainX := plainX.resolve_left secret
    have plainY := plainY.resolve_left secret
    cases alike with
    | secret secret' => exact absurd secret' secret
    | typed typed =>
        simp only [redactValue, secret, redactText, typed, redactHidText, if_true,
          Bool.false_eq_true, if_false]
    | same => rfl
    | list items =>
        have children := @redactItems_alike key path 0 _ _ unlisted items plainX plainY
        simp only [redactValue, secret, unlisted, children, Bool.false_eq_true, if_false]
    | tuple items =>
        have children := @redactItems_alike key path 0 _ _ unlisted items plainX plainY
        simp only [redactValue, secret, unlisted, children, Bool.false_eq_true, if_false]
    | dict entries =>
        have children := @redactEntries_alike path _ _ entries plainX.2 plainY.2
        simp only [redactValue, secret, plainX.1, plainY.1, children]
termination_by sizeOf x

theorem redactItems_alike {key path : String} {index : Nat} {xs ys : List PyValue}
    (unlisted : isRedactionsKey lib.toStdlib key = false) (alike : ItemsAlike lib.toStdlib key xs ys)
    (plainX : PyValue.plainItems lib.toStdlib xs) (plainY : PyValue.plainItems lib.toStdlib ys) :
    redactItems lib key path false index xs = redactItems lib key path false index ys := by
  cases alike with
  | nil => rfl
  | cons item rest =>
      simp only [redactItems]
      rw [redactValue_alike unlisted item (.inr plainX.1) (.inr plainY.1),
        redactItems_alike unlisted rest plainX.2 plainY.2]
termination_by sizeOf xs

theorem redactEntries_alike {path : String} {es fs : Params}
    (alike : EntriesAlike lib.toStdlib es fs)
    (plainX : PyValue.plainEntries lib.toStdlib es) (plainY : PyValue.plainEntries lib.toStdlib fs) :
    redactEntries lib path false es = redactEntries lib path false fs := by
  cases alike with
  | nil => rfl
  | cons value rest =>
      simp only [redactEntries]
      rw [redactValue_alike plainX.1 value plainX.2.1 plainY.2.1,
        redactEntries_alike rest plainX.2.2 plainY.2.2]
termination_by sizeOf es

end

/-- **Sensitive values do not show**: mappings that differ only in them have the same redacted tree
and the same redacted paths. -/
theorem redactMapping_noninterference (lib : AuditLibrary) {es fs : Params}
    (alike : EntriesAlike lib.toStdlib es fs) (plainX : (PyValue.dict es).Plain lib.toStdlib)
    (plainY : (PyValue.dict fs).Plain lib.toStdlib) :
    redactMapping lib es none = redactMapping lib fs none := by
  have children := @redactEntries_alike lib "" es fs alike plainX.2 plainY.2
  have postureX : mappingFullCapture lib.toStdlib es (none.getD false) = false := plainX.1
  have postureY : mappingFullCapture lib.toStdlib fs (none.getD false) = false := plainY.1
  simp only [redactMapping, postureX, postureY, children]

end Interference

namespace Deployment

/-- Two logins with different passwords and different typed texts. -/
def typedLogin (typed password : PyValue) : Params :=
  [(.str "text", .list [typed]), (.str "login", .dict [(.str "password", password)])]

/-- The logins differ only in sensitive places. -/
theorem typedLogin_alike {s t : String} {x y : PyValue} :
    EntriesAlike library (typedLogin (.str s) x) (typedLogin (.str t) y) :=
  .cons (.list (.cons (.typed (by decide +kernel)) .nil))
    (.cons (.dict (.cons (.secret (by decide +kernel)) .nil)) .nil)

end Deployment

/-- The typed text and the password of a login do not show, not even by their type. -/
theorem redactMapping_typedLogin :
    redactMapping Deployment.auditLibrary
        (Deployment.typedLogin (.str "sudo reboot") (.str "hunter2")) none
      = redactMapping Deployment.auditLibrary (Deployment.typedLogin (.str "") (.list [])) none :=
  have plain (typed password : PyValue) (text : typed.Plain Deployment.library) :
      (PyValue.dict (Deployment.typedLogin typed password)).Plain Deployment.library :=
    ⟨rfl, by decide +kernel, .inr ⟨text, trivial⟩, by decide +kernel,
      .inr ⟨rfl, by decide +kernel, .inl (by decide +kernel), trivial⟩, trivial⟩
  redactMapping_noninterference Deployment.auditLibrary Deployment.typedLogin_alike
    (plain _ _ trivial) (plain _ _ trivial)

end AgenticKVM
