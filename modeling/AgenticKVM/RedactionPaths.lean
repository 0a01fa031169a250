import Mathlib.Algebra.Ring.Nat
import AgenticKVM.RedactionLaws

/-! # What redaction replaces, what it keeps, and what it reports

The positions of a tree whose value redaction replaces (`replacedPositions`). Outside them the tree
is left as it is, node by node (`redactMapping_frame`). The paths `redact_mapping` reports are the
rendered replaced positions exactly where nothing is replaced inside a mapping that is stored under
the empty key at the top (`redactMapping_paths_iff`). -/

namespace AgenticKVM

/-! ## Replaced positions -/

/-- A list, a tuple or a mapping. -/
def PyValue.isContainer : PyValue → Bool
  | .list _ | .tuple _ | .dict _ => true
  | _ => false

section Positions

variable (lib : AuditLibrary)

/-- What stands in the place of a value that is replaced as a whole: the mark for everything under a
secret key, for typed text and for texts that look like a secret, what is left of a text that is
typed under full capture, and a mark of their own for bytes. -/
def replacement (key : String) (fullCapture : Bool) (value : PyValue) : Option PyValue :=
  if isSecretKey lib.toStdlib key then some (.str redactedMark)
  else
    match value with
    | .str s =>
        if isHidTextKey lib.toStdlib key then
          if fullCapture then
            if stripSecretText lib s = s then none else some (.str (stripSecretText lib s))
          else some (.str redactedMark)
        else if ¬ isStructuralTokenKey lib.toStdlib key ∧ containsSecretPattern lib s then
          some (.str redactedMark)
        else none
    | .bytes _ => some (.str "[REDACTED-BYTES]")
    | _ => none

mutual

/-- The positions in a value under a key whose value is replaced, in the order of a traversal. -/
def replacedAt (key : String) (fullCapture : Bool) : PyValue → List (List PathStep)
  | .list items | .tuple items =>
      if isSecretKey lib.toStdlib key then [[]]
      else if isRedactionsKey lib.toStdlib key then []
      else replacedInItems key fullCapture 0 items
  | .dict entries =>
      if isSecretKey lib.toStdlib key then [[]]
      else replacedInEntries (mappingFullCapture lib.toStdlib entries fullCapture) entries
  | value => if (replacement lib key fullCapture value).isSome then [[]] else []

/-- The replaced positions of a list's items from an index on. -/
def replacedInItems (key : String) (fullCapture : Bool) (index : Nat) :
    List PyValue → List (List PathStep)
  | [] => []
  | item :: rest =>
      (replacedAt key fullCapture item).map (fun path => .item index :: path)
        ++ replacedInItems key fullCapture (index + 1) rest

/-- The replaced positions of a mapping's entries. -/
def replacedInEntries (fullCapture : Bool) : List (PyValue × PyValue) → List (List PathStep)
  | [] => []
  | (key, value) :: rest =>
      (replacedAt (pyStr lib.toStdlib key) fullCapture value).map
          (fun path => .key (pyStr lib.toStdlib key) :: path)
        ++ replacedInEntries fullCapture rest

end

/-- **The positions `redact_mapping` replaces**, in the order of a traversal. -/
def replacedPositions (values : Params) (fullCapture : Option Bool) : List (List PathStep) :=
  replacedInEntries lib (mappingFullCapture lib.toStdlib values (fullCapture.getD false)) values

end Positions

section Membership

variable {lib : AuditLibrary} {key : String} {fullCapture : Bool} {value : PyValue}

/-- Everything under a secret key is replaced by the mark. -/
theorem replacement_secret (secret : isSecretKey lib.toStdlib key = true) :
    replacement lib key fullCapture value = some (.str redactedMark) :=
  if_pos secret

/-- Under other keys no container is replaced as a whole. -/
theorem replacement_container (plain : isSecretKey lib.toStdlib key = false)
    (container : value.isContainer = true) : replacement lib key fullCapture value = none := by
  cases value with
  | list items | tuple items | dict entries =>
      simp only [replacement, plain, Bool.false_eq_true, if_false]
  | _ => cases container

/-- The replaced positions of a list's items begin with an item. -/
theorem item_of_mem_replacedInItems {items : List PyValue} {index : Nat} {path : List PathStep}
    (member : path ∈ replacedInItems lib key fullCapture index items) :
    ∃ i item rest, items[i]? = some item ∧ path = .item (index + i) :: rest
      ∧ rest ∈ replacedAt lib key fullCapture item := by
  induction items generalizing index with
  | nil => cases member
  | cons item items ih =>
      rw [replacedInItems, List.mem_append, List.mem_map] at member
      rcases member with ⟨rest, here, rfl⟩ | later
      · exact ⟨0, item, rest, rfl, rfl, here⟩
      · obtain ⟨i, found, rest, isItem, rfl, here⟩ := ih later
        refine ⟨i + 1, found, rest, isItem, ?_, here⟩
        rw [Nat.add_assoc, Nat.add_comm 1 i]

/-- A replaced position of an item is one of the list. -/
theorem mem_replacedInItems {items : List PyValue} {index i : Nat} {item : PyValue}
    {rest : List PathStep} (isItem : items[i]? = some item)
    (here : rest ∈ replacedAt lib key fullCapture item) :
    .item (index + i) :: rest ∈ replacedInItems lib key fullCapture index items := by
  induction items generalizing index i with
  | nil => cases isItem
  | cons first items ih =>
      rw [replacedInItems, List.mem_append]
      cases i with
      | zero =>
          cases isItem
          exact .inl (List.mem_map.mpr ⟨rest, here, rfl⟩)
      | succ i =>
          have later := @ih (index + 1) i isItem
          rw [Nat.add_assoc, Nat.add_comm 1 i] at later
          exact .inr later

/-- The replaced positions of a mapping begin with a key. -/
theorem key_of_mem_replacedInEntries {entries : Params} {path : List PathStep}
    (member : path ∈ replacedInEntries lib fullCapture entries) :
    ∃ k rest, path = .key k :: rest := by
  induction entries with
  | nil => cases member
  | cons entry entries ih =>
      obtain ⟨entryKey, entryValue⟩ := entry
      rw [replacedInEntries, List.mem_append, List.mem_map] at member
      rcases member with ⟨rest, -, rfl⟩ | later
      · exact ⟨_, rest, rfl⟩
      · exact ih later

/-- A replaced position of a tree's mapping lies in the value under its first key. -/
theorem mem_replacedInEntries_iff {entries : Params} (keyed : PyValue.stringKeyedEntries entries)
    {k : String} {rest : List PathStep} :
    .key k :: rest ∈ replacedInEntries lib fullCapture entries ↔
      ∃ child, paramGet entries k = some child ∧ rest ∈ replacedAt lib k fullCapture child := by
  induction entries with
  | nil => exact ⟨fun member => (nomatch member), fun ⟨_, found, _⟩ => (nomatch found)⟩
  | cons entry entries ih =>
      obtain ⟨entryKey, entryValue⟩ := entry
      cases entryKey with
      | str entryKey =>
          obtain ⟨absent, -, later⟩ := keyed
          rw [replacedInEntries, pyStr, List.mem_append, List.mem_map, ih later, paramGet_cons]
          by_cases same : entryKey = k
          · -- the key occurs once: only this entry counts
            subst same
            rw [if_pos rfl, absent]
            constructor
            · rintro (⟨rest', here, same⟩ | ⟨child, found, -⟩)
              · cases same
                exact ⟨entryValue, rfl, here⟩
              · cases found
            · rintro ⟨child, found, here⟩
              cases found
              exact .inl ⟨rest, here, rfl⟩
          · rw [if_neg same]
            constructor
            · rintro (⟨rest', -, same'⟩ | found)
              · cases same'
                exact absurd rfl same
              · exact found
            · exact .inr
      | _ => exact keyed.elim

/-- Under a secret key the whole value is the only replaced position. -/
theorem replacedAt_secret (secret : isSecretKey lib.toStdlib key = true) :
    replacedAt lib key fullCapture value = [[]] := by
  cases value with
  | list items | tuple items | dict entries => simp only [replacedAt, secret, if_true]
  | _ => simp only [replacedAt, replacement_secret secret, Option.isSome_some, if_true]

/-- A value that is no container is the only position to replace, if it is replaced. -/
theorem replacedAt_leaf (leaf : value.isContainer = false) :
    replacedAt lib key fullCapture value
      = if (replacement lib key fullCapture value).isSome then [[]] else [] := by
  cases value with
  | list items | tuple items | dict entries => cases leaf
  | _ => simp only [replacedAt]

/-- The replaced positions of a sequence are those of its items. -/
theorem replacedAt_sequence (plain : isSecretKey lib.toStdlib key = false)
    {items : List PyValue} (sequence : value = .list items ∨ value = .tuple items) :
    replacedAt lib key fullCapture value
      = if isRedactionsKey lib.toStdlib key then []
        else replacedInItems lib key fullCapture 0 items := by
  rcases sequence with rfl | rfl
  · simp only [replacedAt, plain, Bool.false_eq_true, if_false]
  · simp only [replacedAt, plain, Bool.false_eq_true, if_false]

/-- The replaced positions of a mapping are those of its entries. -/
theorem replacedAt_dict (plain : isSecretKey lib.toStdlib key = false) {entries : Params} :
    replacedAt lib key fullCapture (.dict entries)
      = replacedInEntries lib (mappingFullCapture lib.toStdlib entries fullCapture) entries := by
  simp only [replacedAt, plain, Bool.false_eq_true, if_false]

/-- A value is replaced as a whole exactly where it has a replacement. -/
theorem nil_mem_replacedAt_iff :
    [] ∈ replacedAt lib key fullCapture value ↔
      (replacement lib key fullCapture value).isSome = true := by
  by_cases secret : isSecretKey lib.toStdlib key = true
  · rw [replacedAt_secret secret, replacement_secret secret]
    exact iff_of_true List.mem_cons_self rfl
  · rw [Bool.not_eq_true] at secret
    by_cases container : value.isContainer = true
    · -- the replaced positions of a container begin with a step
      rw [replacement_container secret container]
      refine iff_of_false ?_ Bool.false_ne_true
      intro member
      have inItems {items : List PyValue} (sequence : value = .list items ∨ value = .tuple items) :
          False := by
        rw [replacedAt_sequence secret sequence] at member
        split at member
        · cases member
        · obtain ⟨_, _, _, -, isItem, -⟩ := item_of_mem_replacedInItems member
          cases isItem
      cases value with
      | list items => exact inItems (.inl rfl)
      | tuple items => exact inItems (.inr rfl)
      | dict entries =>
          rw [replacedAt_dict secret] at member
          obtain ⟨_, _, isKey⟩ := key_of_mem_replacedInEntries member
          cases isKey
      | _ => cases container
    · rw [Bool.not_eq_true] at container
      rw [replacedAt_leaf container]
      split
      · next some => exact iff_of_true List.mem_cons_self some
      · next none => exact iff_of_false List.not_mem_nil none

/-- The replaced positions below a value are those of its children, unless it is replaced itself or
taken for a list of paths. -/
theorem cons_mem_replacedAt_iff (keyed : value.StringKeyed) {step : PathStep}
    {rest : List PathStep} :
    step :: rest ∈ replacedAt lib key fullCapture value ↔
      isSecretKey lib.toStdlib key = false
        ∧ (isRedactionsKey lib.toStdlib key && value.isSequence) = false
        ∧ ∃ child, value.child step = some child ∧ rest ∈ replacedAt lib (step.keyFrom key)
          (childCapture lib.toStdlib fullCapture value) child := by
  by_cases secret : isSecretKey lib.toStdlib key = true
  · rw [replacedAt_secret secret, List.mem_singleton]
    constructor
    · intro same
      cases same
    · rintro ⟨plain, -⟩
      exact absurd (plain.symm.trans secret) Bool.false_ne_true
  · rw [Bool.not_eq_true] at secret
    have inItems {items : List PyValue} (sequence : value = .list items ∨ value = .tuple items)
        (isItem : ∀ i, value.child (.item i) = items[i]?)
        (noKey : ∀ k, value.child (.key k) = none)
        (capture : childCapture lib.toStdlib fullCapture value = fullCapture) :
        step :: rest ∈ replacedAt lib key fullCapture value ↔
          isRedactionsKey lib.toStdlib key = false ∧ ∃ child, value.child step = some child
            ∧ rest ∈ replacedAt lib (step.keyFrom key)
              (childCapture lib.toStdlib fullCapture value) child := by
      rw [replacedAt_sequence secret sequence, capture]
      by_cases listed : isRedactionsKey lib.toStdlib key = true
      · rw [if_pos listed, listed]
        constructor
        · intro member
          cases member
        · rintro ⟨unlisted, -⟩
          cases unlisted
      · rw [if_neg listed]
        rw [Bool.not_eq_true] at listed
        constructor
        · intro member
          obtain ⟨i, item, rest', isItem', same, here⟩ := item_of_mem_replacedInItems member
          cases same
          refine ⟨listed, item, ?_, here⟩
          rw [isItem, Nat.zero_add]
          exact isItem'
        · rintro ⟨-, child, isChild, here⟩
          cases step with
          | key k => cases (noKey k).symm.trans isChild
          | item i =>
              have member := @mem_replacedInItems lib key fullCapture items 0 i child rest
                ((isItem i).symm.trans isChild) here
              rwa [Nat.zero_add] at member
    cases value with
    | list items =>
        rw [inItems (.inl rfl) (fun _ => rfl) (fun _ => rfl) rfl, PyValue.isSequence, Bool.and_true]
        exact ⟨fun found => ⟨secret, found⟩, And.right⟩
    | tuple items =>
        rw [inItems (.inr rfl) (fun _ => rfl) (fun _ => rfl) rfl, PyValue.isSequence, Bool.and_true]
        exact ⟨fun found => ⟨secret, found⟩, And.right⟩
    | dict entries =>
        rw [replacedAt_dict secret]
        cases step with
        | key k =>
            rw [mem_replacedInEntries_iff keyed]
            exact ⟨fun found => ⟨secret, Bool.and_false _, found⟩, fun found => found.2.2⟩
        | item i =>
            constructor
            · intro member
              obtain ⟨_, _, isKey⟩ := key_of_mem_replacedInEntries member
              cases isKey
            · rintro ⟨-, -, child, isChild, -⟩
              cases isChild
    | _ =>
        rw [replacedAt_leaf rfl]
        constructor
        · intro member
          split_ifs at member
          · rw [List.mem_singleton] at member
            cases member
          · cases member
        · rintro ⟨-, -, child, isChild, -⟩
          cases step <;> cases isChild

end Membership

/-! ## The frame -/

/-- What a position shows without a look below it: the keys of a mapping, the number of items of a
list or a tuple, and any other value as a whole. -/
inductive TreeNode
  | mapping (keys : List PyValue)
  | list (length : Nat)
  | tuple (length : Nat)
  | leaf (value : PyValue)

/-- The node of a value. -/
def PyValue.node : PyValue → TreeNode
  | .dict entries => .mapping (entries.map Prod.fst)
  | .list items => .list items.length
  | .tuple items => .tuple items.length
  | value => .leaf value

/-- The key nearest to a position: the last one on its path. -/
def nearestKey (key : String) : List PathStep → String
  | [] => key
  | step :: rest => nearestKey (step.keyFrom key) rest

/-- A value that is **not replaced for what it is**: no bytes, and no text unless its nearest key is
no key of typed text and is structural or the text matches no secret pattern. -/
def Untouched (lib : AuditLibrary) (key : String) : PyValue → Prop
  | .str s => isHidTextKey lib.toStdlib key = false
      ∧ (isStructuralTokenKey lib.toStdlib key = true ∨ containsSecretPattern lib s = false)
  | .bytes _ => False
  | _ => True

section Frame

variable {lib : AuditLibrary} {key path : String} {fullCapture : Bool} {value : PyValue}

/-- A value without a replacement stands under no secret key. -/
theorem plain_of_replacement (unreplaced : replacement lib key fullCapture value = none) :
    isSecretKey lib.toStdlib key = false := by
  by_contra secret
  rw [Bool.not_eq_false] at secret
  rw [replacement_secret secret] at unreplaced
  cases unreplaced

/-- Untouched values have no replacement. -/
theorem replacement_of_untouched (plain : isSecretKey lib.toStdlib key = false)
    (untouched : Untouched lib key value) : replacement lib key fullCapture value = none := by
  cases value with
  | str s =>
      obtain ⟨untyped, harmless⟩ := untouched
      have unmatched : ¬ (¬ isStructuralTokenKey lib.toStdlib key = true
          ∧ containsSecretPattern lib s = true) := by
        rintro ⟨unstructured, pattern⟩
        rcases harmless with structural | clean
        · exact unstructured structural
        · exact absurd (clean.symm.trans pattern) Bool.false_ne_true
      simp only [replacement, plain, untyped, unmatched, Bool.false_eq_true, if_false]
  | bytes data => exact untouched.elim
  | _ => simp only [replacement, plain, Bool.false_eq_true, if_false]

/-- A list keeps its length. -/
theorem redactItems_length {items : List PyValue} {index : Nat} :
    (redactItems lib key path fullCapture index items).length = items.length := by
  induction items generalizing index with
  | nil => rfl
  | cons item items ih => rw [redactItems, List.length_cons, ih, List.length_cons]

/-- A mapping keeps its keys. -/
theorem redactedEntries_keys {entries : Params} (keyed : PyValue.stringKeyedEntries entries) :
    (pyDict (redactedEntries lib path fullCapture entries)).map Prod.fst
      = entries.map Prod.fst := by
  rw [pyDict_redactedEntries keyed]
  induction entries with
  | nil => rfl
  | cons entry entries ih =>
      obtain ⟨entryKey, entryValue⟩ := entry
      cases entryKey with
      | str entryKey =>
          obtain ⟨-, -, later⟩ := keyed
          rw [redactedEntries_cons, List.map_cons, List.map_cons, List.map_cons, ih later]
      | _ => exact keyed.elim

/-- A value without a replacement keeps its node. -/
theorem node_redactValue (unreplaced : replacement lib key fullCapture value = none)
    (keyed : value.StringKeyed) :
    (redactValue lib key path fullCapture value).value.node = value.node := by
  have plain := plain_of_replacement unreplaced
  cases value with
  | list items | tuple items =>
      by_cases listed : isRedactionsKey lib.toStdlib key = true
      · simp only [redactValue, plain, listed, if_true, Bool.false_eq_true, if_false]
        rfl
      · simp only [redactValue, plain, listed, Bool.false_eq_true, if_false, PyValue.node,
          List.length_map, redactItems_length]
  | dict entries =>
      simp only [redactValue, plain, Bool.false_eq_true, if_false, PyValue.node]
      exact congrArg TreeNode.mapping (redactedEntries_keys keyed)
  | str s =>
      rw [replacement, plain, if_neg Bool.false_ne_true] at unreplaced
      rw [redactValue, plain, if_neg Bool.false_ne_true]
      have left : (redactText lib key fullCapture s).value = .str s := by
        unfold redactText redactHidText
        split_ifs at unreplaced ⊢ with typed full same
        · exact congrArg PyValue.str same
        · rfl
      rw [left]
  | bytes data =>
      rw [replacement, plain, if_neg Bool.false_ne_true] at unreplaced
      cases unreplaced
  | _ =>
      simp only [redactValue, plain, Bool.false_eq_true, if_false]
      rfl

/-- **Outside the replaced positions a value keeps its nodes**: the same positions exist, with the
same kinds of containers, keys, lengths and leaves. -/
theorem redactValue_frame (steps : List PathStep) (keyed : value.StringKeyed)
    (outside : ∀ p, p <+: steps → p ∉ replacedAt lib key fullCapture value) :
    ((redactValue lib key path fullCapture value).value.at steps).map PyValue.node
      = (value.at steps).map PyValue.node := by
  have unreplaced : replacement lib key fullCapture value = none := by
    have here := outside [] List.nil_prefix
    rwa [nil_mem_replacedAt_iff, Bool.not_eq_true, Option.isSome_eq_false_iff,
      Option.isNone_iff_eq_none] at here
  induction steps generalizing key path fullCapture value with
  | nil => exact congrArg some (node_redactValue unreplaced keyed)
  | cons step rest ih =>
      have plain := plain_of_replacement unreplaced
      by_cases listed : (isRedactionsKey lib.toStdlib key && value.isSequence) = true
      · rw [redactValue_listed listed plain]
      · rw [Bool.not_eq_true] at listed
        obtain ⟨path', children⟩ :=
          @redactValue_child lib key path fullCapture value plain listed keyed step
        rw [PyValue.at, PyValue.at, children]
        cases isChild : value.child step with
        | none => rfl
        | some child =>
            have outsideChild : ∀ p, p <+: rest → p ∉ replacedAt lib (step.keyFrom key)
                (childCapture lib.toStdlib fullCapture value) child := by
              intro p before member
              refine outside (step :: p) (List.prefix_cons_inj step |>.mpr before) ?_
              exact (cons_mem_replacedAt_iff keyed).mpr ⟨plain, listed, child, isChild, member⟩
            refine ih (keyed.child isChild) outsideChild ?_
            have here := outsideChild [] List.nil_prefix
            rwa [nil_mem_replacedAt_iff, Bool.not_eq_true, Option.isSome_eq_false_iff,
              Option.isNone_iff_eq_none] at here

/-- Untouched values on plain paths lie outside the replaced positions. -/
theorem outside_of_untouched (steps : List PathStep) (keyed : value.StringKeyed)
    (plain : isSecretKey lib.toStdlib key = false) (plainSteps : plainPath lib.toStdlib steps)
    {left : PyValue} (found : value.at steps = some left)
    (untouched : Untouched lib (nearestKey key steps) left) :
    ∀ p, p <+: steps → p ∉ replacedAt lib key fullCapture value := by
  induction steps generalizing key fullCapture value with
  | nil =>
      cases found
      intro p before member
      cases List.prefix_nil.mp before
      rw [nil_mem_replacedAt_iff, replacement_of_untouched plain untouched] at member
      cases member
  | cons step rest ih =>
      obtain ⟨child, isChild, later⟩ := Option.bind_eq_some_iff.mp found
      intro p before member
      cases p with
      | nil =>
          -- a value with a child is a container, which no plain key replaces
          have container : value.isContainer = true := by
            cases value with
            | list items | tuple items | dict entries => rfl
            | _ => cases step <;> cases isChild
          rw [nil_mem_replacedAt_iff, replacement_container plain container] at member
          cases member
      | cons step' p =>
          rw [List.cons_prefix_cons] at before
          obtain ⟨rfl, before⟩ := before
          obtain ⟨-, -, child', isChild', inside⟩ := (cons_mem_replacedAt_iff keyed).mp member
          cases isChild.symm.trans isChild'
          have plainChild : isSecretKey lib.toStdlib (step'.keyFrom key) = false := by
            cases step' with
            | key k => exact plainSteps k List.mem_cons_self
            | item i => exact plain
          exact ih (keyed.child isChild) plainChild
            (fun k rest => plainSteps k (List.mem_cons_of_mem _ rest)) later untouched p before
            inside

/-- What stands at a position of a redacted mapping. -/
theorem redactMapping_at {values : Params} {fullCapture : Option Bool}
    (keyed : (PyValue.dict values).StringKeyed) (k : String) (rest : List PathStep) :
    (PyValue.dict (redactMapping lib values fullCapture).1).at (.key k :: rest)
      = (paramGet values k).bind fun value => (redactValue lib k (childPath "" k)
        (mappingFullCapture lib.toStdlib values (fullCapture.getD false)) value).value.at rest := by
  rw [PyValue.at]
  change (paramGet (pyDict (redactedEntries lib "" _ values)) k).bind _ = _
  rw [pyDict_redactedEntries keyed, paramGet_redactedEntries keyed]
  cases paramGet values k with
  | none => rfl
  | some value => rfl

end Frame

/-- **Redaction changes nothing else.** Outside the replaced positions the redacted mapping has the
nodes of the original: every key, every length, every kind of container and every leaf. And every
value under no secret key that is not replaced for what it is keeps its node. -/
theorem redactMapping_frame (lib : AuditLibrary) (values : Params) (fullCapture : Option Bool)
    (keyed : (PyValue.dict values).StringKeyed) :
    (∀ steps, (∀ p ∈ replacedPositions lib values fullCapture, ¬ p <+: steps) →
        ((PyValue.dict (redactMapping lib values fullCapture).1).at steps).map PyValue.node
          = ((PyValue.dict values).at steps).map PyValue.node)
      ∧ ∀ steps value, (PyValue.dict values).at steps = some value →
        plainPath lib.toStdlib steps → Untouched lib (nearestKey "" steps) value →
        ((PyValue.dict (redactMapping lib values fullCapture).1).at steps).map PyValue.node
          = some value.node := by
  have atTop : (PyValue.dict (redactMapping lib values fullCapture).1).node
      = (PyValue.dict values).node :=
    congrArg TreeNode.mapping (redactedEntries_keys keyed)
  constructor
  · intro steps outside
    cases steps with
    | nil => exact congrArg some atTop
    | cons step rest =>
        cases step with
        | item i => rfl
        | key k =>
            rw [redactMapping_at keyed, PyValue.at]
            change _ = ((paramGet values k).bind _).map _
            cases isEntry : paramGet values k with
            | none => rfl
            | some value =>
                refine redactValue_frame rest (PyValue.stringKeyed_entry keyed isEntry) ?_
                intro p before member
                refine outside (.key k :: p) ?_ ((List.prefix_cons_inj _).mpr before)
                exact (mem_replacedInEntries_iff keyed).mpr ⟨value, isEntry, member⟩
  · intro steps value found plainSteps untouched
    cases steps with
    | nil =>
        cases found
        exact congrArg some atTop
    | cons step rest =>
        cases step with
        | item i => cases found
        | key k =>
            obtain ⟨child, isChild, later⟩ := Option.bind_eq_some_iff.mp found
            have isEntry : paramGet values k = some child := isChild
            have keyedChild := PyValue.stringKeyed_entry keyed isEntry
            have outside := @outside_of_untouched lib k
              (mappingFullCapture lib.toStdlib values (fullCapture.getD false)) child rest
              keyedChild (plainSteps k List.mem_cons_self)
              (fun k' member => plainSteps k' (List.mem_cons_of_mem _ member)) value later untouched
            rw [redactMapping_at keyed, isEntry, Option.bind_some,
              redactValue_frame rest keyedChild outside, later]
            rfl

namespace Deployment

/-- Parameters with an approval id that looks like a secret, in a list. -/
def listedApproval : Params :=
  [(.str "approval_id", .list [.str "0123456789abcdef0123456789abcdef"]), (.str "pin", .int 7)]

end Deployment

/-- The approval id is left as it is: its nearest key is structural. -/
theorem redactMapping_frame_listedApproval :
    ((PyValue.dict (redactMapping Deployment.auditLibrary Deployment.listedApproval none).1).at
        [.key "approval_id", .item 0]).map PyValue.node
      = some (.leaf (.str "0123456789abcdef0123456789abcdef")) := by
  refine (redactMapping_frame Deployment.auditLibrary Deployment.listedApproval none
    ⟨rfl, ⟨trivial, trivial⟩, rfl, trivial, trivial⟩).2 [.key "approval_id", .item 0]
    (.str "0123456789abcdef0123456789abcdef") rfl ?_ ⟨by decide +kernel, .inl (by decide +kernel)⟩
  intro k member
  rw [List.mem_cons, List.mem_singleton] at member
  rcases member with same | other
  · cases same
    decide +kernel
  · cases other

/-! ## Replaced values -/

section Replaced

variable {lib : AuditLibrary} {key path : String} {fullCapture : Bool} {value : PyValue}

/-- A value with a replacement is replaced by it. -/
theorem redactValue_replacement {mark : PyValue}
    (replaced : replacement lib key fullCapture value = some mark) :
    (redactValue lib key path fullCapture value).value = mark := by
  by_cases secret : isSecretKey lib.toStdlib key = true
  · rw [replacement_secret secret] at replaced
    rw [redactValue_secret secret]
    exact Option.some.inj replaced
  · rw [Bool.not_eq_true] at secret
    cases value with
    | list items | tuple items | dict entries =>
        rw [replacement_container secret (by rfl)] at replaced
        cases replaced
    | str s =>
        rw [replacement, secret, if_neg Bool.false_ne_true] at replaced
        rw [redactValue, secret, if_neg Bool.false_ne_true, redactText, redactHidText]
        split_ifs at replaced ⊢
        · exact Option.some.inj replaced
        · exact Option.some.inj replaced
        · exact Option.some.inj replaced
    | bytes data =>
        rw [replacement, secret, if_neg Bool.false_ne_true] at replaced
        rw [redactValue, secret, if_neg Bool.false_ne_true]
        exact Option.some.inj replaced
    | _ =>
        simp only [replacement, secret, Bool.false_eq_true, if_false] at replaced
        cases replaced

/-- **At every replaced position stands the replacement** of the value that was there. -/
theorem redactValue_at_replaced (steps : List PathStep) (keyed : value.StringKeyed)
    (member : steps ∈ replacedAt lib key fullCapture value) :
    ∃ fullCapture' original mark, value.at steps = some original
      ∧ replacement lib (nearestKey key steps) fullCapture' original = some mark
      ∧ (redactValue lib key path fullCapture value).value.at steps = some mark := by
  induction steps generalizing key path fullCapture value with
  | nil =>
      obtain ⟨mark, replaced⟩ := Option.isSome_iff_exists.mp (nil_mem_replacedAt_iff.mp member)
      exact ⟨fullCapture, value, mark, rfl, replaced,
        congrArg some (redactValue_replacement replaced)⟩
  | cons step rest ih =>
      obtain ⟨plain, listed, child, isChild, inside⟩ := (cons_mem_replacedAt_iff keyed).mp member
      obtain ⟨path', children⟩ :=
        @redactValue_child lib key path fullCapture value plain listed keyed step
      obtain ⟨fullCapture', original, mark, found, replaced, stands⟩ :=
        @ih (step.keyFrom key) path' _ child (keyed.child isChild) inside
      refine ⟨fullCapture', original, mark, ?_, replaced, ?_⟩
      · rw [PyValue.at, isChild]
        exact found
      · rw [PyValue.at, children, isChild]
        exact stands

end Replaced

/-! ## The report -/

/-- A step, as paths write it below a position. -/
def renderStep : PathStep → String
  | .key k => "." ++ k
  | .item i => "[" ++ toString i ++ "]"

/-- Steps, as paths write them below a position. -/
def renderSteps : List PathStep → String
  | [] => ""
  | step :: rest => renderStep step ++ renderSteps rest

/-- **A position as a path writes it**: the keys joined by dots, the items in brackets. -/
def renderPosition : List PathStep → String
  | .key k :: rest => k ++ renderSteps rest
  | steps => renderSteps steps

section Report

variable {lib : AuditLibrary} {key path : String} {fullCapture : Bool} {value : PyValue}

/-- A text with a start. -/
theorem startsWith_append (start rest : String) : startsWith (start ++ rest) start = true := by
  rw [startsWith, String.toList_append, List.isPrefixOf_iff_prefix]
  exact List.prefix_append _ _

/-- A text that starts with a text has its characters. -/
theorem mem_of_startsWith {text start : String} (starts : startsWith text start = true) {c : Char}
    (member : c ∈ start.toList) : c ∈ text.toList :=
  (List.isPrefixOf_iff_prefix.mp starts).subset member

/-- A reason is one word: it has neither dots nor brackets. -/
def isReason (text : String) : Bool := text.toList.all fun c => c != '.' && c != '['

/-- The reasons a value is replaced for are no paths below another path. -/
theorem nestedPaths_reason {reason : String} {left : PyValue} (word : isReason reason = true) :
    nestedPaths path ⟨left, true, [reason]⟩ = [path] := by
  have word : ∀ c ∈ reason.toList, c ≠ '.' ∧ c ≠ '[' := by
    simpa [isReason, List.all_eq_true] using word
  have noDot : startsWith reason (path ++ ".") = false := by
    by_contra starts
    rw [Bool.not_eq_false] at starts
    exact (word '.' (mem_of_startsWith starts (by simp))).1 rfl
  have noBracket : startsWith reason (path ++ "[") = false := by
    by_contra starts
    rw [Bool.not_eq_false] at starts
    exact (word '[' (mem_of_startsWith starts (by simp))).2 rfl
  by_cases same : reason = path
  · subst same
    simp [nestedPaths]
  · simp [nestedPaths, noDot, noBracket, same]

/-- The paths of a container's replacements lie below it and are all reported. -/
theorem nestedPaths_below {left : PyValue} {paths : List String}
    (below : ∀ text ∈ paths,
      startsWith text (path ++ ".") = true ∨ startsWith text (path ++ "[") = true) :
    nestedPaths path ⟨left, !paths.isEmpty, paths⟩ = paths := by
  have kept : paths.filter (fun reason => reason = path || startsWith reason (path ++ ".")
      || startsWith reason (path ++ "[")) = paths := by
    refine List.filter_eq_self.mpr fun text member => ?_
    rcases below text member with dot | bracket
    · rw [dot, Bool.or_true, Bool.true_or]
    · rw [bracket, Bool.or_true]
  cases paths with
  | nil => rfl
  | cons first rest => simp only [nestedPaths, kept, List.isEmpty_cons, Bool.not_false, if_true]

/-- A value that is no container is replaced for one reason or left as it is. -/
theorem redactValue_leaf (leaf : value.isContainer = false) :
    (replacement lib key fullCapture value = none
        ∧ (redactValue lib key path fullCapture value).redacted = false)
      ∨ ∃ mark left reason, replacement lib key fullCapture value = some mark
        ∧ redactValue lib key path fullCapture value = ⟨left, true, [reason]⟩
        ∧ isReason reason = true := by
  by_cases secret : isSecretKey lib.toStdlib key = true
  · exact .inr ⟨_, _, _, replacement_secret secret, redactValue_secret secret, rfl⟩
  · rw [Bool.not_eq_true] at secret
    cases value with
    | list items | tuple items | dict entries => cases leaf
    | str s =>
        rw [replacement, redactValue, secret, if_neg Bool.false_ne_true, if_neg Bool.false_ne_true,
          redactText]
        by_cases typed : isHidTextKey lib.toStdlib key = true
        · simp only [typed, if_true, redactHidText]
          by_cases full : fullCapture = true
          · by_cases same : stripSecretText lib s = s
            · exact .inl ⟨by rw [if_pos full, if_pos same], by simp [full, same]⟩
            · exact .inr ⟨_, .str (stripSecretText lib s), "credential_backstop",
                by rw [if_pos full, if_neg same], by simp [full, same], rfl⟩
          · exact .inr ⟨_, _, _, if_neg full, if_neg full, rfl⟩
        · simp only [typed, Bool.false_eq_true, if_false]
          by_cases pattern : ¬ isStructuralTokenKey lib.toStdlib key ∧ containsSecretPattern lib s
          · exact .inr ⟨_, _, _, if_pos pattern, if_pos pattern, rfl⟩
          · exact .inl ⟨if_neg pattern, by rw [if_neg pattern]; rfl⟩
    | bytes data =>
        simp only [replacement, redactValue, secret, Bool.false_eq_true, if_false]
        exact .inr ⟨_, _, _, rfl, rfl, rfl⟩
    | _ =>
        simp only [replacement, redactValue, secret, Bool.false_eq_true, if_false]
        exact .inl ⟨trivial, rfl⟩

/-- A value that is no container is reported exactly where it is replaced. -/
theorem nestedPaths_leaf (leaf : value.isContainer = false) :
    nestedPaths path (redactValue lib key path fullCapture value)
      = (replacedAt lib key fullCapture value).map fun steps => path ++ renderSteps steps := by
  rw [replacedAt_leaf leaf]
  rcases @redactValue_leaf lib key path fullCapture value leaf with
    ⟨unreplaced, kept⟩ | ⟨mark, left, reason, replaced, result, word⟩
  · rw [unreplaced, nestedPaths, kept]
    rfl
  · rw [replaced, result, nestedPaths_reason word, Option.isSome_some, if_pos rfl,
      List.map_singleton, renderSteps, String.append_empty]

/-- The texts of positions that begin with an item begin with a bracket. -/
theorem below_items {items : List PyValue} {index : Nat} {text : String}
    (member : text ∈ (replacedInItems lib key fullCapture index items).map fun steps =>
      path ++ renderSteps steps) : startsWith text (path ++ "[") = true := by
  obtain ⟨steps, inItems, rfl⟩ := List.mem_map.mp member
  obtain ⟨i, item, rest, -, rfl, -⟩ := item_of_mem_replacedInItems inItems
  rw [renderSteps, renderStep, String.append_assoc, String.append_assoc, ← String.append_assoc]
  exact startsWith_append _ _

/-- The texts of positions that begin with a key begin with a dot. -/
theorem below_entries {entries : Params} {text : String}
    (member : text ∈ (replacedInEntries lib fullCapture entries).map fun steps =>
      path ++ renderSteps steps) : startsWith text (path ++ ".") = true := by
  obtain ⟨steps, inEntries, rfl⟩ := List.mem_map.mp member
  obtain ⟨k, rest, rfl⟩ := key_of_mem_replacedInEntries inEntries
  rw [renderSteps, renderStep, String.append_assoc, ← String.append_assoc]
  exact startsWith_append _ _

/-- Nothing is reported exactly of what is not redacted. -/
theorem nestedPaths_eq_nil {child : RedactionResult} :
    nestedPaths path child = [] ↔ child.redacted = false := by
  unfold nestedPaths
  by_cases redacted : child.redacted = true
  · rw [if_pos redacted, redacted]
    refine iff_of_false ?_ Bool.false_ne_true.symm
    split
    · exact List.cons_ne_nil _ _
    · next some => exact some
  · rw [if_neg redacted]
    exact iff_of_true rfl (Bool.not_eq_true _ ▸ redacted)

mutual

/-- Something is reported of a value exactly where something is replaced in it. -/
theorem redacted_eq_false_iff (key path : String) (fullCapture : Bool) (value : PyValue) :
    (redactValue lib key path fullCapture value).redacted = false
      ↔ replacedAt lib key fullCapture value = [] := by
  by_cases secret : isSecretKey lib.toStdlib key = true
  · rw [replacedAt_secret secret, redactValue_secret secret]
    exact iff_of_false Bool.false_ne_true.symm (List.cons_ne_nil _ _)
  · rw [Bool.not_eq_true] at secret
    cases value with
    | list items =>
        rw [replacedAt_sequence secret (.inl rfl), redactValue, secret]
        by_cases listed : isRedactionsKey lib.toStdlib key = true
        · rw [if_pos listed, if_pos listed]
          exact iff_of_true rfl rfl
        · simpa [listed] using redactItems_paths_eq_nil key path fullCapture 0 items
    | tuple items =>
        rw [replacedAt_sequence secret (.inr rfl), redactValue, secret]
        by_cases listed : isRedactionsKey lib.toStdlib key = true
        · simp only [listed, if_true, Bool.false_eq_true, if_false]
          exact iff_of_true rfl trivial
        · simpa [listed] using redactItems_paths_eq_nil key path fullCapture 0 items
    | dict entries =>
        rw [replacedAt_dict secret, redactValue, secret, if_neg Bool.false_ne_true]
        simpa using redactEntries_paths_eq_nil path _ entries
    | _ =>
        refine (@nestedPaths_eq_nil path _).symm.trans ?_
        rw [nestedPaths_leaf rfl, List.map_eq_nil_iff]
termination_by sizeOf value

/-- Something is reported of a list's items exactly where something is replaced in them. -/
theorem redactItems_paths_eq_nil (key path : String) (fullCapture : Bool) (index : Nat)
    (items : List PyValue) :
    (redactItems lib key path fullCapture index items).flatMap Prod.snd = []
      ↔ replacedInItems lib key fullCapture index items = [] := by
  cases items with
  | nil => exact iff_of_true rfl rfl
  | cons item rest =>
      rw [redactItems, List.flatMap_cons, List.append_eq_nil_iff, nestedPaths_eq_nil,
        redacted_eq_false_iff, redactItems_paths_eq_nil, replacedInItems, List.append_eq_nil_iff,
        List.map_eq_nil_iff]
termination_by sizeOf items

/-- Something is reported of a mapping's entries exactly where something is replaced in them. -/
theorem redactEntries_paths_eq_nil (path : String) (fullCapture : Bool) (entries : Params) :
    (redactEntries lib path fullCapture entries).flatMap (fun child => child.2.2) = []
      ↔ replacedInEntries lib fullCapture entries = [] := by
  cases entries with
  | nil => exact iff_of_true rfl rfl
  | cons entry rest =>
      obtain ⟨entryKey, entryValue⟩ := entry
      rw [redactEntries, List.flatMap_cons, List.append_eq_nil_iff, nestedPaths_eq_nil,
        redacted_eq_false_iff, redactEntries_paths_eq_nil, replacedInEntries,
        List.append_eq_nil_iff, List.map_eq_nil_iff]
termination_by sizeOf entries

end

mutual

/-- **Below a path that is not empty the report is exact**, and below the empty path too where
nothing is replaced inside the value as a mapping. -/
theorem nestedPaths_redactValue (key path : String) (fullCapture : Bool) (value : PyValue)
    (named : path ≠ "" ∨ ∀ k rest, .key k :: rest ∉ replacedAt lib key fullCapture value) :
    nestedPaths path (redactValue lib key path fullCapture value)
      = (replacedAt lib key fullCapture value).map fun steps => path ++ renderSteps steps := by
  by_cases secret : isSecretKey lib.toStdlib key = true
  · rw [replacedAt_secret secret, redactValue_secret secret, RedactionResult.replaced,
      nestedPaths_reason rfl, List.map_singleton, renderSteps, String.append_empty]
  · rw [Bool.not_eq_true] at secret
    cases value with
    | list items =>
        rw [replacedAt_sequence secret (.inl rfl), redactValue, secret]
        by_cases listed : isRedactionsKey lib.toStdlib key = true
        · rw [if_pos listed, if_pos listed]
          rfl
        · have children := redactItems_paths key path fullCapture 0 items
          simp only [listed, Bool.false_eq_true, if_false, children]
          exact nestedPaths_below fun text member => .inr (below_items member)
    | tuple items =>
        rw [replacedAt_sequence secret (.inr rfl), redactValue, secret]
        by_cases listed : isRedactionsKey lib.toStdlib key = true
        · simp only [listed, if_true, Bool.false_eq_true, if_false]
          rfl
        · have children := redactItems_paths key path fullCapture 0 items
          simp only [listed, Bool.false_eq_true, if_false, children]
          exact nestedPaths_below fun text member => .inr (below_items member)
    | dict entries =>
        by_cases path ≠ ""
        · next named =>
            have children := redactEntries_paths path
              (mappingFullCapture lib.toStdlib entries fullCapture) entries named
            rw [replacedAt_dict secret, redactValue, secret, if_neg Bool.false_ne_true]
            simp only [children]
            exact nestedPaths_below fun text member => .inl (below_entries member)
        · next unnamed =>
            -- every replaced position would begin with a key, so there is none
            have nothing : replacedAt lib key fullCapture (.dict entries) = [] := by
              refine List.eq_nil_iff_forall_not_mem.mpr fun steps member => ?_
              have inEntries := member
              rw [replacedAt_dict secret] at inEntries
              obtain ⟨k, rest, rfl⟩ := key_of_mem_replacedInEntries inEntries
              exact named.resolve_left unnamed k rest member
            rw [nothing, nestedPaths_eq_nil.mpr ((redacted_eq_false_iff _ _ _ _).mpr nothing)]
            rfl
    | _ => exact nestedPaths_leaf rfl
termination_by sizeOf value

/-- The report of a list's items. -/
theorem redactItems_paths (key path : String) (fullCapture : Bool) (index : Nat)
    (items : List PyValue) :
    (redactItems lib key path fullCapture index items).flatMap Prod.snd
      = (replacedInItems lib key fullCapture index items).map fun steps =>
        path ++ renderSteps steps := by
  cases items with
  | nil => rfl
  | cons item rest =>
      have bracketed : path ++ "[" ++ toString index ++ "]" ≠ "" := by
        intro empty
        have characters := congrArg String.toList empty
        simp at characters
      rw [redactItems, List.flatMap_cons, redactItems_paths, replacedInItems, List.map_append,
        List.map_map]
      refine congrArg (· ++ _) ?_
      refine (nestedPaths_redactValue key _ fullCapture item (.inl bracketed)).trans ?_
      refine List.map_congr_left fun steps _ => ?_
      simp only [Function.comp_apply, renderSteps, renderStep, String.append_assoc]
termination_by sizeOf items

/-- The report of a mapping's entries below a path that is not empty. -/
theorem redactEntries_paths (path : String) (fullCapture : Bool) (entries : Params)
    (named : path ≠ "") :
    (redactEntries lib path fullCapture entries).flatMap (fun child => child.2.2)
      = (replacedInEntries lib fullCapture entries).map fun steps => path ++ renderSteps steps := by
  cases entries with
  | nil => rfl
  | cons entry rest =>
      obtain ⟨entryKey, entryValue⟩ := entry
      have dotted : childPath path (pyStr lib.toStdlib entryKey)
          = path ++ "." ++ pyStr lib.toStdlib entryKey := if_neg named
      have dottedNamed : path ++ "." ++ pyStr lib.toStdlib entryKey ≠ "" := by
        intro empty
        have characters := congrArg String.toList empty
        simp at characters
      rw [redactEntries, List.flatMap_cons, redactEntries_paths path fullCapture rest named,
        replacedInEntries, List.map_append, List.map_map]
      refine congrArg (· ++ _) ?_
      simp only [dotted]
      refine (nestedPaths_redactValue _ _ fullCapture entryValue (.inl dottedNamed)).trans ?_
      refine List.map_congr_left fun steps _ => ?_
      simp only [Function.comp_apply, renderSteps, renderStep, String.append_assoc]
termination_by sizeOf entries

end

/-- How many characters texts have together. -/
def textSize (texts : List String) : Nat := (texts.map String.length).sum

theorem textSize_append (first second : List String) :
    textSize (first ++ second) = textSize first + textSize second := by
  rw [textSize, List.map_append, List.sum_append]
  rfl

/-- A common start counts once for each text. -/
theorem textSize_map_append {α : Type} (start : String) (render : α → String) (elements : List α) :
    textSize (elements.map fun x => start ++ render x)
      = elements.length * start.length + textSize (elements.map render) := by
  induction elements with
  | nil => exact (Nat.zero_mul _).symm
  | cons first rest ih =>
      simp only [textSize, List.map_cons, List.sum_cons, String.length_append, List.length_cons,
        Nat.succ_mul] at ih ⊢
      omega

/-- What is reported below the empty path is no longer than the reasons. -/
theorem textSize_nestedPaths (child : RedactionResult) :
    textSize (nestedPaths "" child) ≤ textSize child.reasons := by
  unfold nestedPaths
  split
  · split
    · exact Nat.zero_le _
    · exact List.Sublist.sum_le_sum (List.Sublist.map _ List.filter_sublist)
        fun _ _ => Nat.zero_le _
  · exact Nat.zero_le _

/-- Replaced positions that begin with a key lie in a mapping that is not replaced itself. -/
theorem dict_of_key_mem {k : String} {rest : List PathStep}
    (member : .key k :: rest ∈ replacedAt lib key fullCapture value) :
    isSecretKey lib.toStdlib key = false ∧ ∃ entries, value = .dict entries := by
  by_cases secret : isSecretKey lib.toStdlib key = true
  · rw [replacedAt_secret secret, List.mem_singleton] at member
    cases member
  · rw [Bool.not_eq_true] at secret
    refine ⟨secret, ?_⟩
    have noItems {items : List PyValue} (sequence : value = .list items ∨ value = .tuple items) :
        False := by
      rw [replacedAt_sequence secret sequence] at member
      split at member
      · cases member
      · obtain ⟨_, _, _, -, isItem, -⟩ := item_of_mem_replacedInItems member
        cases isItem
    cases value with
    | dict entries => exact ⟨entries, rfl⟩
    | list items => exact (noItems (.inl rfl)).elim
    | tuple items => exact (noItems (.inr rfl)).elim
    | _ =>
        rw [replacedAt_leaf rfl] at member
        split at member
        · rw [List.mem_singleton] at member
          cases member
        · cases member

mutual

/-- The report below the empty path is no longer than the exact one. -/
theorem textSize_redactValue (key : String) (fullCapture : Bool) (value : PyValue) :
    textSize (nestedPaths "" (redactValue lib key "" fullCapture value))
      ≤ textSize ((replacedAt lib key fullCapture value).map renderSteps) := by
  by_cases mapping : ∃ k rest, .key k :: rest ∈ replacedAt lib key fullCapture value
  · obtain ⟨k, rest, member⟩ := mapping
    obtain ⟨plain, entries, rfl⟩ := dict_of_key_mem member
    have inEntries := textSize_redactEntries
      (mappingFullCapture lib.toStdlib entries fullCapture) entries
    have reasons := textSize_nestedPaths (redactValue lib key "" fullCapture (.dict entries))
    rw [redactValue, plain, if_neg Bool.false_ne_true] at reasons ⊢
    rw [replacedAt_dict plain]
    exact reasons.trans ((Nat.le_add_right _ _).trans inEntries)
  · have exact := @nestedPaths_redactValue lib key "" fullCapture value
      (.inr fun k rest member => mapping ⟨k, rest, member⟩)
    rw [exact]
    simp only [String.empty_append, le_refl]
termination_by sizeOf value

/-- In the report of a mapping's entries below the empty path a character is missing for each
replaced position. -/
theorem textSize_redactEntries (fullCapture : Bool) (entries : Params) :
    textSize ((redactEntries lib "" fullCapture entries).flatMap fun child => child.2.2)
        + (replacedInEntries lib fullCapture entries).length
      ≤ textSize ((replacedInEntries lib fullCapture entries).map renderSteps) := by
  cases entries with
  | nil => exact Nat.le_refl 0
  | cons entry rest =>
      obtain ⟨entryKey, entryValue⟩ := entry
      have later := textSize_redactEntries fullCapture rest
      -- each position of this entry is written with its dot
      have here : textSize (nestedPaths (childPath "" (pyStr lib.toStdlib entryKey))
            (redactValue lib (pyStr lib.toStdlib entryKey)
              (childPath "" (pyStr lib.toStdlib entryKey)) fullCapture entryValue))
          + (replacedAt lib (pyStr lib.toStdlib entryKey) fullCapture entryValue).length
          ≤ textSize ((replacedAt lib (pyStr lib.toStdlib entryKey) fullCapture entryValue).map
            fun steps => ("." ++ pyStr lib.toStdlib entryKey) ++ renderSteps steps) := by
        rw [textSize_map_append]
        by_cases empty : pyStr lib.toStdlib entryKey = ""
        · rw [empty]
          have below := textSize_redactValue "" fullCapture entryValue
          have dot : ("." ++ "").length = 1 := rfl
          rw [dot, Nat.mul_one, Nat.add_comm]
          exact Nat.add_le_add_left below _
        · have report := @nestedPaths_redactValue lib (pyStr lib.toStdlib entryKey)
            (pyStr lib.toStdlib entryKey) fullCapture entryValue (.inl empty)
          have path : childPath "" (pyStr lib.toStdlib entryKey) = pyStr lib.toStdlib entryKey :=
            if_pos rfl
          have dot : ("." ++ pyStr lib.toStdlib entryKey).length
              = (pyStr lib.toStdlib entryKey).length + 1 := by
            rw [String.length_append, Nat.add_comm]
            rfl
          rw [path, report, textSize_map_append, dot, Nat.mul_succ]
          omega
      rw [redactEntries, List.flatMap_cons, textSize_append, replacedInEntries, List.length_append,
        List.length_map, List.map_append, textSize_append, List.map_map]
      have rendered : (renderSteps ∘ fun steps =>
            PathStep.key (pyStr lib.toStdlib entryKey) :: steps)
          = fun steps => ("." ++ pyStr lib.toStdlib entryKey) ++ renderSteps steps := rfl
      rw [rendered]
      dsimp only
      omega
termination_by sizeOf entries

end

/-- The report below the empty path is shorter where something is replaced inside a mapping. -/
theorem textSize_redactValue_lt {k : String} {rest : List PathStep}
    (member : .key k :: rest ∈ replacedAt lib key fullCapture value) :
    textSize (nestedPaths "" (redactValue lib key "" fullCapture value))
      < textSize ((replacedAt lib key fullCapture value).map renderSteps) := by
  obtain ⟨plain, entries, rfl⟩ := dict_of_key_mem member
  have inEntries := @textSize_redactEntries lib
    (mappingFullCapture lib.toStdlib entries fullCapture) entries
  have reasons := textSize_nestedPaths (redactValue lib key "" fullCapture (.dict entries))
  rw [replacedAt_dict plain] at member ⊢
  have some := List.length_pos_of_mem member
  rw [redactValue, plain, if_neg Bool.false_ne_true] at reasons ⊢
  refine lt_of_le_of_lt reasons ?_
  dsimp only
  omega

/-- Nothing is replaced inside a mapping that is stored under the empty key at the top. -/
def NothingBelowEmptyKey (positions : List (List PathStep)) : Prop :=
  ∀ k rest, .key "" :: .key k :: rest ∉ positions

/-- The exact report of one entry at the top. -/
theorem nestedPaths_entry {k : String}
    (below : k = "" → ∀ k' rest, .key k' :: rest ∉ replacedAt lib k fullCapture value) :
    nestedPaths (childPath "" k) (redactValue lib k (childPath "" k) fullCapture value)
      = ((replacedAt lib k fullCapture value).map fun steps => .key k :: steps).map
        renderPosition := by
  have path : childPath "" k = k := if_pos rfl
  rw [path, List.map_map]
  refine (nestedPaths_redactValue k k fullCapture value ?_).trans rfl
  by_cases empty : k = ""
  · exact .inr (below empty)
  · exact .inl empty

/-- Where nothing is replaced inside a mapping under the empty key, the report is exact. -/
theorem redactEntries_paths_exact {entries : Params}
    (nothing : NothingBelowEmptyKey (replacedInEntries lib fullCapture entries)) :
    (redactEntries lib "" fullCapture entries).flatMap (fun child => child.2.2)
      = (replacedInEntries lib fullCapture entries).map renderPosition := by
  induction entries with
  | nil => rfl
  | cons entry rest ih =>
      obtain ⟨entryKey, entryValue⟩ := entry
      rw [replacedInEntries] at nothing
      have here : pyStr lib.toStdlib entryKey = "" → ∀ k' rest, .key k' :: rest
          ∉ replacedAt lib (pyStr lib.toStdlib entryKey) fullCapture entryValue := by
        intro empty k' rest' member
        refine nothing k' rest' (List.mem_append_left _ (List.mem_map.mpr ⟨_, member, ?_⟩))
        rw [empty]
      rw [redactEntries, List.flatMap_cons, replacedInEntries, List.map_append,
        ih fun k rest' member => nothing k rest' (List.mem_append_right _ member)]
      exact congrArg (· ++ _) (nestedPaths_entry here)

/-- The report is never longer than the exact one, and shorter where something is replaced inside a
mapping under the empty key. -/
theorem textSize_report (entries : Params) :
    textSize ((redactEntries lib "" fullCapture entries).flatMap fun child => child.2.2)
        ≤ textSize ((replacedInEntries lib fullCapture entries).map renderPosition)
      ∧ (¬ NothingBelowEmptyKey (replacedInEntries lib fullCapture entries) →
        textSize ((redactEntries lib "" fullCapture entries).flatMap fun child => child.2.2)
          < textSize ((replacedInEntries lib fullCapture entries).map renderPosition)) := by
  induction entries with
  | nil =>
      refine ⟨Nat.le_refl 0, fun below => absurd ?_ below⟩
      intro k rest member
      cases member
  | cons entry rest ih =>
      obtain ⟨entryKey, entryValue⟩ := entry
      rw [redactEntries, List.flatMap_cons, textSize_append, replacedInEntries, List.map_append,
        textSize_append]
      generalize pyStr lib.toStdlib entryKey = key
      by_cases exact : key = "" → ∀ k' rest,
          .key k' :: rest ∉ replacedAt lib key fullCapture entryValue
      · -- this entry is reported exactly
        have here := nestedPaths_entry exact
        dsimp only
        rw [here]
        refine ⟨Nat.add_le_add_left ih.1 _, fun below => Nat.add_lt_add_left (ih.2 ?_) _⟩
        intro nothing
        refine below fun k rest' member => ?_
        rcases List.mem_append.mp member with first | later
        · obtain ⟨steps, inside, same⟩ := List.mem_map.mp first
          cases same
          exact exact rfl k rest' inside
        · exact nothing k rest' later
      · -- at least a dot is missing from this entry's paths
        rw [Classical.not_imp] at exact
        obtain ⟨empty, inside⟩ := exact
        simp only [not_forall, not_not] at inside
        obtain ⟨k', rest', member⟩ := inside
        subst empty
        have here := textSize_redactValue_lt member
        rw [List.map_map]
        have rendered : (renderPosition ∘ fun steps => PathStep.key "" :: steps) = renderSteps :=
          funext fun steps => String.empty_append
        rw [rendered]
        exact ⟨(Nat.add_lt_add_of_lt_of_le here ih.1).le,
          fun _ => Nat.add_lt_add_of_lt_of_le here ih.1⟩

end Report

/-- **When the reported paths are exact**: the paths `redact_mapping` returns are the rendered
replaced positions, in the order of a traversal, exactly where nothing is replaced inside a mapping that is
stored under the empty key at the top. -/
theorem redactMapping_paths_iff (lib : AuditLibrary) (values : Params)
    (fullCapture : Option Bool) :
    (redactMapping lib values fullCapture).2
        = (replacedPositions lib values fullCapture).map renderPosition
      ↔ NothingBelowEmptyKey (replacedPositions lib values fullCapture) := by
  constructor
  · intro same
    by_contra below
    have shorter := (@textSize_report lib
      (mappingFullCapture lib.toStdlib values (fullCapture.getD false)) values).2 below
    have same : (redactEntries lib "" (mappingFullCapture lib.toStdlib values
        (fullCapture.getD false)) values).flatMap (fun child => child.2.2) = _ := same
    rw [same] at shorter
    exact Nat.lt_irrefl _ shorter
  · exact redactEntries_paths_exact

namespace Deployment

/-- Parameters with a password in a mapping under the empty key. -/
def unnamedLogin : Params := [(.str "", .dict [(.str "password", .str "hunter2")])]

end Deployment

/-- The password under the empty key is replaced, but its path is not reported. -/
theorem not_redactMapping_paths :
    (redactMapping Deployment.auditLibrary Deployment.unnamedLogin none).2
      ≠ (replacedPositions Deployment.auditLibrary Deployment.unnamedLogin none).map
        renderPosition := by
  decide +kernel

end AgenticKVM
