import AgenticKVM.Lib.JsonReader
import AgenticKVM.RedactionLaws

/-! # Redaction of stored values

What redaction makes of a JSON value that was read back from a log, as a JSON value again
(`redactJson`), and the values it leaves as they are (`Settled`): those of which every text under a
secret or typed-text key is the mark already and no other text looks like a secret
(`norm_redactJson_iff`). -/

namespace AgenticKVM

open Lib (Json FloatToken)

section Stored

variable (lib : AuditLibrary)

/-- What redaction leaves of a text whose key is no secret. -/
def leftText (key : String) (fullCapture : Bool) (s : String) : String :=
  if isHidTextKey lib.toStdlib key then
    if fullCapture then stripSecretText lib s else redactedMark
  else if ¬ isStructuralTokenKey lib.toStdlib key ∧ containsSecretPattern lib s then redactedMark
  else s

/-- What redaction puts in the place of a text is its left text. -/
theorem redactText_eq (key : String) (fullCapture : Bool) (s : String) :
    (redactText lib key fullCapture s).value = .str (leftText lib key fullCapture s) := by
  unfold redactText leftText redactHidText
  split_ifs
  all_goals rfl

mutual

/-- What redaction leaves of a JSON value under a key. -/
def redactJson (key : String) (fullCapture : Bool) : Json → Json
  | .list items =>
      if isRedactionsKey lib.toStdlib key then .list items
      else if isSecretKey lib.toStdlib key then .str redactedMark
      else .list (redactJsonItems key fullCapture items)
  | .obj entries =>
      if isSecretKey lib.toStdlib key then .str redactedMark
      else .obj (redactJsonEntries
        (mappingFullCapture lib.toStdlib (PyValue.ofEntries entries) fullCapture) entries)
  | .str s =>
      if isSecretKey lib.toStdlib key then .str redactedMark
      else .str (leftText lib key fullCapture s)
  | v => if isSecretKey lib.toStdlib key then .str redactedMark else v

/-- `redact_value` on the items of a list, each under the key of the list. -/
def redactJsonItems (key : String) (fullCapture : Bool) : List Json → List Json
  | [] => []
  | v :: rest => redactJson key fullCapture v :: redactJsonItems key fullCapture rest

/-- `redact_value` on the entries of an object, each under its own key. -/
def redactJsonEntries (fullCapture : Bool) : List (String × Json) → List (String × Json)
  | [] => []
  | (key, v) :: rest => (key, redactJson key fullCapture v) :: redactJsonEntries fullCapture rest

end

mutual

/-- **A settled value**: under a secret key there is nothing but the mark, under a typed-text key the
mark or, with full capture, a text that has nothing to strip, and no other text that looks like a
secret, unless its key is structural. Lists under `redactions` are not looked into. -/
def Settled (key : String) (fullCapture : Bool) : Json → Prop
  | .list items =>
      isRedactionsKey lib.toStdlib key = true
        ∨ isSecretKey lib.toStdlib key = false ∧ settledItems key fullCapture items
  | .obj entries =>
      isSecretKey lib.toStdlib key = false
        ∧ settledEntries (mappingFullCapture lib.toStdlib (PyValue.ofEntries entries) fullCapture)
          entries
  | .str s =>
      if isSecretKey lib.toStdlib key then s = redactedMark
      else if isHidTextKey lib.toStdlib key then
        if fullCapture then stripSecretText lib s = s else s = redactedMark
      else isStructuralTokenKey lib.toStdlib key = true ∨ containsSecretPattern lib s = false
        ∨ s = redactedMark
  | _ => isSecretKey lib.toStdlib key = false

/-- Items which a further redaction leaves as they are. -/
def settledItems (key : String) (fullCapture : Bool) : List Json → Prop
  | [] => True
  | v :: rest => Settled key fullCapture v ∧ settledItems key fullCapture rest

/-- Entries which a further redaction leaves as they are. -/
def settledEntries (fullCapture : Bool) : List (String × Json) → Prop
  | [] => True
  | (key, v) :: rest => Settled key fullCapture v ∧ settledEntries fullCapture rest

end

end Stored

section Laws

variable {lib : AuditLibrary} {readFloat : FloatToken → FloatToken}

/-- The keys of a redacted object are those of the object. -/
theorem redactJsonEntries_keys (fullCapture : Bool) (entries : List (String × Json)) :
    (redactJsonEntries lib fullCapture entries).map Prod.fst = entries.map Prod.fst := by
  induction entries with
  | nil => rfl
  | cons entry rest ih => rw [redactJsonEntries, List.map_cons, List.map_cons, ih]

/-- A mapping that is built from the entries of an object is the object. -/
theorem pyDict_ofJson {entries : List (String × Json)} (distinct : (entries.map Prod.fst).Nodup) :
    pyDict (entries.map fun entry => (entry.1, PyValue.ofJson entry.2))
      = PyValue.ofEntries entries := by
  have keys : ((entries.map fun entry => (entry.1, PyValue.ofJson entry.2)).map Prod.fst).Nodup := by
    rw [List.map_map]
    exact distinct
  rw [pyDict_of_nodup keys, ofEntries_eq_map, List.map_map]
  rfl

mutual

/-- **Redaction of a stored value** is that of its JSON value, at whatever path. -/
theorem redactValue_ofJson (v : Json) (readable : Json.Readable readFloat v) (key path : String)
    (fullCapture : Bool) :
    (redactValue lib key path fullCapture (PyValue.ofJson v)).value
      = PyValue.ofJson (redactJson lib key fullCapture v) := by
  match v with
  | .null | .bool _ | .int _ | .float _ =>
      simp only [PyValue.ofJson, redactValue, redactJson]
      split_ifs
      all_goals rfl
  | .str s =>
      simp only [PyValue.ofJson, redactValue, redactJson]
      split_ifs
      · rfl
      · exact redactText_eq lib key fullCapture s
  | .list items =>
      simp only [PyValue.ofJson, redactValue, redactJson]
      split_ifs
      · rfl
      · rfl
      · exact congrArg PyValue.list (redactItems_ofItems items readable key path fullCapture 0)
  | .obj entries =>
      simp only [PyValue.ofJson, redactValue, redactJson]
      split_ifs
      · rfl
      · refine congrArg PyValue.dict ((congrArg pyDict
          (redactedEntries_ofEntries entries readable.2 path _)).trans (pyDict_ofJson ?_))
        rw [redactJsonEntries_keys]
        exact readable.1

/-- On items that were read, redaction is the redaction of JSON. -/
theorem redactItems_ofItems (items : List Json) (readable : Json.readableItems readFloat items)
    (key path : String) (fullCapture : Bool) (index : Nat) :
    (redactItems lib key path fullCapture index (PyValue.ofItems items)).map Prod.fst
      = PyValue.ofItems (redactJsonItems lib key fullCapture items) := by
  match items with
  | [] => rfl
  | v :: rest =>
      rw [PyValue.ofItems, redactItems, redactJsonItems, PyValue.ofItems, List.map_cons,
        redactItems_ofItems rest readable.2, redactValue_ofJson v readable.1]

/-- On entries that were read, redaction is the redaction of JSON. -/
theorem redactedEntries_ofEntries (entries : List (String × Json))
    (readable : Json.readableEntries readFloat entries) (path : String) (fullCapture : Bool) :
    redactedEntries lib path fullCapture (PyValue.ofEntries entries)
      = (redactJsonEntries lib fullCapture entries).map fun entry =>
        (entry.1, PyValue.ofJson entry.2) := by
  match entries with
  | [] => rfl
  | (key, v) :: rest =>
      rw [PyValue.ofEntries, redactedEntries_cons, redactedEntries_ofEntries rest readable.2,
        redactValue_ofJson v readable.1, redactJsonEntries, List.map_cons]

end

/-- `redact_mapping` of an object. -/
theorem redactMapping_ofEntries {entries : List (String × Json)}
    (readable : Json.Readable readFloat (.obj entries)) (fullCapture : Option Bool) :
    (redactMapping lib (PyValue.ofEntries entries) fullCapture).1
      = PyValue.ofEntries (redactJsonEntries lib (mappingFullCapture lib.toStdlib
          (PyValue.ofEntries entries) (fullCapture.getD false)) entries) := by
  refine (congrArg pyDict (redactedEntries_ofEntries entries readable.2 "" _)).trans
    (pyDict_ofJson ?_)
  rw [redactJsonEntries_keys]
  exact readable.1

/-! ## Settled values -/

/-- A redacted text is the text exactly where the text is settled. -/
theorem leftText_eq_iff {key : String} {fullCapture : Bool} {s : String}
    (plain : ¬ isSecretKey lib.toStdlib key = true) :
    leftText lib key fullCapture s = s ↔ Settled lib key fullCapture (.str s) := by
  rw [leftText, Settled, if_neg plain]
  split_ifs with hid full looks
  · exact Iff.rfl
  · exact eq_comm
  · obtain ⟨plainKey, secret⟩ := looks
    simp only [plainKey, secret, reduceCtorEq, false_or]
    exact eq_comm
  · rw [not_and_or, not_not, Bool.not_eq_true] at looks
    refine iff_of_true rfl ?_
    rcases looks with structural | harmless
    exacts [.inl structural, .inr (.inl harmless)]

mutual

/-- **Settled values are those redaction leaves as they are**, up to the order of entries. -/
theorem norm_redactJson_iff (v : Json) (readable : Json.Readable readFloat v) (key : String)
    (fullCapture : Bool) :
    Json.norm (redactJson lib key fullCapture v) = Json.norm v
      ↔ Settled lib key fullCapture v := by
  match v with
  | .null | .bool _ | .int _ | .float _ =>
      simp only [redactJson, Settled]
      split_ifs with secret
      · exact iff_of_false (fun same => by cases same) (by rw [secret]; nofun)
      · exact iff_of_true rfl (Bool.not_eq_true _ ▸ secret)
  | .str s =>
      rw [redactJson]
      split_ifs with secret
      · rw [Settled, if_pos secret]
        exact Json.str.injEq _ _ ▸ eq_comm
      · rw [← leftText_eq_iff secret]
        exact Json.str.injEq _ _ ▸ Iff.rfl
  | .list items =>
      rw [redactJson, Settled]
      split_ifs with redactions secret
      · exact iff_of_true rfl (.inl redactions)
      · refine iff_of_false (fun same => by cases same) ?_
        rintro (listed | ⟨plain, -⟩)
        · exact redactions listed
        · rw [secret] at plain
          cases plain
      · rw [Json.norm, Json.norm, Json.list.injEq, normItems_redactJson_iff items readable]
        rw [Bool.not_eq_true] at redactions secret
        simp only [redactions, secret, reduceCtorEq, false_or, true_and]
  | .obj entries =>
      rw [redactJson, Settled]
      split_ifs with secret
      · refine iff_of_false (fun same => by cases same) ?_
        rintro ⟨plain, -⟩
        rw [secret] at plain
        cases plain
      · rw [← normEntries_redactJson_iff entries readable.2, Json.norm_obj, Json.norm_obj,
          Json.obj.injEq]
        refine ⟨fun same => ⟨Bool.not_eq_true _ ▸ secret, Json.sortEntries_inj ?_ ?_ same⟩,
          fun same => congrArg Json.sortEntries same.2⟩
        · rw [Json.normEntries_eq_map, Json.normEntries_eq_map, List.map_map, List.map_map]
          exact redactJsonEntries_keys _ entries
        · rw [Json.normEntries_eq_map, List.map_map]
          exact readable.1

/-- **Items keep their normal form** exactly where they are settled. -/
theorem normItems_redactJson_iff (items : List Json) (readable : Json.readableItems readFloat items)
    (key : String) (fullCapture : Bool) :
    Json.normItems (redactJsonItems lib key fullCapture items) = Json.normItems items
      ↔ settledItems lib key fullCapture items := by
  match items with
  | [] => exact iff_of_true rfl trivial
  | v :: rest =>
      rw [redactJsonItems, Json.normItems, Json.normItems, List.cons.injEq, settledItems,
        norm_redactJson_iff v readable.1, normItems_redactJson_iff rest readable.2]

/-- **Entries keep their normal form** exactly where they are settled. -/
theorem normEntries_redactJson_iff (entries : List (String × Json))
    (readable : Json.readableEntries readFloat entries) (fullCapture : Bool) :
    Json.normEntries (redactJsonEntries lib fullCapture entries) = Json.normEntries entries
      ↔ settledEntries lib fullCapture entries := by
  match entries with
  | [] => exact iff_of_true rfl trivial
  | (key, v) :: rest =>
      rw [redactJsonEntries, Json.normEntries, Json.normEntries, List.cons.injEq, settledEntries,
        Prod.mk.injEq, norm_redactJson_iff v readable.1, normEntries_redactJson_iff rest readable.2]
      simp only [true_and]

end

end Laws

end AgenticKVM
