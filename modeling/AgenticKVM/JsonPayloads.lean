import Mathlib.Data.Bool.AllAny
import AgenticKVM.AuditExport
import AgenticKVM.Lib.JsonLookup
import AgenticKVM.SecretSites
import AgenticKVM.StoredRedaction

/-! # Payloads

What becomes of a payload on its way through the surfaces: it is written as JSON and read back
(`jsonSafeEntriesOf_json`), and it is redacted (`redactedRecord`). Both keep every key, so a text is
looked up afterwards as it was before, unless redaction has replaced it. -/

namespace AgenticKVM

open Lib (Json FloatToken Regex lookup_map except_bind_eq_ok except_ok_bind except_pure)

/-! ## Writing and reading back -/

section Writing

variable {lib : AuditLibrary}

/-- A list of texts as a JSON value. -/
theorem ofJson_strings (texts : List String) :
    PyValue.ofJson (.list (texts.map .str)) = strList texts := by
  rw [PyValue.ofJson, strList, PyValue.list.injEq]
  induction texts with
  | nil => rfl
  | cons text rest ih => rw [List.map_cons, PyValue.ofItems, ih, PyValue.ofJson, List.map_cons]

/-- A readable value is read back as its normal form. -/
theorem jsonSafeValue_ofJson {v : Json} (readable : Json.Readable lib.readFloat v) :
    jsonSafeValue lib (PyValue.ofJson v) = .ok (Json.norm v) := by
  have loaded := Json.loads_dumps readable (show "".toList.all Json.isBlank = true from rfl)
  rw [String.append_empty] at loaded
  rw [jsonSafeValue, jsonSafe_ofJson, except_ok_bind, grammarLoads, loaded]

/-- **A readable payload** is read back with its entries in order. -/
theorem jsonSafeEntriesOf_json {entries : List (String × PyValue)} {record : Record}
    (same : strDict entries = PyValue.ofJson (.obj record))
    (readable : Json.Readable lib.readFloat (.obj record)) :
    jsonSafeEntriesOf lib entries = .ok (Json.reread record) := by
  rw [jsonSafeEntriesOf, same, jsonSafeValue_ofJson readable, Json.norm_obj_reread]
  rfl

/-- What is written of a storable value is read back. -/
theorem jsonSafeValue_eq_ok {value : PyValue} (storable : value.Storable lib.readFloat) {j : Json}
    (safe : jsonSafeValue lib value = .ok j) :
    ∃ v, jsonSafe value = .ok v ∧ Json.Readable lib.readFloat v ∧ j = Json.norm v := by
  obtain ⟨v, written, loaded⟩ := except_bind_eq_ok.mp safe
  obtain ⟨-, readable⟩ := @jsonSafe_eq_ok lib.toStdlib lib.readFloat value storable v written
  have reads := Json.loads_dumps readable (show "".toList.all Json.isBlank = true from rfl)
  rw [String.append_empty] at reads
  rw [grammarLoads, reads] at loaded
  exact ⟨v, written, readable, (Except.ok.inj loaded).symm⟩

/-- A text in a mapping is written under its key. -/
theorem lookup_jsonSafeEntries {entries : List (String × PyValue)} {record : Record}
    (safe : jsonSafeEntries (entries.map fun entry => (.str entry.1, entry.2)) = .ok record)
    {key text : String} (found : entries.lookup key = some (.str text)) :
    record.lookup key = some (.str text) := by
  induction entries generalizing record with
  | nil => cases found
  | cons entry rest ih =>
      simp only [List.map_cons, jsonSafeEntries, jsonKey, except_bind_eq_ok] at safe
      obtain ⟨key', named, v, written, others, later, returned⟩ := safe
      cases named
      cases returned
      rw [List.lookup_cons] at found ⊢
      cases same : key == entry.1 with
      | true =>
          rw [same] at found
          rw [Option.some.inj found] at written
          rw [← Except.ok.inj written]
      | false =>
          rw [same] at found
          exact ih later found

/-- **A text that is written is read back** under its key. -/
theorem lookup_jsonSafeEntriesOf {entries : List (String × PyValue)}
    (storable : (strDict entries).Storable lib.readFloat) {record : Record}
    (safe : jsonSafeEntriesOf lib entries = .ok record) {key text : String}
    (found : entries.lookup key = some (.str text)) : record.lookup key = some (.str text) := by
  obtain ⟨j, read, shape⟩ := except_bind_eq_ok.mp safe
  obtain ⟨v, written, readable, rfl⟩ := jsonSafeValue_eq_ok storable read
  rw [strDict, jsonSafe] at written
  obtain ⟨raw, entriesWritten, same⟩ := except_bind_eq_ok.mp written
  cases same
  rw [Json.norm_obj_reread] at shape
  cases shape
  rw [Json.lookup_reread readable.1, lookup_jsonSafeEntries entriesWritten found]
  rfl

end Writing

/-! ## Redacting -/

section Redacting

variable (lib : AuditLibrary)

/-- What `redact_mapping` leaves of an object. -/
def redactedRecord (record : Record) : Record :=
  redactJsonEntries lib (mappingFullCapture lib.toStdlib (PyValue.ofEntries record) false) record

variable {lib} {readFloat : FloatToken → FloatToken}

theorem redactMapping_record {record : Record} (readable : Json.Readable readFloat (.obj record)) :
    (redactMapping lib (PyValue.ofEntries record) none).1
      = PyValue.ofEntries (redactedRecord lib record) :=
  redactMapping_ofEntries readable none

theorem redactJsonEntries_eq_map (fullCapture : Bool) (record : Record) :
    redactJsonEntries lib fullCapture record
      = record.map fun entry => (entry.1, redactJson lib entry.1 fullCapture entry.2) := by
  induction record with
  | nil => rfl
  | cons entry rest ih => rw [redactJsonEntries, ih, List.map_cons]

/-- **A key is found** with what redaction leaves of its value. -/
theorem lookup_redactJsonEntries (fullCapture : Bool) (record : Record) (key : String) :
    (redactJsonEntries lib fullCapture record).lookup key
      = (record.lookup key).map (redactJson lib key fullCapture) := by
  rw [redactJsonEntries_eq_map]
  exact lookup_map (fun key => redactJson lib key fullCapture) record key

mutual

/-- What redaction leaves of a readable value is readable. -/
theorem readable_redactJson {v : Json} (readable : Json.Readable readFloat v) (key : String)
    (fullCapture : Bool) : Json.Readable readFloat (redactJson lib key fullCapture v) := by
  match v with
  | .null | .bool _ | .int _ | .str _ =>
      simp only [redactJson]
      split_ifs
      all_goals trivial
  | .float _ =>
      simp only [redactJson]
      split_ifs
      exacts [trivial, readable]
  | .list items =>
      rw [redactJson]
      split_ifs
      exacts [readable, trivial, readable_redactJsonItems readable key fullCapture]
  | .obj entries =>
      rw [redactJson]
      split_ifs
      · trivial
      · refine ⟨?_, readable_redactJsonEntries readable.2 _⟩
        rw [redactJsonEntries_keys]
        exact readable.1

theorem readable_redactJsonItems {items : List Json} (readable : Json.readableItems readFloat items)
    (key : String) (fullCapture : Bool) :
    Json.readableItems readFloat (redactJsonItems lib key fullCapture items) := by
  match items with
  | [] => trivial
  | v :: rest =>
      exact ⟨readable_redactJson readable.1 key fullCapture,
        readable_redactJsonItems readable.2 key fullCapture⟩

theorem readable_redactJsonEntries {entries : Record}
    (readable : Json.readableEntries readFloat entries) (fullCapture : Bool) :
    Json.readableEntries readFloat (redactJsonEntries lib fullCapture entries) := by
  match entries with
  | [] => trivial
  | (key, v) :: rest =>
      exact ⟨readable_redactJson readable.1 key fullCapture,
        readable_redactJsonEntries readable.2 fullCapture⟩

end

theorem readable_redactedRecord {record : Record} (readable : Json.Readable readFloat (.obj record)) :
    Json.Readable readFloat (.obj (redactedRecord lib record)) := by
  refine ⟨?_, readable_redactJsonEntries readable.2 _⟩
  rw [redactedRecord, redactJsonEntries_keys]
  exact readable.1

end Redacting

/-! ## Names and texts that redaction leaves alone -/

/-- A name in lower case. -/
def isName (text : String) : Bool :=
  text.toList.all fun c => c.isLower || c.isDigit || c == '_'

/-- What the standard library promises of texts: `str.lower` leaves names in lower case, the ASCII
characters among the decimal digits are `0` to `9`, and no digest is empty. -/
structure TextLaws (lib : AuditLibrary) : Prop where
  lower : ∀ name : String, isName name = true → lib.lower name = name
  digits : ∀ c : Char, c.toNat < 128 → lib.isdecimal c = c.isDigit
  digest : ∀ text : String, lib.sha256 text ≠ ""

section Plain

variable {lib : AuditLibrary}

/-- A key that is not a secret's, not a typed text's, and not that of a list of redacted paths. -/
structure PlainKey (std : Stdlib) (key : String) : Prop where
  secret : isSecretKey std key = false
  typed : isHidTextKey std key = false
  paths : isRedactionsKey std key = false

/-- A key is plain unless its name in lower case is listed. -/
theorem plainKey_of_lower {std : Stdlib} {key name : String} (same : std.lower key = name)
    (other : name ∉ credentialFieldKeys ++ rawArtifactKeys ++ hidTextKeys ++ ["redactions"]) :
    PlainKey std key := by
  simp only [List.mem_append, List.mem_singleton, not_or] at other
  obtain ⟨⟨⟨credential, raw⟩, typed⟩, paths⟩ := other
  constructor
  · simp only [isSecretKey, isCredentialFieldKey, same, credential, raw, decide_false, Bool.or_self]
  · simp only [isHidTextKey, same, typed, decide_false]
  · simp only [isRedactionsKey, same, paths, decide_false]

/-- A listed name is a plain key. -/
theorem TextLaws.plainKey (laws : TextLaws lib) {key : String} (name : isName key = true)
    (other : key ∉ credentialFieldKeys ++ rawArtifactKeys ++ hidTextKeys ++ ["redactions"]) :
    PlainKey lib.toStdlib key :=
  plainKey_of_lower (laws.lower key name) other

/-- The keys of identifiers, hashes and fingerprints are structural. -/
theorem TextLaws.structuralKey (laws : TextLaws lib) {key : String} (name : isName key = true)
    (structural : (key ∈ structuralTokenKeys || endsWith key "_id" || endsWith key "_hash"
      || endsWith key "_fingerprint") = true) :
    isStructuralTokenKey lib.toStdlib key = true := by
  rw [isStructuralTokenKey, laws.lower key name]
  exact structural

theorem redactJson_obj {key : String} (plain : PlainKey lib.toStdlib key) (fullCapture : Bool)
    (entries : Record) :
    redactJson lib key fullCapture (.obj entries)
      = .obj (redactJsonEntries lib
          (mappingFullCapture lib.toStdlib (PyValue.ofEntries entries) fullCapture) entries) := by
  rw [redactJson, plain.secret, if_neg Bool.false_ne_true]

theorem redactJson_list {key : String} (plain : PlainKey lib.toStdlib key) (fullCapture : Bool)
    (items : List Json) :
    redactJson lib key fullCapture (.list items)
      = .list (redactJsonItems lib key fullCapture items) := by
  rw [redactJson, plain.paths, plain.secret, if_neg Bool.false_ne_true, if_neg Bool.false_ne_true]

/-- What redaction leaves of a text under a plain key. -/
def shownText (lib : AuditLibrary) (key text : String) : String :=
  if ¬ isStructuralTokenKey lib.toStdlib key ∧ containsSecretPattern lib text then redactedMark
  else text

theorem redactJson_str {key : String} (plain : PlainKey lib.toStdlib key) (fullCapture : Bool)
    (text : String) :
    redactJson lib key fullCapture (.str text) = .str (shownText lib key text) := by
  rw [redactJson, plain.secret, if_neg Bool.false_ne_true, leftText, plain.typed,
    if_neg Bool.false_ne_true]
  rfl

/-- A list of texts under a plain key. -/
theorem redactJson_strings {key : String} (plain : PlainKey lib.toStdlib key) (fullCapture : Bool)
    (texts : List String) :
    redactJson lib key fullCapture (.list (texts.map .str))
      = .list ((texts.map (shownText lib key)).map .str) := by
  rw [redactJson_list plain, Json.list.injEq]
  induction texts with
  | nil => rfl
  | cons text rest ih =>
      rw [List.map_cons, redactJsonItems, ih, redactJson_str plain, List.map_cons, List.map_cons]

/-- A text under a structural key is left. -/
theorem shownText_structural {key text : String}
    (structural : isStructuralTokenKey lib.toStdlib key = true) : shownText lib key text = text :=
  if_neg fun looks => looks.1 structural

/-- A text that does not look like a secret is left. -/
theorem shownText_harmless {key text : String} (harmless : containsSecretPattern lib text = false) :
    shownText lib key text = text :=
  if_neg fun looks => Bool.false_ne_true (harmless.symm.trans looks.2)

/-- What redaction leaves of a text is not empty, where the text is not. -/
theorem shownText_ne {key text : String} (present : text ≠ "") : shownText lib key text ≠ "" := by
  unfold shownText
  split_ifs
  exacts [by decide, present]

end Plain

/-! ## Texts that look like no secret -/

section Harmless

variable {lib : AuditLibrary}

/-- A word needs a character of every class that takes in one of its letters. -/
theorem needs_word {p : Char → Bool} {letter : Char} {text : String} (member : letter ∈ text.toList)
    (outside : ∀ c, SecretPattern.isLetter letter c = true → p c = true) :
    Regex.Needs p 1 (SecretPattern.word text) :=
  Regex.Needs.sequence (List.mem_map_of_mem member) ⟨Nat.le_refl 1, outside⟩

/-- **Texts with too few characters of four kinds look like no secret**: one kind that every secret's
name has a character of, or the separators of assignments; capitals or small letters; digits and
letters of hexadecimal numbers; decimal digits. -/
theorem containsSecretPattern_eq_false {text : String} {p q r : Char → Bool} {n m k : Nat}
    (assignment : Regex.Needs p n SecretPattern.secretAssignment) (fewP : text.toList.countP p < n)
    (entropy : Regex.Needs q m SecretPattern.highEntropy) (fewQ : text.toList.countP q < m)
    (hex : text.toList.countP (fun c => c.isDigit || SecretPattern.among "abcdefABCDEF" c) < 32)
    (code : Regex.Needs r k (SecretPattern.mfaCode lib.isdecimal)) (fewR : text.toList.countP r < k) :
    containsSecretPattern lib text = false := by
  have hexNeeds : Regex.Needs (fun c => c.isDigit || SecretPattern.among "abcdefABCDEF" c) 32
      SecretPattern.hexSecret :=
    Regex.Needs.sequence (List.mem_cons_of_mem _ List.mem_cons_self) ⟨Nat.le_refl 32, fun _ h => h⟩
  simp only [containsSecretPattern, List.any_cons, List.any_nil,
    Regex.search_eq_false assignment fewP, Regex.search_eq_false entropy fewQ,
    Regex.search_eq_false hexNeeds hex, Regex.search_eq_false code fewR, Bool.or_self]

/-- A small letter, or the underscore. -/
def isNameLetter (c : Char) : Bool := c.isLower || c == '_'

/-- A digit, or a separator of ISO texts. -/
def isStampChar (c : Char) : Bool := c.isDigit || SecretPattern.among "-:.+T" c

/-- The letters of names are ASCII, and neither capitals, digits nor the separators of assignments. -/
theorem isNameLetter_plain {c : Char} (letter : isNameLetter c = true) :
    SecretPattern.among ":=" c = false ∧ c.isUpper = false ∧ c.isDigit = false ∧ c.toNat < 128 := by
  have none : ∀ other ∈ ":=".toList, isNameLetter other = false :=
    List.all_iff_forall_prop.mp (by decide)
  refine ⟨Bool.eq_false_iff.mpr fun among => ?_, ?_⟩
  · rw [none c (List.contains_iff_mem.mp among)] at letter
    cases letter
  simp only [isNameLetter, Bool.or_eq_true, beq_iff_eq] at letter
  rcases letter with lower | rfl
  · rw [isLower_iff] at lower
    rw [Bool.eq_false_iff, ne_eq, isUpper_iff, Bool.eq_false_iff, ne_eq, isDigit_iff]
    omega
  · decide

/-- A character that is ASCII, no separator of assignments and no capital. -/
def isSmallChar (c : Char) : Bool :=
  !SecretPattern.among ":=" c && !c.isUpper && decide (c.toNat < 128)

/-- **A short text of small characters**, with fewer digits than a code, looks like no secret. -/
theorem harmless_of_small (laws : TextLaws lib) {text : String}
    (small : text.toList.all isSmallChar = true) (few : text.toList.countP Char.isDigit < 6)
    (short : text.length < 32) : containsSecretPattern lib text = false := by
  have each {c : Char} (member : c ∈ text.toList) : SecretPattern.among ":=" c = false
      ∧ c.isUpper = false ∧ c.toNat < 128 := by
    have kind := List.all_eq_true.mp small c member
    simp only [isSmallChar, Bool.and_eq_true, Bool.not_eq_true', decide_eq_true_eq] at kind
    exact ⟨kind.1.1, kind.1.2, kind.2⟩
  have none {p : Char → Bool} (absent : ∀ c ∈ text.toList, p c = false) :
      text.toList.countP p < 1 := by
    rw [List.countP_eq_zero.mpr fun c member => by rw [absent c member]; exact Bool.false_ne_true]
    exact Nat.one_pos
  refine containsSecretPattern_eq_false (p := SecretPattern.among ":=") (q := Char.isUpper)
    (r := lib.isdecimal) (n := 1) (m := 1) (k := 6) ?_ ?_ ?_ ?_ ?_ ?_ ?_
  · exact Regex.Needs.sequence (r := .char (SecretPattern.among ":=")) (by simp)
      ⟨Nat.le_refl 1, fun _ found => found⟩
  · exact none fun c member => (each member).1
  · exact Regex.Needs.sequence (r := SecretPattern.ahead Char.isUpper) (by simp)
      (.inr ⟨Nat.le_refl 1, fun _ found => found⟩)
  · exact none fun c member => (each member).2.1
  · exact Nat.lt_of_le_of_lt List.countP_le_length short
  · exact Regex.Needs.sequence (r := .group (.many lib.isdecimal 6 (some 8))) (by simp)
      ⟨Nat.le_refl 6, fun _ found => found⟩
  · refine Nat.lt_of_le_of_lt (List.countP_mono_left fun c member decimal => ?_) few
    rw [laws.digits c (each member).2.2] at decimal
    exact decimal

/-- **A short name looks like no secret.** -/
theorem harmless_of_name (laws : TextLaws lib) {text : String}
    (name : text.toList.all isNameLetter = true) (short : text.length < 32) :
    containsSecretPattern lib text = false := by
  have letter {c : Char} (member : c ∈ text.toList) := isNameLetter_plain
    (List.all_eq_true.mp name c member)
  refine harmless_of_small laws (List.all_eq_true.mpr fun c member => ?_) ?_ short
  · obtain ⟨separator, upper, -, ascii⟩ := letter member
    rw [isSmallChar, separator, upper, decide_eq_true ascii]
    rfl
  · rw [List.countP_eq_zero.mpr fun c member => by
      rw [(letter member).2.2.1]
      exact Bool.false_ne_true]
    decide

/-- No letter of these is in an ISO text, however it is written. -/
theorem isStampChar_letter {letter c : Char} (member : letter ∈ "posabmr".toList)
    (same : SecretPattern.isLetter letter c = true) : isStampChar c = false := by
  simp only [SecretPattern.isLetter, Bool.or_eq_true, Bool.and_eq_true, beq_iff_eq] at same
  rcases same with (((rfl | rfl) | ⟨-, rfl⟩) | ⟨-, rfl⟩) | ⟨-, rfl | rfl⟩
  · exact (List.all_iff_forall_prop (p := fun c => isStampChar c = false)).mp (by decide) c member
  · have capital : ∀ letter ∈ "posabmr".toList, isStampChar letter.toUpper = false :=
      List.all_iff_forall_prop.mp (by decide)
    exact capital letter member
  all_goals decide

theorem isStampChar_lower {c : Char} (lower : c.isLower = true) : isStampChar c = false := by
  have none : ∀ other ∈ "-:.+T".toList, other.isLower = false :=
    List.all_iff_forall_prop.mp (by decide)
  rw [isStampChar, Bool.or_eq_false_iff]
  refine ⟨Bool.eq_false_iff.mpr fun digit => ?_, Bool.eq_false_iff.mpr fun among => ?_⟩
  · rw [isLower_iff] at lower
    rw [isDigit_iff] at digit
    omega
  · rw [none c (List.contains_iff_mem.mp among)] at lower
    cases lower

/-- **An ISO text looks like no secret**, where it has fewer digits than a hexadecimal secret. -/
theorem harmless_of_stamp {text : String} (stamp : text.toList.all isStampChar = true)
    (few : text.toList.countP Char.isDigit < 32) : containsSecretPattern lib text = false := by
  let other (c : Char) : Bool := !isStampChar c
  have none : text.toList.countP other < 1 := by
    rw [List.countP_eq_zero.mpr fun c member => ?_]
    · exact Nat.one_pos
    · rw [show other c = !isStampChar c from rfl, List.all_eq_true.mp stamp c member]
      exact Bool.false_ne_true
  have word {letter : Char} {text : String} (member : letter ∈ text.toList)
      (outside : letter ∈ "posabmr".toList) : Regex.Needs other 1 (SecretPattern.word text) :=
    needs_word member fun c same => congrArg not (isStampChar_letter outside same)
  have words {letter : Char} {first second : String} {separator : Regex}
      (member : letter ∈ first.toList) (outside : letter ∈ "posabmr".toList) :
      Regex.Needs other 1 (SecretPattern.words first separator second) :=
    Regex.Needs.sequence List.mem_cons_self (word member outside)
  have hex : text.toList.countP (fun c => c.isDigit || SecretPattern.among "abcdefABCDEF" c) < 32 := by
    refine Nat.lt_of_le_of_lt (List.countP_mono_left fun c member found => ?_) few
    rcases Bool.or_eq_true_iff.mp found with digit | letter
    · exact digit
    · have outside : ∀ c ∈ "abcdefABCDEF".toList, isStampChar c = false :=
        List.all_iff_forall_prop.mp (by decide)
      have inside := List.all_eq_true.mp stamp c member
      rw [outside c (List.contains_iff_mem.mp letter)] at inside
      cases inside
  refine containsSecretPattern_eq_false (n := 1) (m := 1) (k := 1) ?_ none ?_ none hex ?_ none
  · -- every name of a secret has a letter that is in no ISO text
    refine Regex.Needs.sequence (List.mem_cons_of_mem _ List.mem_cons_self) ?_
    refine Regex.Needs.oneOf (List.cons_ne_nil _ _) fun r member => ?_
    simp only [List.mem_cons, List.not_mem_nil, or_false] at member
    rcases member with rfl | rfl | rfl | rfl | rfl | rfl | rfl | rfl | rfl | rfl | rfl | rfl
    · exact @word 'p' _ (by decide) (by decide)
    · exact @word 'p' _ (by decide) (by decide)
    · exact @word 'o' _ (by decide) (by decide)
    · exact @word 's' _ (by decide) (by decide)
    · exact @words 'a' _ _ _ (by decide) (by decide)
    · exact @words 'p' _ _ _ (by decide) (by decide)
    · exact @word 'b' _ (by decide) (by decide)
    · exact @words 's' _ _ _ (by decide) (by decide)
    · exact @word 'm' _ (by decide) (by decide)
    · exact @word 'o' _ (by decide) (by decide)
    · exact @word 'o' _ (by decide) (by decide)
    · exact @words 'r' _ _ _ (by decide) (by decide)
  · refine Regex.Needs.sequence (r := SecretPattern.ahead Char.isLower) (by simp) ?_
    exact .inr ⟨Nat.le_refl 1, fun c lower => congrArg not (isStampChar_lower lower)⟩
  · refine Regex.Needs.sequence (List.mem_cons_of_mem _ List.mem_cons_self) ?_
    refine Regex.Needs.oneOf (List.cons_ne_nil _ _) fun r member => ?_
    simp only [List.mem_cons, List.not_mem_nil, or_false] at member
    rcases member with rfl | rfl | rfl | rfl
    · exact @word 'm' _ (by decide) (by decide)
    · exact @word 'o' _ (by decide) (by decide)
    · exact @word 'o' _ (by decide) (by decide)
    · exact @word 'o' _ (by decide) (by decide)

end Harmless

end AgenticKVM
