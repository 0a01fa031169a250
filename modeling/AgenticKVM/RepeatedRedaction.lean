import AgenticKVM.ExportedLogs
import AgenticKVM.ExposedTexts
import AgenticKVM.ObserveRedaction
import AgenticKVM.ParameterBinding

/-! # Redacting twice

Redaction leaves its own results as they are, but for captured texts: under a key of typed or
observed text, with full capture on, a text is stripped, and an exposed one is stripped of more when
it is redacted again (`redactValue_twice_iff`). The posture itself is not redacted away: no text
that enables full capture looks like a secret. -/

namespace AgenticKVM

open Lib Lib.Regex

/-! ## Texts that enable full capture -/

section Visible

variable {lib : AuditLibrary}

/-- No white space. -/
def isVisible (c : Char) : Bool := !isSpace c

/-- An expression that is found matches at a position. -/
theorem exists_of_search {isWord : Char → Bool} {r : Regex} {before text : List Char}
    (found : search isWord r before text = true) :
    ∃ front rest last, text = front ++ rest
      ∧ Matches isWord r ⟨front.reverse ++ before, rest, []⟩ last := by
  induction text generalizing before with
  | nil =>
      obtain ⟨last, matched⟩ := matchAt_isSome_iff.mp found
      exact ⟨[], [], last, rfl, matched⟩
  | cons c rest ih =>
      rw [search, Bool.or_eq_true] at found
      rcases found with here | later
      · obtain ⟨last, matched⟩ := matchAt_isSome_iff.mp here
        exact ⟨[], c :: rest, last, rfl, matched⟩
      · obtain ⟨front, rest, last, rfl, matched⟩ := ih later
        refine ⟨c :: front, rest, last, rfl, ?_⟩
        rwa [List.reverse_cons, List.append_assoc]

/-- Characters that are all visible are counted. -/
theorem length_le_countP {part text : List Char} (inside : part.Sublist text)
    (visible : ∀ c ∈ part, isSpace c = false) : part.length ≤ text.countP isVisible := by
  have all : part.countP isVisible = part.length := by
    rw [List.countP_eq_length]
    intro c member
    rw [isVisible, visible c member]
    rfl
  rw [← all]
  exact inside.countP_le

/-- A name of a secret begins with at least three letters. -/
theorem SecretName.three (laws : CharLaws lib) {name : List Char} (named : SecretName name) :
    ∃ front rest, name = front ++ rest ∧ 3 ≤ front.length ∧ ∀ c ∈ front, lib.isalnum c = true := by
  have long : ∀ word ∈ nameWords, 3 ≤ word.toList.length := by decide
  have three {word : String} {front : List Char} (named : word ∈ nameWords)
      (spells : Spells word front) : 3 ≤ front.length := by
    have same := congrArg List.length (spells.map_smallLetter named)
    rw [List.length_map] at same
    rw [same]
    exact long word named
  cases named with
  | @word w name named spells =>
      have named' := mem_nameWords_of_secret named
      exact ⟨name, [], (List.append_nil name).symm, three named' spells,
        fun c member => (spells.alnum laws named' c member).1⟩
  | pair named spells one among spells' =>
      have named' := (mem_nameWords_of_pair named).1
      exact ⟨_, _, List.append_assoc _ _ _, three named' spells,
        fun c member => (spells.alnum laws named' c member).1⟩

/-- **What looks like a secret has five visible characters.** -/
theorem five_of_secretPattern (laws : CharLaws lib) {s : String}
    (looks : containsSecretPattern lib s = true) : 5 ≤ s.toList.countP isVisible := by
  rw [containsSecretPattern, List.any_eq_true] at looks
  obtain ⟨r, member, found⟩ := looks
  obtain ⟨front, rest, last, split, matched⟩ := exists_of_search found
  have inside {part : List Char} (part' : part.Sublist rest) : part.Sublist s.toList := by
    rw [split]
    exact part'.trans (List.sublist_append_right _ _)
  simp only [List.mem_cons, List.not_mem_nil, or_false] at member
  rcases member with rfl | rfl | rfl | rfl
  · obtain ⟨name, gap, separator, gap', value, rest', rfl, assignment, -⟩ :=
      (matches_secretAssignment laws).mp matched
    obtain ⟨letters, more, rfl, three, alnum⟩ := assignment.named.three laws
    obtain ⟨v, value, rfl⟩ := List.exists_cons_of_ne_nil assignment.some
    have five : (letters ++ [separator] ++ [v]).length ≤ s.toList.countP isVisible := by
      refine length_le_countP (inside ?_) fun c member => ?_
      · simp only [List.append_assoc]
        refine List.Sublist.append (List.Sublist.refl _) ?_
        refine List.Sublist.trans (.cons_cons separator ?_)
          ((List.sublist_append_right gap _).trans (List.sublist_append_right more _))
        exact List.singleton_sublist.mpr (by simp)
      · simp only [List.mem_append, List.mem_singleton] at member
        rcases member with (inName | rfl) | rfl
        · exact laws.notSpace (alnum c inName)
        · have plain : ∀ c ∈ ":=".toList, isSpace c = false :=
            forall_mem_of_all (by decide)
          exact plain c (List.contains_iff_mem.mp assignment.separator)
        · exact assignment.value c List.mem_cons_self
    simp only [List.length_append, List.length_singleton] at five
    omega
  · obtain ⟨token, rest', rfl, isToken, -⟩ := matches_highEntropy.mp matched
    have least := isToken.least
    refine Nat.le_trans (by omega) (length_le_countP (inside (List.sublist_append_left _ _))
      fun c member => (laws.tokenChar (isToken.chars c member)).2.2)
  · obtain ⟨digits, rest', rfl, hex, -⟩ := (matches_hexSecret laws).mp matched
    have least := hex.least
    exact Nat.le_trans (by omega) (length_le_countP (inside (List.sublist_append_left _ _))
      fun c member => laws.notSpace (laws.hexDigit (hex.all c member)))
  · obtain ⟨front, digits, rest', rfl, code, -⟩ := (matches_mfaCode laws).mp matched
    have least := code.least
    have within : digits.Sublist (front ++ (digits ++ rest')) :=
      (List.sublist_append_left _ _).trans (List.sublist_append_right _ _)
    exact Nat.le_trans (by omega) (length_le_countP (inside within)
      fun c member => laws.notSpace (laws.decimal c (code.decimal c member)))

/-- White space that is dropped is not counted. -/
theorem countP_dropWhile (text : List Char) :
    (text.dropWhile isSpace).countP isVisible = text.countP isVisible := by
  have none : (text.takeWhile isSpace).countP isVisible = 0 := by
    rw [List.countP_eq_zero]
    intro c member
    rw [isVisible, List.all_eq_true.mp List.all_takeWhile c member]
    exact Bool.noConfusion
  conv_rhs => rw [← List.takeWhile_append_dropWhile (p := isSpace) (l := text)]
  rw [List.countP_append, none, Nat.zero_add]

/-- Stripping white space keeps the visible characters. -/
theorem countP_le_strip (s : String) : s.toList.countP isVisible ≤ (strip s).length := by
  rw [strip, String.length_ofList, List.length_reverse]
  have same : s.toList.countP isVisible
      = ((s.toList.dropWhile isSpace).reverse.dropWhile isSpace).countP isVisible := by
    rw [countP_dropWhile, List.countP_reverse, countP_dropWhile]
  rw [same]
  exact List.countP_le_length

/-- **What relies on `str.lower`**: it lowers ASCII letters, and it drops no character. -/
structure LowerLaws (std : Stdlib) : Prop where
  ascii : LowersAscii std
  length : ∀ text : String, text.length ≤ (std.lower text).length

/-- **No text that looks like a secret enables full capture**, and neither does the mark. -/
theorem explicitFullCaptureEnabled_leftText (laws : CharLaws lib) (lowers : LowerLaws lib.toStdlib)
    {s : String} (looks : containsSecretPattern lib s = true) :
    explicitFullCaptureEnabled lib.toStdlib (some (.str s)) = false
      ∧ explicitFullCaptureEnabled lib.toStdlib (some (.str redactedMark)) = false := by
  constructor
  · rw [explicitFullCaptureEnabled, decide_eq_false_iff_not]
    intro member
    have short : ∀ text ∈ ["1", "true", "yes", "on", "full"], text.length < 5 := by decide
    have five := five_of_secretPattern laws looks
    have visible := countP_le_strip s
    have length := lowers.length (strip s)
    have few := short _ member
    omega
  · have same : strip redactedMark = redactedMark := by decide
    rw [explicitFullCaptureEnabled, same, lowers.ascii redactedMark (by decide)]
    decide +kernel

end Visible

/-! ## The posture stays -/

section Posture

variable {lib : AuditLibrary}

/-- A text that is shown under a key that is neither secret nor a typed text's. -/
theorem redactValue_str {key path : String} {fullCapture : Bool} {s : String}
    (plain : isSecretKey lib.toStdlib key = false) :
    (redactValue lib key path fullCapture (.str s)).value
      = .str (leftText lib key fullCapture s) := by
  rw [redactValue, plain, if_neg Bool.false_ne_true, redactText_eq]

/-- **Redaction keeps what enables full capture**, under a key that is not redacted. -/
theorem explicitFullCaptureEnabled_redactValue (laws : CharLaws lib)
    (lowers : LowerLaws lib.toStdlib) {key path : String} {fullCapture : Bool}
    (plain : PlainKey lib.toStdlib key) (value : PyValue) :
    explicitFullCaptureEnabled lib.toStdlib
        (some (redactValue lib key path fullCapture value).value)
      = explicitFullCaptureEnabled lib.toStdlib (some value) := by
  cases value with
  | str s =>
      rw [redactValue_str plain.secret, leftText, plain.typed, if_neg Bool.false_ne_true]
      split_ifs with looks
      · obtain ⟨text, mark⟩ := explicitFullCaptureEnabled_leftText laws lowers looks.2
        rw [text, mark]
      · rfl
  | bytes data =>
      have same : strip "[REDACTED-BYTES]" = "[REDACTED-BYTES]" := by decide
      rw [redactValue, plain.secret, if_neg Bool.false_ne_true, RedactionResult.replaced]
      simp only [explicitFullCaptureEnabled]
      rw [same, lowers.ascii _ (by decide)]
      decide +kernel
  | list items | tuple items =>
      rw [redactValue, plain.secret, plain.paths, if_neg Bool.false_ne_true,
        if_neg Bool.false_ne_true]
      rfl
  | dict entries =>
      rw [redactValue, plain.secret, if_neg Bool.false_ne_true]
      rfl
  | _ =>
      simp only [redactValue, plain.secret, Bool.false_eq_true, if_false]
      rfl

/-- The keys that set a posture are not redacted. -/
theorem postureKeys_plain (lowers : LowerLaws lib.toStdlib) :
    ∀ key ∈ postureKeys, PlainKey lib.toStdlib key := by
  have listed : ∀ key ∈ postureKeys, (key.toList.all fun c => c.toNat < 128) = true
      ∧ key.toLower ∉ credentialFieldKeys ++ rawArtifactKeys ++ hidTextKeys ++ ["redactions"] := by
    decide +kernel
  exact fun key member => plainKey_of_lower (lowers.ascii key (listed key member).1)
    (listed key member).2

/-- A mapping under `hid_capture` declares the posture. -/
theorem mappingFullCapture_declared {std : Stdlib} {entries posture : Params} (inherited : Bool)
    (declared : paramGet entries "hid_capture" = some (.dict posture)) :
    mappingFullCapture std entries inherited
      = explicitFullCaptureEnabled std (paramGet posture "full_capture") := by
  rw [mappingFullCapture, declared]

/-- Otherwise the first of three keys does, if one is there. -/
theorem mappingFullCapture_undeclared {std : Stdlib} {entries : Params} (inherited : Bool)
    (undeclared : ∀ posture, paramGet entries "hid_capture" ≠ some (.dict posture)) :
    mappingFullCapture std entries inherited
      = (["PIKVM_FULL_CAPTURE", "pikvm_full_capture", "full_capture"].findSome?
          (paramGet entries)).elim inherited
        fun value => explicitFullCaptureEnabled std (some value) := by
  rw [mappingFullCapture]
  split
  · next posture declared => exact absurd declared (undeclared posture)
  · cases ["PIKVM_FULL_CAPTURE", "pikvm_full_capture", "full_capture"].findSome?
      (paramGet entries) <;> rfl

/-- A value that is no mapping is redacted to none. -/
theorem redactValue_ne_dict {key path : String} {fullCapture : Bool} {value : PyValue}
    (plain : PlainKey lib.toStdlib key) (other : ∀ entries, value ≠ .dict entries) :
    ∀ entries, (redactValue lib key path fullCapture value).value ≠ .dict entries := by
  intro entries same
  cases value with
  | dict entries => exact other entries rfl
  | str s =>
      rw [redactValue_str plain.secret] at same
      cases same
  | list items | tuple items =>
      rw [redactValue, plain.secret, plain.paths, if_neg Bool.false_ne_true,
        if_neg Bool.false_ne_true] at same
      cases same
  | _ =>
      simp only [redactValue, plain.secret, Bool.false_eq_true, if_false] at same
      cases same

/-- **The posture of a redacted mapping** is that of the mapping. -/
theorem mappingFullCapture_redactedEntries (laws : CharLaws lib) (lowers : LowerLaws lib.toStdlib)
    {path : String} {fullCapture : Bool} {entries : Params}
    (keyed : PyValue.stringKeyedEntries entries) (inherited : Bool) :
    mappingFullCapture lib.toStdlib ((redactedEntries lib path fullCapture entries).map fun entry =>
        (.str entry.1, entry.2)) inherited
      = mappingFullCapture lib.toStdlib entries inherited := by
  have plain := postureKeys_plain lowers
  have get := @paramGet_redactedEntries lib path fullCapture entries keyed
  have enabled {key path : String} {fullCapture : Bool} (member : key ∈ postureKeys)
      (value : PyValue) := @explicitFullCaptureEnabled_redactValue lib laws lowers key path
        fullCapture (plain key member) value
  by_cases declared : ∃ posture, paramGet entries "hid_capture" = some (.dict posture)
  · obtain ⟨posture, declared⟩ := declared
    have keyed' : PyValue.stringKeyedEntries posture := PyValue.stringKeyed_entry keyed declared
    have redacted := get "hid_capture"
    rw [declared, Option.map_some, redactValue, (plain "hid_capture" (by decide)).secret,
      if_neg Bool.false_ne_true] at redacted
    rw [mappingFullCapture_declared inherited redacted,
      mappingFullCapture_declared inherited declared]
    change explicitFullCaptureEnabled lib.toStdlib (paramGet
      (pyDict (redactedEntries lib (childPath path "hid_capture") _ posture)) "full_capture") = _
    rw [pyDict_redactedEntries keyed', paramGet_redactedEntries keyed']
    cases paramGet posture "full_capture" with
    | none => rfl
    | some value => exact enabled (by decide) value
  · have undeclared (posture : Params) : paramGet entries "hid_capture" ≠ some (.dict posture) :=
      fun same => declared ⟨posture, same⟩
    have undeclared' (posture : Params) :
        paramGet ((redactedEntries lib path fullCapture entries).map
          fun entry => (.str entry.1, entry.2)) "hid_capture" ≠ some (.dict posture) := by
      rw [get "hid_capture"]
      cases hid : paramGet entries "hid_capture" with
      | none => exact fun same => by cases same
      | some value =>
          intro same
          refine redactValue_ne_dict (plain "hid_capture" (by decide)) (fun posture dict => ?_)
            posture (Option.some.inj same)
          exact undeclared posture (hid.trans (congrArg some dict))
    rw [mappingFullCapture_undeclared inherited undeclared,
      mappingFullCapture_undeclared inherited undeclared']
    simp only [List.findSome?, get]
    cases paramGet entries "PIKVM_FULL_CAPTURE" with
    | some value => exact enabled (by decide) value
    | none =>
        cases paramGet entries "pikvm_full_capture" with
        | some value => exact enabled (by decide) value
        | none =>
            cases paramGet entries "full_capture" with
            | some value => exact enabled (by decide) value
            | none => rfl

end Posture

/-! ## Trees -/

mutual

/-- A tree has strings as keys, each once. -/
theorem PyValue.JsonTree.stringKeyed {value : PyValue} (tree : value.JsonTree) :
    value.StringKeyed := by
  match value with
  | .none | .bool _ | .int _ | .float _ | .str _ => trivial
  | .list items | .tuple items => exact PyValue.stringKeyedItems_of_tree tree
  | .dict entries => exact PyValue.stringKeyedEntries_of_tree tree

theorem PyValue.stringKeyedItems_of_tree {items : List PyValue} (tree : jsonTreeItems items) :
    stringKeyedItems items := by
  match items with
  | [] => trivial
  | item :: rest => exact ⟨tree.1.stringKeyed, PyValue.stringKeyedItems_of_tree tree.2⟩

theorem PyValue.stringKeyedEntries_of_tree {entries : Params} (tree : jsonTreeEntries entries) :
    stringKeyedEntries entries := by
  match entries with
  | [] => trivial
  | (.str key, value) :: rest =>
      exact ⟨tree.1, tree.2.1.stringKeyed, PyValue.stringKeyedEntries_of_tree tree.2.2⟩

end

section Captured

variable (std : Stdlib)

mutual

/-- **The captured texts** of a value under a key: those under a key of typed or observed text where
full capture is on, unless something above them is replaced or not looked into. -/
def capturedTexts (key : String) (fullCapture : Bool) : PyValue → List String
  | .str s =>
      if isSecretKey std key then [] else if isHidTextKey std key ∧ fullCapture then [s] else []
  | .list items | .tuple items =>
      if isSecretKey std key ∨ isRedactionsKey std key then []
      else capturedInItems key fullCapture items
  | .dict entries =>
      if isSecretKey std key then []
      else capturedInEntries (mappingFullCapture std entries fullCapture) entries
  | _ => []

def capturedInItems (key : String) (fullCapture : Bool) : List PyValue → List String
  | [] => []
  | item :: rest => capturedTexts key fullCapture item ++ capturedInItems key fullCapture rest

def capturedInEntries (fullCapture : Bool) : List (PyValue × PyValue) → List String
  | [] => []
  | (key, value) :: rest =>
      capturedTexts (pyStr std key) fullCapture value ++ capturedInEntries fullCapture rest

end

end Captured

section Twice

variable {lib : AuditLibrary}

/-- Under a secret key there is nothing left to redact. -/
theorem redactValue_twice_secret {key path path' : String} {fullCapture : Bool} {value : PyValue}
    (secret : isSecretKey lib.toStdlib key = true) :
    (redactValue lib key path' fullCapture (redactValue lib key path fullCapture value).value).value
      = (redactValue lib key path fullCapture value).value := by
  rw [redactValue_secret secret, redactValue_secret secret]

/-- **A shown text stays**, unless it is captured and exposed. -/
theorem leftText_twice_iff (laws : CharLaws lib) {key : String} {fullCapture : Bool} (s : String)
    (plain : isSecretKey lib.toStdlib key = false) :
    leftText lib key fullCapture (leftText lib key fullCapture s) = leftText lib key fullCapture s
      ↔ ∀ text ∈ capturedTexts lib.toStdlib key fullCapture (.str s), ¬ Exposed lib text := by
  rw [capturedTexts, plain, if_neg Bool.false_ne_true]
  by_cases hid : isHidTextKey lib.toStdlib key = true
  · cases fullCapture with
    | true =>
        simp only [leftText, hid, if_true, and_self, List.mem_singleton, forall_eq]
        exact stripSecretText_twice_iff laws s
    | false =>
        simp only [leftText, hid, if_true, Bool.false_eq_true, if_false, and_false,
          List.not_mem_nil, false_implies, implies_true]
  · refine iff_of_true ?_ fun text absent => ?_
    · simp only [leftText, hid, if_false, Bool.false_eq_true]
      split_ifs with looks again
      all_goals rfl
    · simp only [hid, false_and, Bool.false_eq_true, if_false] at absent
      exact (List.not_mem_nil absent).elim

/-- What is left of a list, a tuple and a mapping whose key is not redacted. -/
theorem redactValue_containers {key path : String} {fullCapture : Bool}
    (plain : isSecretKey lib.toStdlib key = false) :
    (isRedactionsKey lib.toStdlib key = false → ∀ items,
      (redactValue lib key path fullCapture (.list items)).value
        = .list ((redactItems lib key path fullCapture 0 items).map Prod.fst)
      ∧ (redactValue lib key path fullCapture (.tuple items)).value
        = .tuple ((redactItems lib key path fullCapture 0 items).map Prod.fst))
    ∧ ∀ entries, PyValue.stringKeyedEntries entries →
      (redactValue lib key path fullCapture (.dict entries)).value
        = .dict ((redactedEntries lib path (mappingFullCapture lib.toStdlib entries fullCapture)
          entries).map fun entry => (.str entry.1, entry.2)) := by
  refine ⟨fun unlisted items => ⟨?_, ?_⟩, fun entries keyed => ?_⟩
  · rw [redactValue, plain, unlisted, if_neg Bool.false_ne_true, if_neg Bool.false_ne_true]
  · rw [redactValue, plain, unlisted, if_neg Bool.false_ne_true, if_neg Bool.false_ne_true]
  · rw [redactValue, plain, if_neg Bool.false_ne_true, ← pyDict_redactedEntries keyed]
    rfl

mutual

/-- A redacted tree has strings as keys, each once. -/
theorem redactValue_stringKeyed {value : PyValue} (keyed : value.StringKeyed) (key path : String)
    (fullCapture : Bool) : (redactValue lib key path fullCapture value).value.StringKeyed := by
  match value with
  | .list items =>
      rw [redactValue]
      split_ifs
      exacts [keyed, trivial, redactItems_stringKeyed keyed key path fullCapture 0]
  | .tuple items =>
      rw [redactValue]
      split_ifs
      exacts [trivial, keyed, redactItems_stringKeyed keyed key path fullCapture 0]
  | .dict entries =>
      by_cases secret : isSecretKey lib.toStdlib key = true
      · rw [redactValue_secret secret]
        trivial
      · rw [Bool.not_eq_true] at secret
        rw [(redactValue_containers secret).2 entries keyed]
        exact redactedEntries_stringKeyed keyed path _
  | .str s =>
      rw [redactValue]
      split_ifs
      · trivial
      · rw [redactText_eq]
        trivial
  | .bytes _ | .none | .bool _ | .int _ | .float _ | .set _ | .object _ _ =>
      simp only [redactValue]
      split_ifs
      all_goals trivial

theorem redactItems_stringKeyed {items : List PyValue} (keyed : PyValue.stringKeyedItems items)
    (key path : String) (fullCapture : Bool) (index : Nat) :
    PyValue.stringKeyedItems ((redactItems lib key path fullCapture index items).map Prod.fst) := by
  match items with
  | [] => trivial
  | item :: rest =>
      exact ⟨redactValue_stringKeyed keyed.1 key _ fullCapture,
        redactItems_stringKeyed keyed.2 key path fullCapture (index + 1)⟩

theorem redactedEntries_stringKeyed {entries : Params}
    (keyed : PyValue.stringKeyedEntries entries) (path : String) (fullCapture : Bool) :
    PyValue.stringKeyedEntries ((redactedEntries lib path fullCapture entries).map
      fun entry => (.str entry.1, entry.2)) := by
  match entries with
  | [] => trivial
  | (.str key, value) :: rest =>
      obtain ⟨absent, here, later⟩ := keyed
      rw [redactedEntries_cons]
      refine ⟨?_, redactValue_stringKeyed here key _ fullCapture,
        redactedEntries_stringKeyed later path fullCapture⟩
      rw [paramGet_redactedEntries later, absent]
      rfl

end

mutual

/-- **Redacting twice is redacting once** exactly where no captured text is exposed. -/
theorem redactValue_twice_iff (laws : CharLaws lib) (lowers : LowerLaws lib.toStdlib)
    (value : PyValue) (tree : value.JsonTree) (key path path' : String) (fullCapture : Bool) :
    (redactValue lib key path' fullCapture (redactValue lib key path fullCapture value).value).value
        = (redactValue lib key path fullCapture value).value
      ↔ ∀ text ∈ capturedTexts lib.toStdlib key fullCapture value, ¬ Exposed lib text := by
  by_cases secret : isSecretKey lib.toStdlib key = true
  · refine iff_of_true (redactValue_twice_secret secret) fun text absent => ?_
    cases value <;> simp only [capturedTexts, secret, true_or, if_true, List.not_mem_nil] at absent
  · rw [Bool.not_eq_true] at secret
    match value with
    | .none | .bool _ | .int _ | .float _ =>
        refine iff_of_true ?_ fun text absent => (List.not_mem_nil absent).elim
        simp only [redactValue, secret, Bool.false_eq_true, if_false, RedactionResult.kept]
    | .str s =>
        rw [← leftText_twice_iff laws s secret, redactValue_str secret, redactValue_str secret,
          PyValue.str.injEq]
    | .list items | .tuple items =>
        by_cases listed : isRedactionsKey lib.toStdlib key = true
        · refine iff_of_true ?_ fun text absent => ?_
          · have same (path : String) (value : PyValue) (isSequence : value.isSequence = true) :=
              @redactValue_listed lib key path fullCapture value
                (Bool.and_eq_true_iff.mpr ⟨listed, isSequence⟩) secret
            rw [same path _ rfl, same path' _ rfl]
          · simp only [capturedTexts, listed, or_true, if_true, List.not_mem_nil] at absent
        · rw [Bool.not_eq_true] at listed
          have again := redactItems_twice_iff laws lowers items tree key path path' fullCapture 0 0
          have left (path : String) (items : List PyValue) :=
            (@redactValue_containers lib key path fullCapture secret).1 listed items
          simp only [left, capturedTexts, secret, listed, Bool.false_eq_true, or_self, if_false,
            PyValue.list.injEq, PyValue.tuple.injEq]
          exact again
    | .dict entries =>
        have keyed := PyValue.stringKeyedEntries_of_tree tree
        have keyed' := @redactedEntries_stringKeyed lib entries keyed path
          (mappingFullCapture lib.toStdlib entries fullCapture)
        have left (path : String) := (@redactValue_containers lib key path fullCapture secret).2
        rw [left path entries keyed, left path' _ keyed',
          mappingFullCapture_redactedEntries laws lowers keyed, capturedTexts, secret,
          if_neg Bool.false_ne_true, ← redactEntries_twice_iff laws lowers entries tree path path',
          PyValue.dict.injEq, List.map_inj_right]
        rintro ⟨key, value⟩ ⟨key', value'⟩ same
        cases same
        rfl

theorem redactItems_twice_iff (laws : CharLaws lib) (lowers : LowerLaws lib.toStdlib)
    (items : List PyValue) (tree : PyValue.jsonTreeItems items) (key path path' : String)
    (fullCapture : Bool) (index index' : Nat) :
    (redactItems lib key path' fullCapture index'
          ((redactItems lib key path fullCapture index items).map Prod.fst)).map Prod.fst
        = (redactItems lib key path fullCapture index items).map Prod.fst
      ↔ ∀ text ∈ capturedInItems lib.toStdlib key fullCapture items, ¬ Exposed lib text := by
  match items with
  | [] => exact iff_of_true rfl fun text absent => (List.not_mem_nil absent).elim
  | item :: rest =>
      simp only [redactItems, List.map_cons, List.cons.injEq, capturedInItems,
        List.forall_mem_append]
      rw [redactValue_twice_iff laws lowers item tree.1,
        redactItems_twice_iff laws lowers rest tree.2]

theorem redactEntries_twice_iff (laws : CharLaws lib) (lowers : LowerLaws lib.toStdlib)
    (entries : Params) (tree : PyValue.jsonTreeEntries entries) (path path' : String)
    (fullCapture : Bool) :
    redactedEntries lib path' fullCapture ((redactedEntries lib path fullCapture entries).map
          fun entry => (.str entry.1, entry.2))
        = redactedEntries lib path fullCapture entries
      ↔ ∀ text ∈ capturedInEntries lib.toStdlib fullCapture entries, ¬ Exposed lib text := by
  match entries with
  | [] => exact iff_of_true rfl fun text absent => (List.not_mem_nil absent).elim
  | (.str key, value) :: rest =>
      rw [redactedEntries_cons, List.map_cons, redactedEntries_cons, List.cons.injEq, Prod.mk.injEq,
        capturedInEntries, List.forall_mem_append, redactValue_twice_iff laws lowers value tree.2.1,
        redactEntries_twice_iff laws lowers rest tree.2.2, and_iff_right rfl]
      exact Iff.rfl

end

/-- **Redaction is idempotent exactly where no captured text is exposed**: for every tree, under
every key and in every posture, and for `redact_mapping`. -/
theorem redaction_twice_iff (lib : AuditLibrary) (laws : CharLaws lib)
    (lowers : LowerLaws lib.toStdlib) :
    (∀ (value : PyValue) (key path path' : String) (fullCapture : Bool), value.JsonTree →
      ((redactValue lib key path' fullCapture
            (redactValue lib key path fullCapture value).value).value
          = (redactValue lib key path fullCapture value).value
        ↔ ∀ text ∈ capturedTexts lib.toStdlib key fullCapture value, ¬ Exposed lib text))
    ∧ ∀ (values : Params) (fullCapture : Option Bool), (PyValue.dict values).JsonTree →
      ((redactMapping lib (redactMapping lib values fullCapture).1 fullCapture).1
          = (redactMapping lib values fullCapture).1
        ↔ ∀ text ∈ capturedInEntries lib.toStdlib
            (mappingFullCapture lib.toStdlib values (fullCapture.getD false)) values,
          ¬ Exposed lib text) := by
  refine ⟨fun value key path path' fullCapture tree =>
    redactValue_twice_iff laws lowers value tree key path path' fullCapture,
    fun values fullCapture tree => ?_⟩
  have keyed := PyValue.stringKeyedEntries_of_tree tree
  have left {entries : Params} (keyed : PyValue.stringKeyedEntries entries) :
      (redactMapping lib entries fullCapture).1 = (redactedEntries lib ""
        (mappingFullCapture lib.toStdlib entries (fullCapture.getD false)) entries).map
          fun entry => (.str entry.1, entry.2) := by
    rw [← pyDict_redactedEntries keyed]
    rfl
  rw [left keyed, left (redactedEntries_stringKeyed keyed "" _),
    mappingFullCapture_redactedEntries laws lowers keyed,
    ← redactEntries_twice_iff laws lowers values tree "" "", List.map_inj_right]
  rintro ⟨key, value⟩ ⟨key', value'⟩ same
  cases same
  rfl

end Twice

namespace Deployment

/-- The library of the deployment, with the letters that match ASCII letters where case is ignored.
-/
def foldingLibrary : AuditLibrary :=
  { auditLibrary with
    isalnum := fun c => c.isAlphanum || ['\u212a', '\u017f', '\u0130', '\u0131'].contains c }

theorem foldingLibrary_chars : CharLaws foldingLibrary where
  ascii c ascii := by
    have other : ['\u212a', '\u017f', '\u0130', '\u0131'].contains c = false := by
      by_contra folded
      rw [Bool.not_eq_false, List.contains_iff_mem] at folded
      simp only [List.mem_cons, List.not_mem_nil, or_false] at folded
      rcases folded with rfl | rfl | rfl | rfl
      all_goals exact absurd ascii (by decide)
    change (c.isAlphanum || _) = _
    rw [other, Bool.or_false]
  digits c _ := rfl
  decimal c decimal := by
    change (c.isAlphanum || _) = true
    rw [isAlphanum_of_isDigit decimal, Bool.true_or]
  space c space := by
    change (c.isAlphanum || _) = false
    by_contra alnum
    rw [Bool.not_eq_false, Bool.or_eq_true, List.contains_iff_mem] at alnum
    rcases alnum with alnum | folded
    · rw [isAlphanum_iff] at alnum
      simp only [isSpace, Bool.or_eq_true, Bool.and_eq_true, decide_eq_true_eq, beq_iff_eq] at space
      omega
    · simp only [List.mem_cons, List.not_mem_nil, or_false] at folded
      rcases folded with rfl | rfl | rfl | rfl
      all_goals exact absurd space (by decide)
  folded := forall_mem_of_all (by decide)

theorem foldingLibrary_lower : LowerLaws foldingLibrary.toStdlib where
  ascii _ _ := rfl
  length _ := Nat.le_of_eq String.length_map.symm

/-- A captured text. -/
def capture (text : String) : Params :=
  [(.str "full_capture", .bool true), (.str "text", .str text)]

/-- A text whose first word is a token of high entropy but for a capital, and a hexadecimal secret.
-/
def exposedText : String := "aaaaaaaaaaaaaaaaaaa1 0123456789abcdef0123456789abcdef"

theorem capture_tree (text : String) : (PyValue.dict (capture text)).JsonTree :=
  ⟨rfl, trivial, rfl, trivial, trivial⟩

end Deployment

/-- A captured greeting is redacted once. -/
theorem redaction_twice_greeting :
    (redactMapping Deployment.foldingLibrary (redactMapping Deployment.foldingLibrary
        (Deployment.capture "hello") none).1 none).1
      = (redactMapping Deployment.foldingLibrary (Deployment.capture "hello") none).1 := by
  refine ((redaction_twice_iff Deployment.foldingLibrary Deployment.foldingLibrary_chars
    Deployment.foldingLibrary_lower).2 (Deployment.capture "hello") none
    (Deployment.capture_tree "hello")).mpr fun text member => ?_
  have captured : capturedInEntries Deployment.foldingLibrary.toStdlib
      (mappingFullCapture Deployment.foldingLibrary.toStdlib (Deployment.capture "hello")
        ((none : Option Bool).getD false)) (Deployment.capture "hello") = ["hello"] := by
    decide +kernel
  rw [captured, List.mem_singleton] at member
  rw [member]
  exact (stripSecretText_twice_iff Deployment.foldingLibrary_chars "hello").mp (by decide +kernel)

/-- The exposed text is stripped of its first word when it is redacted once more. -/
theorem not_redaction_twice :
    ¬ ∀ (lib : AuditLibrary), CharLaws lib → LowerLaws lib.toStdlib →
      ∀ (values : Params) (fullCapture : Option Bool), (PyValue.dict values).JsonTree →
      (redactMapping lib (redactMapping lib values fullCapture).1 fullCapture).1
        = (redactMapping lib values fullCapture).1 := by
  intro idempotent
  have same := idempotent Deployment.foldingLibrary Deployment.foldingLibrary_chars
    Deployment.foldingLibrary_lower (Deployment.capture Deployment.exposedText) none
    (Deployment.capture_tree Deployment.exposedText)
  have once : (paramGet (redactMapping Deployment.foldingLibrary
      (Deployment.capture Deployment.exposedText) none).1 "text").map
        (pyStr Deployment.foldingLibrary.toStdlib) = some "aaaaaaaaaaaaaaaaaaa1 [REDACTED]" := by
    decide +kernel
  have twice : (paramGet (redactMapping Deployment.foldingLibrary
      (redactMapping Deployment.foldingLibrary (Deployment.capture Deployment.exposedText) none).1
        none).1 "text").map (pyStr Deployment.foldingLibrary.toStdlib)
        = some "[REDACTED] [REDACTED]" := by
    decide +kernel
  rw [same, once] at twice
  revert twice
  decide

end AgenticKVM
