import AgenticKVM.Lib.Regex
import AgenticKVM.JsonTexts

/-! # Redaction

The redaction of audit payloads and provider results (`redaction.py`): credentials and raw artifacts
are replaced by their key, typed and observed text by its key unless full capture is on, and other
texts where they look like a secret. Every replacement is reported with its path. -/

namespace AgenticKVM

open Lib (FloatToken Regex)

/-- The library functions redaction and the audit log rest on, besides those of `Stdlib`. -/
structure AuditLibrary extends Stdlib where
  /-- `str.isalnum` of one character. -/
  isalnum : Char → Bool
  /-- The decimal digits of all scripts, the `\d` of `re`. -/
  isdecimal : Char → Bool
  /-- `repr(float(text))` of a number's text. -/
  readFloat : FloatToken → FloatToken
  /-- `t.isoformat()`. -/
  isoformat : Datetime → String
  /-- The `json` module, as the audit logs rest on it. -/
  json : JsonModule readFloat

/-! ## Key classes -/

/-- `REDACTED`. -/
def redactedMark : String := "[REDACTED]"

/-- `HID_TEXT_KEYS`. -/
def hidTextKeys : List String :=
  ["text", "typed_text", "hid_text", "keyboard_text", "screen_text", "screen_content", "content"]

/-- `CREDENTIAL_FIELD_KEYS`. -/
def credentialFieldKeys : List String :=
  ["password", "passphrase", "pin", "otp", "totp", "mfa", "mfa_code", "recovery_key", "secret",
    "token", "api_key", "api_token", "access_token", "refresh_token", "auth_token", "private_key",
    "credential", "credential_ref", "bearer", "session_cookie", "otp_secret", "token_example"]

/-- `RAW_ARTIFACT_KEYS`. -/
def rawArtifactKeys : List String :=
  ["raw_bytes", "image_bytes", "raw_image", "screenshot_bytes", "bytes"]

/-- `STRUCTURAL_TOKEN_KEYS`. -/
def structuralTokenKeys : List String :=
  ["id", "event_hash", "previous_hash", "last_event_hash", "checkpoint_hash", "params_fingerprint",
    "fingerprint", "cert_fingerprint", "sha256_fingerprint"]

/-- `text.startswith(start)`. -/
def startsWith (text start : String) : Bool := start.toList.isPrefixOf text.toList

/-- `text.endswith(ending)`. -/
def endsWith (text ending : String) : Bool := ending.toList.isSuffixOf text.toList

section Keys

variable (std : Stdlib) (key : String)

/-- `is_hid_text_key`. -/
def isHidTextKey : Bool := std.lower key ∈ hidTextKeys

/-- `is_credential_field_key`. -/
def isCredentialFieldKey : Bool := std.lower key ∈ credentialFieldKeys

/-- A key whose value is replaced as a whole: a credential or a raw artifact. -/
def isSecretKey : Bool := isCredentialFieldKey std key || std.lower key ∈ rawArtifactKeys

/-- `is_structural_token_key`. -/
def isStructuralTokenKey : Bool :=
  std.lower key ∈ structuralTokenKeys || endsWith (std.lower key) "_id"
    || endsWith (std.lower key) "_hash" || endsWith (std.lower key) "_fingerprint"

/-- A key whose lists are taken for lists of redacted paths. -/
def isRedactionsKey : Bool := std.lower key = "redactions"

end Keys

/-! ## Secret patterns -/

namespace SecretPattern

/-- A character that matches an ASCII letter where case is ignored. -/
def isLetter (letter c : Char) : Bool :=
  c == letter || c == letter.toUpper || (letter == 'k' && c == '\u212a')
    || (letter == 's' && c == '\u017f') || (letter == 'i' && (c == '\u0130' || c == '\u0131'))

/-- A text of ASCII letters, where case is ignored. -/
def word (text : String) : Regex :=
  .sequence (text.toList.map fun letter => .char (isLetter letter))

/-- `\s*`. -/
def spaces : Regex := .many isSpace 0 none

/-- One of the characters. -/
def among (chars : String) (c : Char) : Bool := chars.toList.contains c

/-- Words with a separator between them. -/
def words (first : String) (separator : Regex) (second : String) : Regex :=
  .sequence [word first, separator, word second]

/-- `SECRET_ASSIGNMENT_RE`. -/
def secretAssignment : Regex :=
  .sequence
    [.boundary,
      .group (.oneOf
        [word "password", word "passphrase", word "token", word "secret",
          words "api" (.many (among "_-") 0 (some 1)) "key",
          words "private" (.many (among "_-") 0 (some 1)) "key", word "bearer",
          words "session" (.many (among "_-") 0 (some 1)) "cookie", word "mfa", word "otp",
          word "totp", words "recovery" (.many (among "_ -") 0 (some 1)) "key"]),
      .boundary, spaces, .char (among ":="), spaces, .many (fun c => !isSpace c) 1 none]

/-- A character of the alphabets tokens are written in. -/
def isTokenChar (c : Char) : Bool := c.isAlphanum || among "+/=_-" c

/-- Some character of a class occurs further on the line. -/
def ahead (p : Char → Bool) : Regex :=
  .lookahead (.seq (.many (fun c => c != '\n') 0 none) (.char p))

/-- `HIGH_ENTROPY_RE`. -/
def highEntropy : Regex :=
  .sequence
    [.boundary, .lookahead (.seq (.many isTokenChar 20 none) .boundary), ahead Char.isUpper,
      ahead Char.isLower, ahead Char.isDigit, .many isTokenChar 20 none, .boundary]

/-- `HEX_SECRET_RE`. -/
def hexSecret : Regex :=
  .sequence [.boundary, .many (fun c => c.isDigit || among "abcdefABCDEF" c) 32 none, .boundary]

/-- `MFA_CODE_RE`. -/
def mfaCode (isdecimal : Char → Bool) : Regex :=
  .sequence
    [.boundary, .oneOf [word "mfa", word "otp", word "totp", word "code"], spaces,
      .many (among ":=") 0 (some 1), spaces, .group (.many isdecimal 6 (some 8)), .boundary]

end SecretPattern

section Patterns

variable (lib : AuditLibrary)

/-- A character of a word, the `\w` of `re`. -/
def AuditLibrary.isWord (c : Char) : Bool := lib.isalnum c || c == '_'

/-- `contains_secret_pattern`. -/
def containsSecretPattern (value : String) : Bool :=
  [SecretPattern.secretAssignment, SecretPattern.highEntropy, SecretPattern.hexSecret, SecretPattern.mfaCode lib.isdecimal].any
    fun pattern => Regex.search lib.isWord pattern [] value.toList

/-- The matches of a pattern replaced. -/
def substitute (pattern : Regex) (replace : List Char → List Char → List Char)
    (text : List Char) : List Char :=
  Regex.sub lib.isWord pattern replace text.length [] text

/-- `_strip_secret_text`. -/
def stripSecretText (value : String) : String :=
  let mark := redactedMark.toList
  let assignments := substitute lib SecretPattern.secretAssignment
    (fun _ captured => captured ++ '=' :: mark) value.toList
  let codes := substitute lib (SecretPattern.mfaCode lib.isdecimal)
    (fun matched captured => Lib.replaceAll captured mark matched.length matched) assignments
  let entropy := substitute lib SecretPattern.highEntropy (fun _ _ => mark) codes
  String.ofList (substitute lib SecretPattern.hexSecret (fun _ _ => mark) entropy)

end Patterns

/-! ## Capture posture -/

/-- What redaction makes of a value: what is left of it, whether anything was replaced, and the paths
or reasons of the replacements. -/
structure RedactionResult where
  value : PyValue
  redacted : Bool
  reasons : List String

/-- A replaced value. -/
def RedactionResult.replaced (mark reason : String) : RedactionResult :=
  ⟨.str mark, true, [reason]⟩

/-- A value that is left as it is. -/
def RedactionResult.kept (value : PyValue) : RedactionResult := ⟨value, false, []⟩

/-- `explicit_full_capture_enabled`. -/
def explicitFullCaptureEnabled (std : Stdlib) : Option PyValue → Bool
  | some (.bool b) => b
  | some (.str s) => std.lower (strip s) ∈ ["1", "true", "yes", "on", "full"]
  | _ => false

/-- `_mapping_full_capture`: the capture posture a mapping declares, or the inherited one. -/
def mappingFullCapture (std : Stdlib) (values : Params) (inherited : Bool) : Bool :=
  match paramGet values "hid_capture" with
  | some (.dict posture) => explicitFullCaptureEnabled std (paramGet posture "full_capture")
  | _ =>
      match ["PIKVM_FULL_CAPTURE", "pikvm_full_capture", "full_capture"].findSome?
          (paramGet values) with
      | some value => explicitFullCaptureEnabled std (some value)
      | none => inherited

/-! ## Values -/

/-- The replacements below a path: those a child reports as lying at or below it, or the path
itself. -/
def nestedPaths (childPath : String) (child : RedactionResult) : List String :=
  if child.redacted then
    match child.reasons.filter fun reason => reason = childPath
        || startsWith reason (childPath ++ ".") || startsWith reason (childPath ++ "[") with
    | [] => [childPath]
    | nested => nested
  else []

/-- A mapping built by storing entries one after the other. -/
def pyDict (entries : List (String × PyValue)) : List (PyValue × PyValue) :=
  (entries.foldl (fun done entry => dictSet done entry.1 entry.2) []).map fun entry =>
    (.str entry.1, entry.2)

section Values

variable (lib : AuditLibrary)

/-- `redact_hid_text`. -/
def redactHidText (value : String) (fullCapture : Bool) : RedactionResult :=
  if fullCapture then
    let stripped := stripSecretText lib value
    ⟨.str stripped, stripped ≠ value, if stripped ≠ value then ["credential_backstop"] else []⟩
  else .replaced redactedMark "hid_text_default"

/-- `redact_value` of a text whose key is no secret. -/
def redactText (key : String) (fullCapture : Bool) (value : String) : RedactionResult :=
  if isHidTextKey lib.toStdlib key then redactHidText lib value fullCapture
  else if ¬ isStructuralTokenKey lib.toStdlib key ∧ containsSecretPattern lib value then
    .replaced redactedMark "secret_pattern"
  else .kept (.str value)

/-- The path of a mapping's entry. -/
def childPath (path key : String) : String := if path = "" then key else path ++ "." ++ key

mutual

/-- `redact_value`. -/
def redactValue (key path : String) (fullCapture : Bool) : PyValue → RedactionResult
  | .list items =>
      if isRedactionsKey lib.toStdlib key then .kept (.list items)
      else if isSecretKey lib.toStdlib key then .replaced redactedMark "credential_field"
      else
        let children := redactItems key path fullCapture 0 items
        let paths := children.flatMap Prod.snd
        ⟨.list (children.map Prod.fst), !paths.isEmpty, paths⟩
  | .tuple items =>
      if isSecretKey lib.toStdlib key then .replaced redactedMark "credential_field"
      else if isRedactionsKey lib.toStdlib key then .kept (.tuple items)
      else
        let children := redactItems key path fullCapture 0 items
        let paths := children.flatMap Prod.snd
        ⟨.tuple (children.map Prod.fst), !paths.isEmpty, paths⟩
  | .dict entries =>
      if isSecretKey lib.toStdlib key then .replaced redactedMark "credential_field"
      else
        let children := redactEntries path (mappingFullCapture lib.toStdlib entries fullCapture)
          entries
        let paths := children.flatMap fun child => child.2.2
        ⟨.dict (pyDict (children.map fun child => (child.1, child.2.1))), !paths.isEmpty, paths⟩
  | .str s =>
      if isSecretKey lib.toStdlib key then .replaced redactedMark "credential_field"
      else redactText lib key fullCapture s
  | .bytes _ =>
      if isSecretKey lib.toStdlib key then .replaced redactedMark "credential_field"
      else .replaced "[REDACTED-BYTES]" "bytes"
  | value =>
      if isSecretKey lib.toStdlib key then .replaced redactedMark "credential_field"
      else .kept value

/-- The items of a list from an index on, each with the paths of its replacements. -/
def redactItems (key path : String) (fullCapture : Bool) (index : Nat) :
    List PyValue → List (PyValue × List String)
  | [] => []
  | item :: rest =>
      let itemPath := path ++ "[" ++ toString index ++ "]"
      let child := redactValue key itemPath fullCapture item
      (child.value, nestedPaths itemPath child)
        :: redactItems key path fullCapture (index + 1) rest

/-- The entries of a mapping, each with the paths of its replacements. -/
def redactEntries (path : String) (fullCapture : Bool) :
    List (PyValue × PyValue) → List (String × PyValue × List String)
  | [] => []
  | (key, value) :: rest =>
      let entryPath := childPath path (pyStr lib.toStdlib key)
      let child := redactValue (pyStr lib.toStdlib key) entryPath fullCapture value
      (pyStr lib.toStdlib key, child.value, nestedPaths entryPath child)
        :: redactEntries path fullCapture rest

end

/-- `redact_mapping`: the redacted mapping and the redacted paths. -/
def redactMapping (values : Params) (fullCapture : Option Bool) : Params × List String :=
  let children := redactEntries lib "" (mappingFullCapture lib.toStdlib values
    (fullCapture.getD false)) values
  (pyDict (children.map fun child => (child.1, child.2.1)),
    children.flatMap fun child => child.2.2)

end Values

end AgenticKVM
