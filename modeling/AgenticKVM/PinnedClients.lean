import AgenticKVM.Lib.JsonReader
import AgenticKVM.Lib.Traces
import AgenticKVM.Redaction
import AgenticKVM.TargetUrls

/-! # Pinned HTTPS clients

The clients that talk to a machine over HTTPS (`live_validation/http_mutate.py` and
`live_validation/http_read.py`). Both exchange one request for one answer over a connection of their
own: connect, compare the peer's certificate with the pin, send, read the answer and close. The
connection, its factory and the clock may behave in any way, and raise at every point
(`WireBehaviour`); what they are asked and answer is the trace of a call. The timeout, which only
the factory reads, and the texts of `repr` are left out. -/

namespace AgenticKVM

open Lib (Json Prog except_bind_eq_ok)
open Lib.Prog (tryFinally suppress mapError ClosedOnce)

/-! ## What is outside -/

/-- What the outside raises: an `OSError` (`ssl.SSLError` is one), another `Exception`, or what is
none, as `KeyboardInterrupt`. -/
inductive WireRaise
  | osError (text : String)
  | exception (e : PyExc)
  | interrupt (name : String)
deriving DecidableEq

/-- `except Exception` catches it. -/
def WireRaise.isException : WireRaise → Bool
  | .interrupt _ => false
  | _ => true

/-- The library functions the clients rest on, besides those of `AuditLibrary`. -/
structure WireLibrary extends AuditLibrary where
  /-- `str.upper`. -/
  upper : String → String
  /-- `hashlib.sha256(data).hexdigest()`. -/
  sha256Bytes : List UInt8 → String
  /-- `json.dumps(dict(body))`. -/
  dumpsBody : Params → Except PyExc String

/-- A request as `connection.request` sends it, with the headers that carry the credentials. -/
structure SentRequest where
  method : String
  path : String
  headers : List (String × String)
  body : Option String

/-- What a call asks of the outside, and what it is answered. -/
inductive WireEffect
  /-- `self._now_factory()`. -/
  | clockRead (answer : Except WireRaise Datetime)
  /-- `self._connection_factory(...)`, with the context it is given. -/
  | built (answer : Except WireRaise Unit)
  /-- `connection.connect()`. -/
  | connected (answer : Except WireRaise Unit)
  /-- `connection.sock.getpeercert(binary_form=True)`, `none` where there is no socket. -/
  | certRead (answer : Except WireRaise (Option (List UInt8)))
  /-- `connection.request(...)`. -/
  | sent (request : SentRequest) (answer : Except WireRaise Unit)
  /-- `connection.getresponse()`. -/
  | responded (answer : Except WireRaise Unit)
  /-- `int(response.status)`. -/
  | statusRead (answer : Except WireRaise Int)
  /-- `response.read(limit)`. -/
  | bodyRead (limit : Int) (answer : Except WireRaise (List UInt8))
  /-- `str(response.getheader("Content-Type") or "")`. -/
  | contentTypeRead (answer : Except WireRaise String)
  /-- `connection.close()`. -/
  | closed (answer : Except WireRaise Unit)

/-- **How the outside behaves**: what it answers after all that it was asked before. -/
structure WireBehaviour where
  clock : List WireEffect → Except WireRaise Datetime
  build : List WireEffect → Except WireRaise Unit
  connect : List WireEffect → Except WireRaise Unit
  certificate : List WireEffect → Except WireRaise (Option (List UInt8))
  send : List WireEffect → SentRequest → Except WireRaise Unit
  respond : List WireEffect → Except WireRaise Unit
  status : List WireEffect → Except WireRaise Int
  read : List WireEffect → (limit : Int) → Except WireRaise (List UInt8)
  contentType : List WireEffect → Except WireRaise String
  close : List WireEffect → Except WireRaise Unit

/-- A program of a client. -/
abbrev WireProg (α : Type) : Type := Prog WireEffect Unit WireRaise α

/-- Ask the outside and record its answer. -/
def ask {α : Type} (record : Except WireRaise α → WireEffect)
    (answer : List WireEffect → Except WireRaise α) : WireProg α :=
  Prog.perform fun history => (record (answer history), answer history)

/-- A computation of the client itself. -/
def wireCompute {α : Type} (result : Except PyExc α) : WireProg α :=
  Prog.ofExcept (result.mapError .exception)

/-! ## Errors -/

/-- `ProviderTLSVerificationError`. -/
def providerTLSVerification (message : String) : PyExc :=
  .other "ProviderTLSVerificationError" message

/-- `ProviderConnectionError`. -/
def providerConnection (message : String) : PyExc := .other "ProviderConnectionError" message

/-- `ProviderAuthenticationFailedError`. -/
def providerAuthenticationFailed (message : String) : PyExc :=
  .other "ProviderAuthenticationFailedError" message

/-- `ProviderResponseValidationError`. -/
def providerResponseValidation (message : String) : PyExc :=
  .other "ProviderResponseValidationError" message

/-! ## The exchange

What both clients do with a connection. They differ in the words of their errors. -/

section Exchange

variable (lib : WireLibrary) (behaviour : WireBehaviour)

/-- `sha256_fingerprint_for_der`. -/
def sha256FingerprintForDer (certDer : List UInt8) : Except PyExc String :=
  normalizeCertFingerprint (lib.sha256Bytes certDer)

/-- `_enforce_pin` of a client with a pin: the peer shows a certificate, and it is the pinned one.
-/
def enforcePin (client pin : String) : WireProg Unit := do
  match ← ask .certRead behaviour.certificate with
  | none | some [] => wireCompute (.error (providerTLSVerification
      (client ++ " peer presented no certificate; credentials were not sent")))
  | some certDer => do
      let observed ← wireCompute (sha256FingerprintForDer lib certDer)
      wireCompute (raiseIf (observed ≠ pin) (providerTLSVerification
        (client ++ " certificate fingerprint mismatch; credentials were not sent")))

/-- What an answer is made of. -/
structure WireAnswer where
  status : Int
  body : List UInt8
  contentType : String

/-- The part that is protected by `finally`: connect, check the peer, send and read the answer. -/
def converse (checkPeer : WireProg Unit) (request : SentRequest) (maxResponseBytes : Int) :
    WireProg WireAnswer := do
  ask .connected behaviour.connect
  checkPeer
  ask (.sent request) fun history => behaviour.send history request
  ask .responded behaviour.respond
  let status ← ask .statusRead behaviour.status
  let body ← ask (.bodyRead (maxResponseBytes + 1)) fun history =>
    behaviour.read history (maxResponseBytes + 1)
  let contentType ← ask .contentTypeRead behaviour.contentType
  return ⟨status, body, contentType⟩

/-- The handler of the protected part: an `OSError` is raised as a connection error, the rest as it
is. -/
def connectionFailed (message : String) : WireRaise → WireRaise
  | .osError _ => .exception (providerConnection message)
  | raised => raised

/-- A connection is built, used and closed, where no `Exception` of `close` is raised. -/
def exchange (checkPeer : WireProg Unit) (request : SentRequest) (maxResponseBytes : Int)
    (failure : String) : WireProg WireAnswer := do
  ask .built behaviour.build
  tryFinally
    (mapError (connectionFailed failure) (converse behaviour checkPeer request maxResponseBytes))
    (suppress WireRaise.isException (ask .closed behaviour.close))

/-- `json.loads(body.decode("utf-8"))`, `none` where it raises. -/
def loadsBody (body : List UInt8) : Option Json := do
  let text ← String.fromUTF8? ⟨body.toArray⟩
  Json.loads lib.readFloat text

/-- What both clients do with a body they read as JSON, after a request for `place`. -/
def objectOfBody (client place : String) (answer : WireAnswer) :
    Except PyExc (List (String × Json)) := do
  raiseIf (answer.contentType ≠ "" ∧ ¬ containsText (lib.lower answer.contentType) "json" = true)
    (providerResponseValidation (client ++ " response for " ++ place ++ " is not JSON"))
  match loadsBody lib answer.body with
  | none => .error (providerResponseValidation
      (client ++ " response for " ++ place ++ " is not valid JSON"))
  | some (.obj payload) => return payload
  | some _ => .error (providerResponseValidation
      (client ++ " response for " ++ place ++ " is not a JSON object"))

/-- The checks of a status and of the size of a body. -/
def checkAnswer (client place : String) (maxResponseBytes : Int) (answer : WireAnswer) :
    Except PyExc Unit := do
  raiseIf (answer.status = 401 ∨ answer.status = 403) (providerAuthenticationFailed
    (client ++ " authentication failed with status " ++ toString answer.status ++ " for " ++ place))
  raiseIf (answer.status ≥ 300) (providerProtocol
    (client ++ " request failed with status " ++ toString answer.status ++ " for " ++ place))
  raiseIf ((answer.body.length : Int) > maxResponseBytes) (providerResponseValidation
    (client ++ " response exceeded " ++ toString maxResponseBytes ++ " bytes"))

end Exchange

/-! ## The mutating client -/

/-- `PinnedMutatingHTTPSJSONClient`: its pin is a fingerprint in normal form. -/
structure PinnedMutatingHTTPSJSONClient where
  host : String
  port : Int
  headers : List (String × String)
  pinnedSha256 : String
  clearance : VerifiedMutationClearance
  maxResponseBytes : Int
  normalized : ∃ pin, pin ≠ "" ∧ normalizeCertFingerprint pin = .ok pinnedSha256

/-- `PinnedMutatingHTTPSJSONClient.__init__`. -/
def PinnedMutatingHTTPSJSONClient.init (host : String) (port : Int)
    (headers : List (String × String)) (pinnedSha256 : Option String) (clearance : ClearanceObject)
    (maxResponseBytes : Int) : Except PyExc PinnedMutatingHTTPSJSONClient :=
  if named : pinnedSha256.getD "" ≠ "" then
    match clearance with
    | .other => .error (mutationBlocked
        "mutating HTTPS client requires a verified mutation clearance handle")
    | .handle clearance =>
        match normal : normalizeCertFingerprint (pinnedSha256.getD "") with
        | .error e => .error e
        | .ok pin => .ok ⟨host, port, headers, pin, clearance, maxResponseBytes, _, named, normal⟩
  else .error (mutationBlocked
    "mutating HTTPS client requires a pinned certificate fingerprint; no pin means no mutation")

/-- `_ALLOWED_MUTATING_METHODS`. -/
def allowedMutatingMethods : List String := ["POST", "PATCH"]

section Mutating

variable (lib : WireLibrary) (behaviour : WireBehaviour) (client : PinnedMutatingHTTPSJSONClient)

/-- The clearance is unexpired at the reading of the clock. -/
def PinnedMutatingHTTPSJSONClient.checkClearance : WireProg Unit := do
  let now ← ask .clockRead behaviour.clock
  let expired ← wireCompute (expiredAt lib.toStdlib client.clearance.expiresAt now)
  wireCompute (raiseIf (expired = true) (mutationBlocked
    "mutation clearance expired; request refused before connecting"))

/-- The request a call sends. -/
def PinnedMutatingHTTPSJSONClient.requestOf (method path encoded : String) : SentRequest :=
  ⟨lib.upper method, path, dictSet client.headers "Content-Type" "application/json", some encoded⟩

/-- `PinnedMutatingHTTPSJSONClient.request_json`. -/
def PinnedMutatingHTTPSJSONClient.requestJson (method path : String) (body : Params) :
    WireProg (List (String × Json)) := do
  let place := lib.upper method ++ " " ++ path
  wireCompute (raiseIf (lib.upper method ∉ allowedMutatingMethods) (mutationBlocked
    "live mutation client refuses non-mutating methods; use the read layer for reads"))
  wireCompute (raiseIf (¬ startsWith path "/" = true)
    (providerProtocol "live mutation client requires absolute paths"))
  client.checkClearance lib behaviour
  let encoded ← wireCompute (lib.dumpsBody body)
  let answer ← exchange behaviour (enforcePin lib behaviour "live mutation" client.pinnedSha256)
    (client.requestOf lib method path encoded) client.maxResponseBytes
    ("live mutation connection failed for " ++ place)
  wireCompute (do
    checkAnswer "live mutation" place client.maxResponseBytes answer
    if answer.body = [] then return []
    objectOfBody lib "live mutation" place answer)

end Mutating

/-! ## The reading client -/

/-- `GETOnlyHTTPSJSONClient` with what its requests need besides the place it connects to. -/
structure ReadingHTTPSJSONClient extends GETOnlyHTTPSJSONClient where
  headers : List (String × String)
  maxResponseBytes : Int

/-- `GETOnlyHTTPSJSONClient.__init__`. An empty pin is none. -/
def ReadingHTTPSJSONClient.init (host : String) (port : Int) (headers : List (String × String))
    (pinnedSha256 : Option String) (verifyTls : Bool) (maxResponseBytes : Int) :
    Except PyExc ReadingHTTPSJSONClient := do
  raiseIf (pinnedSha256 = none ∧ ¬ verifyTls = true)
    (providerProtocol "unverified TLS without a pinned fingerprint is refused")
  let pin ← match pinnedSha256 with
    | none | some "" => pure none
    | some pin => (normalizeCertFingerprint pin).map some
  return ⟨⟨host, port, pin, verifyTls⟩, headers, maxResponseBytes⟩

section Reading

variable (lib : WireLibrary) (behaviour : WireBehaviour) (client : ReadingHTTPSJSONClient)

/-- `_enforce_pin`, which checks nothing without a pin: the context verifies the peer then. -/
def ReadingHTTPSJSONClient.checkPeer : WireProg Unit :=
  match client.pinnedSha256 with
  | none => pure ()
  | some pin => enforcePin lib behaviour "live read" pin

/-- `GETOnlyHTTPSJSONClient.request_json`. -/
def ReadingHTTPSJSONClient.requestJson (method path : String) :
    WireProg (List (String × Json)) := do
  let place := "GET " ++ path
  wireCompute (raiseIf (lib.upper method ≠ "GET") (mutationBlocked
    "live read client refuses non-GET methods; mutating operations are not implemented"))
  wireCompute (raiseIf (¬ startsWith path "/" = true)
    (providerProtocol "live read client requires absolute paths"))
  let answer ← exchange behaviour (client.checkPeer lib behaviour)
    ⟨"GET", path, client.headers, none⟩ client.maxResponseBytes
    ("live read connection failed for " ++ place)
  wireCompute (do
    checkAnswer "live read" place client.maxResponseBytes answer
    objectOfBody lib "live read" place answer)

end Reading

/-! ## Steps

What one step of a program leaves in the trace. -/

section Steps

variable {lib : WireLibrary} {behaviour : WireBehaviour} {p : WireEffect → Prop}
  {history effects : List WireEffect} {s s' : Unit}

/-- A step that asks is recorded as it was answered. -/
theorem ask_run_inv {α : Type} {record : Except WireRaise α → WireEffect}
    {answer : List WireEffect → Except WireRaise α} {a : α}
    (run : ask record answer history s = ⟨.ok a, s', effects⟩) :
    effects = [record (.ok a)] := by
  rw [ask, Prog.perform_run] at run
  injection run with returned _ performed
  have returned : answer history = .ok a := returned
  rw [← performed, ← returned]

theorem ask_never {α : Type} {record : Except WireRaise α → WireEffect}
    {answer : List WireEffect → Except WireRaise α} (outside : ∀ answer, ¬ p (record answer)) :
    Prog.Never (ask record answer) p := by
  apply Prog.Never.perform
  intro h
  exact outside _

theorem wireCompute_never {α : Type} (result : Except PyExc α) :
    Prog.Never (wireCompute result) p :=
  Prog.Never.ofExcept _

/-- A computation of the client leaves no trace. -/
theorem wireCompute_run_inv {α : Type} {result : Except PyExc α} {a : α}
    (run : wireCompute result history s = ⟨.ok a, s', effects⟩) :
    result = .ok a ∧ effects = [] := by
  obtain ⟨returned, -, none⟩ := Prog.ofExcept_run_inv run
  cases result with
  | error e => cases returned
  | ok b => exact ⟨by simpa [Except.mapError] using returned, none⟩

/-- The check of the peer passes on a certificate with the pinned fingerprint. -/
theorem enforcePin_run_inv {client pin : String}
    (run : enforcePin lib behaviour client pin history s = ⟨.ok (), s', effects⟩) :
    ∃ certDer, certDer ≠ [] ∧ sha256FingerprintForDer lib certDer = .ok pin ∧
      effects = [.certRead (.ok (some certDer))] := by
  obtain ⟨shown, mid, before, after, read, rest, rfl⟩ := Prog.bind_run_inv run
  cases ask_run_inv read
  match shown with
  | none => cases (wireCompute_run_inv rest).1
  | some [] => cases (wireCompute_run_inv rest).1
  | some (byte :: bytes) =>
      obtain ⟨observed, _, _, _, hashed, same, rfl⟩ := Prog.bind_run_inv rest
      obtain ⟨fingerprint, rfl⟩ := wireCompute_run_inv hashed
      obtain ⟨equal, rfl⟩ := wireCompute_run_inv same
      rw [raiseIf_eq_ok, not_not] at equal
      exact ⟨byte :: bytes, List.cons_ne_nil _ _, equal ▸ fingerprint, rfl⟩

/-- The check of the clearance passes on a reading of the clock at which it is unexpired. -/
theorem checkClearance_run_inv {client : PinnedMutatingHTTPSJSONClient}
    (run : client.checkClearance lib behaviour history s = ⟨.ok (), s', effects⟩) :
    ∃ now, expiredAt lib.toStdlib client.clearance.expiresAt now = .ok false ∧
      effects = [.clockRead (.ok now)] := by
  obtain ⟨now, mid, before, after, read, rest, rfl⟩ := Prog.bind_run_inv run
  cases ask_run_inv read
  obtain ⟨expired, _, _, _, compared, refused, rfl⟩ := Prog.bind_run_inv rest
  obtain ⟨at', rfl⟩ := wireCompute_run_inv compared
  obtain ⟨live, rfl⟩ := wireCompute_run_inv refused
  rw [raiseIf_eq_ok, Bool.not_eq_true] at live
  exact ⟨now, live ▸ at', rfl⟩

/-- The check of the clearance reads the clock and does nothing else. -/
theorem checkClearance_never {client : PinnedMutatingHTTPSJSONClient}
    (outside : ∀ answer, ¬ p (.clockRead answer)) :
    Prog.Never (client.checkClearance lib behaviour) p := by
  apply Prog.Never.bind (ask_never outside)
  intro now
  exact Prog.Never.bind (wireCompute_never _) fun _ => wireCompute_never _

theorem checkClearance_result {client : PinnedMutatingHTTPSJSONClient} {u : Unit}
    (returned : (client.checkClearance lib behaviour history s).result = .ok u) :
    ∃ now, expiredAt lib.toStdlib client.clearance.expiresAt now = .ok false ∧
      (client.checkClearance lib behaviour history s).effects = [.clockRead (.ok now)] := by
  match run : client.checkClearance lib behaviour history s with
  | ⟨.error e, s', effects⟩ =>
      rw [run] at returned
      cases returned
  | ⟨.ok (), s', effects⟩ => exact checkClearance_run_inv run

end Steps

/-! ## The trace of a call -/

/-- A request is sent. -/
def WireEffect.sends : WireEffect → Bool
  | .sent _ _ => true
  | _ => false

/-- A connection is built. -/
def WireEffect.opens : WireEffect → Prop
  | .built (.ok ()) => True
  | _ => False

/-- A connection is closed. -/
def WireEffect.closes : WireEffect → Prop
  | .closed _ => True
  | _ => False

/-- The clock is read. -/
def WireEffect.readsClock : WireEffect → Prop
  | .clockRead _ => True
  | _ => False

/-- The peer shows a certificate with the pinned fingerprint. -/
def ShowsPin (lib : WireLibrary) (pin : String) (effect : WireEffect) : Prop :=
  ∃ certDer, certDer ≠ [] ∧ sha256FingerprintForDer lib certDer = .ok pin ∧
    effect = .certRead (.ok (some certDer))

/-- A body that a call may return a payload for: none where the client takes that for an empty
object, or a text that is a JSON object. -/
def Accepted (lib : WireLibrary) (emptyAllowed : Bool) (body : List UInt8)
    (payload : List (String × Json)) : Prop :=
  emptyAllowed = true ∧ body = [] ∧ payload = [] ∨ loadsBody lib body = some (.obj payload)

/-- **A safe call**: it sends at most one request, only what is permitted and only after the peer
has shown the pin; it closes every connection it builds once, as the last thing it does; and it
returns a payload only where it got through to the end and the answer is acceptable. -/
structure SafeCall (lib : WireLibrary) (pin : String) (maxResponseBytes : Int)
    (emptyAllowed : Bool) (permitted : List WireEffect → SentRequest → Prop)
    (outcome : Lib.Outcome WireEffect Unit WireRaise (List (String × Json))) : Prop where
  sentOnce : outcome.effects.countP WireEffect.sends ≤ 1
  afterPin : ∀ before request answer after,
    outcome.effects = before ++ .sent request answer :: after →
      (∃ effect ∈ before, ShowsPin lib pin effect) ∧ permitted before request
  closedOnce : ClosedOnce WireEffect.opens WireEffect.closes outcome.effects
  returned : ∀ payload, outcome.result = .ok payload →
    ∃ first certDer request status body contentType closing,
      outcome.effects = first ++ [.built (.ok ()), .connected (.ok ()),
        .certRead (.ok (some certDer)), .sent request (.ok ()), .responded (.ok ()),
        .statusRead (.ok status), .bodyRead (maxResponseBytes + 1) (.ok body),
        .contentTypeRead (.ok contentType), .closed closing] ∧
      (∀ effect ∈ first, effect.readsClock) ∧
      status < 300 ∧ (body.length : Int) ≤ maxResponseBytes ∧
      Accepted lib emptyAllowed body payload

/-! ## The exchange is safe -/

section Exchange

variable {lib : WireLibrary} {behaviour : WireBehaviour} {pin client failure : String}
  {request : SentRequest} {maxResponseBytes : Int} {p : WireEffect → Prop}

/-- What is no reading of a certificate is not done by the check of the peer. -/
theorem enforcePin_never (outside : ∀ answer, ¬ p (.certRead answer)) :
    Prog.Never (enforcePin lib behaviour client pin) p := by
  apply Prog.Never.bind (ask_never outside)
  intro shown
  match shown with
  | none => exact wireCompute_never _
  | some [] => exact wireCompute_never _
  | some (byte :: bytes) =>
      exact Prog.Never.bind (wireCompute_never _) fun _ => wireCompute_never _

/-- The check of the peer returns only where it has seen the pin. -/
theorem enforcePin_shows :
    Prog.Shows (ShowsPin lib pin) (enforcePin lib behaviour client pin) := by
  intro history s _ returned
  match run : enforcePin lib behaviour client pin history s with
  | ⟨.error e, s', effects⟩ =>
      rw [run] at returned
      cases returned
  | ⟨.ok (), s', effects⟩ =>
      obtain ⟨certDer, present, hashed, rfl⟩ := enforcePin_run_inv run
      exact ⟨_, List.mem_singleton_self _, certDer, present, hashed, rfl⟩

/-- Reading the answer does nothing but that. -/
theorem readAnswer_never (outside : ∀ effect, p effect →
      effect.sends = true ∨ effect.opens ∨ effect.closes) :
    Prog.Never (do
      ask .responded behaviour.respond
      let status ← ask .statusRead behaviour.status
      let body ← ask (.bodyRead (maxResponseBytes + 1)) fun history =>
        behaviour.read history (maxResponseBytes + 1)
      let contentType ← ask .contentTypeRead behaviour.contentType
      return (⟨status, body, contentType⟩ : WireAnswer) : WireProg WireAnswer) p := by
  refine Prog.Never.bind (ask_never fun _ holds => ?_) fun _ =>
    Prog.Never.bind (ask_never fun _ holds => ?_) fun _ =>
    Prog.Never.bind (ask_never fun _ holds => ?_) fun _ =>
    Prog.Never.bind (ask_never fun _ holds => ?_) fun _ => Prog.Never.pure _
  all_goals
    have wrong := outside _ holds
    simp [WireEffect.sends, WireEffect.opens, WireEffect.closes] at wrong

/-- One request is sent in an exchange. -/
theorem converse_sends {checkPeer : WireProg Unit}
    (never : Prog.Never checkPeer (WireEffect.sends · = true)) :
    Prog.AtMost WireEffect.sends 1 (converse behaviour checkPeer request maxResponseBytes) := by
  apply Prog.AtMost.bind (ask_never (by simp [WireEffect.sends]))
  intro _
  apply Prog.AtMost.bind never
  intro _
  apply Prog.AtMost.bind_never (Prog.AtMost.perform _)
  intro _
  exact readAnswer_never fun _ holds => .inl holds

/-- It is sent after the check of the peer. -/
theorem converse_preceded {checkPeer : WireProg Unit} {g : WireEffect → Prop}
    (never : Prog.Never checkPeer (WireEffect.sends · = true)) (shows : Prog.Shows g checkPeer) :
    Prog.Preceded (WireEffect.sends · = true) g
      (converse behaviour checkPeer request maxResponseBytes) := by
  apply Prog.Preceded.bind (ask_never (by simp [WireEffect.sends]))
  intro _
  exact Prog.Never.preceded_bind never shows

/-- Nothing is built or closed within an exchange. -/
theorem converse_never {checkPeer : WireProg Unit}
    (never : Prog.Never checkPeer fun effect => effect.opens ∨ effect.closes) :
    Prog.Never (converse behaviour checkPeer request maxResponseBytes)
      fun effect => effect.opens ∨ effect.closes := by
  apply Prog.Never.bind (ask_never (by simp [WireEffect.opens, WireEffect.closes]))
  intro _
  apply Prog.Never.bind never
  intro _
  apply Prog.Never.bind (ask_never (by simp [WireEffect.opens, WireEffect.closes]))
  intro _
  exact readAnswer_never fun _ holds => .inr holds

/-- The course of an exchange that returns. -/
theorem converse_run_inv {answer : WireAnswer} {history effects : List WireEffect} {s s' : Unit}
    (run : converse behaviour (enforcePin lib behaviour client pin) request maxResponseBytes
      history s = ⟨.ok answer, s', effects⟩) :
    ∃ certDer, effects = [.connected (.ok ()), .certRead (.ok (some certDer)),
      .sent request (.ok ()), .responded (.ok ()), .statusRead (.ok answer.status),
      .bodyRead (maxResponseBytes + 1) (.ok answer.body),
      .contentTypeRead (.ok answer.contentType)] := by
  obtain ⟨_, _, _, _, connected, afterConnect, rfl⟩ := Prog.bind_run_inv run
  obtain ⟨_, _, _, _, checked, afterCheck, rfl⟩ := Prog.bind_run_inv afterConnect
  obtain ⟨_, _, _, _, sent, afterSend, rfl⟩ := Prog.bind_run_inv afterCheck
  obtain ⟨_, _, _, _, responded, afterResponse, rfl⟩ := Prog.bind_run_inv afterSend
  obtain ⟨status, _, _, _, statusRead, afterStatus, rfl⟩ := Prog.bind_run_inv afterResponse
  obtain ⟨body, _, _, _, bodyRead, afterBody, rfl⟩ := Prog.bind_run_inv afterStatus
  obtain ⟨contentType, _, _, _, typeRead, done, rfl⟩ := Prog.bind_run_inv afterBody
  rw [Prog.pure_run] at done
  cases done
  cases ask_run_inv connected
  obtain ⟨certDer, -, -, rfl⟩ := enforcePin_run_inv checked
  cases ask_run_inv sent
  cases ask_run_inv responded
  cases ask_run_inv statusRead
  cases ask_run_inv bodyRead
  cases ask_run_inv typeRead
  exact ⟨certDer, rfl⟩

theorem exchange_sends {checkPeer : WireProg Unit}
    (never : Prog.Never checkPeer (WireEffect.sends · = true)) :
    Prog.AtMost WireEffect.sends 1
      (exchange behaviour checkPeer request maxResponseBytes failure) := by
  apply Prog.AtMost.bind (ask_never (by simp [WireEffect.sends]))
  intro _
  apply Prog.AtMost.tryFinally (converse_sends never).mapError
  exact Prog.Never.suppress (ask_never (by simp [WireEffect.sends]))

theorem exchange_preceded {checkPeer : WireProg Unit} {g : WireEffect → Prop}
    (never : Prog.Never checkPeer (WireEffect.sends · = true)) (shows : Prog.Shows g checkPeer) :
    Prog.Preceded (WireEffect.sends · = true) g
      (exchange behaviour checkPeer request maxResponseBytes failure) := by
  apply Prog.Preceded.bind (ask_never (by simp [WireEffect.sends]))
  intro _
  apply Prog.Preceded.tryFinally (converse_preceded never shows).mapError
  exact Prog.Never.suppress (ask_never (by simp [WireEffect.sends]))

/-- **Cleanup on every path**: a connection that is built is closed once, whatever the exchange and
`close` itself raise; where building raises, nothing is closed. -/
theorem exchange_closedOnce {checkPeer : WireProg Unit}
    (never : Prog.Never checkPeer fun effect => effect.opens ∨ effect.closes)
    (history : List WireEffect) (s : Unit) :
    ClosedOnce WireEffect.opens WireEffect.closes
      (exchange behaviour checkPeer request maxResponseBytes failure history s).effects := by
  match made : behaviour.build history with
  | .error e =>
      have run : ask .built behaviour.build history s = ⟨.error e, s, [.built (.error e)]⟩ := by
        rw [ask, Prog.perform_run, made]
      rw [exchange, Prog.bind_run_error run]
      left
      intro effect member
      rw [List.mem_singleton.mp member]
      exact ⟨id, id⟩
  | .ok () =>
      have run : ask .built behaviour.build history s = ⟨.ok (), s, [.built (.ok ())]⟩ := by
        rw [ask, Prog.perform_run, made]
      rw [exchange, Prog.bind_run_ok run, Lib.Outcome.prepend_effects, Prog.tryFinally_effects]
      refine .inr ⟨[], _, _, _, rfl, trivial, trivial, ?_⟩
      intro effect member
      rw [← not_or]
      exact fun holds => converse_never never _ _ ⟨effect, member, holds⟩

/-- The course of an exchange that returns, with its connection. -/
theorem exchange_run_inv {answer : WireAnswer} {history effects : List WireEffect} {s s' : Unit}
    (run : exchange behaviour (enforcePin lib behaviour client pin) request maxResponseBytes failure
      history s = ⟨.ok answer, s', effects⟩) :
    ∃ certDer closing, effects = [.built (.ok ()), .connected (.ok ()),
      .certRead (.ok (some certDer)), .sent request (.ok ()), .responded (.ok ()),
      .statusRead (.ok answer.status), .bodyRead (maxResponseBytes + 1) (.ok answer.body),
      .contentTypeRead (.ok answer.contentType), .closed closing] := by
  obtain ⟨_, _, _, _, built, used, rfl⟩ := Prog.bind_run_inv run
  cases ask_run_inv built
  obtain ⟨_, _, closing, conversed, closed, rfl⟩ := Prog.tryFinally_run_inv used
  obtain ⟨certDer, rfl⟩ := converse_run_inv (Prog.mapError_run_inv conversed)
  -- the closing effect, whatever it was answered
  injection closed with _ _ performed
  rw [← performed]
  exact ⟨certDer, _, rfl⟩

/-- No other request is sent. -/
theorem exchange_request :
    Prog.Never (exchange behaviour (enforcePin lib behaviour client pin) request maxResponseBytes
      failure) fun effect => ∃ other answer, effect = .sent other answer ∧ other ≠ request := by
  apply Prog.Never.bind (ask_never (by simp))
  intro _
  apply Prog.Never.tryFinally _ (Prog.Never.suppress (ask_never (by simp)))
  apply Prog.Never.mapError
  apply Prog.Never.bind (ask_never (by simp))
  intro _
  apply Prog.Never.bind (enforcePin_never (by simp))
  intro _
  apply Prog.Never.bind (ask_never (by simp))
  intro _
  apply readAnswer_never
  rintro effect ⟨other, answer, rfl, -⟩
  exact .inl rfl

/-- A computation at the end leaves the trace as it is. -/
theorem bind_wireCompute_run {α β : Type} (m : WireProg α) (f : α → Except PyExc β)
    (history : List WireEffect) (s : Unit) :
    ((m >>= fun a => wireCompute (f a)) history s)
      = ⟨(m history s).result.bind fun a => (f a).mapError .exception, (m history s).state,
          (m history s).effects⟩ :=
  Prog.bind_ofExcept_run m _

/-- **An exchange is safe**, once what is made of its answer is acceptable. -/
theorem exchange_safe {emptyAllowed : Bool}
    {accept : WireAnswer → Except PyExc (List (String × Json))}
    (sound : ∀ answer payload, accept answer = .ok payload →
      answer.status < 300 ∧ (answer.body.length : Int) ≤ maxResponseBytes ∧
        Accepted lib emptyAllowed answer.body payload)
    (history : List WireEffect) (s : Unit) :
    SafeCall lib pin maxResponseBytes emptyAllowed (fun _ sent => sent = request)
      ((exchange behaviour (enforcePin lib behaviour client pin) request maxResponseBytes failure
        >>= fun answer => wireCompute (accept answer)) history s) := by
  rw [bind_wireCompute_run]
  have never : Prog.Never (enforcePin lib behaviour client pin) (WireEffect.sends · = true) :=
    enforcePin_never (by simp [WireEffect.sends])
  refine ⟨exchange_sends never history s, ?_, ?_, ?_⟩
  · intro before sent answer after split
    refine ⟨exchange_preceded never enforcePin_shows history s before _ after split rfl, ?_⟩
    by_contra other
    have member : .sent sent answer ∈ (exchange behaviour (enforcePin lib behaviour client pin)
        request maxResponseBytes failure history s).effects := by
      rw [split]
      exact List.mem_append_right before List.mem_cons_self
    exact exchange_request history s ⟨_, member, sent, answer, rfl, other⟩
  · exact exchange_closedOnce
      (enforcePin_never (by simp [WireEffect.opens, WireEffect.closes])) history s
  · intro payload returned
    match run : exchange behaviour (enforcePin lib behaviour client pin) request maxResponseBytes
        failure history s with
    | ⟨.error e, s', effects⟩ =>
        simp only [run, Except.bind] at returned
        cases returned
    | ⟨.ok answer, s', effects⟩ =>
        simp only [run, Except.bind] at returned
        obtain ⟨certDer, closing, rfl⟩ := exchange_run_inv run
        cases accepted : accept answer with
        | error e =>
            rw [accepted] at returned
            cases returned
        | ok object =>
            rw [accepted] at returned
            cases returned
            obtain ⟨status, size, isObject⟩ := sound answer payload accepted
            refine ⟨[], certDer, request, _, _, _, closing, rfl, ?_, status, size, isObject⟩
            intro effect member
            cases member

end Exchange

/-! ## Before the exchange -/

section Before

variable {lib : WireLibrary} {pin : String} {maxResponseBytes : Int} {emptyAllowed : Bool}
  {permitted : List WireEffect → SentRequest → Prop}

/-- Reading the clock sends, builds and closes nothing. -/
theorem WireEffect.quiet_of_readsClock {effect : WireEffect} (reads : effect.readsClock) :
    effect.sends = false ∧ ¬ effect.opens ∧ ¬ effect.closes := by
  cases effect <;> simp_all [readsClock, sends, opens, closes]

/-- **The frame of a call**: a part that at most reads the clock may come first. What the rest may
send is judged with the readings before it. -/
theorem SafeCall.bind {α : Type} {m : WireProg α} {f : α → WireProg (List (String × Json))}
    {history : List WireEffect} {s : Unit}
    (clockOnly : Prog.Never m fun effect => ¬ effect.readsClock)
    (rest : ∀ a, (m history s).result = .ok a →
      SafeCall lib pin maxResponseBytes emptyAllowed
        (fun between request => permitted ((m history s).effects ++ between) request)
        (f a (history ++ (m history s).effects) (m history s).state)) :
    SafeCall lib pin maxResponseBytes emptyAllowed permitted ((m >>= f) history s) := by
  have reads : ∀ effect ∈ (m history s).effects, effect.readsClock := by
    intro effect member
    by_contra other
    exact clockOnly history s ⟨effect, member, other⟩
  match run : m history s with
  | ⟨.error e, mid, first⟩ =>
      rw [run] at reads
      rw [Prog.bind_run_error run f]
      refine ⟨?_, ?_, .inl ?_, ?_⟩
      · have none : first.countP WireEffect.sends = 0 := by
          rw [List.countP_eq_zero]
          intro effect member
          simp [(WireEffect.quiet_of_readsClock (reads effect member)).1]
        exact le_trans none.le (by decide)
      · intro before sent answer after split
        have split : first = before ++ .sent sent answer :: after := split
        refine (reads (.sent sent answer) ?_).elim
        rw [split]
        exact List.mem_append_right before List.mem_cons_self
      · intro effect member
        exact (WireEffect.quiet_of_readsClock (reads effect member)).2
      · intro payload returned
        cases returned
  | ⟨.ok a, mid, first⟩ =>
      have safe := rest a (by rw [run])
      rw [run] at reads safe
      rw [Prog.bind_run_ok run f]
      refine ⟨?_, ?_, ?_, ?_⟩
      · have none : first.countP WireEffect.sends = 0 := by
          rw [List.countP_eq_zero]
          intro effect member
          simp [(WireEffect.quiet_of_readsClock (reads effect member)).1]
        have once : (f a (history ++ first) mid).effects.countP WireEffect.sends ≤ 1 :=
          safe.sentOnce
        rw [Lib.Outcome.prepend_effects, List.countP_append]
        omega
      · intro before sent answer after split
        rw [Lib.Outcome.prepend_effects] at split
        rcases List.append_eq_append_iff.mp split with
          ⟨between, rfl, later⟩ | ⟨inside, isFirst, later⟩
        · obtain ⟨⟨earlier, member, shown⟩, allowed⟩ :=
            safe.afterPin between sent answer after later
          exact ⟨⟨earlier, List.mem_append_right first member, shown⟩, allowed⟩
        · cases inside with
          | nil =>
              rw [List.append_nil] at isFirst
              subst isFirst
              obtain ⟨⟨earlier, member, -⟩, -⟩ := safe.afterPin [] sent answer after later.symm
              cases member
          | cons head tail =>
              injection later with same _
              refine (reads (.sent sent answer) ?_).elim
              rw [isFirst, same]
              exact List.mem_append_right before List.mem_cons_self
      · refine safe.closedOnce.append ?_
        intro effect member
        exact (WireEffect.quiet_of_readsClock (reads effect member)).2
      · intro payload returned
        obtain ⟨clocks, certDer, request, status, body, contentType, closing, course, clockReads,
          checked⟩ := safe.returned payload returned
        refine ⟨first ++ clocks, certDer, request, status, body, contentType, closing, ?_, ?_,
          checked⟩
        · rw [Lib.Outcome.prepend_effects, course, List.append_assoc]
        · intro effect member
          rcases List.mem_append.mp member with member | member
          exacts [reads effect member, clockReads effect member]

/-- What is permitted may be said in a weaker way. -/
theorem SafeCall.imp {permitted' : List WireEffect → SentRequest → Prop}
    {outcome : Lib.Outcome WireEffect Unit WireRaise (List (String × Json))}
    (safe : SafeCall lib pin maxResponseBytes emptyAllowed permitted outcome)
    (weaker : ∀ before request, permitted before request → permitted' before request) :
    SafeCall lib pin maxResponseBytes emptyAllowed permitted' outcome := by
  refine ⟨safe.sentOnce, ?_, safe.closedOnce, safe.returned⟩
  intro before request answer after split
  obtain ⟨shown, allowed⟩ := safe.afterPin before request answer after split
  exact ⟨shown, weaker before request allowed⟩

/-- **A check of the client**: what follows it is judged with what the check has established. -/
theorem SafeCall.compute {α : Type} {result : Except PyExc α}
    {f : α → WireProg (List (String × Json))} {history : List WireEffect} {s : Unit}
    (rest : ∀ a, result = .ok a →
      SafeCall lib pin maxResponseBytes emptyAllowed permitted (f a history s)) :
    SafeCall lib pin maxResponseBytes emptyAllowed permitted
      ((wireCompute result >>= f) history s) := by
  refine SafeCall.bind (wireCompute_never _) fun a returned => ?_
  have effects : (wireCompute result history s).effects = [] := rfl
  rw [effects, List.append_nil]
  apply rest
  cases result with
  | error e => cases returned
  | ok b =>
      cases returned
      rfl

/-- Both clients accept the status and the size of an answer before they read its body. -/
theorem checkAnswer_ok {client place : String} {answer : WireAnswer}
    (checked : checkAnswer client place maxResponseBytes answer = .ok ()) :
    answer.status < 300 ∧ (answer.body.length : Int) ≤ maxResponseBytes := by
  obtain ⟨_, -, checked⟩ := except_bind_eq_ok.mp checked
  obtain ⟨_, low, checked⟩ := except_bind_eq_ok.mp checked
  rw [raiseIf_eq_ok] at low checked
  constructor <;> omega

/-- A body that is read is a JSON object. -/
theorem objectOfBody_ok {client place : String} {answer : WireAnswer}
    {payload : List (String × Json)} (read : objectOfBody lib client place answer = .ok payload) :
    loadsBody lib answer.body = some (.obj payload) := by
  obtain ⟨_, -, read⟩ := except_bind_eq_ok.mp read
  match loaded : loadsBody lib answer.body with
  | none =>
      rw [loaded] at read
      cases read
  | some (.obj object) =>
      rw [loaded] at read
      cases read
      rfl
  | some .null | some (.bool _) | some (.int _) | some (.float _) | some (.str _)
  | some (.list _) =>
      rw [loaded] at read
      cases read

end Before

/-! ## Both clients -/

/-- What the mutating client may send: a POST or a PATCH on an absolute path, as the call asks for
it, with the clearance unexpired at the reading of the clock that the call began with. -/
def PinnedMutatingHTTPSJSONClient.Permits (lib : WireLibrary)
    (client : PinnedMutatingHTTPSJSONClient) (method path : String) (body : Params)
    (before : List WireEffect) (request : SentRequest) : Prop :=
  request.method ∈ allowedMutatingMethods ∧ startsWith path "/" = true ∧
    (∃ encoded, lib.dumpsBody body = .ok encoded ∧
      request = client.requestOf lib method path encoded) ∧
    ∃ now between, before = .clockRead (.ok now) :: between ∧
      expiredAt lib.toStdlib client.clearance.expiresAt now = .ok false

/-- What the reading client may send: a GET of an absolute path. -/
def ReadingHTTPSJSONClient.Permits (lib : WireLibrary) (client : ReadingHTTPSJSONClient)
    (method path : String) (request : SentRequest) : Prop :=
  lib.upper method = "GET" ∧ startsWith path "/" = true ∧
    request = ⟨"GET", path, client.headers, none⟩

/-- **Requests are sent after the pin**: however the clock and the connection behave, and whatever
is called, every call of a mutating client and of a pinned reading client is safe. -/
theorem requests_sent_after_pin (lib : WireLibrary) (behaviour : WireBehaviour)
    (history : List WireEffect) :
    (∀ (client : PinnedMutatingHTTPSJSONClient) (method path : String) (body : Params),
      SafeCall lib client.pinnedSha256 client.maxResponseBytes true
        (client.Permits lib method path body)
        (client.requestJson lib behaviour method path body history ())) ∧
    ∀ (client : ReadingHTTPSJSONClient) (pin method path : String),
      SafeCall lib pin client.maxResponseBytes false
        (fun _ request => client.Permits lib method path request)
        ((ReadingHTTPSJSONClient.requestJson lib behaviour
          { client with pinnedSha256 := some pin } method path) history ()) := by
  constructor
  · intro client method path body
    refine SafeCall.compute fun _ isMethod => ?_
    refine SafeCall.compute fun _ isPath => ?_
    rw [raiseIf_eq_ok, not_not] at isMethod isPath
    refine SafeCall.bind (checkClearance_never (by simp [WireEffect.readsClock]))
      fun _ returned => ?_
    obtain ⟨now, live, effects⟩ := checkClearance_result returned
    rw [effects]
    refine SafeCall.compute fun encoded dumped => ?_
    refine (exchange_safe ?_ _ _).imp ?_
    · intro answer payload accepted
      obtain ⟨_, checked, accepted⟩ := except_bind_eq_ok.mp accepted
      obtain ⟨status, size⟩ := checkAnswer_ok checked
      refine ⟨status, size, ?_⟩
      by_cases empty : answer.body = []
      · rw [if_pos empty] at accepted
        cases accepted
        exact .inl ⟨rfl, empty, rfl⟩
      · rw [if_neg empty] at accepted
        exact .inr (objectOfBody_ok accepted)
    · rintro between request rfl
      exact ⟨isMethod, isPath, ⟨encoded, dumped, rfl⟩, now, between, rfl, live⟩
  · intro client pin method path
    refine SafeCall.compute fun _ isMethod => ?_
    refine SafeCall.compute fun _ isPath => ?_
    rw [raiseIf_eq_ok, not_not] at isMethod isPath
    refine (exchange_safe ?_ _ _).imp ?_
    · intro answer payload accepted
      obtain ⟨_, checked, accepted⟩ := except_bind_eq_ok.mp accepted
      obtain ⟨status, size⟩ := checkAnswer_ok checked
      exact ⟨status, size, .inr (objectOfBody_ok accepted)⟩
    · rintro between request rfl
      exact ⟨isMethod, isPath, rfl⟩

end AgenticKVM
