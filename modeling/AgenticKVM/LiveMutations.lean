import AgenticKVM.MutationTransports
import AgenticKVM.PinnedClients
import AgenticKVM.RedactionLaws
import AgenticKVM.SecretSites

/-! # Live mutations, from the verb to the wire

An operator's session builds its mutating transports with the real client factories
(`live_validation/pikvm_mutate.py`, `live_validation/redfish_mutate.py`): a call passes the gate of
the transport, the factory resolves the credentials and builds a pinned client, and the client sends
one request over a connection of its own. `live_mutations` puts the layers together: what reaches
the wire, over any sequence of calls on a shared ledger and however the network behaves, was cleared
for exactly that action, once, by a handle that is still unexpired when the connection is opened,
and goes to a peer that shows the pinned certificate. -/

namespace AgenticKVM

open Lib (Json Prog SingleUse totalUses outputs except_bind_eq_ok)
open Lib.Regex (forall_mem_of_all)

/-! ## Credentials -/

/-- The library functions of a live session, besides those of its clients. -/
structure LiveLibrary extends WireLibrary where
  /-- `base64.b64encode(data).decode("ascii")`. -/
  b64encode : List UInt8 → String

/-- What reading a JSON file raises: `FileNotFoundError`, or another `OSError` or a `ValueError`. -/
inductive FileRaise
  | notFound
  | unreadable

/-- **The operator's machine**: its environment variables, and its files as JSON. -/
structure CredentialSource where
  env : String → Option String
  file : String → Except FileRaise Json

/-- `ProviderAuthenticationRequiredError`. -/
def authenticationRequired (message : String) : PyExc :=
  .other "ProviderAuthenticationRequiredError" message

/-- `text.strip("/")`. -/
def stripSlashes (text : List Char) : List Char :=
  ((text.dropWhile (· == '/')).reverse.dropWhile (· == '/')).reverse

/-- `_first_env`. -/
def firstEnv (source : CredentialSource) (variablePrefix : String) : List String → String
  | [] => ""
  | suffix :: rest =>
      let value := (source.env (variablePrefix ++ suffix)).getD ""
      if value ≠ "" then value else firstEnv source variablePrefix rest

section Credentials

variable (std : Stdlib) (source : CredentialSource)

/-- The `env://` references. -/
def resolveFromEnv (credentialRef : String) : Except PyExc (String × String) :=
  let variablePrefix := String.ofList (stripSlashes (credentialRef.toList.drop "env://".length))
  if variablePrefix = "" then
    .error (authenticationRequired "env credential_ref requires a variable prefix")
  else
    let username := firstEnv source variablePrefix ["_USERNAME", "_USER"]
    let password := firstEnv source variablePrefix ["_PASSWORD", "_PASS"]
    if username = "" ∨ password = "" then .error (authenticationRequired
      "env credential_ref did not resolve to a username and password")
    else .ok (username, password)

/-- The `file://` references. -/
def resolveFromFile (credentialRef : String) : Except PyExc (String × String) :=
  match source.file (String.ofList (credentialRef.toList.drop "file://".length)) with
  | .error .notFound => .error (authenticationRequired "file credential_ref does not exist")
  | .error .unreadable => .error (authenticationRequired
      "file credential_ref is unreadable or not valid JSON")
  | .ok (.obj payload) =>
      let username := jsonStr std ((payload.lookup "username").getD (.str ""))
      let password := jsonStr std ((payload.lookup "password").getD (.str ""))
      if username = "" ∨ password = "" then .error (authenticationRequired
        "file credential_ref must provide username and password")
      else .ok (username, password)
  | .ok _ => .error (authenticationRequired "file credential_ref must contain a JSON object")

/-- `resolve_credential_pair`. -/
def resolveCredentialPair (credentialRef : String) : Except PyExc (String × String) :=
  if startsWith credentialRef "env://" then resolveFromEnv source credentialRef
  else if startsWith credentialRef "file://" then resolveFromFile std source credentialRef
  else .error (authenticationRequired
    "unsupported credential_ref scheme; use env:// or file://")

/-- **A resolved pair is complete**: no request is sent with an empty name or an empty password. -/
theorem resolveCredentialPair_complete {credentialRef : String} {pair : String × String}
    (resolved : resolveCredentialPair std source credentialRef = .ok pair) :
    pair.1 ≠ "" ∧ pair.2 ≠ "" := by
  unfold resolveCredentialPair at resolved
  split_ifs at resolved
  · unfold resolveFromEnv at resolved
    dsimp only at resolved
    split_ifs at resolved with _ missing
    cases resolved
    exact not_or.mp missing
  · unfold resolveFromFile at resolved
    split at resolved
    · cases resolved
    · cases resolved
    · dsimp only at resolved
      split_ifs at resolved with missing
      cases resolved
      exact not_or.mp missing
    · cases resolved

end Credentials

/-- `PiKVMCredentialRef.__post_init__` and `RedfishCredentialRef.__post_init__`, under the name they
give in their errors. -/
def credentialReference (std : Stdlib) (name value : String) : Except PyExc String := do
  raiseIf (value = "") (authenticationRequired (name ++ " credential_ref is required"))
  raiseIf (["password=", "token=", "secret="].any (containsText (std.lower value)) = true)
    (authenticationRequired
      (name ++ " transport accepts credential references only, not raw secrets"))
  return value

/-! ## Client factories -/

/-- `TransportSecurityPolicy.max_response_bytes`. -/
def defaultMaxResponseBytes : Int := 1048576

/-- The `_build` of both factories, with the headers its credentials are sent in. -/
def buildMutatingClient (std : Stdlib) (name : String)
    (headers : String → String → List (String × String)) (source : CredentialSource)
    (config : TargetConfig) (credentialRef : String) (trust : Option String)
    (clearance : ClearanceObject) : Except PyExc PinnedMutatingHTTPSJSONClient :=
  match trust, clearance with
  | none, _ => .error (mutationBlocked
      ("mutating " ++ name ++ " client factory requires a pinned trust root"))
  | some _, .other => .error (mutationBlocked ("mutating " ++ name ++ " client factory requires a "
      ++ "verified mutation clearance handle; credentials were not resolved"))
  | some fingerprint, .handle handle => do
      let pair ← resolveCredentialPair std source credentialRef
      PinnedMutatingHTTPSJSONClient.init config.host config.port (headers pair.1 pair.2)
        (some fingerprint) (.handle handle) defaultMaxResponseBytes

/-- The headers of a PiKVM. -/
def pikvmHeaders (username password : String) : List (String × String) :=
  [("X-KVMD-User", username), ("X-KVMD-Passwd", password), ("Accept", "application/json")]

/-- The headers of a BMC: HTTP Basic authentication. -/
def redfishHeaders (lib : LiveLibrary) (username password : String) : List (String × String) :=
  [("Authorization", "Basic " ++ lib.b64encode (username ++ ":" ++ password).toUTF8.toList),
    ("Accept", "application/json")]

/-- `pikvm_mutating_http_client_factory`. -/
def pikvmMutatingHttpClientFactory (lib : LiveLibrary) (source : CredentialSource) :
    TargetConfig → String → Option String → ClearanceObject →
      Except PyExc PinnedMutatingHTTPSJSONClient :=
  buildMutatingClient lib.toStdlib "PiKVM" pikvmHeaders source

/-- `redfish_mutating_http_client_factory`. -/
def redfishMutatingHttpClientFactory (lib : LiveLibrary) (source : CredentialSource) :
    TargetConfig → String → Option String → ClearanceObject →
      Except PyExc PinnedMutatingHTTPSJSONClient :=
  buildMutatingClient lib.toStdlib "Redfish" (redfishHeaders lib) source

/-! ## Transports of a session -/

/-- `build_live_pikvm_mutation_transport`. -/
def buildLivePikvmMutationTransport (std : Stdlib) (baseUrl credentialRef : String)
    (certFingerprint : Option String) (targetId providerId : String) (tlsProbe : TLSProbe) :
    Except PyExc LivePiKVMMutationTransport := do
  raiseIf (certFingerprint.getD "" = "") (mutationBlocked
    "live PiKVM mutation transport requires a pinned certificate fingerprint")
  let config ← PiKVMTargetConfig.init baseUrl certFingerprint false 443
  let reference ← credentialReference std "PiKVM" credentialRef
  LivePiKVMMutationTransport.init config.toTarget reference targetId providerId tlsProbe

/-- `build_live_redfish_mutation_transport`. -/
def buildLiveRedfishMutationTransport (std : Stdlib) (tables : DigitTables)
    (baseUrl credentialRef : String) (certFingerprint : Option String)
    (targetId providerId systemPath : String) (tlsProbe : TLSProbe) :
    Except PyExc LiveRedfishMutationTransport := do
  raiseIf (certFingerprint.getD "" = "") (mutationBlocked
    "live Redfish mutation transport requires a pinned certificate fingerprint")
  let config ← RedfishTargetConfig.init tables baseUrl certFingerprint false 443
  let reference ← credentialReference std "Redfish" credentialRef
  LiveRedfishMutationTransport.init config.toTarget reference targetId providerId systemPath
    tlsProbe

/-- The transport of a verb was built for a session. -/
def MutatingVerb.Built (std : Stdlib) (tables : DigitTables) : MutatingVerb → Prop
  | redfishPower transport _ | redfishBoot transport _ =>
      ∃ baseUrl credentialRef certFingerprint targetId providerId systemPath tlsProbe,
        buildLiveRedfishMutationTransport std tables baseUrl credentialRef certFingerprint targetId
          providerId systemPath tlsProbe = .ok transport
  | pikvmPower transport _ =>
      ∃ baseUrl credentialRef certFingerprint targetId providerId tlsProbe,
        buildLivePikvmMutationTransport std baseUrl credentialRef certFingerprint targetId
          providerId tlsProbe = .ok transport

/-- The headers the credentials of a verb's transport are sent in. -/
def MutatingVerb.headers (lib : LiveLibrary) : MutatingVerb → String → String →
    List (String × String)
  | redfishPower _ _ | redfishBoot _ _ => redfishHeaders lib
  | pikvmPower _ _ => pikvmHeaders

/-- The client factory of a verb's transport. -/
def MutatingVerb.clientFactory (lib : LiveLibrary) (source : CredentialSource) :
    MutatingVerb → TargetConfig → String → Option String → ClearanceObject →
      Except PyExc PinnedMutatingHTTPSJSONClient
  | redfishPower _ _ | redfishBoot _ _ => redfishMutatingHttpClientFactory lib source
  | pikvmPower _ _ => pikvmMutatingHttpClientFactory lib source

/-! ## Fingerprints in normal form -/

/-- A hexadecimal digit in lower case is one, and stays as it is. -/
theorem isHexDigit_toLower {c : Char} (hex : isHexDigit c = true) :
    isHexDigit c.toLower = true ∧ c.toLower.toLower = c.toLower := by
  rw [isHexDigit, Bool.or_eq_true] at hex
  rcases hex with digit | letter
  · have same : c.toLower = c := by
      delta Char.toLower
      split_ifs with upper
      · have capital : 65 ≤ c.toNat ∧ c.toNat ≤ 90 := upper
        rw [isDigit_iff] at digit
        omega
      · rfl
    rw [same, isHexDigit, digit]
    exact ⟨rfl, same⟩
  · have letters : ∀ letter ∈ "abcdefABCDEF".toList,
        isHexDigit letter.toLower = true ∧ letter.toLower.toLower = letter.toLower :=
      forall_mem_of_all (by decide)
    exact letters c (List.contains_iff_mem.mp letter)

/-- Separators that are no digits are filtered out again. -/
theorem filter_pairs {separator : Char} (apart : isHexDigit separator = false) (digits : List Char)
    (hex : ∀ c ∈ digits, isHexDigit c = true) :
    (pairs separator digits).filter isHexDigit = digits := by
  induction digits using pairs.induct with
  | case1 first second third rest ih =>
      have tail := ih fun c member => hex c (List.mem_cons_of_mem _ (List.mem_cons_of_mem _ member))
      rw [pairs, List.filter_cons_of_pos (hex first List.mem_cons_self),
        List.filter_cons_of_pos (hex second (List.mem_cons_of_mem _ List.mem_cons_self)),
        List.filter_cons_of_neg (by rw [apart]; decide), tail]
  | case2 short few =>
      rw [pairs]
      · exact List.filter_eq_self.mpr hex
      · exact few

/-- **A normal form is normal.** -/
theorem normalizeCertFingerprint_self {value fingerprint : String}
    (normal : normalizeCertFingerprint value = .ok fingerprint) :
    normalizeCertFingerprint fingerprint = .ok fingerprint := by
  unfold normalizeCertFingerprint at normal
  dsimp only at normal
  set compact := (value.toList.filter isHexDigit).map Char.toLower with isCompact
  split_ifs at normal with short
  cases normal
  have lowered : ∀ c ∈ compact, isHexDigit c = true ∧ c.toLower = c := by
    intro c member
    obtain ⟨digit, inside, rfl⟩ := List.mem_map.mp member
    exact isHexDigit_toLower (List.mem_filter.mp inside).2
  have again : ((String.ofList (pairs ':' compact)).toList.filter isHexDigit).map Char.toLower
      = compact := by
    rw [String.toList_ofList, filter_pairs (by decide) compact fun c member => (lowered c member).1]
    exact (List.map_congr_left fun c member => (lowered c member).2).trans (List.map_id _)
  unfold normalizeCertFingerprint
  rw [again, if_neg short]

/-! ## What a session's transports trust -/

/-- **The trust of a transport** is the fingerprint its configuration pins, in normal form; the host
has shown that certificate before the transport was made. -/
structure Pinned (base : TransportBase) : Prop where
  configured : ∃ pin, base.config.certFingerprint = some pin
    ∧ normalizeCertFingerprint pin = .ok base.trust
  probed : ∃ shown, base.tlsProbe base.config.host base.config.port = .ok shown
    ∧ normalizeCertFingerprint shown = .ok base.trust
  normal : normalizeCertFingerprint base.trust = .ok base.trust

/-- The trust a preflight returns. -/
theorem pinned_of_preflight {mismatch : PyExc} {base : TransportBase} {pin : String}
    (named : base.config.certFingerprint = some pin)
    (passed : preflightPin mismatch base.config base.tlsProbe = .ok base.trust) : Pinned base := by
  obtain ⟨expected, configured, passed⟩ := except_bind_eq_ok.mp passed
  obtain ⟨shown, probed, passed⟩ := except_bind_eq_ok.mp passed
  obtain ⟨observed, seen, passed⟩ := except_bind_eq_ok.mp passed
  obtain ⟨_, same, trusted⟩ := except_bind_eq_ok.mp passed
  rw [raiseIf_eq_ok, not_not] at same
  rw [named, Option.getD_some] at configured
  have normal := normalizeCertFingerprint_self configured
  cases normal.symm.trans trusted
  exact ⟨⟨pin, named, configured⟩, ⟨shown, probed, same ▸ seen⟩, normal⟩

/-- The transports of a session are pinned. -/
theorem LivePiKVMMutationTransport.pinned_of_init {config : TargetConfig}
    {credentialRef targetId providerId : String} {tlsProbe : TLSProbe}
    {transport : LivePiKVMMutationTransport}
    (made : init config credentialRef targetId providerId tlsProbe = .ok transport) :
    Pinned transport.toTransportBase := by
  unfold init at made
  split at made
  · cases made
  · cases made
  · next pin _ named =>
      split_ifs at made with identified
      split at made
      · cases made
      · next trust passed =>
          cases made
          exact pinned_of_preflight named passed

theorem LiveRedfishMutationTransport.pinned_of_init {config : TargetConfig}
    {credentialRef targetId providerId systemPath : String} {tlsProbe : TLSProbe}
    {transport : LiveRedfishMutationTransport}
    (made : init config credentialRef targetId providerId systemPath tlsProbe = .ok transport) :
    Pinned transport.toTransportBase := by
  unfold init at made
  split at made
  · cases made
  · cases made
  · next pin _ named =>
      split_ifs at made with identified
      split at made
      · cases made
      · split at made
        · cases made
        · next trust passed =>
            cases made
            exact pinned_of_preflight named passed

theorem MutatingVerb.Built.pinned {std : Stdlib} {tables : DigitTables} {verb : MutatingVerb}
    (built : verb.Built std tables) : Pinned verb.base := by
  cases verb with
  | redfishPower transport _ | redfishBoot transport _ =>
      obtain ⟨_, _, _, _, _, _, _, made⟩ := built
      obtain ⟨_, -, made⟩ := except_bind_eq_ok.mp made
      obtain ⟨_, -, made⟩ := except_bind_eq_ok.mp made
      obtain ⟨_, -, made⟩ := except_bind_eq_ok.mp made
      exact LiveRedfishMutationTransport.pinned_of_init made
  | pikvmPower transport _ =>
      obtain ⟨_, _, _, _, _, _, made⟩ := built
      obtain ⟨_, -, made⟩ := except_bind_eq_ok.mp made
      obtain ⟨_, -, made⟩ := except_bind_eq_ok.mp made
      obtain ⟨_, -, made⟩ := except_bind_eq_ok.mp made
      exact LivePiKVMMutationTransport.pinned_of_init made

/-! ## Live calls -/

/-- **A live call** of a mutating verb: the transport was built for the session, and the gate's
clock, the operator's machine and the network behave in any way. -/
structure LiveCall (lib : LiveLibrary) (tables : DigitTables) where
  verb : MutatingVerb
  built : verb.Built lib.toStdlib tables
  clearance : ClearanceObject
  clock : Except PyExc Datetime
  source : CredentialSource
  behaviour : WireBehaviour

/-- The `TransportError` classes. -/
def transportErrorClasses : List String :=
  ["TransportError", "TransportMethodNotAllowedError", "TransportRouteNotFoundError"]

/-- What a client raises, as a transport sees it. -/
def httpRaise : WireRaise → HttpRaise
  | .osError text => .exception (.other "OSError" text)
  | .interrupt name => .exception (.other name "")
  | .exception (.other name message) =>
      if name ∈ transportErrorClasses then .transportError message
      else .exception (.other name message)
  | .exception e => .exception e

namespace LiveCall

variable {lib : LiveLibrary} {tables : DigitTables} (call : LiveCall lib tables)

/-- The client the factory builds in a call. -/
def client : Except PyExc PinnedMutatingHTTPSJSONClient :=
  call.verb.clientFactory lib call.source call.verb.base.config call.verb.base.credentialRef
    (some call.verb.base.trust) call.clearance

/-- The conversation of the client about a request: `post_json` or `patch_json`. -/
def converse (request : WireRequest) :
    Lib.Outcome WireEffect Unit WireRaise (List (String × Json)) :=
  match call.client with
  | .error e => ⟨.error (.exception e), (), []⟩
  | .ok client => client.requestJson lib.toWireLibrary call.behaviour request.method request.path
      request.body [] ()

/-- How the client of the call behaves towards its transport. -/
def clientBehaviour : ClientBehaviour where
  factory := call.client.map fun _ => ()
  respond request := (call.converse request).result.mapError httpRaise |>.map fun payload =>
    payload.map fun entry => (.str entry.1, PyValue.ofJson entry.2)

/-- The call as its transport takes it. -/
def mutatingCall : MutatingCall := ⟨call.verb, ⟨call.clearance, call.clock, call.clientBehaviour⟩⟩

end LiveCall

/-- **What is left of a live call**: its record at the transport, and what was on the wire. -/
structure LiveRecord (lib : LiveLibrary) (tables : DigitTables) where
  call : LiveCall lib tables
  record : CallRecord

namespace LiveRecord

variable {lib : LiveLibrary} {tables : DigitTables} (live : LiveRecord lib tables)

/-- The trace of the connections of a call. -/
def wire : List WireEffect :=
  live.record.requests.flatMap fun request => (live.call.converse request).effects

/-- The requests a call put on the wire under a clearance request. -/
def sentUnder (id : String) : Nat :=
  if live.record.requestId = some id then live.wire.countP WireEffect.sends else 0

end LiveRecord

/-- A live call on the ledger its transport shares with the others of the session. -/
def liveStep (lib : LiveLibrary) (tables : DigitTables) (ledger : MutationClearanceLedger)
    (call : LiveCall lib tables) : MutationClearanceLedger × LiveRecord lib tables :=
  let step := MutatingCall.step lib.toAuditLibrary ledger call.mutatingCall
  (step.1, ⟨call, step.2⟩)

/-! ## The clients of a session -/

section Clients

variable {lib : LiveLibrary} {tables : DigitTables}

/-- What a mutating client makes of an answer. -/
theorem mutatingAnswer_ok {lib : WireLibrary} {place : String} {maxResponseBytes : Int}
    {answer : WireAnswer} {payload : List (String × Json)}
    (accepted : (do
      checkAnswer "live mutation" place maxResponseBytes answer
      if answer.body = [] then return []
      objectOfBody lib "live mutation" place answer) = Except.ok payload) :
    answer.status < 300 ∧ (answer.body.length : Int) ≤ maxResponseBytes
      ∧ Accepted lib true answer.body payload := by
  obtain ⟨_, checked, accepted⟩ := except_bind_eq_ok.mp accepted
  obtain ⟨status, size⟩ := checkAnswer_ok checked
  refine ⟨status, size, ?_⟩
  by_cases empty : answer.body = []
  · rw [if_pos empty] at accepted
    cases accepted
    exact .inl ⟨rfl, empty, rfl⟩
  · rw [if_neg empty] at accepted
    exact .inr (objectOfBody_ok accepted)

/-- A call of a mutating client is safe, whatever it is asked for. -/
theorem PinnedMutatingHTTPSJSONClient.requestJson_safe (lib : WireLibrary)
    (behaviour : WireBehaviour) (client : PinnedMutatingHTTPSJSONClient) (method path : String)
    (body : Params) :
    SafeCall lib client.pinnedSha256 client.maxResponseBytes true
      (client.Permits lib method path body)
      (client.requestJson lib behaviour method path body [] ()) := by
  apply SafeCall.compute
  intro _ isMethod
  apply SafeCall.compute
  intro _ isPath
  rw [raiseIf_eq_ok, not_not] at isMethod isPath
  apply SafeCall.bind (checkClearance_never (by simp [WireEffect.readsClock]))
  intro _ returned
  obtain ⟨now, live, effects⟩ := checkClearance_result returned
  rw [effects]
  apply SafeCall.compute
  intro encoded dumped
  refine (exchange_safe (fun _ _ => mutatingAnswer_ok) _ _).imp ?_
  rintro between request rfl
  exact ⟨isMethod, isPath, ⟨encoded, dumped, rfl⟩, now, between, rfl, live⟩

/-- A client has what it was initialised with. -/
theorem PinnedMutatingHTTPSJSONClient.init_ok {host : String} {port : Int}
    {headers : List (String × String)} {fingerprint : String} {handle : VerifiedMutationClearance}
    {maxResponseBytes : Int} {client : PinnedMutatingHTTPSJSONClient}
    (made : init host port headers (some fingerprint) (.handle handle) maxResponseBytes
      = .ok client) :
    client.headers = headers ∧ normalizeCertFingerprint fingerprint = .ok client.pinnedSha256
      ∧ client.clearance = handle ∧ client.maxResponseBytes = maxResponseBytes := by
  unfold init at made
  split_ifs at made with named
  dsimp only at made
  split at made
  · cases made
  · next pin normal =>
      cases made
      exact ⟨rfl, normal, rfl, rfl⟩

/-- **The client of a call** is built from the credentials of its transport, for the handle of the
call and the trust of the transport. -/
theorem LiveCall.client_ok {call : LiveCall lib tables} {client : PinnedMutatingHTTPSJSONClient}
    {handle : VerifiedMutationClearance} (presented : call.clearance = .handle handle)
    (made : call.client = .ok client) :
    ∃ pair, resolveCredentialPair lib.toStdlib call.source call.verb.base.credentialRef = .ok pair
      ∧ client.headers = call.verb.headers lib pair.1 pair.2
      ∧ client.pinnedSha256 = call.verb.base.trust ∧ client.clearance = handle
      ∧ client.maxResponseBytes = defaultMaxResponseBytes := by
  have built : ∃ name, buildMutatingClient lib.toStdlib name (call.verb.headers lib) call.source
      call.verb.base.config call.verb.base.credentialRef (some call.verb.base.trust)
      (.handle handle) = .ok client := by
    rw [LiveCall.client, presented] at made
    cases verb : call.verb with
    | redfishPower transport _ | redfishBoot transport _ =>
        rw [verb] at made
        exact ⟨"Redfish", made⟩
    | pikvmPower transport _ =>
        rw [verb] at made
        exact ⟨"PiKVM", made⟩
  obtain ⟨name, built⟩ := built
  obtain ⟨pair, resolved, built⟩ := except_bind_eq_ok.mp built
  obtain ⟨headers, normal, clearance, size⟩ := PinnedMutatingHTTPSJSONClient.init_ok built
  have same := Except.ok.inj (call.built.pinned.normal.symm.trans normal)
  exact ⟨pair, resolved, headers, same.symm, clearance, size⟩

/-- The conversation of a call sends at most one request, and closes what it opens. -/
theorem LiveCall.converse_quiet (call : LiveCall lib tables) (request : WireRequest) :
    (call.converse request).effects.countP WireEffect.sends ≤ 1
      ∧ Lib.Prog.ClosedOnce WireEffect.opens WireEffect.closes (call.converse request).effects := by
  rw [converse]
  cases call.client with
  | error e => exact ⟨Nat.zero_le 1, .inl fun _ member => absurd member List.not_mem_nil⟩
  | ok client =>
      have safe := client.requestJson_safe lib.toWireLibrary call.behaviour request.method
        request.path request.body
      exact ⟨safe.sentOnce, safe.closedOnce⟩

end Clients

/-! ## What a summary stands on -/

section Summaries

variable {lib : AuditLibrary}

/-- An exchange returns what the client answered to the request it was given. -/
theorem TransportBase.exchange_ok {base : TransportBase} {transportError : String}
    {handle : VerifiedMutationClearance} {client : ClientBehaviour} {payload : Params}
    {request : Except PyExc WireRequest}
    (returned : (base.exchange transportError handle client request).2 = .ok payload) :
    ∃ wired, .sent wired ∈ (base.exchange transportError handle client request).1
      ∧ client.respond wired = .ok payload := by
  unfold exchange at returned ⊢
  cases built : client.factory with
  | error e =>
      rw [built] at returned
      cases returned
  | ok u =>
      rw [built] at returned
      cases given : request with
      | error e =>
          rw [given] at returned
          cases returned
      | ok wired =>
          rw [given] at returned
          dsimp only at returned ⊢
          refine ⟨wired, List.mem_cons_of_mem _ (List.mem_singleton_self _), ?_⟩
          cases answered : client.respond wired with
          | error raised =>
              rw [answered] at returned
              cases raised <;> cases returned
          | ok answer =>
              rw [answered] at returned
              cases returned
              rfl

/-- A course returns what its actuation does. -/
theorem courseOf_ok {ledger : MutationClearanceLedger}
    {gate : Except PyExc (VerifiedMutationClearance × MutationClearanceLedger)}
    {actuation : VerifiedMutationClearance → List MutationEffect × Except PyExc MutationSummary}
    {summary : MutationSummary}
    (returned : (courseOf ledger gate actuation).outcome = .ok summary) :
    ∃ verified, (actuation verified).2 = .ok summary
      ∧ ∀ effect ∈ (actuation verified).1, effect ∈ (courseOf ledger gate actuation).effects := by
  unfold courseOf at returned ⊢
  cases passed : gate with
  | error e =>
      rw [passed] at returned
      cases returned
  | ok accepted =>
      rw [passed] at returned
      exact ⟨accepted.1, returned, fun effect member => List.mem_cons_of_mem _ member⟩

/-- **A summary is what a client answered** to a request the call sent. -/
theorem MutatingVerb.answered_of_call {verb : MutatingVerb} {context : CallContext}
    {ledger : MutationClearanceLedger} {summary : MutationSummary}
    (returned : (verb.call lib context ledger).outcome = .ok summary) :
    ∃ request payload, .sent request ∈ (verb.call lib context ledger).effects
      ∧ context.client.respond request = .ok payload
      ∧ summary = mutationSummary lib verb.binding.capability payload := by
  have answered {transportError capability : String} {handle : VerifiedMutationClearance}
      {request : Except PyExc WireRequest}
      (returned : (verb.base.exchange transportError handle context.client request).2.map
        (mutationSummary lib capability) = .ok summary) :
      ∃ wired payload,
        .sent wired ∈ (verb.base.exchange transportError handle context.client request).1
          ∧ context.client.respond wired = .ok payload
          ∧ summary = mutationSummary lib capability payload := by
    cases exchanged : (verb.base.exchange transportError handle context.client request).2 with
    | error e =>
        rw [exchanged] at returned
        cases returned
    | ok payload =>
        obtain ⟨wired, sent, same⟩ := TransportBase.exchange_ok exchanged
        rw [exchanged] at returned
        exact ⟨wired, payload, sent, same, (Except.ok.inj returned).symm⟩
  cases verb with
  | redfishPower transport power =>
      have listed : ∃ resetType, redfishResetTypes.lookup power.capability = some resetType := by
        cases power <;> exact ⟨_, rfl⟩
      obtain ⟨resetType, listed⟩ := listed
      have course : (redfishPower transport power).call lib context ledger
          = transport.reset lib context ledger power.capability := by
        cases power <;> rfl
      rw [course, LiveRedfishMutationTransport.reset, listed] at returned ⊢
      obtain ⟨verified, acted, inside⟩ := courseOf_ok returned
      obtain ⟨wired, payload, sent, same⟩ := answered acted
      exact ⟨wired, payload, inside _ sent, same⟩
  | redfishBoot transport bootTarget =>
      change (transport.setBootOverride lib context ledger bootTarget).outcome = _ at returned
      change ∃ request payload, _ ∈ (transport.setBootOverride lib context ledger
        bootTarget).effects ∧ _
      rw [LiveRedfishMutationTransport.setBootOverride] at returned ⊢
      by_cases offered : bootTarget ∉ redfishBootOverrideTargets
      · rw [if_pos offered] at returned
        cases returned
      · rw [if_neg offered] at returned ⊢
        obtain ⟨verified, acted, inside⟩ := courseOf_ok returned
        obtain ⟨wired, payload, sent, same⟩ := answered acted
        exact ⟨wired, payload, inside _ sent, same⟩
  | pikvmPower transport power =>
      have course : (pikvmPower transport power).call lib context ledger
          = transport.atx lib context ledger power.capability := by
        cases power <;> rfl
      rw [course, LivePiKVMMutationTransport.atx] at returned ⊢
      obtain ⟨verified, acted, inside⟩ := courseOf_ok returned
      obtain ⟨wired, payload, sent, same⟩ := answered acted
      exact ⟨wired, payload, inside _ sent, same⟩

end Summaries

/-! ## Runs -/

section Runs

variable {lib : LiveLibrary} {tables : DigitTables}

/-- **What a request on the wire stands on**: the gate has admitted the call with a handle, which is
still unexpired at the reading of the clock that the conversation begins with; the peer has shown
the certificate the transport trusts; and the request is what the capability and the parameters of
the handle are on the wire, with the credentials its transport refers to. -/
structure Justified (live : LiveRecord lib tables) (before : List WireEffect) (sent : SentRequest)
    (handle : VerifiedMutationClearance) (gateTime clockTime : Datetime) (request : WireRequest)
    (parameters : Params) (pair : String × String) (encoded : String) : Prop where
  admitted : live.call.verb.Admits lib.toAuditLibrary live.record.call.context live.record.ledger
    handle gateTime
  unexpired : ∃ between, before = .clockRead (.ok clockTime) :: between
    ∧ expiredAt lib.toStdlib handle.expiresAt clockTime = .ok false
  shown : ∃ effect ∈ before, ShowsPin lib.toWireLibrary live.call.verb.base.trust effect
  fingerprint : fingerprintParameters lib.toStdlib parameters = .ok handle.paramsFingerprint
  wire : live.call.verb.endpoint.request handle.capability parameters = some request
  credentials : resolveCredentialPair lib.toStdlib live.call.source
    live.call.verb.base.credentialRef = .ok pair
  complete : pair.1 ≠ "" ∧ pair.2 ≠ ""
  dumped : lib.dumpsBody request.body = .ok encoded
  exact : sent = ⟨lib.upper request.method, request.path,
    dictSet (live.call.verb.headers lib pair.1 pair.2) "Content-Type" "application/json",
    some encoded⟩

/-- **A safe live call**: what it puts on the wire is justified; where the gate does not admit it no
client is built and nothing is on the wire; a connection it opens is closed once, at the end; and it
returns a summary only of an answer that was read to its end, with a status below 300. -/
structure LiveSafe (live : LiveRecord lib tables) : Prop where
  pinned : Pinned live.call.verb.base
  justified : ∀ before sent answer after, live.wire = before ++ .sent sent answer :: after →
    ∃ handle gateTime clockTime request parameters pair encoded,
      Justified live before sent handle gateTime clockTime request parameters pair encoded
  refused : ¬ live.record.Admitted lib.toAuditLibrary →
    live.record.Refused ∧ live.wire = []
  closed : Lib.Prog.ClosedOnce WireEffect.opens WireEffect.closes live.wire
  returned : ∀ summary, live.record.course.outcome = .ok summary →
    ∃ sent status body, .sent sent (.ok ()) ∈ live.wire ∧ .statusRead (.ok status) ∈ live.wire
      ∧ .bodyRead (defaultMaxResponseBytes + 1) (.ok body) ∈ live.wire
      ∧ status < 300 ∧ (body.length : Int) ≤ defaultMaxResponseBytes
      ∧ ∃ payload, Accepted lib.toWireLibrary true body payload
        ∧ summary = mutationSummary lib.toAuditLibrary live.call.verb.binding.capability
          (payload.map fun entry => (.str entry.1, PyValue.ofJson entry.2))

/-- The requests of a call that was not admitted: none. -/
theorem CallRecord.Refused.requests {record : CallRecord} (refused : record.Refused) :
    record.requests = [] := by
  rw [CallRecord.requests, refused.1]
  rfl

/-- What a live call puts on the wire is the conversation about its one request, if there is one. -/
theorem wire_cases (live : LiveRecord lib tables) (took : live.record.Took lib.toAuditLibrary) :
    live.record.requests = [] ∧ live.wire = []
      ∨ ∃ request, live.record.requests = [request]
        ∧ live.wire = (live.call.converse request).effects := by
  have few := took.requests_le_one
  rw [LiveRecord.wire]
  cases made : live.record.requests with
  | nil => exact .inl ⟨rfl, rfl⟩
  | cons request rest =>
      rw [made] at few
      have short : rest.length = 0 := Nat.le_zero.mp (Nat.le_of_succ_le_succ few)
      obtain rfl := List.eq_nil_of_length_eq_zero short
      refine .inr ⟨request, rfl, ?_⟩
      rw [List.flatMap_cons, List.flatMap_nil, List.append_nil]

/-- **One live call is safe.** -/
theorem liveStep_safe (ledger : MutationClearanceLedger) (call : LiveCall lib tables) :
    LiveSafe (liveStep lib tables ledger call).2 := by
  set live := (liveStep lib tables ledger call).2
  have took : live.record.Took lib.toAuditLibrary := took_step ledger call.mutatingCall
  refine ⟨call.built.pinned, ?_, fun outside => ?_, ?_, ?_⟩
  · intro before sent answer after split
    rcases wire_cases live took with ⟨-, silent⟩ | ⟨request, requests, conversed⟩
    · rw [silent] at split
      exact absurd (congrArg List.length split) (by simp)
    · have member : request ∈ live.record.requests := by
        rw [requests]
        exact List.mem_singleton_self _
      obtain ⟨handle, gateTime, _, _, parameters, -, admits, -, fingerprint, wired⟩ :=
        took.cleared request member
      rw [conversed, LiveCall.converse] at split
      cases made : live.call.client with
      | error e =>
          rw [made] at split
          exact absurd (congrArg List.length split) (by simp)
      | ok client =>
          rw [made] at split
          obtain ⟨pair, resolved, headers, pin, clearance, -⟩ :=
            LiveCall.client_ok admits.presented made
          have safe := client.requestJson_safe lib.toWireLibrary live.call.behaviour request.method
            request.path request.body
          obtain ⟨shown, isMethod, isPath, ⟨encoded, dumped, same⟩, clockTime, between, first,
            unexpired⟩ := safe.afterPin before sent answer after split
          refine ⟨handle, gateTime, clockTime, request, parameters, pair, encoded, admits,
            ⟨between, first, clearance ▸ unexpired⟩, pin ▸ shown, fingerprint, wired, resolved,
            resolveCredentialPair_complete _ _ resolved, dumped, ?_⟩
          rw [same, PinnedMutatingHTTPSJSONClient.requestOf, headers]
          rfl
  · have refused := took.refused outside
    refine ⟨refused, ?_⟩
    rw [LiveRecord.wire, refused.requests]
    rfl
  · rcases wire_cases live took with ⟨-, silent⟩ | ⟨request, -, conversed⟩
    · rw [silent]
      exact .inl fun _ member => absurd member List.not_mem_nil
    · rw [conversed]
      exact (live.call.converse_quiet request).2
  · intro summary returned
    obtain ⟨request, payload, sent, answered, same⟩ := MutatingVerb.answered_of_call returned
    have member : request ∈ live.record.requests :=
      List.mem_filterMap.mpr ⟨.sent request, sent, rfl⟩
    have conversed : live.wire = (live.call.converse request).effects := by
      rcases wire_cases live took with ⟨none, -⟩ | ⟨other, requests, conversed⟩
      · rw [none] at member
        cases member
      · rw [requests, List.mem_singleton] at member
        rw [conversed, member]
    obtain ⟨handle, _, _, _, _, -, admits, -⟩ := took.cleared request member
    obtain ⟨object, raw, isPayload⟩ : ∃ object, (live.call.converse request).result = .ok object
        ∧ payload = object.map fun entry => (.str entry.1, PyValue.ofJson entry.2) := by
      change ((live.call.converse request).result.mapError httpRaise).map _ = _ at answered
      cases result : (live.call.converse request).result with
      | error e =>
          rw [result] at answered
          cases answered
      | ok object =>
          rw [result] at answered
          exact ⟨object, rfl, (Except.ok.inj answered).symm⟩
    rw [LiveCall.converse] at raw
    rw [conversed, LiveCall.converse]
    cases made : live.call.client with
    | error e =>
        rw [made] at raw
        cases raw
    | ok client =>
        rw [made] at raw
        obtain ⟨-, -, -, -, -, size⟩ := LiveCall.client_ok admits.presented made
        have safe := client.requestJson_safe lib.toWireLibrary live.call.behaviour request.method
          request.path request.body
        obtain ⟨first, certDer, wired, status, body, contentType, closing, course, -, below, few,
          accepted⟩ := safe.returned object raw
        rw [size] at course few
        refine ⟨wired, status, body, ?_, ?_, ?_, below, few, object, accepted, ?_⟩
        · rw [course]
          simp
        · rw [course]
          simp
        · rw [course]
          simp
        · rw [same, isPayload]
          rfl

/-- No more is on the wire under a clearance request than the transport sent. -/
theorem sentUnder_le (live : LiveRecord lib tables) (took : live.record.Took lib.toAuditLibrary)
    (id : String) : live.sentUnder id ≤ live.record.requestsUnder id := by
  rw [LiveRecord.sentUnder, CallRecord.requestsUnder]
  split_ifs with named
  · rcases wire_cases live took with ⟨-, silent⟩ | ⟨request, requests, conversed⟩
    · rw [silent]
      exact Nat.zero_le _
    · rw [requests, conversed]
      exact (live.call.converse_quiet request).1
  · exact le_rfl

/-- Each clearance request is on the wire at most once. -/
theorem singleUse_liveStep :
    SingleUse (liveStep lib tables) (fun ledger id => id ∈ ledger.consumed)
      LiveRecord.sentUnder where
  once ledger call id :=
    (sentUnder_le _ (took_step ledger call.mutatingCall) id).trans
      (singleUse_step.once ledger call.mutatingCall id)
  fresh ledger call id spent :=
    Nat.le_zero.mp ((sentUnder_le _ (took_step ledger call.mutatingCall) id).trans
      (singleUse_step.fresh ledger call.mutatingCall id spent).le)
  marked ledger call id used := by
    refine singleUse_step.marked ledger call.mutatingCall id fun unused => used ?_
    exact Nat.le_zero.mp ((sentUnder_le _ (took_step ledger call.mutatingCall) id).trans unused.le)
  kept ledger call id spent := singleUse_step.kept ledger call.mutatingCall id spent

end Runs

/-- **Live mutations are safe from the verb to the wire**: in every sequence of calls on transports
of a session that share a ledger, however clocks, credentials and the network behave, each clearance
request puts at most one request on the wire, and every call is safe. -/
theorem live_mutations (lib : LiveLibrary) (tables : DigitTables) (ledger : MutationClearanceLedger)
    (calls : List (LiveCall lib tables)) :
    (∀ id, totalUses LiveRecord.sentUnder (outputs (liveStep lib tables) ledger calls) id ≤ 1) ∧
    ∀ live ∈ outputs (liveStep lib tables) ledger calls, LiveSafe live := by
  constructor
  · exact singleUse_liveStep.uses_le_one ledger calls
  · exact Lib.outputs_forall_of_each (fun ledger call => liveStep_safe ledger call) ledger calls

/-! ## A session -/

namespace Deployment

/-- A certificate and its fingerprint. -/
def certificateBytes : List UInt8 := [1, 2, 3]

def certificateFingerprint : String :=
  "039058c6f2c0cb492c533b0a4d14ef77cc0f78abccced5287d84a1a2011cfb81"

/-- The library of a live session, on the inputs that occur. -/
def liveLibrary : LiveLibrary where
  toAuditLibrary := auditLibrary
  upper text := String.ofList (text.toList.map Char.toUpper)
  sha256Bytes bytes := if bytes = certificateBytes then certificateFingerprint else ""
  dumpsBody _ := .ok "{}"
  b64encode _ := ""

/-- The PiKVM shows its certificate when it is probed. -/
def probe : TLSProbe := fun _ _ => .ok certificateFingerprint

/-- The transport of the session. -/
def builtTransport : Except PyExc LivePiKVMMutationTransport :=
  buildLivePikvmMutationTransport liveLibrary.toStdlib "https://kvm.lab.example" "env://LAB"
    (some certificateFingerprint) "lab-1" "pikvm-1" probe

theorem builtTransport_isSome : builtTransport.toOption.isSome = true := by decide +kernel

/-- The transport it builds. -/
def liveTransport : LivePiKVMMutationTransport := builtTransport.toOption.get builtTransport_isSome

theorem builtTransport_eq : builtTransport = .ok liveTransport := by
  have same : builtTransport.toOption = some liveTransport :=
    (Option.some_get builtTransport_isSome).symm
  cases made : builtTransport with
  | error e =>
      rw [made] at same
      cases same
  | ok transport =>
      rw [made] at same
      rw [Option.some.inj same]

/-- What a clearance to switch the target on names. -/
def powerFields : MutationClearanceFields where
  requestId := "req-1"
  capability := "power.on"
  target := "lab-1"
  provider := "pikvm-1"
  paramsFingerprint := emptyFingerprint
  riskFamily := "power"
  expiresAt := clockAt 15
  towerId := .str "act-local"
  issuedAt := clockAt 0
  issuer := .issuerToken

theorem powerFields_complete : ∀ value ∈ powerFields.required, value ≠ "" := by decide +kernel

theorem powerFields_aware :
    powerFields.expiresAt.aware = true ∧ powerFields.issuedAt.aware = true := ⟨rfl, rfl⟩

/-- A clearance to switch the target on. -/
def powerHandle : VerifiedMutationClearance :=
  ⟨powerFields, rfl, powerFields_complete, powerFields_aware⟩

/-- The operator's credentials. -/
def labCredentials : CredentialSource where
  env name := if name = "LAB_USERNAME" then some "operator"
    else if name = "LAB_PASSWORD" then some "lab secret" else none
  file _ := .error .notFound

/-- The PiKVM answers, with the certificate. -/
def calmWire : WireBehaviour where
  clock _ := .ok (clockAt 5)
  build _ := .ok ()
  connect _ := .ok ()
  certificate _ := .ok (some certificateBytes)
  send _ _ := .ok ()
  respond _ := .ok ()
  status _ := .ok 200
  read _ _ := .ok []
  contentType _ := .ok "application/json"
  close _ := .ok ()

/-- A call that switches the target on. -/
def powerOnCall : LiveCall liveLibrary asciiDigits where
  verb := .pikvmPower liveTransport .powerOn
  built := ⟨_, _, _, _, _, _, builtTransport_eq⟩
  clearance := .handle powerHandle
  clock := .ok (clockAt 5)
  source := labCredentials
  behaviour := calmWire

end Deployment

/-- The clearance to switch the target on is presented twice: one request is sent. -/
example : (outputs (liveStep Deployment.liveLibrary Deployment.asciiDigits) ⟨[]⟩
    [Deployment.powerOnCall, Deployment.powerOnCall]).map
      (fun live => live.wire.countP WireEffect.sends) = [1, 0] := by
  decide +kernel

end AgenticKVM
