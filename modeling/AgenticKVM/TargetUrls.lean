import AgenticKVM.Lib.Url
import AgenticKVM.MutationTransports

/-! # Target URLs

The host and the port that the live transports take from a target's `base_url`
(`providers/pikvm_transport.py`, `providers/redfish_transport.py`). The URL is cut at its first
slash and then at its first colon; the Redfish configuration also reads a port after that colon.
Which URLs are read correctly this way is `urls_read_iff`. -/

namespace AgenticKVM

open Lib (Url UrlHost before after decimalValue except_bind_eq_ok)

/-! ## Configurations -/

/-- The functions `isdigit` and `int` of a text, with what they do on ASCII. There are texts of
digits that `int` does not take: it raises where they are longer than
`sys.get_int_max_str_digits()`. -/
structure DigitTables where
  isdigit : Char → Bool
  int : List Char → Except PyExc Int
  isdigit_ascii : ∀ c : Char, c.toNat < 128 → isdigit c = c.isDigit
  int_ascii : ∀ (digits : List Char) (value : Int), (∀ c ∈ digits, c.isDigit = true) →
    int digits = .ok value → value = decimalValue digits

/-- The scheme of a target's URL. -/
def httpsScheme : String := "https://"

/-- **A live target**: `PiKVMTargetConfig` and `RedfishTargetConfig`. Its URL has the `https`
scheme, its port is positive, and its certificate is verified or pinned. -/
structure LiveTargetConfig where
  baseUrl : String
  certFingerprint : Option String
  verifySsl : Bool
  port : Int
  https : startsWith baseUrl httpsScheme = true
  positive : 0 < port
  trusted : verifySsl = true ∨ certFingerprint.getD "" ≠ ""

namespace LiveTargetConfig

/-- The checks both classes make, under the name they give in their errors. -/
def init (name baseUrl : String) (certFingerprint : Option String) (verifySsl : Bool) (port : Int) :
    Except PyExc LiveTargetConfig :=
  if https : startsWith baseUrl httpsScheme = true then
    if positive : 0 < port then
      if trusted : verifySsl = true ∨ certFingerprint.getD "" ≠ "" then
        .ok ⟨baseUrl, certFingerprint, verifySsl, port, https, positive, trusted⟩
      else .error (providerProtocol
        "verify_ssl=false is allowed only with cert_fingerprint pinning")
    else .error (providerProtocol (name ++ " port must be positive"))
  else .error (providerProtocol (name ++ " live transport requires https base_url"))

variable (config : LiveTargetConfig)

/-- `base_url.removeprefix("https://")`. -/
def withoutScheme : List Char := config.baseUrl.toList.drop httpsScheme.length

/-- `without_scheme.split("/", 1)[0]`. -/
def netloc : List Char := before '/' config.withoutScheme

/-- `host`, of both classes. -/
def host : String := String.ofList (before ':' config.netloc)

/-- What `_preflight_pin` probes and the HTTP client connects to. -/
def toTarget : TargetConfig := ⟨config.host, config.port, config.certFingerprint⟩

end LiveTargetConfig

/-- `PiKVMTargetConfig.__post_init__`. -/
def PiKVMTargetConfig.init (baseUrl : String) (certFingerprint : Option String) (verifySsl : Bool)
    (port : Int) : Except PyExc LiveTargetConfig :=
  LiveTargetConfig.init "PiKVM" baseUrl certFingerprint verifySsl port

/-- The port that `RedfishTargetConfig` reads after the colon of a netloc. -/
def redfishUrlPort (tables : DigitTables) (portText : List Char) :
    Except PyExc {port : Int // 0 < port} :=
  let refused := providerProtocol "Redfish base_url port must be a positive integer"
  if portText = [] ∨ ¬ portText.all tables.isdigit then .error refused
  else do
    let port ← tables.int portText
    if positive : 0 < port then return ⟨port, positive⟩
    else .error refused

/-- `RedfishTargetConfig.__post_init__`. -/
def RedfishTargetConfig.init (tables : DigitTables) (baseUrl : String)
    (certFingerprint : Option String) (verifySsl : Bool) (port : Int) :
    Except PyExc LiveTargetConfig := do
  let config ← LiveTargetConfig.init "Redfish" baseUrl certFingerprint verifySsl port
  if ':' ∈ config.netloc then
    let ⟨port, positive⟩ ← redfishUrlPort tables (after ':' config.netloc)
    return { config with port, positive }
  else return config

/-! ## Transports -/

/-- `_preflight_pin` of the read transports: nothing is probed where no certificate is pinned. -/
def preflightReadPin (mismatch : PyExc) (config : TargetConfig) (tlsProbe : TLSProbe) :
    Except PyExc (Option String) :=
  if config.certFingerprint.getD "" = "" then .ok none
  else (preflightPin mismatch config tlsProbe).map some

/-- `GETOnlyHTTPSJSONClient`: where the client of a read transport connects to. -/
structure GETOnlyHTTPSJSONClient where
  host : String
  port : Int
  pinnedSha256 : Option String
  verifyTls : Bool

/-- The construction of a live read transport: its preflight, and the client its factory builds. -/
def openReadTransport (mismatch : PyExc) (config : LiveTargetConfig) (tlsProbe : TLSProbe) :
    Except PyExc GETOnlyHTTPSJSONClient := do
  let trust ← preflightReadPin mismatch config.toTarget tlsProbe
  raiseIf (trust = none ∧ config.verifySsl = false)
    (providerProtocol "unverified TLS without a pinned fingerprint is refused")
  return ⟨config.host, config.port, trust, config.verifySsl⟩

/-! ## What the URLs say -/

/-- The text of a URL. -/
def urlText (url : Url) : String := httpsScheme ++ String.ofList url.render

/-- The port a URL names, or else the port field. -/
def portOr (url : Url) (portField : Int) : Int :=
  match url.portNumber with
  | some port => port
  | none => portField

/-- The host and the port of a configuration are those a URL names, with the port field where it
names no port. -/
def NamesEndpoint (url : Url) (portField : Int) (config : LiveTargetConfig) : Prop :=
  config.host = String.ofList url.host.text
    ∧ config.port = portOr url portField

section Readings

variable {tables : DigitTables} {url : Url} {certFingerprint : Option String} {verifySsl : Bool}
  {portField : Int} {config : LiveTargetConfig}

/-- The checks that do not depend on the URL. -/
def Admitted (certFingerprint : Option String) (verifySsl : Bool) (portField : Int) : Prop :=
  0 < portField ∧ (verifySsl = true ∨ certFingerprint.getD "" ≠ "")

/-- **The transports of a configuration contact the endpoint of a URL**: the client connects there,
and a pinned certificate has been shown there. -/
def ContactsEndpoint (url : Url) (portField : Int) (config : LiveTargetConfig) : Prop :=
  ∀ mismatch tlsProbe client, openReadTransport mismatch config tlsProbe = .ok client →
    (client.host = String.ofList url.host.text ∧ client.port = portOr url portField)
      ∧ ∀ pin, config.certFingerprint = some pin → pin ≠ "" → ∃ shown fingerprint,
        tlsProbe (String.ofList url.host.text) (portOr url portField) = .ok shown
          ∧ normalizeCertFingerprint pin = .ok fingerprint
          ∧ normalizeCertFingerprint shown = .ok fingerprint

/-- **A transport contacts the endpoint of its configuration.** -/
theorem openReadTransport_endpoint (names : NamesEndpoint url portField config) :
    ContactsEndpoint url portField config := by
  intro mismatch tlsProbe client opened
  obtain ⟨host, port⟩ := names
  obtain ⟨trust, preflight, rest⟩ := except_bind_eq_ok.mp opened
  obtain ⟨_, -, same⟩ := except_bind_eq_ok.mp rest
  cases same
  refine ⟨⟨host, port⟩, fun pin pinned filled => ?_⟩
  have isPinned : ¬ config.toTarget.certFingerprint.getD "" = "" := by
    rw [LiveTargetConfig.toTarget, pinned]
    exact filled
  rw [preflightReadPin, if_neg isPinned] at preflight
  cases passed : preflightPin mismatch config.toTarget tlsProbe with
  | error e =>
      rw [passed] at preflight
      cases preflight
  | ok fingerprint =>
      have target : config.toTarget.certFingerprint = some pin := pinned
      obtain ⟨pin', shown, fingerprint, pinned', probed, expected, observed⟩ :=
        pinMatched_of_preflight target passed
      cases pinned.symm.trans pinned'
      refine ⟨shown, fingerprint, ?_, expected, observed⟩
      rw [← host, ← port]
      exact probed

theorem startsWith_urlText : startsWith (urlText url) httpsScheme = true := by
  rw [startsWith, List.isPrefixOf_iff_prefix, urlText, String.toList_append]
  exact List.prefix_append _ _

/-- **An accepted configuration** is what it is given. -/
theorem init_eq_ok {name : String} :
    LiveTargetConfig.init name (urlText url) certFingerprint verifySsl portField = .ok config
      ↔ Admitted certFingerprint verifySsl portField ∧ config.baseUrl = urlText url
        ∧ config.certFingerprint = certFingerprint ∧ config.verifySsl = verifySsl
        ∧ config.port = portField := by
  unfold LiveTargetConfig.init Admitted
  rw [dif_pos startsWith_urlText]
  by_cases positive : 0 < portField
  · by_cases trusted : verifySsl = true ∨ certFingerprint.getD "" ≠ ""
    · rw [dif_pos positive, dif_pos trusted, Except.ok.injEq]
      constructor
      · rintro rfl
        exact ⟨⟨positive, trusted⟩, rfl, rfl, rfl, rfl⟩
      · rintro ⟨-, base, pin, verify, port⟩
        cases config
        cases base
        cases pin
        cases verify
        cases port
        rfl
    · rw [dif_pos positive, dif_neg trusted]
      exact iff_of_false (fun same => by cases same) fun admitted => trusted admitted.1.2
  · rw [dif_neg positive]
    exact iff_of_false (fun same => by cases same) fun admitted => positive admitted.1.1

/-! ## Hosts -/

/-- The URL without its scheme is what the URL's parts are written as. -/
theorem netloc_eq (base : config.baseUrl = urlText url) :
    config.netloc = url.authority ++ before '/' url.tail := by
  have rest : config.withoutScheme = url.render := by
    rw [LiveTargetConfig.withoutScheme, base, urlText, String.toList_append, String.toList_ofList,
      ← String.length_toList, List.drop_left]
  rw [LiveTargetConfig.netloc, rest, Lib.Url.before_slash_render]

/-- **The URLs whose host shows**: the host is a name, and it stands alone before the first slash
and the first colon, or else the user name in front of it is the same text. -/
def HostShows (url : Url) : Prop :=
  match url.host with
  | .ipv6 _ _ _ => False
  | .name text _ =>
      match url.userinfo with
      | some user => ':' ∈ user ∧ before ':' user = text
      | none => url.port ≠ none ∨ url.EndsAtPath

/-- The authority of a URL with a userinfo. -/
theorem authority_userinfo {user : List Char} (userinfo : url.userinfo = some user) :
    url.authority = user ++ '@' :: (url.host.render ++ url.renderPort) := by
  rw [Url.authority, Url.renderUserinfo, userinfo]
  simp

theorem authority_bare (userinfo : url.userinfo = none) :
    url.authority = url.host.render ++ url.renderPort := by
  rw [Url.authority, Url.renderUserinfo, userinfo]
  rfl

/-- What stands in front of a host shows: its userinfo holds a sign no host does. -/
theorem before_colon_userinfo {user rest : List Char} (userinfo : url.userinfo = some user) :
    before ':' (url.authority ++ rest) = url.host.text
      ↔ ':' ∈ user ∧ before ':' user = url.host.text := by
  rw [authority_userinfo userinfo, List.append_assoc]
  by_cases colon : ':' ∈ user
  · rw [(Lib.before_append_of_mem colon).1]
    exact (and_iff_right colon).symm
  · refine iff_of_false (fun same => ?_) fun shows => colon shows.1
    have free : ∀ c ∈ user, c ≠ ':' := fun c member same => colon (same ▸ member)
    rw [Lib.before_append free, List.cons_append, before,
      List.takeWhile_cons_of_pos (by decide)] at same
    have sign : '@' ∈ url.host.text := by
      rw [← same]
      simp
    exact (url.host.text_plain _ sign).1 rfl

/-- **Which hosts are read** is `HostShows`. -/
theorem host_eq_iff (base : config.baseUrl = urlText url) :
    config.host = String.ofList url.host.text ↔ HostShows url := by
  rw [LiveTargetConfig.host, netloc_eq base, String.ofList_inj]
  unfold HostShows
  cases userinfo : url.userinfo with
  | some user =>
      rw [before_colon_userinfo userinfo]
      cases host : url.host with
      | name text plain => rfl
      | ipv6 address plain colon =>
          -- nothing before a colon holds one, and an address does
          refine iff_of_false (fun shows => ?_) id
          have same : before ':' user = address := shows.2
          exact Lib.notMem_before user (same ▸ colon)
  | none =>
      rw [authority_bare userinfo, List.append_assoc]
      cases host : url.host with
      | ipv6 address plain colon =>
          refine iff_of_false (fun same => ?_) id
          rw [UrlHost.render, List.cons_append, List.cons_append, before,
            List.takeWhile_cons_of_pos (by decide)] at same
          have bracket : '[' ∈ (UrlHost.ipv6 address plain colon).text := by
            rw [← same]
            exact List.mem_cons_self
          exact (UrlHost.text_plain _ _ bracket).2 rfl
      | name text plain =>
          have free : ∀ c ∈ text, c ≠ ':' :=
            fun c member same => (plain c member).2 (by simp [same])
          rw [UrlHost.render, Lib.before_append free, UrlHost.text, List.append_right_eq_self]
          cases port : url.port with
          | some digits =>
              rw [Url.renderPort, port, Option.elim_some, List.cons_append, before,
                List.takeWhile_cons_of_neg (by simp)]
              exact iff_of_true rfl (.inl (by simp))
          | none =>
              rw [Url.renderPort, port, Option.elim_none, List.nil_append]
              by_cases ends : url.EndsAtPath
              · rw [Lib.Url.before_slash_tail_of_path ends]
                exact iff_of_true rfl (.inr ends)
              · obtain ⟨c, rest, tail, sign⟩ := Lib.Url.before_slash_tail_of_query ends
                have other : c ≠ ':' := by
                  rintro rfl
                  rcases sign with same | same <;> cases same
                rw [tail, before, List.takeWhile_cons_of_pos (by simpa using other)]
                refine iff_of_false (by simp) ?_
                rintro (named | ends')
                · exact named rfl
                · exact ends ends'

/-! ## Ports -/

/-- A port is read from digits only. -/
theorem redfishUrlPort_eq_ok {portText : List Char} {port : {port : Int // 0 < port}} :
    redfishUrlPort tables portText = .ok port
      ↔ (portText ≠ [] ∧ ∀ c ∈ portText, tables.isdigit c = true)
        ∧ tables.int portText = .ok port.1 := by
  unfold redfishUrlPort
  by_cases digits : portText ≠ [] ∧ ∀ c ∈ portText, tables.isdigit c = true
  · have allDigits : ¬ (portText = [] ∨ ¬ portText.all tables.isdigit = true) := by
      rw [not_or, not_not, List.all_eq_true]
      exact digits
    rw [if_neg allDigits, except_bind_eq_ok]
    constructor
    · rintro ⟨value, read, same⟩
      split_ifs at same
      cases same
      exact ⟨digits, read⟩
    · rintro ⟨-, read⟩
      refine ⟨port.1, read, ?_⟩
      rw [dif_pos port.2]
      rfl
  · have refused : portText = [] ∨ ¬ portText.all tables.isdigit = true := by
      rw [List.all_eq_true]
      by_contra none
      rw [not_or, not_not] at none
      exact digits none
    rw [if_pos refused]
    exact iff_of_false (fun same => by cases same) fun read => digits read.1

/-- Where a sign that is no digit stands after the colon, no port is read. -/
theorem redfishUrlPort_sign {portText : List Char} {c : Char} (member : c ∈ portText)
    (ascii : c.toNat < 128) (sign : c.isDigit = false) (port : {port : Int // 0 < port}) :
    redfishUrlPort tables portText ≠ .ok port := by
  intro read
  have digit := (redfishUrlPort_eq_ok.mp read).1.2 c member
  rw [tables.isdigit_ascii c ascii, sign] at digit
  cases digit

/-- The port a Redfish configuration has after its URL is read. -/
def RedfishPort (tables : DigitTables) (url : Url) (portField port : Int) : Prop :=
  let netloc := url.authority ++ before '/' url.tail
  if ':' ∈ netloc then ∃ read, redfishUrlPort tables (after ':' netloc) = .ok read ∧ port = read.1
  else port = portField

/-- **An accepted Redfish configuration** is what it is given, but for a port in the URL. -/
theorem redfish_init_eq_ok :
    RedfishTargetConfig.init tables (urlText url) certFingerprint verifySsl portField = .ok config
      ↔ Admitted certFingerprint verifySsl portField ∧ config.baseUrl = urlText url
        ∧ config.certFingerprint = certFingerprint ∧ config.verifySsl = verifySsl
        ∧ RedfishPort tables url portField config.port := by
  unfold RedfishTargetConfig.init RedfishPort
  rw [except_bind_eq_ok]
  constructor
  · rintro ⟨first, isFirst, read⟩
    obtain ⟨admitted, base, pin, verify, port⟩ := init_eq_ok.mp isFirst
    rw [netloc_eq base] at read
    by_cases colon : ':' ∈ url.authority ++ before '/' url.tail
    · rw [if_pos colon] at read
      obtain ⟨value, isValue, same⟩ := except_bind_eq_ok.mp read
      cases same
      refine ⟨admitted, base, pin, verify, ?_⟩
      rw [if_pos colon]
      exact ⟨value, isValue, rfl⟩
    · rw [if_neg colon] at read
      cases read
      refine ⟨admitted, base, pin, verify, ?_⟩
      rw [if_neg colon]
      exact port
  · rintro ⟨admitted, base, pin, verify, port⟩
    let first : LiveTargetConfig := { config with port := portField, positive := admitted.1 }
    have netloc : first.netloc = _ := netloc_eq base
    refine ⟨first, init_eq_ok.mpr ⟨admitted, base, pin, verify, rfl⟩, ?_⟩
    rw [netloc]
    by_cases colon : ':' ∈ url.authority ++ before '/' url.tail
    · rw [if_pos colon] at port ⊢
      obtain ⟨value, isValue, same⟩ := port
      refine except_bind_eq_ok.mpr ⟨value, isValue, ?_⟩
      cases config
      cases same
      rfl
    · rw [if_neg colon] at port ⊢
      cases config
      cases port
      rfl

/-! ## Redfish ports -/

/-- After a user name and a colon no port is read: the sign of the userinfo follows. -/
theorem not_redfishPort_userinfo {user : List Char} {port : Int}
    (userinfo : url.userinfo = some user) (colon : ':' ∈ user) :
    ¬ RedfishPort tables url portField port := by
  unfold RedfishPort
  rw [authority_userinfo userinfo, List.append_assoc]
  rw [if_pos (List.mem_append_left _ colon), (Lib.before_append_of_mem colon).2]
  rintro ⟨read, isRead, -⟩
  have sign : '@' ∈ after ':' user ++ ('@' :: (url.host.render ++ url.renderPort)
      ++ before '/' url.tail) := by simp
  exact redfishUrlPort_sign sign (by decide) (by decide) read isRead

section Named

variable {text : List Char} {plain : ∀ c ∈ text, c ∉ Lib.authorityEnds ∧ c ∉ ['@', ':', '[', ']']}

/-- A name with a port is read where only digits follow the colon, and `int` takes them. -/
theorem redfishPort_named {digits : List Char} {port : Int} (userinfo : url.userinfo = none)
    (host : url.host = .name text plain) (named : url.port = some digits) :
    RedfishPort tables url portField port ↔ digits ≠ [] ∧ url.EndsAtPath
      ∧ 0 < port ∧ tables.int digits = .ok port := by
  have free : ∀ c ∈ text, c ≠ ':' := fun c member same => (plain c member).2 (by simp [same])
  have netloc : url.authority ++ before '/' url.tail
      = text ++ ':' :: (digits ++ before '/' url.tail) := by
    rw [authority_bare userinfo, host, Url.renderPort, named, UrlHost.render]
    simp
  unfold RedfishPort
  rw [netloc, if_pos (by simp), Lib.after_separator free]
  by_cases ends : url.EndsAtPath
  · rw [Lib.Url.before_slash_tail_of_path ends, List.append_nil]
    constructor
    · rintro ⟨read, isRead, rfl⟩
      obtain ⟨⟨some, -⟩, value⟩ := redfishUrlPort_eq_ok.mp isRead
      exact ⟨some, ends, read.2, value⟩
    · rintro ⟨some, -, positive, value⟩
      refine ⟨⟨port, positive⟩, redfishUrlPort_eq_ok.mpr ⟨⟨some, fun c member => ?_⟩, value⟩, rfl⟩
      have isDigit := url.portDigits digits named c member
      have ascii : c.toNat < 128 := by
        have range := Char.isDigit_iff_toNat.mp isDigit
        have nine : '9'.toNat = 57 := rfl
        omega
      rw [tables.isdigit_ascii c ascii, isDigit]
  · refine iff_of_false ?_ fun read => ends read.2.1
    rintro ⟨read, isRead, -⟩
    obtain ⟨c, rest, tail, sign⟩ := Lib.Url.before_slash_tail_of_query ends
    have member : c ∈ digits ++ before '/' url.tail := by simp [tail]
    have noDigit : c.toNat < 128 ∧ c.isDigit = false := by
      rcases sign with rfl | rfl <;> exact ⟨by decide, by decide⟩
    exact redfishUrlPort_sign member noDigit.1 noDigit.2 read isRead

/-- A name without a port, with nothing but a path behind it, leaves the port field. -/
theorem redfishPort_bare {port : Int} (userinfo : url.userinfo = none)
    (host : url.host = .name text plain) (unnamed : url.port = none) (ends : url.EndsAtPath) :
    RedfishPort tables url portField port ↔ port = portField := by
  have free : ':' ∉ text := fun member => (plain ':' member).2 (by simp)
  have netloc : url.authority ++ before '/' url.tail = text := by
    rw [authority_bare userinfo, host, Url.renderPort, unnamed, UrlHost.render,
      Lib.Url.before_slash_tail_of_path ends]
    simp
  unfold RedfishPort
  rw [netloc, if_neg free]

end Named

/-- The port a URL names is the port field. -/
def PortKept (url : Url) (portField : Int) : Prop :=
  ∀ port, url.portNumber = some port → (port : Int) = portField

/-- **The URLs that both classes accept and read**: no userinfo stands in front of the host, which
is a name, nothing but a path follows the authority, and a port is not left empty and has no more
digits than `int` takes. -/
def PlainAuthority (tables : DigitTables) (url : Url) : Prop :=
  url.userinfo = none ∧ (∃ text plain, url.host = .name text plain) ∧ url.EndsAtPath
    ∧ ∀ digits, url.port = some digits → digits ≠ [] ∧ ∃ value, tables.int digits = .ok value

/-- The name of a host that shows. -/
theorem HostShows.named (shows : HostShows url) : ∃ text plain, url.host = .name text plain := by
  unfold HostShows at shows
  cases host : url.host with
  | name text plain => exact ⟨text, plain, rfl⟩
  | ipv6 address plain colon =>
      rw [host] at shows
      exact shows.elim

/-- **Where the host shows, a Redfish configuration has the port of the URL.** -/
theorem HostShows.redfishPort (shows : HostShows url) {port : Int}
    (read : RedfishPort tables url portField port) :
    port = portOr url portField := by
  obtain ⟨text, plain, host⟩ := shows.named
  unfold HostShows at shows
  rw [host] at shows
  cases userinfo : url.userinfo with
  | some user =>
      rw [userinfo] at shows
      exact absurd read (not_redfishPort_userinfo userinfo shows.1)
  | none =>
      rw [userinfo] at shows
      cases named : url.port with
      | some digits =>
          obtain ⟨some, -, -, value⟩ := (redfishPort_named userinfo host named).mp read
          rw [portOr, Url.portNumber, named, Option.bind_some, if_neg some]
          exact tables.int_ascii digits port (url.portDigits digits named) value
      | none =>
          have ends := shows.resolve_left fun other => other named
          rw [(redfishPort_bare userinfo host named ends).mp read, portOr, Url.portNumber, named]
          rfl

/-- **Where the host shows and the port is the port field, Redfish accepts plain authorities only.**
-/
theorem HostShows.redfishPort_iff (shows : HostShows url) (kept : PortKept url portField)
    (positive : 0 < portField) :
    (∃ port, RedfishPort tables url portField port) ↔ PlainAuthority tables url := by
  obtain ⟨text, plain, host⟩ := shows.named
  unfold HostShows at shows
  rw [host] at shows
  unfold PlainAuthority
  cases userinfo : url.userinfo with
  | some user =>
      rw [userinfo] at shows
      refine iff_of_false ?_ fun plain => by cases plain.1
      rintro ⟨port, read⟩
      exact not_redfishPort_userinfo userinfo shows.1 read
  | none =>
      rw [userinfo] at shows
      cases named : url.port with
      | some digits =>
          simp only [redfishPort_named userinfo host named]
          constructor
          · rintro ⟨port, some, ends, -, value⟩
            refine ⟨trivial, ⟨text, plain, host⟩, ends, ?_⟩
            rintro _ ⟨⟩
            exact ⟨some, port, value⟩
          · rintro ⟨-, -, ends, taken⟩
            obtain ⟨some, value, isValue⟩ := taken digits rfl
            have number : url.portNumber = .some (decimalValue digits) := by
              rw [Url.portNumber, named, Option.bind_some, if_neg some]
            refine ⟨value, some, ends, ?_, isValue⟩
            rw [tables.int_ascii digits value (url.portDigits digits named) isValue, kept _ number]
            exact positive
      | none =>
          have ends := shows.resolve_left fun other => other named
          exact iff_of_true ⟨portField, (redfishPort_bare userinfo host named ends).mpr rfl⟩
            ⟨rfl, ⟨text, plain, host⟩, ends, fun _ unnamed => by cases unnamed⟩

/-! ## URLs -/

/-- **A URL that is read correctly**: every configuration that accepts it has the host and the port
it names, its transports contact them, and the two classes agree. -/
def UrlRead (tables : DigitTables) (url : Url) (certFingerprint : Option String) (verifySsl : Bool)
    (portField : Int) : Prop :=
  (∀ config, PiKVMTargetConfig.init (urlText url) certFingerprint verifySsl portField = .ok config →
      NamesEndpoint url portField config ∧ ContactsEndpoint url portField config)
    ∧ (∀ config, RedfishTargetConfig.init tables (urlText url) certFingerprint verifySsl portField
        = .ok config → NamesEndpoint url portField config ∧ ContactsEndpoint url portField config)
    ∧ ∀ config config',
      PiKVMTargetConfig.init (urlText url) certFingerprint verifySsl portField = .ok config →
      RedfishTargetConfig.init tables (urlText url) certFingerprint verifySsl portField
        = .ok config' →
      config.toTarget = config'.toTarget

/-- Either both classes accept a URL or neither does. -/
def AcceptedAlike (tables : DigitTables) (url : Url) (certFingerprint : Option String)
    (verifySsl : Bool) (portField : Int) : Prop :=
  (∃ config, PiKVMTargetConfig.init (urlText url) certFingerprint verifySsl portField = .ok config)
    ↔ ∃ config, RedfishTargetConfig.init tables (urlText url) certFingerprint verifySsl portField
      = .ok config

/-- A PiKVM configuration names the endpoint of its URL where the host shows and the port is kept.
-/
theorem pikvm_reads_iff :
    (∀ config,
        PiKVMTargetConfig.init (urlText url) certFingerprint verifySsl portField = .ok config →
        NamesEndpoint url portField config)
      ↔ (Admitted certFingerprint verifySsl portField →
        HostShows url ∧ PortKept url portField) := by
  have kept : portField = portOr url portField
      ↔ PortKept url portField := by
    unfold PortKept portOr
    cases url.portNumber with
    | none => exact iff_of_true rfl fun _ same => by cases same
    | some port =>
        constructor
        · rintro same _ ⟨⟩
          exact same.symm
        · exact fun kept => (kept port rfl).symm
  constructor
  · intro reads admitted
    have names := reads ⟨urlText url, certFingerprint, verifySsl, portField, startsWith_urlText,
      admitted.1, admitted.2⟩ (init_eq_ok.mpr ⟨admitted, rfl, rfl, rfl, rfl⟩)
    exact ⟨(host_eq_iff rfl).mp names.1, kept.mp names.2⟩
  · intro shown config accepted
    obtain ⟨admitted, base, -, -, port⟩ := init_eq_ok.mp accepted
    obtain ⟨shows, isKept⟩ := shown admitted
    refine ⟨(host_eq_iff base).mpr shows, ?_⟩
    rw [port]
    exact kept.mpr isKept

/-- Where the host shows, a Redfish configuration names the endpoint of its URL. -/
theorem redfish_reads (shows : HostShows url)
    (accepted : RedfishTargetConfig.init tables (urlText url) certFingerprint verifySsl portField
      = .ok config) : NamesEndpoint url portField config := by
  obtain ⟨-, base, -, -, port⟩ := redfish_init_eq_ok.mp accepted
  exact ⟨(host_eq_iff base).mpr shows, shows.redfishPort port⟩

/-- A plain authority shows its host. -/
theorem PlainAuthority.shows (plain : PlainAuthority tables url) : HostShows url := by
  obtain ⟨userinfo, ⟨text, _, host⟩, ends, -⟩ := plain
  unfold HostShows
  rw [host, userinfo]
  exact .inr ends

/-- **Every class reads a URL correctly** where its host shows and its port is the port field. -/
theorem urlRead_iff :
    UrlRead tables url certFingerprint verifySsl portField
      ↔ (Admitted certFingerprint verifySsl portField →
        HostShows url ∧ PortKept url portField) := by
  constructor
  · exact fun read => pikvm_reads_iff.mp fun config accepted => (read.1 config accepted).1
  · intro shown
    have pikvm := pikvm_reads_iff.mpr shown
    have redfish {config : LiveTargetConfig}
        (accepted : RedfishTargetConfig.init tables (urlText url) certFingerprint verifySsl
          portField = .ok config) : NamesEndpoint url portField config := by
      obtain ⟨admitted, -⟩ := redfish_init_eq_ok.mp accepted
      exact redfish_reads (shown admitted).1 accepted
    have contacts {config : LiveTargetConfig} (names : NamesEndpoint url portField config) :
        NamesEndpoint url portField config ∧ ContactsEndpoint url portField config :=
      ⟨names, openReadTransport_endpoint names⟩
    refine ⟨fun config accepted => contacts (pikvm config accepted),
      fun config accepted => contacts (redfish accepted),
      fun config config' accepted accepted' => ?_⟩
    obtain ⟨host, port⟩ := pikvm config accepted
    obtain ⟨host', port'⟩ := redfish accepted'
    obtain ⟨-, -, pin, -⟩ := init_eq_ok.mp accepted
    obtain ⟨-, -, pin', -⟩ := redfish_init_eq_ok.mp accepted'
    rw [LiveTargetConfig.toTarget, LiveTargetConfig.toTarget, host, host', port, port', pin, pin']

/-- What is admitted is accepted as a PiKVM target. -/
theorem pikvm_accepts_iff :
    (∃ config,
        PiKVMTargetConfig.init (urlText url) certFingerprint verifySsl portField = .ok config)
      ↔ Admitted certFingerprint verifySsl portField := by
  constructor
  · rintro ⟨config, accepted⟩
    exact (init_eq_ok.mp accepted).1
  · intro admitted
    exact ⟨⟨urlText url, certFingerprint, verifySsl, portField, startsWith_urlText, admitted.1,
      admitted.2⟩, init_eq_ok.mpr ⟨admitted, rfl, rfl, rfl, rfl⟩⟩

/-- What is admitted is accepted as a Redfish target where a port can be read. -/
theorem redfish_accepts_iff :
    (∃ config, RedfishTargetConfig.init tables (urlText url) certFingerprint verifySsl portField
        = .ok config)
      ↔ Admitted certFingerprint verifySsl portField
        ∧ ∃ port, 0 < port ∧ RedfishPort tables url portField port := by
  constructor
  · rintro ⟨config, accepted⟩
    obtain ⟨admitted, -, -, -, port⟩ := redfish_init_eq_ok.mp accepted
    exact ⟨admitted, config.port, config.positive, port⟩
  · rintro ⟨admitted, port, positive, read⟩
    exact ⟨⟨urlText url, certFingerprint, verifySsl, port, startsWith_urlText, positive,
      admitted.2⟩, redfish_init_eq_ok.mpr ⟨admitted, rfl, rfl, rfl, read⟩⟩

/-- **The URLs that are read correctly** are those whose host shows and whose port is the port
field; of these, both classes accept the ones with a plain authority. -/
theorem urls_read_iff (tables : DigitTables) (url : Url) (certFingerprint : Option String)
    (verifySsl : Bool) (portField : Int) :
    (UrlRead tables url certFingerprint verifySsl portField
        ↔ (Admitted certFingerprint verifySsl portField → HostShows url ∧ PortKept url portField))
      ∧ (UrlRead tables url certFingerprint verifySsl portField
          ∧ AcceptedAlike tables url certFingerprint verifySsl portField
        ↔ (Admitted certFingerprint verifySsl portField →
          PlainAuthority tables url ∧ PortKept url portField)) := by
  refine ⟨urlRead_iff, ?_⟩
  unfold AcceptedAlike
  rw [urlRead_iff, pikvm_accepts_iff, redfish_accepts_iff]
  constructor
  · rintro ⟨shown, alike⟩ admitted
    obtain ⟨shows, kept⟩ := shown admitted
    obtain ⟨-, port, -, read⟩ := alike.mp admitted
    exact ⟨(shows.redfishPort_iff kept admitted.1).mp ⟨port, read⟩, kept⟩
  · intro plain
    refine ⟨fun admitted => ⟨(plain admitted).1.shows, (plain admitted).2⟩, fun admitted => ?_,
      fun accepted => accepted.1⟩
    obtain ⟨authority, kept⟩ := plain admitted
    obtain ⟨port, read⟩ := (authority.shows.redfishPort_iff kept admitted.1).mpr authority
    refine ⟨admitted, port, ?_, read⟩
    -- the port is the port field
    have named := authority.shows.redfishPort read
    rw [named, portOr]
    cases number : url.portNumber with
    | none => exact admitted.1
    | some value =>
        dsimp only
        rw [kept value number]
        exact admitted.1

end Readings

namespace Deployment

/-- `int` of ASCII digits. -/
def asciiInt (digits : List Char) : Except PyExc Int :=
  if digits = [] ∨ ¬ digits.all Char.isDigit then
    .error (.valueError "invalid literal for int() with base 10")
  else if 4300 < digits.length then
    .error (.valueError "Exceeds the limit (4300 digits) for integer string conversion")
  else .ok (decimalValue digits)

theorem asciiInt_value (digits : List Char) (value : Int) (_ : ∀ c ∈ digits, c.isDigit = true)
    (taken : asciiInt digits = .ok value) : value = decimalValue digits := by
  unfold asciiInt at taken
  split_ifs at taken
  exact (Except.ok.inj taken).symm

/-- Digits are ASCII digits. -/
def asciiDigits : DigitTables where
  isdigit := Char.isDigit
  int := asciiInt
  isdigit_ascii _ _ := rfl
  int_ascii := asciiInt_value

/-- `https://pikvm.example:8443/`. -/
def portUrl : Url where
  userinfo := none
  host := .name "pikvm.example".toList fun c member => by
    have plain : ("pikvm.example".toList.all fun c => !(c ∈ Lib.authorityEnds)
      && !(c ∈ ['@', ':', '[', ']'])) = true := by decide
    simpa using List.all_eq_true.mp plain c member
  port := some "8443".toList
  path := ['/']
  query := none
  fragment := none
  userinfoPlain := nofun
  portDigits := by
    rintro _ ⟨⟩
    exact List.all_eq_true.mp (by decide)
  rooted := .inr ⟨[], rfl⟩
  pathPlain := by simp
  queryPlain := nofun

end Deployment

/-- A port in the URL of a PiKVM target is ignored. -/
theorem not_urls_read :
    ¬ ∀ (tables : DigitTables) (url : Url) (certFingerprint : Option String) (verifySsl : Bool)
      (portField : Int), UrlRead tables url certFingerprint verifySsl portField := by
  intro reads
  have read := reads Deployment.asciiDigits Deployment.portUrl none true 443
  have kept := (urlRead_iff.mp read ⟨by decide, .inl rfl⟩).2
  have number : Deployment.portUrl.portNumber = some 8443 := by decide
  exact absurd (kept 8443 number) (by decide)

end AgenticKVM
