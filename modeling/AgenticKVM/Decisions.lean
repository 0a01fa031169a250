import AgenticKVM.Python

/-! # Control modes, policy decisions and authorization channels

The vocabulary of the policy core (`decisions.py`) and the selection of the channel that clears an
action (`auth_channel.py`). Selection fails closed: a text that names no channel raises. -/

namespace AgenticKVM

/-- `ControlMode`: the operator-visible control modes. -/
inductive ControlMode
  | observe
  | assisted
  | supervised
  | fullControl
  | custom
deriving DecidableEq

/-- The text of a control mode. -/
def ControlMode.value : ControlMode → String
  | observe => "Observe"
  | assisted => "Assisted"
  | supervised => "Supervised"
  | fullControl => "Full Control"
  | custom => "Custom"

/-- `PolicyDecision`: the internal policy decisions. -/
inductive PolicyDecision
  | deny
  | askEachTime
  | askOncePerSession
  | allow
  | allowWithLimits
deriving DecidableEq

/-- The text of a policy decision. -/
def PolicyDecision.value : PolicyDecision → String
  | deny => "deny"
  | askEachTime => "ask_each_time"
  | askOncePerSession => "ask_once_per_session"
  | allow => "allow"
  | allowWithLimits => "allow_with_limits"

/-- Different decisions have different texts. -/
theorem PolicyDecision.value_injective : Function.Injective PolicyDecision.value := by
  intro d e same
  cases d <;> cases e <;> first | rfl | exact absurd same (by decide)

/-- The decisions that ask the operator. -/
def PolicyDecision.asks : PolicyDecision → Bool
  | askEachTime | askOncePerSession => true
  | deny | allow | allowWithLimits => false

/-- The decisions that execute without asking. -/
def PolicyDecision.allows : PolicyDecision → Bool
  | allow | allowWithLimits => true
  | deny | askEachTime | askOncePerSession => false

/-- A decision that does not deny either asks or allows. -/
theorem PolicyDecision.asks_or_allows {d : PolicyDecision} (ne : d ≠ deny) :
    d.asks = true ∨ d.allows = true := by
  cases d <;> first | exact absurd rfl ne | exact Or.inl rfl | exact Or.inr rfl

/-- No decision both allows and asks. -/
theorem PolicyDecision.asks_eq_false_of_allows {d : PolicyDecision} (allows : d.allows = true) :
    d.asks = false := by
  cases d <;> first | rfl | cases allows

/-- `normalize_control_mode` of a text. -/
def normalizeControlMode (std : Stdlib) (value : String) : Except PyExc ControlMode :=
  let normalized := std.lower (replaceChar '-' ' ' (replaceChar '_' ' ' (strip value)))
  match normalized with
  | "observe" => .ok .observe
  | "assisted" => .ok .assisted
  | "supervised" => .ok .supervised
  | "full control" => .ok .fullControl
  | "fullcontrol" => .ok .fullControl
  | "custom" => .ok .custom
  | _ => .error (.valueError ("Unknown control mode: " ++ value))

/-- `normalize_policy_decision` of a text. -/
def normalizePolicyDecision (value : String) : Except PyExc PolicyDecision :=
  match value with
  | "deny" => .ok .deny
  | "ask_each_time" => .ok .askEachTime
  | "ask_once_per_session" => .ok .askOncePerSession
  | "allow" => .ok .allow
  | "allow_with_limits" => .ok .allowWithLimits
  | _ => .error (.valueError ("Unknown policy decision: " ++ value))

/-- `PolicyDecision(value)`. -/
def PolicyDecision.ofValue (value : String) : Except PyExc PolicyDecision :=
  match value with
  | "deny" => .ok .deny
  | "ask_each_time" => .ok .askEachTime
  | "ask_once_per_session" => .ok .askOncePerSession
  | "allow" => .ok .allow
  | "allow_with_limits" => .ok .allowWithLimits
  | _ => .error (.valueError ("'" ++ value ++ "' is not a valid PolicyDecision"))

/-- A decision is that of its text. -/
theorem PolicyDecision.ofValue_value (d : PolicyDecision) : ofValue d.value = .ok d := by
  cases d <;> rfl

/-- Reading a decision's text gives the decision. -/
theorem normalizePolicyDecision_value (d : PolicyDecision) :
    normalizePolicyDecision d.value = .ok d := by
  cases d <;> rfl

/-! ## Authorization channels -/

/-- `AuthChannel`: how the clearance step is decided. -/
inductive AuthChannel
  | mobileSigned
  | localTerminal
deriving DecidableEq

/-- The text of a channel. -/
def AuthChannel.value : AuthChannel → String
  | mobileSigned => "mobile_signed"
  | localTerminal => "local_terminal"

/-- `DEFAULT_AUTH_CHANNEL`. -/
def defaultAuthChannel : AuthChannel := .mobileSigned

/-- `RECOMMENDED_AUTH_CHANNEL`. -/
def recommendedAuthChannel : AuthChannel := .mobileSigned

/-- `_AUTHORITY_BY_CHANNEL`. -/
def authorityByChannel : AuthChannel → String
  | .mobileSigned => "Agentic Control Tower"
  | .localTerminal => "local signed-grant broker"

/-- `LOCAL_TERMINAL_WARNING`. -/
def localTerminalWarning : String :=
  "local_terminal is a selectable opt-out: clearance is granted by the local " ++
  "signed-grant broker on the agent host rather than the Agentic Control Tower " ++
  "mobile approval. It is less secure and less supported than the recommended " ++
  "mobile_signed (ACT) channel; prefer mobile_signed unless you understand the " ++
  "trade-off."

/-- `AuthChannelSelection`: a resolved channel. -/
structure AuthChannelSelection where
  channel : AuthChannel
  isDefault : Bool
  recommended : Bool
  authority : String
  warning : Option String
deriving DecidableEq

/-- What `resolve_auth_channel` accepts: `None`, a channel or any other value, by its `str` and its
`repr`. -/
inductive AuthChannelInput
  | none
  | channel (channel : AuthChannel)
  | text (str repr : String)

/-- `resolve_auth_channel`. -/
def resolveAuthChannel (std : Stdlib) (value : AuthChannelInput)
    (default : AuthChannel) : Except PyExc AuthChannelSelection := do
  let channel ← match value with
    | .none => pure default
    | .channel channel => pure channel
    | .text str repr =>
        match std.lower (strip str) with
        | "mobile_signed" => pure .mobileSigned
        | "local_terminal" => pure .localTerminal
        | _ => .error (.valueError
            ("unknown auth_channel " ++ repr ++ "; choose one of: local_terminal, mobile_signed"))
  let recommended := decide (channel = recommendedAuthChannel)
  pure
    { channel
      isDefault := decide (channel = default)
      recommended
      authority := authorityByChannel channel
      warning := if recommended then none else some localTerminalWarning }

end AgenticKVM
