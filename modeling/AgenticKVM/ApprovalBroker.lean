import AgenticKVM.Clearance
import AgenticKVM.Grants
import AgenticKVM.Redaction
import AgenticKVM.Lib.Loops

/-! # The approval broker

The approval requests of the broker (`approval_broker.py`) and the operator messages that they and
the clearance requests carry. Both builders of a message replace double periods in a loop. The loop
always stops, and what it leaves is the text with every maximal run of periods collapsed to one
(`loopEnds_collapseRuns`), so that the constructors that refuse double periods take every built
message. -/

namespace AgenticKVM

open Lib (LoopEnds except_bind_eq_ok except_ok_bind)

/-! ## Runs of periods

What the loop is for, said without the loop. -/

/-- **Collapsed runs**: the result is the text with each maximal run of periods made one period and
every other character as it was. -/
inductive RunsCollapsed : List Char → List Char → Prop
  | nil : RunsCollapsed [] []
  | other {c : Char} {text result : List Char} (ne : c ≠ '.') (rest : RunsCollapsed text result) :
      RunsCollapsed (c :: text) (c :: result)
  | run {text result : List Char} (n : Nat) (maximal : text.head? ≠ some '.')
      (rest : RunsCollapsed text result) :
      RunsCollapsed (List.replicate (n + 1) '.' ++ text) ('.' :: result)

/-- The text without the periods that another period follows. -/
def collapseRuns : List Char → List Char
  | [] => []
  | c :: rest =>
      if c = '.' ∧ rest.head? = some '.' then collapseRuns rest else c :: collapseRuns rest

/-- `".." in text` looks for two adjacent periods. -/
theorem hasDoubleDot_iff {text : List Char} : hasDoubleDot text = true ↔ ['.', '.'] <:+: text := by
  fun_induction hasDoubleDot text with
  | case1 rest => simpa using (List.prefix_append ['.', '.'] rest).isInfix
  | case2 c rest ne ih =>
      rw [ih, List.infix_cons_iff]
      constructor
      · exact Or.inr
      · intro found
        rcases found with start | found
        · -- the first character begins no double period here
          obtain ⟨tail, eq⟩ := start
          rw [List.cons_append, List.cons_append, List.nil_append] at eq
          injection eq with head rest'
          exact absurd rest'.symm (ne tail head.symm)
        · exact found
  | case3 => simp

/-- A second period joins the run that the first one begins. -/
theorem RunsCollapsed.cons_dot {text result : List Char}
    (collapsed : RunsCollapsed ('.' :: text) result) :
    RunsCollapsed ('.' :: '.' :: text) result := by
  generalize begun : '.' :: text = whole at collapsed
  cases collapsed with
  | nil => cases begun
  | other ne rest =>
      injection begun with head _
      exact absurd head.symm ne
  | @run text' result' n maximal rest =>
      have longer : '.' :: (List.replicate (n + 1) '.' ++ text')
          = List.replicate (n + 1 + 1) '.' ++ text' := by
        rw [← List.cons_append, ← List.replicate_succ]
      rw [longer]
      exact .run (n + 1) maximal rest

/-- **The function computes the relation.** -/
theorem runsCollapsed_collapseRuns (text : List Char) :
    RunsCollapsed text (collapseRuns text) := by
  induction text with
  | nil => exact .nil
  | cons c rest ih =>
      unfold collapseRuns
      by_cases joins : c = '.' ∧ rest.head? = some '.'
      · rw [if_pos joins]
        obtain ⟨rfl, next⟩ := joins
        obtain ⟨after, rfl⟩ := List.head?_eq_some_iff.mp next
        exact ih.cons_dot
      · rw [if_neg joins]
        by_cases dot : c = '.'
        · subst dot
          have last : rest.head? ≠ some '.' := fun next => joins ⟨rfl, next⟩
          exact .run 0 last ih
        · exact .other dot ih

/-! ## The loop

One round keeps what the text collapses to, and makes it shorter. -/

@[simp] theorem head?_replaceDoubleDots (text : List Char) :
    (replaceDoubleDots text).head? = text.head? := by
  fun_cases replaceDoubleDots text <;> simp

/-- **One round** does not change what the text collapses to. -/
theorem collapseRuns_replaceDoubleDots (text : List Char) :
    collapseRuns (replaceDoubleDots text) = collapseRuns text := by
  fun_induction replaceDoubleDots text with
  | case1 rest ih => simp [collapseRuns, ih]
  | case2 c rest _ ih => simp [collapseRuns, ih]
  | case3 => rfl

/-- A text without a double period has nothing to collapse. -/
theorem collapseRuns_of_single {text : List Char} (single : hasDoubleDot text = false) :
    collapseRuns text = text := by
  fun_induction hasDoubleDot text with
  | case1 rest => cases single
  | case2 c rest ne ih =>
      have alone : ¬ (c = '.' ∧ rest.head? = some '.') := by
        rintro ⟨rfl, next⟩
        obtain ⟨after, rfl⟩ := List.head?_eq_some_iff.mp next
        exact ne after rfl rfl
      rw [collapseRuns, if_neg alone, ih single]
  | case3 => rfl

/-- The loop of both builders: `while ".." in message: message = message.replace("..", ".")`. -/
abbrev DotsReplaced : List Char → List Char → Prop := LoopEnds hasDoubleDot replaceDoubleDots

/-- **The loop stops**, in the text with its runs of periods collapsed. -/
theorem loopEnds_collapseRuns (text : List Char) : DotsReplaced text (collapseRuns text) := by
  have shrinks : ∀ text, hasDoubleDot text = true →
      (replaceDoubleDots text).length < text.length := by
    intro text double
    have shorter := length_replaceDoubleDots text
    rw [if_pos double] at shorter
    omega
  obtain ⟨last, ends⟩ := LoopEnds.exists_of_shrinks List.length shrinks text
  have collapsed : collapseRuns last = collapseRuns text :=
    ends.kept fun text _ => collapseRuns_replaceDoubleDots text
  have stays : collapseRuns last = last := collapseRuns_of_single ends.guard_eq_false
  rw [← collapsed, stays]
  exact ends

/-- With enough rounds the counted loop is the loop. -/
theorem loopEnds_collapseDots {fuel : Nat} {text : List Char} (enough : text.length ≤ fuel) :
    DotsReplaced text (collapseDots fuel text) := by
  induction fuel generalizing text with
  | zero =>
      rw [List.length_eq_zero_iff.mp (Nat.le_zero.mp enough)]
      exact .stop rfl
  | succ fuel ih =>
      unfold collapseDots
      by_cases double : hasDoubleDot text = true
      · rw [if_pos double]
        have shorter := length_replaceDoubleDots text
        rw [if_pos double] at shorter
        exact .round double (ih (by omega))
      · rw [if_neg double]
        exact .stop (by simpa using double)

/-! ## Messages -/

/-- The message of a clearance request before its double periods are replaced. -/
def clearanceText (shortCode capability target provider intendedEffect riskSummary : String) :
    List Char :=
  ["Clearance ", shortCode, " required for ", capability, " on target ", target,
    " through provider ", provider, ". Intended effect: ", intendedEffect, ". Risk: ", riskSummary,
    ". Surface this code to the operator and retry with identical parameters after approval."
    ].flatMap String.toList

/-- The message of an approval request before its double periods are replaced. -/
def approvalText (shortCode capability target provider intendedEffect riskSummary : String) :
    List Char :=
  ["Approval ", shortCode, " required for ", capability, " on target ", target,
    " through provider ", provider, ". Intended effect: ", intendedEffect, ". Risk: ", riskSummary,
    ". Surface this code to the operator and retry with identical parameters after approval."
    ].flatMap String.toList

/-- `_operator_message` of the broker. -/
def operatorMessage (shortCode capability target provider intendedEffect riskSummary : String) :
    String :=
  let text := approvalText shortCode capability target provider intendedEffect riskSummary
  String.ofList (collapseDots text.length text)

/-- The broker's message is what its loop leaves. -/
theorem dotsReplaced_operatorMessage (shortCode capability target provider intendedEffect
    riskSummary : String) :
    DotsReplaced (approvalText shortCode capability target provider intendedEffect riskSummary)
      (operatorMessage shortCode capability target provider intendedEffect riskSummary).toList := by
  simp only [operatorMessage, String.toList_ofList]
  exact loopEnds_collapseDots le_rfl

/-- The message of a clearance request is what its loop leaves. -/
theorem dotsReplaced_buildOperatorMessage (shortCode capability target provider intendedEffect
    riskSummary : String) :
    DotsReplaced (clearanceText shortCode capability target provider intendedEffect riskSummary)
      (buildOperatorMessage shortCode capability target provider intendedEffect
        riskSummary).toList := by
  simp only [buildOperatorMessage, String.toList_ofList]
  exact loopEnds_collapseDots le_rfl

/-! ## Clearance messages -/

/-- `ClearanceOperatorMessage`: a message that is not empty and has no double period. -/
structure ClearanceOperatorMessage where
  value : String
  present : value ≠ ""
  single : hasDoubleDot value.toList = false

/-- `ClearanceOperatorMessage.__new__`. -/
def ClearanceOperatorMessage.new (value : String) : Except PyExc ClearanceOperatorMessage :=
  if present : value ≠ "" then
    if single : hasDoubleDot value.toList = false then .ok ⟨value, present, single⟩
    else .error (.valueError "operator message must not contain double periods")
  else .error (.valueError "clearance operator_message is required")

/-- Every message that is built for a clearance request makes a `ClearanceOperatorMessage`. -/
theorem ClearanceOperatorMessage.new_buildOperatorMessage (shortCode capability target provider
    intendedEffect riskSummary : String) :
    ∃ message, new (buildOperatorMessage shortCode capability target provider intendedEffect
        riskSummary) = .ok message ∧
      message.value = buildOperatorMessage shortCode capability target provider intendedEffect
        riskSummary := by
  have present := buildOperatorMessage_ne shortCode capability target provider intendedEffect
    riskSummary
  have single := buildOperatorMessage_noDoubleDot shortCode capability target provider
    intendedEffect riskSummary
  unfold new
  rw [dif_pos present, dif_pos single]
  exact ⟨_, rfl, rfl⟩

/-! ## Broker requests -/

/-- `DEFAULT_APPROVAL_TIMEOUT_SECONDS`. -/
def defaultApprovalTimeoutSeconds : Int := 20

/-- `ApprovalRiskSummary`: its risk family and its summary are present. -/
structure ApprovalRiskSummary where
  riskFamily : String
  summary : String
  materialRisks : List String
  familyPresent : riskFamily ≠ ""
  summarized : summary ≠ ""

/-- `ApprovalRiskSummary.__post_init__`. -/
def ApprovalRiskSummary.init (riskFamily summary : String) (materialRisks : List String) :
    Except PyExc ApprovalRiskSummary :=
  if familyPresent : riskFamily ≠ "" then
    if summarized : summary ≠ "" then
      .ok ⟨riskFamily, summary, materialRisks, familyPresent, summarized⟩
    else .error (.valueError "risk summary is required")
  else .error (.valueError "risk family is required")

/-- `value.replace("-", "").isalnum()`: no character but letters, digits and hyphens, and one that
is not a hyphen. -/
def alphanumericOrHyphenated (lib : AuditLibrary) (value : String) : Bool :=
  let kept := value.toList.filter (· ≠ '-')
  !kept.isEmpty && kept.all lib.isalnum

/-- `ApprovalShortCode`: a code of letters, digits and hyphens. -/
structure ApprovalShortCode (lib : AuditLibrary) where
  value : String
  present : value ≠ ""
  shaped : alphanumericOrHyphenated lib value = true

/-- `ApprovalShortCode.__post_init__`. -/
def ApprovalShortCode.init (lib : AuditLibrary) (value : String) :
    Except PyExc (ApprovalShortCode lib) :=
  if present : value ≠ "" then
    if shaped : alphanumericOrHyphenated lib value = true then .ok ⟨value, present, shaped⟩
    else .error (.valueError "short code must be alphanumeric or hyphenated")
  else .error (.valueError "short code is required")

/-- The fields of a broker request. -/
structure BrokerApprovalFields (lib : AuditLibrary) where
  requestId : String
  sessionId : String
  target : String
  provider : String
  capability : String
  paramsFingerprint : String
  riskSummary : ApprovalRiskSummary
  channel : ApprovalChannel
  shortCode : ApprovalShortCode lib
  operatorMessage : String
  retryInstructions : String
  createdAt : Datetime
  expiresAt : Datetime
  timeoutSeconds : Int

namespace BrokerApprovalFields

variable {lib : AuditLibrary}

/-- What the constructor checks besides the message. -/
structure Timely (fields : BrokerApprovalFields lib) : Prop where
  bounded : fields.timeoutSeconds ≤ defaultApprovalTimeoutSeconds
  aware : fields.createdAt.aware = true ∧ fields.expiresAt.aware = true
  ordered : Datetime.le fields.expiresAt fields.createdAt = .ok false

/-- The fields with another message. -/
def withMessage (fields : BrokerApprovalFields lib) (message : String) :
    BrokerApprovalFields lib :=
  { fields with operatorMessage := message }

/-- The other checks do not read the message. -/
theorem timely_withMessage {fields : BrokerApprovalFields lib} (message : String) :
    (fields.withMessage message).Timely ↔ fields.Timely := by
  constructor <;> exact fun timely => ⟨timely.bounded, timely.aware, timely.ordered⟩

end BrokerApprovalFields

/-- `BrokerApprovalRequest`: checked request metadata. -/
structure BrokerApprovalRequest (lib : AuditLibrary) extends BrokerApprovalFields lib where
  timely : toBrokerApprovalFields.Timely
  single : hasDoubleDot operatorMessage.toList = false

section Requests

variable {lib : AuditLibrary}

/-- `BrokerApprovalRequest.__post_init__`. -/
def BrokerApprovalFields.postInit (fields : BrokerApprovalFields lib) :
    Except PyExc (BrokerApprovalRequest lib) :=
  if bounded : fields.timeoutSeconds ≤ defaultApprovalTimeoutSeconds then
    if aware : fields.createdAt.aware = true ∧ fields.expiresAt.aware = true then
      match ordered : Datetime.le fields.expiresAt fields.createdAt with
      | .error e => .error e
      | .ok true => .error (.valueError "approval request expiry must be after creation")
      | .ok false =>
          if single : hasDoubleDot fields.operatorMessage.toList = false then
            .ok ⟨fields, ⟨bounded, aware, ordered⟩, single⟩
          else .error (.valueError "operator message must not contain double periods")
    else .error (.valueError "approval timestamps must be timezone-aware")
  else .error
    (.valueError "approval timeout cannot exceed default maximum without explicit policy")

/-- The constructor keeps the fields it is given. -/
theorem BrokerApprovalFields.postInit_ok {fields : BrokerApprovalFields lib}
    {request : BrokerApprovalRequest lib} (made : fields.postInit = .ok request) :
    request.toBrokerApprovalFields = fields := by
  unfold postInit at made
  split_ifs at made
  · split at made
    · cases made
    · cases made
    · cases made
      rfl
  · split at made <;> cases made

/-- With a message that has no double period, a request is made exactly of timely fields. -/
theorem BrokerApprovalFields.postInit_iff {fields : BrokerApprovalFields lib}
    (single : hasDoubleDot fields.operatorMessage.toList = false) :
    (∃ request, fields.postInit = .ok request) ↔ fields.Timely := by
  constructor
  · rintro ⟨request, made⟩
    rw [← postInit_ok made]
    exact request.timely
  · intro timely
    unfold postInit
    rw [dif_pos timely.bounded, dif_pos timely.aware]
    split
    · next raised => exact absurd (raised.symm.trans timely.ordered) (by simp)
    · next late => exact absurd (late.symm.trans timely.ordered) (by simp)
    · rw [dif_pos single]
      exact ⟨_, rfl⟩

/-- `ApprovalBroker`: its timeout is not negative and at most the default maximum. -/
structure ApprovalBroker where
  timeoutSeconds : Int
  nonnegative : 0 ≤ timeoutSeconds
  bounded : timeoutSeconds ≤ defaultApprovalTimeoutSeconds

/-- `ApprovalBroker.__init__`. -/
def ApprovalBroker.init (timeoutSeconds : Int) : Except PyExc ApprovalBroker :=
  if nonnegative : 0 ≤ timeoutSeconds then
    if bounded : timeoutSeconds ≤ defaultApprovalTimeoutSeconds then
      .ok ⟨timeoutSeconds, nonnegative, bounded⟩
    else .error
      (.valueError "approval timeout cannot exceed default maximum without explicit policy")
  else .error (.valueError "approval timeout cannot be negative")

/-- What `request_approval` is given, besides the id its factory makes. -/
structure ApprovalInputs where
  sessionId : String
  target : String
  provider : String
  capability : String
  parameters : Params
  riskFamily : String
  riskSummary : String
  materialRisks : List String
  intendedEffect : String
  now : Datetime
  expiresAt : Datetime
  channel : ApprovalChannel

/-- `_short_code` of the broker, which computes what the one of the clearance client does. -/
def brokerShortCode (std : Stdlib) (requestId paramsFingerprint : String) : String :=
  localShortCode std requestId paramsFingerprint

/-- `ApprovalBroker.request_approval`. -/
def ApprovalBroker.requestApproval (broker : ApprovalBroker) (inputs : ApprovalInputs)
    (requestId : String) : Except PyExc (BrokerApprovalRequest lib) := do
  let paramsFingerprint ← fingerprintParameters lib.toStdlib inputs.parameters
  let shortCode ←
    ApprovalShortCode.init lib (brokerShortCode lib.toStdlib requestId paramsFingerprint)
  let riskSummary ←
    ApprovalRiskSummary.init inputs.riskFamily inputs.riskSummary inputs.materialRisks
  let createdAt ← inputs.now.astimezoneUtc lib.toStdlib
  let expiresAt ← inputs.expiresAt.astimezoneUtc lib.toStdlib
  BrokerApprovalFields.postInit
    { requestId
      sessionId := inputs.sessionId
      target := inputs.target
      provider := inputs.provider
      capability := inputs.capability
      paramsFingerprint
      riskSummary
      channel := inputs.channel
      shortCode
      operatorMessage := operatorMessage shortCode.value inputs.capability inputs.target
        inputs.provider inputs.intendedEffect inputs.riskSummary
      retryInstructions := "After operator approval, re-call the same tool with identical " ++
        "target, provider, capability, and parameters."
      createdAt
      expiresAt
      timeoutSeconds := broker.timeoutSeconds }

end Requests

/-! ## The builders and the constructors -/

/-- **Operator messages**: on every text the loop of the builders stops, in one state only, which
has no two adjacent periods and is the text with each maximal run of periods collapsed to one. The
builders return what their loop leaves, and the constructors that refuse double periods take it: a
clearance message is always made, and a broker request exactly of timely fields. -/
theorem operatorMessages_accepted :
    (∀ text : String, ∃ result, DotsReplaced text.toList result ∧
      (∀ other, DotsReplaced text.toList other → other = result) ∧
      ¬ ['.', '.'] <:+: result ∧ RunsCollapsed text.toList result) ∧
    (∀ shortCode capability target provider intendedEffect riskSummary : String,
      DotsReplaced (clearanceText shortCode capability target provider intendedEffect riskSummary)
        (buildOperatorMessage shortCode capability target provider intendedEffect
          riskSummary).toList ∧
      ∃ message, ClearanceOperatorMessage.new (buildOperatorMessage shortCode capability target
          provider intendedEffect riskSummary) = .ok message) ∧
    (∀ shortCode capability target provider intendedEffect riskSummary : String,
      DotsReplaced (approvalText shortCode capability target provider intendedEffect riskSummary)
        (operatorMessage shortCode capability target provider intendedEffect riskSummary).toList ∧
      ∀ (lib : AuditLibrary) (fields : BrokerApprovalFields lib),
        (∃ request, (fields.withMessage (operatorMessage shortCode capability target provider
          intendedEffect riskSummary)).postInit = .ok request) ↔ fields.Timely) := by
  refine ⟨?_, ?_, ?_⟩
  · intro text
    have ends := loopEnds_collapseRuns text.toList
    refine ⟨_, ends, ?_, ?_, runsCollapsed_collapseRuns _⟩
    · intro other ends'
      exact ends'.unique ends
    · intro adjacent
      have double := hasDoubleDot_iff.mpr adjacent
      rw [ends.guard_eq_false] at double
      cases double
  · intro shortCode capability target provider intendedEffect riskSummary
    obtain ⟨message, made, -⟩ := ClearanceOperatorMessage.new_buildOperatorMessage shortCode
      capability target provider intendedEffect riskSummary
    exact ⟨dotsReplaced_buildOperatorMessage .., message, made⟩
  · intro shortCode capability target provider intendedEffect riskSummary
    refine ⟨dotsReplaced_operatorMessage .., ?_⟩
    intro lib fields
    have single := (dotsReplaced_operatorMessage shortCode capability target provider
      intendedEffect riskSummary).guard_eq_false
    generalize operatorMessage shortCode capability target provider intendedEffect riskSummary
      = message at single
    rw [← BrokerApprovalFields.timely_withMessage message]
    exact BrokerApprovalFields.postInit_iff single

end AgenticKVM
