import AgenticKVM.EngineExecution

/-! # Requests cleared by the approval store

With no client wired and no signed grant presented, the approval store decides an ask-class request.
Where the audit sink records every event the whole run follows from what the store hands out: with a
grant the request is executed (`handle_resumes`), without one it waits for an operator
(`handle_waits`). Whatever the sink does, a request that returns is denied, reports what a provider
answered, or waits for an operator (`outcome_of_unwired`). -/

namespace AgenticKVM

open Lib (Prog Outcome except_bind_eq_ok except_ok_bind)

/-- An approval request describes the request it is made for. -/
structure ApprovalRequest.Describes (approval : ApprovalRequest) (request : CapabilityRequest)
    (capability : Capability) (decision : PolicyDecisionResult) (providerId id : String)
    (now : Datetime) : Prop where
  id : approval.id = id
  sessionId : approval.sessionId = request.sessionId
  capabilityRef : approval.capability = CapabilityRef.fromCapability capability
  targetIds : approval.targetIds = [request.targetId]
  policyDecision : approval.policyDecision = decision.decision
  providerId : approval.providerId = some providerId
  limits : approval.limits = decision.limits
  expiresAt : now.addSeconds approvalTtlSeconds = .ok approval.expiresAt
  operatorMessage : approval.operatorMessage = approvalMessage request.requester capability
    [request.targetId] request.intendedEffect decision.decision

/-- A built approval request describes its request. -/
theorem describes_of_build {decision : PolicyDecisionResult} {capability : Capability}
    {request : CapabilityRequest} {now : Datetime} {id auditEventId providerId : String}
    {approval : ApprovalRequest}
    (built : buildApprovalRequest decision capability request.sessionId request.requester
      [request.targetId] request.intendedEffect now id auditEventId (some providerId)
      = .ok approval) :
    approval.Describes request capability decision providerId id now := by
  obtain ⟨_, -, made⟩ := except_bind_eq_ok.mp built
  obtain ⟨expiresAt, expires, made⟩ := except_bind_eq_ok.mp made
  unfold ApprovalRequest.init at made
  split_ifs at made with asks targeted explained risks
  all_goals
    split at made
    · cases made
    · cases made
    · cases made
      exact ⟨rfl, rfl, rfl, rfl, rfl, rfl, rfl, expires, rfl⟩

/-- In UTC an approval request can be built, where the decision asks and its expiry is a time. -/
theorem exists_build {decision : PolicyDecisionResult} (asks : decision.requiresApproval = true)
    {now : Datetime} (utc : now.utcoffset = some 0) {expiresAt : Datetime}
    (expires : now.addSeconds approvalTtlSeconds = .ok expiresAt) (capability : Capability)
    (request : CapabilityRequest) (id auditEventId providerId : String) :
    ∃ approval, buildApprovalRequest decision capability request.sessionId request.requester
      [request.targetId] request.intendedEffect now id auditEventId (some providerId)
      = .ok approval := by
  have later : Datetime.le expiresAt now = .ok false := by
    unfold Datetime.addSeconds Datetime.ofWall at expires
    split_ifs at expires
    cases expires
    have earlier : now.wall - 0 < now.wall + approvalTtlSeconds * 1000000 - 0 := by
      rw [approvalTtlSeconds]
      omega
    simp only [Datetime.le, Datetime.lt, utc, Except.map, earlier, decide_true, Bool.not_true]
  unfold buildApprovalRequest
  rw [raiseIf_of_not (not_not_intro asks), except_ok_bind, expires, except_ok_bind]
  unfold ApprovalRequest.init
  have asks' : decision.decision.asks = true := asks
  have explained : (if decision.materialRisks = [] then ["operator approval required"]
      else decision.materialRisks) ≠ [] := by
    split_ifs with none
    · exact List.cons_ne_nil _ _
    · exact none
  rw [dif_pos asks', dif_pos (List.cons_ne_nil _ _), dif_pos explained]
  split
  · next e raised =>
    rw [later] at raised
    cases raised
  · next early =>
    rw [later] at early
    cases early
  · exact ⟨_, rfl⟩

/-! ## What the store hands out -/

/-- A grant that does not match at some time in UTC does not match later. -/
theorem ApprovalGrant.matches_later {grant : ApprovalGrant} {action : ActionBinding}
    {now later : Datetime} (utc : now.utcoffset = some 0) (utc' : later.utcoffset = some 0)
    (le : now.wall ≤ later.wall) (unmatched : grant.matches action now = .ok false) :
    grant.matches action later = .ok false := by
  unfold ApprovalGrant.matches at unmatched ⊢
  split_ifs at unmatched ⊢ with bound
  · cases zone : grant.expiresAt.utcoffset with
    | none => simp [Datetime.lt, utc, zone] at unmatched
    | some offset =>
        simp only [Datetime.lt, utc, zone, Except.ok.injEq, decide_eq_false_iff_not] at unmatched
        simp only [Datetime.lt, utc', zone, Except.ok.injEq, decide_eq_false_iff_not]
        omega
  · rfl

namespace ApprovalStore

variable {store : ApprovalStore} {action : ActionBinding} {now : Datetime}

/-- A grant that can be used and does not match. -/
def Unmatched (store : ApprovalStore) (action : ActionBinding) (now : Datetime)
    (grant : ApprovalGrant) : Prop :=
  store.usable grant = true → grant.matches action now = .ok false

/-- The loop goes through grants that do not match. -/
theorem findIn_append {grants : List ApprovalGrant}
    (unmatched : ∀ grant ∈ grants, store.Unmatched action now grant) (rest : List ApprovalGrant) :
    store.findIn action now (grants ++ rest) = store.findIn action now rest := by
  induction grants with
  | nil => rfl
  | cons grant grants ih =>
      rw [List.forall_mem_cons] at unmatched
      have later := ih unmatched.2
      rw [List.cons_append, findIn]
      split_ifs with usable
      · rw [unmatched.1 usable, except_ok_bind, later]
        rfl
      · exact later

/-- **The store hands out nothing** exactly where no grant that can be used matches. -/
theorem findActionGrant_eq_none : store.findActionGrant action now = .ok none ↔
    ∀ grant ∈ store.actionGrants, store.Unmatched action now grant := by
  rw [findActionGrant]
  constructor
  · intro none grant member usable
    generalize store.actionGrants = grants at none member
    induction grants with
    | nil => cases member
    | cons first rest ih =>
        rw [findIn] at none
        rcases List.mem_cons.mp member with rfl | member
        · rw [if_pos usable] at none
          obtain ⟨found, matched, none⟩ := except_bind_eq_ok.mp none
          cases found with
          | true => cases none
          | false => exact matched
        · split_ifs at none
          · obtain ⟨found, matched, none⟩ := except_bind_eq_ok.mp none
            cases found with
            | true => cases none
            | false => exact ih none member
          · exact ih none member
  · intro unmatched
    have run := findIn_append unmatched []
    rw [List.append_nil] at run
    exact run

/-- Where the store hands out nothing, a new grant that matches is handed out. -/
theorem findActionGrant_add {grant : ApprovalGrant}
    (before : store.findActionGrant action now = .ok none) (usable : store.usable grant = true)
    (matched : grant.matches action now = .ok true) :
    (store.addActionGrant grant).findActionGrant action now = .ok (some grant) := by
  have unmatched : ∀ grant' ∈ store.actionGrants,
      (store.addActionGrant grant).Unmatched action now grant' := findActionGrant_eq_none.mp before
  have usable' : (store.addActionGrant grant).usable grant = true := usable
  have run := findIn_append unmatched [grant]
  rw [findIn, if_pos usable', matched, except_ok_bind, if_pos rfl] at run
  exact run

/-- **Where the store hands out nothing, it does so later**, though grants may have been consumed and
others added that do not match. -/
theorem findActionGrant_later {store' : ApprovalStore} {later : Datetime}
    (before : store.findActionGrant action now = .ok none) (utc : now.utcoffset = some 0)
    (utc' : later.utcoffset = some 0) (le : now.wall ≤ later.wall)
    (kept : store.consumedResponseIds ⊆ store'.consumedResponseIds)
    (added : ∀ grant ∈ store'.actionGrants, grant ∈ store.actionGrants
      ∨ store'.Unmatched action later grant) :
    store'.findActionGrant action later = .ok none := by
  refine findActionGrant_eq_none.mpr fun grant member usable => ?_
  rcases added grant member with known | unmatched
  · have usable' : store.usable grant = true := by
      simp only [ApprovalStore.usable, Bool.or_eq_true, Bool.not_eq_true',
        decide_eq_false_iff_not] at usable ⊢
      exact usable.imp id fun unused used => unused (kept used)
    exact ApprovalGrant.matches_later utc utc' le
      (findActionGrant_eq_none.mp before grant known usable')
  · exact unmatched usable

end ApprovalStore

namespace ControlPlane

variable {std : Stdlib} {plane : ControlPlane} {request : CapabilityRequest}
  {capability : Capability} {capabilityRef : CapabilityRef} {decision : PolicyDecisionResult}
  {history : List Effect} {s : PlaneState} {store : ApprovalStore}

/-- The audit sink records every event. -/
def RecordsAll (plane : ControlPlane) : Prop :=
  ∀ history event, plane.auditSink history event = none

theorem RecordsAll.records (all : plane.RecordsAll) (events : List AuditEmission) :
    plane.Records history events := by
  induction events generalizing history with
  | nil => trivial
  | cons event rest ih => exact ⟨all history event, ih⟩

variable (std plane request store) in
/-- What the store hands out for a request at a time. -/
def storeAnswer (now : Datetime) : Except PyExc (Option ApprovalGrant) := do
  let fingerprint ← actionFingerprint std request.parameters
  store.findActionGrant ⟨request.capabilityId, request.sessionId, request.targetId,
    plane.provider.providerId, fingerprint⟩ now

variable (plane request capability) in
/-- The policy asks an operator about a request, and local approvals answer. -/
structure AsksLocally : Prop where
  known : plane.registry.get request.capabilityId = some capability
  passes : plane.Passes (plane.decisionOf request)
  asks : (plane.decisionOf request).requiresApproval = true
  unwired : plane.clearanceClient = none
  unsigned : request.signedApprovalGrant = none

variable (plane request history) in
/-- What has happened once a request's opening events are recorded. -/
def openedHistory : List Effect := history ++ (plane.openingEvents request).map .emitted

variable (plane request history) in
/-- The effects of a request that is opened and then asks the store. -/
def AsksStore (effects : List Effect) : Prop :=
  ∃ rest, effects = (plane.openingEvents request).map .emitted
    ++ .clockRead (plane.nowFactory (plane.openedHistory request history)) :: rest

/-- Where local approvals answer, a request is opened and then cleared by the store. -/
theorem AsksLocally.handle_run (all : plane.RecordsAll) (local_ : plane.AsksLocally request capability) :
    plane.handle std request history s
      = (plane.handleLocalClearance std request capability
          (capabilityRefOf request.capabilityId (some capability)) (plane.decisionOf request)
          (plane.openedHistory request history) s).prepend
        ((plane.openingEvents request).map .emitted) := by
  have locally : plane.ClearsLocally := by
    rintro ⟨-, wired⟩
    rw [local_.unwired] at wired
    cases wired
  rw [handle, Prog.bind_run_ok (emitAll_run (all.records _)), local_.known,
    local_.passes.decide_eq, if_pos local_.asks, clear_of_locally locally]
  rfl

/-- Without a signed grant, the store is asked at once. -/
theorem handleLocalClearance_run (unsigned : request.signedApprovalGrant = none) :
    plane.handleLocalClearance std request capability capabilityRef decision history s
      = (plane.matchingApprovalGrant std request >>= fun
          | some grant => do
              plane.consumeGrant request capabilityRef decision grant
              plane.executeProvider request capability capabilityRef decision
          | none => plane.requestApproval request capability capabilityRef decision) history s := by
  have rejected : plane.verifySignedApprovalGrant std request capabilityRef decision history s
      = ⟨.ok false, s, []⟩ := by
    unfold verifySignedApprovalGrant
    rw [unsigned]
    rfl
  rw [handleLocalClearance, Prog.bind_run_ok rejected, List.append_nil, Outcome.prepend_nil]
  exact congrFun (congrFun (if_neg Bool.false_ne_true) history) s

/-- What the store answers is read at the time of the question. -/
theorem matchingApprovalGrant_run (stored : s.approvalStore = some store)
    {found : Option ApprovalGrant}
    (answer : plane.storeAnswer std request store (plane.nowFactory history) = .ok found) :
    plane.matchingApprovalGrant std request history s
      = ⟨.ok found, s, [.clockRead (plane.nowFactory history)]⟩ := by
  obtain ⟨fingerprint, printed, search⟩ := except_bind_eq_ok.mp answer
  rw [matchingApprovalGrant, Prog.get_bind_run, stored]
  dsimp only
  rw [Prog.ofExcept_bind_run printed, Prog.bind_run_ok now_run, Prog.ofExcept_run, search]
  rfl

variable (decision) in
/-- The result of a request that waits for an operator. -/
def waitingResult (approval : ApprovalRequest) : ControlPlaneResult :=
  { status := .approvalRequired, decision, approvalRequest := some approval
    clearanceRequest := none, clearanceResponse := none, providerResult := none
    message := "operator approval required" }

/-- Asking an operator gives an approval request that describes the request, by an id and a time that
are read then. -/
theorem requestApproval_run (all : plane.RecordsAll) (asks : decision.requiresApproval = true)
    (utc : ∀ history, (plane.nowFactory history).utcoffset = some 0)
    (lasting : ∀ history, ∃ expiresAt,
      (plane.nowFactory history).addSeconds approvalTtlSeconds = .ok expiresAt) :
    ∃ approval drawn,
      approval.Describes request capability decision plane.provider.providerId
        (plane.freshId drawn) (plane.nowFactory history) ∧
      (plane.requestApproval request capability capabilityRef decision history s).result
        = .ok (waitingResult decision approval) ∧
      (plane.requestApproval request capability capabilityRef decision history s).state = s := by
  obtain ⟨expiresAt, expires⟩ := lasting history
  set first := history ++ [Effect.clockRead (plane.nowFactory history)]
  set second := first ++ [Effect.idDrawn (plane.freshId first)]
  obtain ⟨approval, built⟩ := exists_build asks (utc history) expires capability request
    (plane.freshId first) (plane.freshId second) plane.provider.providerId
  have draw (history : List Effect) : plane.drawId history s
      = ⟨.ok (plane.freshId history), s, [.idDrawn (plane.freshId history)]⟩ := rfl
  refine ⟨approval, first, describes_of_build built, ?_⟩
  rw [requestApproval, Prog.bind_run_ok now_run, Prog.bind_run_ok (draw first),
    Prog.bind_run_ok (draw second), Prog.ofExcept_bind_run built,
    Prog.bind_run_ok (emit_run (all _ _)), emitResultReturned,
    Prog.bind_run_ok (emit_run (all _ _))]
  exact ⟨rfl, rfl⟩

/-- Where the store cannot be asked, nothing is returned. -/
theorem matchingApprovalGrant_error (stored : s.approvalStore = some store) {e : PyExc}
    (answer : plane.storeAnswer std request store (plane.nowFactory history) = .error e) :
    ∃ effects, plane.matchingApprovalGrant std request history s = ⟨.error e, s, effects⟩ := by
  rw [matchingApprovalGrant, Prog.get_bind_run, stored]
  dsimp only
  cases printed : actionFingerprint std request.parameters with
  | error raised =>
      rw [storeAnswer, printed] at answer
      cases answer
      exact ⟨_, Prog.ofExcept_bind_run_error rfl _⟩
  | ok fingerprint =>
      rw [storeAnswer, printed, except_ok_bind] at answer
      rw [Prog.ofExcept_bind_run rfl, Prog.bind_run_ok now_run, Prog.ofExcept_run, answer]
      exact ⟨_, rfl⟩

/-- **A request the store has no grant for** waits for an operator, and nothing is executed. -/
theorem handle_waits (all : plane.RecordsAll) (local_ : plane.AsksLocally request capability)
    (stored : s.approvalStore = some store)
    (answer : plane.storeAnswer std request store
      (plane.nowFactory (plane.openedHistory request history)) = .ok none)
    (utc : ∀ history, (plane.nowFactory history).utcoffset = some 0)
    (lasting : ∀ history, ∃ expiresAt,
      (plane.nowFactory history).addSeconds approvalTtlSeconds = .ok expiresAt) :
    ∃ approval drawn read,
      approval.Describes request capability (plane.decisionOf request) plane.provider.providerId
        (plane.freshId drawn) (plane.nowFactory read) ∧
      Neutral (plane.handle std request history s).effects ∧
      plane.AsksStore request history (plane.handle std request history s).effects ∧
      (plane.handle std request history s).result
        = .ok (waitingResult (plane.decisionOf request) approval) ∧
      (plane.handle std request history s).state = s := by
  have search := matchingApprovalGrant_run stored answer
  set opened := plane.openedHistory request history
  set capabilityRef := capabilityRefOf request.capabilityId (some capability)
  set later := opened ++ [Effect.clockRead (plane.nowFactory opened)]
  obtain ⟨approval, drawn, describes, returned, unchanged⟩ :=
    @requestApproval_run plane request capability capabilityRef (plane.decisionOf request) later s
      all local_.asks utc lasting
  have quiet := @requestApproval_quiet plane request capabilityRef (plane.decisionOf request)
    capability later s
  have run : plane.handle std request history s
      = ((plane.requestApproval request capability capabilityRef (plane.decisionOf request) later
          s).prepend [.clockRead (plane.nowFactory opened)]).prepend
        ((plane.openingEvents request).map .emitted) := by
    rw [local_.handle_run all, handleLocalClearance_run local_.unsigned, Prog.bind_run_ok search]
  rw [run]
  exact ⟨approval, drawn, _, describes,
    (openingEvents_neutral request).append ((Neutral.clockRead _).append quiet),
    ⟨_, rfl⟩, returned, unchanged⟩

/-- A result reports the answer of a provider call that an execution left. -/
structure Reports (plane : ControlPlane) (effects : List Effect) (result : ControlPlaneResult)
    (answer : ProviderActionResult) : Prop where
  answered : ∃ before request, plane.provider.executeAuthorized before request = .ok answer
    ∧ .executed request (.ok answer) ∈ effects
  provided : result.providerResult = some answer
  status : result.status = if answer.ok then .completed else .failed

/-- It has completed, or has failed at the provider. -/
theorem Reports.completed_or_failed {effects : List Effect} {result : ControlPlaneResult}
    {answer : ProviderActionResult} (reports : plane.Reports effects result answer) :
    result.status = .completed ∨ result.status = .failed := by
  rw [reports.status]
  split_ifs
  exacts [.inl rfl, .inr rfl]

/-- It is reported by a longer run. -/
theorem Reports.after {effects : List Effect} {result : ControlPlaneResult}
    {answer : ProviderActionResult} (reports : plane.Reports effects result answer)
    (before : List Effect) : plane.Reports (before ++ effects) result answer := by
  obtain ⟨history, request, answered, member⟩ := reports.answered
  exact ⟨⟨history, request, answered, List.mem_append_right _ member⟩, reports.provided,
    reports.status⟩

/-- An execution that returns reports what the provider answered. -/
theorem reports_of_executeProvider {result : ControlPlaneResult} {s' : PlaneState}
    {effects : List Effect}
    (run : plane.executeProvider request capability capabilityRef decision history s
      = ⟨.ok result, s', effects⟩) : ∃ answer, plane.Reports effects result answer := by
  rw [executeProvider] at run
  obtain ⟨_, _, started, later, -, called, rfl⟩ := Prog.bind_run_inv run
  obtain ⟨answer, _, call, rest, asked, reported, rfl⟩ := Prog.bind_run_inv called
  rw [callProvider, Prog.perform_run] at asked
  obtain ⟨answered, -, rfl⟩ := Outcome.mk.inj asked
  dsimp only at answered
  rw [reportExecution] at reported
  obtain ⟨_, _, _, _, -, emitted, -⟩ := Prog.bind_run_inv reported
  obtain ⟨_, _, _, _, -, returned, -⟩ := Prog.bind_run_inv emitted
  have same := Except.ok.inj (congrArg Outcome.result returned)
  refine ⟨answer, ⟨_, _, answered, ?_⟩, ?_, ?_⟩
  · dsimp only
    rw [answered]
    exact List.mem_append_right _ List.mem_cons_self
  · rw [← same]
  · rw [← same]

/-- **A request the store has a grant for** is executed once, on the strength of the grant, which is
consumed before. -/
theorem handle_resumes (all : plane.RecordsAll) (local_ : plane.AsksLocally request capability)
    (stored : s.approvalStore = some store) {grant : ApprovalGrant}
    (answer : plane.storeAnswer std request store
      (plane.nowFactory (plane.openedHistory request history)) = .ok (some grant)) :
    ∃ result answer effects, executions effects
        = [.executed (providerRequest request capability) answer] ∧
      authorisations effects = [.storeGrant grant] ∧
      plane.AsksStore request history effects ∧
      (∀ returned, result = .ok returned →
        returned.status = .completed ∨ returned.status = .failed) ∧
      plane.handle std request history s = ⟨result, markStored s store grant, effects⟩ := by
  have search := matchingApprovalGrant_run stored answer
  set capabilityRef := capabilityRefOf request.capabilityId (some capability)
  set opened := plane.openedHistory request history
  have consume (history : List Effect) :
      plane.consumeGrant request capabilityRef (plane.decisionOf request) grant history s
        = ⟨.ok (), markStored s store grant,
          [.emitted (consumedEvent request capabilityRef (plane.decisionOf request) grant)]⟩ := by
    rw [consumeGrant, Prog.get_bind_run, stored]
    dsimp only
    rw [Prog.modify_bind_run]
    exact emit_run (all _ _)
  obtain ⟨result, answered, after, neutral, run⟩ := @executeProvider_run plane
    (opened ++ [.clockRead (plane.nowFactory opened)]
      ++ [.emitted (consumedEvent request capabilityRef (plane.decisionOf request) grant)])
    (markStored s store grant) request capability capabilityRef (plane.decisionOf request) (all _ _)
  refine ⟨result, answered, (plane.openingEvents request).map .emitted
    ++ (.clockRead (plane.nowFactory opened)
      :: .emitted (consumedEvent request capabilityRef (plane.decisionOf request) grant)
      :: .emitted (plane.startedEvent request capabilityRef (plane.decisionOf request))
      :: .executed (providerRequest request capability) answered :: after), ?_, ?_, ?_, ?_, ?_⟩
  · rw [executions_append, (openingEvents_neutral request).executions]
    change Effect.executed _ _ :: executions after = _
    rw [neutral.executions]
  · rw [authorisations_append, (openingEvents_neutral request).authorisations]
    change Authorisation.storeGrant grant :: authorisations after = _
    rw [neutral.authorisations]
  · exact ⟨_, rfl⟩
  · intro returned same
    rw [same] at run
    obtain ⟨answer, reports⟩ := reports_of_executeProvider run
    exact reports.completed_or_failed
  · rw [local_.handle_run all, handleLocalClearance_run local_.unsigned, Prog.bind_run_ok search]
    dsimp only
    rw [Prog.bind_run_ok (consume _), run]
    rfl

/-! ## What becomes of a request -/

/-- A request for approval that returns gives one with the limits of the decision. -/
theorem waiting_of_requestApproval {result : ControlPlaneResult} {s' : PlaneState}
    {effects : List Effect}
    (run : plane.requestApproval request capability capabilityRef decision history s
      = ⟨.ok result, s', effects⟩) :
    ∃ approval, approval.limits = decision.limits ∧ result = waitingResult decision approval := by
  rw [requestApproval] at run
  obtain ⟨_, _, _, _, -, run, -⟩ := Prog.bind_run_inv run
  obtain ⟨_, _, _, _, -, run, -⟩ := Prog.bind_run_inv run
  obtain ⟨_, _, _, _, -, run, -⟩ := Prog.bind_run_inv run
  obtain ⟨approval, _, _, _, built, run, -⟩ := Prog.bind_run_inv run
  obtain ⟨_, _, _, _, -, run, -⟩ := Prog.bind_run_inv run
  obtain ⟨_, _, _, _, -, run, -⟩ := Prog.bind_run_inv run
  refine ⟨approval, (describes_of_build (Prog.ofExcept_run_inv built).1).limits, ?_⟩
  exact (Except.ok.inj (congrArg Outcome.result run)).symm

/-- A denial that returns is denied. -/
theorem status_of_deny {result : ControlPlaneResult} {s' : PlaneState} {effects : List Effect}
    (run : plane.deny request capabilityRef decision history s = ⟨.ok result, s', effects⟩) :
    result.status = .denied := by
  rw [deny] at run
  obtain ⟨_, _, _, _, -, run, -⟩ := Prog.bind_run_inv run
  rw [← Except.ok.inj (congrArg Outcome.result run)]

/-- **What becomes of a request** with no client wired and no signed grant presented: it is denied,
what a provider answered is reported, or the policy asks, the store has no grant, and the request
waits for an operator. -/
theorem outcome_of_unwired (unwired : plane.clearanceClient = none)
    (unsigned : request.signedApprovalGrant = none) (stored : s.approvalStore = some store)
    {result : ControlPlaneResult} {s' : PlaneState} {effects : List Effect}
    (run : plane.handle std request history s = ⟨.ok result, s', effects⟩) :
    result.status = .denied ∨ (∃ answer, plane.Reports effects result answer) ∨
      ∃ capability approval, plane.AsksLocally request capability ∧
        plane.storeAnswer std request store
          (plane.nowFactory (plane.openedHistory request history)) = .ok none ∧
        approval.limits = (plane.decisionOf request).limits ∧
        result = waitingResult (plane.decisionOf request) approval := by
  rw [handle] at run
  obtain ⟨_, _, _, _, opened, decided, rfl⟩ := Prog.bind_run_inv run
  clear run
  obtain ⟨-, rfl, rfl⟩ := emitAll_run_inv opened
  have reported {capability : Capability} {capabilityRef : CapabilityRef} {history : List Effect}
      {t t' : PlaneState} {before after : List Effect}
      (run : plane.executeProvider request capability capabilityRef (plane.decisionOf request) history t
        = ⟨.ok result, t', after⟩) : ∃ answer, plane.Reports (before ++ after) result answer := by
    obtain ⟨answer, reports⟩ := reports_of_executeProvider run
    exact ⟨answer, reports.after before⟩
  unfold ControlPlane.decide at decided
  split_ifs at decided with denied outside asks
  · exact .inl (status_of_deny decided)
  · exact .inl (status_of_deny decided)
  · cases known : plane.registry.get request.capabilityId with
    | none =>
        rw [known] at decided
        cases decided
    | some capability =>
        have local_ : plane.AsksLocally request capability :=
          ⟨known, ⟨denied, fun real => not_not.mp fun refused => outside ⟨real, refused⟩⟩, asks,
            unwired, unsigned⟩
        have locally : plane.ClearsLocally := by
          rintro ⟨-, wired⟩
          rw [unwired] at wired
          cases wired
        rw [known] at decided
        dsimp only at decided
        rw [clear_of_locally locally, handleLocalClearance_run unsigned] at decided
        change (plane.matchingApprovalGrant std request >>= _) (plane.openedHistory request history)
          _ = _ at decided
        cases answer : plane.storeAnswer std request store
            (plane.nowFactory (plane.openedHistory request history)) with
        | error e =>
            obtain ⟨effects, raised⟩ := matchingApprovalGrant_error stored answer
            rw [Prog.bind_run_error raised] at decided
            cases decided
        | ok found =>
            obtain ⟨_, _, asked, _, matched, answered, rfl⟩ := Prog.bind_run_inv decided
            rw [matchingApprovalGrant_run stored answer] at matched
            cases matched
            cases found with
            | none =>
                obtain ⟨approval, limits, waits⟩ := waiting_of_requestApproval answered
                exact .inr (.inr ⟨capability, approval, local_, rfl, limits, waits⟩)
            | some grant =>
                obtain ⟨_, _, _, _, -, executed, rfl⟩ := Prog.bind_run_inv answered
                rw [← List.append_assoc, ← List.append_assoc]
                exact .inr (.inl (reported executed))
  · cases known : plane.registry.get request.capabilityId with
    | none =>
        rw [known] at decided
        cases decided
    | some capability =>
        rw [known] at decided
        exact .inr (.inl (reported decided))

end ControlPlane

end AgenticKVM
