import AgenticKVM.Lib.Runs
import AgenticKVM.Soundness

/-! # Approvals over whole runs

A control plane handles requests one after the other, with grants stored in between. Every mark of
consumption stays, also where a request raises midway, and each execution on a one-time approval
leaves its mark before it starts: over any run, an approval of that kind authorises at most one
execution (`oneTime_at_most_once`). -/

namespace AgenticKVM

open Lib (Prog)

namespace ControlPlane

variable (std : Stdlib) (plane : ControlPlane)

/-! ## Marks stay -/

/-- Every mark of consumption in the first state is one in the second. -/
structure Marks (s s' : PlaneState) : Prop where
  signed : s.consumedSignedGrantIds ⊆ s'.consumedSignedGrantIds
  stored : ∀ store, s.approvalStore = some store → ∃ store', s'.approvalStore = some store' ∧
    store.consumedResponseIds ⊆ store'.consumedResponseIds

theorem Marks.refl (s : PlaneState) : Marks s s :=
  ⟨fun _ member => member, fun store stored => ⟨store, stored, fun _ member => member⟩⟩

theorem Marks.trans {s t u : PlaneState} (first : Marks s t) (second : Marks t u) : Marks s u := by
  refine ⟨fun id member => second.signed (first.signed member), fun store stored => ?_⟩
  obtain ⟨mid, storedMid, kept⟩ := first.stored store stored
  obtain ⟨last, storedLast, keptLast⟩ := second.stored mid storedMid
  exact ⟨last, storedLast, fun id member => keptLast (kept member)⟩

/-- Consuming a stored grant keeps every mark. -/
theorem marks_markStored {s : PlaneState} {store : ApprovalStore} (grant : ApprovalGrant)
    (stored : s.approvalStore = some store) : Marks s (markStored s store grant) := by
  refine ⟨fun _ member => member, fun store' stored' => ?_⟩
  cases stored.symm.trans stored'
  exact ⟨_, rfl, fun id member => (ApprovalStore.mem_consume grant id).mpr (Or.inr member)⟩

/-- A step that keeps every mark, whether it returns or raises. -/
abbrev KeepsMarks {α : Type} (m : Step α) : Prop := Prog.Keeps Marks m

section KeepsMarks

variable {plane} {std}

/-- The interactions of the control plane, and consumption, keep every mark. -/
theorem keepsMarks_closed (request : CapabilityRequest) : Closed plane request @KeepsMarks where
  pure a := Prog.Keeps.pure Marks.refl a
  throw e := Prog.Keeps.throw Marks.refl e
  ofExcept r := Prog.Keeps.ofExcept Marks.refl r
  get := Prog.Keeps.get Marks.refl
  bind first second := Prog.Keeps.bind (fun earlier later => earlier.trans later) first second
  emit _ _ := Prog.Keeps.perform Marks.refl _
  now := Prog.Keeps.perform Marks.refl _
  drawId := Prog.Keeps.perform Marks.refl _
  askClearance _ _ := Prog.Keeps.perform Marks.refl _
  callProvider _ := Prog.Keeps.perform Marks.refl _
  consumeSigned _ _ signedGrant _ _ := by
    unfold consumeSigned
    split
    · intro _ s
      exact ⟨List.subset_cons_self _ _, (Marks.refl s).stored⟩
    · exact Prog.Keeps.pure Marks.refl _
  consumeGrant _ _ grant := by
    refine Prog.Keeps.get_bind fun history s => ?_
    cases stored : s.approvalStore with
    | none => exact Marks.refl s
    | some store => exact marks_markStored grant stored

/-- **Every mark stays** through a request, whether it returns or raises. -/
theorem handle_keepsMarks (request : CapabilityRequest) :
    KeepsMarks (plane.handle std request) :=
  (keepsMarks_closed request).handle

end KeepsMarks

/-! ## Runs -/

/-- What happens to a control plane in time: a request is handled, or a grant is stored. -/
inductive Operation
  | handle (request : CapabilityRequest)
  | addGrant (grant : ApprovalGrant)

/-- A request that was handled: the state it met and the effects it left. -/
structure Handled where
  request : CapabilityRequest
  before : PlaneState
  effects : List Effect

/-- A control plane in time: everything that has happened, and the state it is in. -/
structure Life where
  history : List Effect
  state : PlaneState

/-- One operation in a control plane's life. -/
def step (life : Life) : Operation → Life × Option Handled
  | .handle request =>
      (⟨life.history ++ (plane.handle std request life.history life.state).effects,
        (plane.handle std request life.history life.state).state⟩,
      some ⟨request, life.state, (plane.handle std request life.history life.state).effects⟩)
  | .addGrant grant =>
      (⟨life.history, { life.state with
        approvalStore := life.state.approvalStore.map (·.addActionGrant grant) }⟩, none)

/-- What identifies a local approval: the response id of a stored grant, the grant id of a signed
grant. -/
inductive ApprovalId
  | response (id : String)
  | grant (id : String)
deriving DecidableEq

/-- The local approval behind an authorisation of a request. -/
def approvalId (request : CapabilityRequest) : Authorisation → Option ApprovalId
  | .storeGrant grant => some (.response grant.responseId)
  | .signedGrant _ => request.signedApprovalGrant.map fun grant => .grant grant.payload.grantId
  | .clearance _ => none

/-- The local approval behind an authorisation, where it is good for one time only. -/
def oneTimeId (request : CapabilityRequest) : Authorisation → Option ApprovalId
  | .storeGrant grant =>
      if grant.scope = .oneTime then some (.response grant.responseId) else none
  | .signedGrant _ =>
      match request.signedApprovalGrant with
      | some signedGrant =>
          if signedGrant.payload.oneTime then some (.grant signedGrant.payload.grantId) else none
      | none => none
  | .clearance _ => none

/-- The executions a handled request owes to a one-time approval. -/
def Handled.oneTimeUses (handled : Handled) (id : ApprovalId) : Nat :=
  if id ∈ (authorisations handled.effects).filterMap (oneTimeId handled.request) then
    (executions handled.effects).length
  else 0

/-- The executions an operation owes to a one-time approval. -/
def oneTimeUses : Option Handled → ApprovalId → Nat
  | none, _ => 0
  | some handled, id => handled.oneTimeUses id

/-- A one-time approval is marked as consumed. -/
def Spent (s : PlaneState) : ApprovalId → Prop
  | .response id => ∃ store, s.approvalStore = some store ∧ id ∈ store.consumedResponseIds
  | .grant id => id ∈ s.consumedSignedGrantIds

section Runs

variable {std plane} {request : CapabilityRequest} {history : List Effect} {s s' : PlaneState}
  {id : ApprovalId}

theorem Marks.spent (marks : Marks s s') (spent : Spent s id) : Spent s' id := by
  cases id with
  | grant id => exact marks.signed spent
  | response id =>
      obtain ⟨store, stored, member⟩ := spent
      obtain ⟨store', stored', kept⟩ := marks.stored store stored
      exact ⟨store', stored', kept member⟩

/-- A route that is authorised by a one-time approval starts where that is not spent and leaves it
spent. -/
theorem Route.oneTime {capability : Capability} {capabilityRef : CapabilityRef}
    {decision : PolicyDecisionResult} {before : List Effect} {authorisation : Authorisation}
    (route : Route std plane request capability capabilityRef decision history s before s'
      (some authorisation))
    (once : oneTimeId request authorisation = some id) : ¬ Spent s id ∧ Spent s' id := by
  cases route with
  | clearance asks selected wired chain => cases once
  | @signed signedGrant verification asks locally accepted =>
      simp only [oneTimeId, accepted.presented] at once
      split at once
      · next single =>
          cases once
          refine ⟨accepted.fresh, ?_⟩
          rw [markSigned, if_pos single]
          exact List.mem_cons_self
      · cases once
  | @stored _ store grant _ asks locally neutral matched =>
      simp only [oneTimeId] at once
      split at once
      · next single =>
          cases once
          obtain ⟨_, -, -, -, -, usable⟩ := matched.grant
          constructor
          · rintro ⟨store', stored', member⟩
            cases matched.stored.symm.trans stored'
            rcases usable with reusable | unconsumed
            · rw [single] at reusable
              cases reusable
            · exact unconsumed member
          · exact ⟨_, rfl, (ApprovalStore.mem_consume grant _).mpr (Or.inl ⟨single, rfl⟩)⟩
      · cases once

/-- An execution on a one-time approval finds it unspent and leaves it spent. -/
theorem spent_of_uses (used : Handled.oneTimeUses ⟨request, s,
      (plane.handle std request history s).effects⟩ id ≠ 0) :
    ¬ Spent s id ∧ Spent (plane.handle std request history s).state id := by
  unfold Handled.oneTimeUses at used
  split at used
  · next member =>
      have executes : Executes (plane.handle std request) history s := by
        rw [executes_iff]
        exact fun none => used (List.length_eq_zero_iff.mpr none)
      obtain ⟨_, _, _, authorisation, execution⟩ := execution_of_executes executes
      obtain ⟨-, recorded, state⟩ := execution.trace
      rw [recorded, List.mem_filterMap] at member
      obtain ⟨chosen, mem, once⟩ := member
      rw [Option.mem_toList] at mem
      subst mem
      rw [state]
      exact execution.route.oneTime once
  · exact absurd rfl used

/-- **One step** uses a one-time approval at most once, never a spent one, and marks what it
uses. -/
theorem step_singleUse :
    Lib.SingleUse (step std plane) (fun life => Spent life.state) oneTimeUses where
  once life operation id := by
    cases operation with
    | addGrant grant => exact Nat.zero_le 1
    | handle request =>
        change Handled.oneTimeUses ⟨request, _, _⟩ id ≤ 1
        unfold Handled.oneTimeUses
        split
        exacts [executions_length_le_one, Nat.zero_le 1]
  fresh life operation id spent := by
    cases operation with
    | addGrant grant => rfl
    | handle request => exact not_not.mp fun used => (spent_of_uses used).1 spent
  marked life operation id used := by
    cases operation with
    | addGrant grant => exact absurd rfl used
    | handle request => exact (spent_of_uses used).2
  kept life operation id spent := by
    cases operation with
    | handle request => exact (handle_keepsMarks request _ _).spent spent
    | addGrant grant =>
        cases id with
        | grant id => exact spent
        | response id =>
            obtain ⟨store, stored, member⟩ := spent
            refine ⟨store.addActionGrant grant, ?_, member⟩
            change life.state.approvalStore.map _ = _
            rw [stored]
            rfl

end Runs

/-- **One-time approvals authorise at most one execution.** In every run of one control plane, from
any state and over any requests and stored grants, whatever the environment answers or raises, the
executions authorised by one-time grants with one response id, and those authorised by one-time signed
grants with one grant id, are at most one. -/
theorem oneTime_at_most_once (life : Life) (operations : List Operation) (id : ApprovalId) :
    Lib.totalUses oneTimeUses (Lib.outputs (step std plane) life operations) id ≤ 1 :=
  step_singleUse.uses_le_one life operations id

/-! ## Asking each time -/

/-- The approval a handled request was executed on, of those `identify` names, where the decision
was to ask each time. -/
def Handled.eachTime (handled : Handled)
    (identify : CapabilityRequest → Authorisation → Option ApprovalId) : Option ApprovalId :=
  if (plane.decisionOf handled.request).decision = .askEachTime ∧
      executions handled.effects ≠ [] then
    ((authorisations handled.effects).filterMap (identify handled.request)).head?
  else none

/-- The approval an operation was executed on, where the decision was to ask each time. -/
def eachTime (identify : CapabilityRequest → Authorisation → Option ApprovalId) :
    Option Handled → Option ApprovalId
  | none => none
  | some handled => handled.eachTime plane identify

variable {std plane}

/-- A one-time approval an operation was executed on is used by it. -/
theorem uses_of_eachTime (output : Option Handled) (id : ApprovalId)
    (named : plane.eachTime oneTimeId output = some id) : oneTimeUses output id ≠ 0 := by
  cases output with
  | none => cases named
  | some handled =>
      change handled.eachTime plane oneTimeId = some id at named
      unfold Handled.eachTime at named
      split at named
      · next executed =>
          change Handled.oneTimeUses handled id ≠ 0
          rw [Handled.oneTimeUses, if_pos (List.mem_of_mem_head? named)]
          exact fun none => executed.2 (List.length_eq_zero_iff.mp none)
      · cases named

/-- Where local approvals clear, what was accepted for a request is one. -/
theorem AcceptedFor.isLocal {request : CapabilityRequest} {capability : Capability}
    {s : PlaneState} {effects : List Effect} {authorisation : Authorisation}
    (locally : plane.ClearsLocally)
    (accepted : AcceptedFor std plane request capability s effects authorisation) :
    (approvalId request authorisation).isSome = true := by
  cases authorisation with
  | storeGrant grant => rfl
  | signedGrant verification =>
      obtain ⟨-, signedGrant, _, _, _, _, presented, -⟩ := accepted
      rw [approvalId, presented]
      rfl
  | clearance response =>
      obtain ⟨selected, _, _, _, _, _, wired, -⟩ := accepted
      exact absurd ⟨selected, by rw [wired]; rfl⟩ locally

variable (std plane) in
/-- A handled request that was executed by a decision that asks has one authorisation, accepted for
it. -/
def Handled.Authorised (handled : Handled) : Prop :=
  executions handled.effects ≠ [] → (plane.decisionOf handled.request).decision.asks = true →
    ∃ capability authorisation, authorisations handled.effects = [authorisation] ∧
      AcceptedFor std plane handled.request capability handled.before handled.effects
        authorisation

/-- **Asking each time**, where local approvals clear: over any run, every execution of a decision to
ask each time stands on one local approval that was accepted for that very request, and those that
stand on a one-time approval stand on distinct ones. -/
theorem eachTime_approvals (locally : plane.ClearsLocally) (life : Life)
    (operations : List Operation) :
    (∀ handled, some handled ∈ Lib.outputs (step std plane) life operations →
      executions handled.effects ≠ [] →
      (plane.decisionOf handled.request).decision = .askEachTime →
      ∃ capability authorisation, authorisations handled.effects = [authorisation] ∧
        (approvalId handled.request authorisation).isSome = true ∧
        AcceptedFor std plane handled.request capability handled.before handled.effects
          authorisation) ∧
    ((Lib.outputs (step std plane) life operations).filterMap
      (plane.eachTime oneTimeId)).Nodup := by
  constructor
  · intro handled member executed asks
    have each : ∀ output ∈ Lib.outputs (step std plane) life operations,
        ∀ handled, output = some handled → handled.Authorised std plane :=
      Lib.outputs_forall_of_each (fun life operation handled answer => by
        cases operation with
        | addGrant grant => cases answer
        | handle request =>
            cases answer
            exact fun executed asks => authorised_of_executes (executes_iff.mpr executed) asks)
        life operations
    obtain ⟨capability, authorisation, recorded, accepted⟩ :=
      each _ member handled rfl executed (by rw [asks]; rfl)
    exact ⟨capability, authorisation, recorded, accepted.isLocal locally, accepted⟩
  · exact step_singleUse.nodup uses_of_eachTime life operations

end ControlPlane

namespace Deployment

/-! ## A deployment with local approvals -/

/-- The trusted signer, on the one grant that occurs. -/
def signers : ApprovalGrantVerifier :=
  ⟨fun keyId => if keyId = "operator-key-1" then
    some fun grant => .ok (grant.signature = "signature-of-grant-1") else none⟩

/-- A control plane in Supervised mode that clears through local approvals. -/
def localPlane : ControlPlane where
  policy := modePreset .supervised none
  provider := provider
  auditSink _ _ := none
  registry := defaultCapabilityRegistry
  nowFactory _ := clockAt 0
  freshId _ := "0f8fad5bd9cb469fa16570867728950e"
  approvalGrantVerifier := some signers
  clearanceClient := none
  clearanceVerifier := none
  clearanceTimeoutSeconds := 20
  authChannelSelection := ⟨.localTerminal, false, false, "local signed-grant broker", none⟩
  actParityFingerprint := false

/-- A request to restart a machine. -/
def restartRequest : CapabilityRequest where
  capabilityId := "power.graceful_restart"
  targetId := "vm-1"
  sessionId := "session-1"
  correlationId := "corr-1"
  requester := ⟨.agent, "agent-1", agent_named⟩
  intendedEffect := "restart the machine"
  parameters := []
  credentialId := none
  approvalRequestId := some "req-1"
  signedApprovalGrant := none

/-- An operator's grant for the restart, good for the session. -/
def sessionGrant : ApprovalGrant where
  requestId := "req-1"
  responseId := "response-1"
  capabilityId := "power.graceful_restart"
  sessionId := "session-1"
  targetId := "vm-1"
  providerId := "mock"
  paramsFingerprint := emptyFingerprint
  expiresAt := clockAt 900
  scope := .session
  operator := ⟨.operator, "operator-1", operator_named⟩
  resumable := by decide
  byOperator := operator_type

/-- The control plane's life begins with the grant in its store. -/
def granted : ControlPlane.Life := ⟨[], ⟨some ⟨[sessionGrant], []⟩, []⟩⟩

theorem signature_present : "signature-of-grant-1" ≠ "" := by decide

theorem algorithm_present : "ed25519" ≠ "" := by decide

/-- An operator's signed grant for the restart, good for one time. -/
def signedGrant : SignedApprovalGrant where
  payload :=
    { grantId := "grant-1"
      requestId := "req-1"
      sessionId := "session-1"
      target := "vm-1"
      provider := "mock"
      capability := "power.graceful_restart"
      paramsFingerprint := emptyFingerprint
      riskFamily := "power"
      channel := .hostNative
      expiresAt := clockAt 900
      oneTime := true
      consumedAt := none
      policyConstraints := []
      signerKeyId := "operator-key-1"
      payloadVersion := "1"
      present := by decide
      expiryAware := rfl }
  signature := "signature-of-grant-1"
  signatureAlgorithm := "ed25519"
  signaturePresent := signature_present
  algorithmPresent := algorithm_present

/-- A restart with the signed grant, one on a stored grant for one time, and one that is left without.
-/
def oneTimeOperations : List ControlPlane.Operation :=
  [.handle { restartRequest with signedApprovalGrant := some signedGrant },
    .addGrant { sessionGrant with scope := .oneTime },
    .handle restartRequest, .handle restartRequest]

/-- The control plane's life begins with an empty store. -/
def ungranted : ControlPlane.Life := ⟨[], ⟨some .empty, []⟩⟩

theorem localPlane_clearsLocally : localPlane.ClearsLocally := by
  rintro ⟨selected, -⟩
  cases selected

end Deployment

namespace ControlPlane

/-- Three restarts and two one-time approvals, one signed and one stored: two of the restarts are
executed, each on an approval of its own that was accepted for it. -/
theorem eachTime_approvals_restart : ∃ run,
    run = Lib.outputs (step Deployment.library Deployment.localPlane) Deployment.ungranted
      Deployment.oneTimeOperations
    ∧ run.filterMap (Deployment.localPlane.eachTime oneTimeId)
      = [.grant "grant-1", .response "response-1"]
    ∧ (∀ handled, some handled ∈ run → executions handled.effects ≠ [] →
      (Deployment.localPlane.decisionOf handled.request).decision = .askEachTime →
      ∃ capability authorisation, authorisations handled.effects = [authorisation] ∧
        (approvalId handled.request authorisation).isSome = true ∧
        AcceptedFor Deployment.library Deployment.localPlane handled.request capability
          handled.before handled.effects authorisation)
    ∧ (run.filterMap (Deployment.localPlane.eachTime oneTimeId)).Nodup := by
  obtain ⟨each, distinct⟩ := eachTime_approvals Deployment.localPlane_clearsLocally
    Deployment.ungranted Deployment.oneTimeOperations
  exact ⟨_, rfl, by decide +kernel, each, distinct⟩

/-- One grant for the session carries two executions that were to be asked for each time. -/
theorem not_nodup_eachTime_sessionGrant :
    ¬ ((Lib.outputs (step Deployment.library Deployment.localPlane) Deployment.granted
      [.handle Deployment.restartRequest, .handle Deployment.restartRequest]).filterMap
      (Deployment.localPlane.eachTime approvalId)).Nodup := by
  decide +kernel

/-! ## Several control planes

Control planes share one grant verifier and take their signed grants from one cache, as after a
restart or where each request has a control plane of its own. Each keeps its own marks. -/

/-- A request for one of the control planes, with the cache as it reads then and the time the cached
grant is looked up for. -/
structure Assignment where
  plane : Nat
  request : CapabilityRequest
  cache : SignedApprovalCache
  lookup : Datetime

/-- The control planes in time: everything that has happened, and the state of each. -/
structure Fleet where
  history : List Effect
  states : Nat → PlaneState

section Fleet

variable (std : Stdlib) (verifier : ApprovalGrantVerifier) (planes : Nat → ControlPlane)

/-- One of the control planes, with the verifier they share. -/
def member (i : Nat) : ControlPlane :=
  { planes i with approvalGrantVerifier := some verifier }

/-- The request with the signed grant the cache holds for it, if it holds one that verifies. -/
def presented (assignment : Assignment) : CapabilityRequest :=
  let plane := planes assignment.plane
  let request := assignment.request
  let family := (capabilityRefOf request.capabilityId
    (plane.registry.get request.capabilityId)).family
  let found : Except PyExc (Option SignedApprovalGrant) := do
    let context ← GrantVerificationContext.fromParameters std
      (request.approvalRequestId.getD "") request.sessionId request.targetId
      plane.provider.providerId request.capabilityId request.parameters family assignment.lookup
    assignment.cache.findVerifiedGrant verifier context
  { request with signedApprovalGrant := found.toOption.join }

/-- One assignment in the life of the control planes: the one it is for handles it. -/
def fleetStep (fleet : Fleet) (assignment : Assignment) : Fleet × (Nat × Handled) :=
  let request := presented std verifier planes assignment
  let before := fleet.states assignment.plane
  let outcome := (member verifier planes assignment.plane).handle std request fleet.history before
  (⟨fleet.history ++ outcome.effects,
      Function.update fleet.states assignment.plane outcome.state⟩,
    (assignment.plane, ⟨request, before, outcome.effects⟩))

/-- The executions of one control plane on a one-time approval. -/
def fleetUses (output : Nat × Handled) (token : Nat × ApprovalId) : Nat :=
  if output.1 = token.1 then output.2.oneTimeUses token.2 else 0

variable {std verifier planes}

/-- **One assignment** uses a one-time approval at most once for its control plane, never one that is
spent there, and marks it there. -/
theorem fleetStep_singleUse :
    Lib.SingleUse (fleetStep std verifier planes)
      (fun fleet (token : Nat × ApprovalId) => Spent (fleet.states token.1) token.2)
      fleetUses where
  once fleet assignment token := by
    unfold fleetUses
    split
    · change Handled.oneTimeUses ⟨_, _, _⟩ token.2 ≤ 1
      unfold Handled.oneTimeUses
      split
      exacts [executions_length_le_one, Nat.zero_le 1]
    · exact Nat.zero_le 1
  fresh fleet assignment token spent := by
    unfold fleetUses
    split
    · next same =>
        refine not_not.mp fun used => (spent_of_uses used).1 ?_
        have same : assignment.plane = token.1 := same
        rw [same]
        exact spent
    · rfl
  marked fleet assignment token used := by
    unfold fleetUses at used
    split at used
    · next same =>
        have same : assignment.plane = token.1 := same
        have marked := (spent_of_uses used).2
        change Spent (Function.update fleet.states assignment.plane _ token.1) token.2
        rw [← same, Function.update_self]
        exact marked
    · exact absurd rfl used
  kept fleet assignment token spent := by
    change Spent (Function.update fleet.states assignment.plane _ token.1) token.2
    by_cases same : token.1 = assignment.plane
    · rw [same, Function.update_self]
      rw [same] at spent
      exact (handle_keepsMarks _ _ _).spent spent
    · rw [Function.update_of_ne same]
      exact spent

end Fleet

/-- The route of a signed grant: the presented grant is unexpired at a time that was read and, if it
is a one-time grant, its payload is not marked as consumed. -/
theorem Route.signedGrant {request : CapabilityRequest} {capability : Capability}
    {capabilityRef : CapabilityRef} {decision : PolicyDecisionResult} {history before : List Effect}
    {s s' : PlaneState} {verification : GrantVerificationResult}
    (route : Route std plane request capability capabilityRef decision history s before s'
      (some (.signedGrant verification))) :
    ∃ signedGrant now, request.signedApprovalGrant = some signedGrant ∧
      .clockRead now ∈ before ∧ Datetime.lt now signedGrant.payload.expiresAt = .ok true ∧
      (signedGrant.payload.oneTime = true → signedGrant.payload.consumedAt = none) := by
  cases route with
  | @signed signedGrant _ asks locally accepted =>
      obtain ⟨_, _, _, -, -, -, accepts⟩ := accepted.accepts
      refine ⟨signedGrant, _, accepted.presented, List.mem_cons_self, accepts.unexpired, ?_⟩
      intro single
      exact Option.not_isSome_iff_eq_none.mp fun consumed =>
        accepts.unconsumed ⟨single, consumed⟩

/-- **One-time grants are good once for each control plane.** Over every run of any number of control
planes that share a verifier and a cache, a one-time signed grant authorises at most one execution of
each of them, and none accepts one whose payload is marked as consumed or that has expired by the
clock it reads. -/
theorem oneTime_once_each (std : Stdlib) (verifier : ApprovalGrantVerifier)
    (planes : Nat → ControlPlane) (fleet : Fleet) (assignments : List Assignment) :
    (∀ (i : Nat) (grantId : String),
      Lib.totalUses fleetUses (Lib.outputs (fleetStep std verifier planes) fleet assignments)
        (i, .grant grantId) ≤ 1) ∧
    ∀ output ∈ Lib.outputs (fleetStep std verifier planes) fleet assignments,
      ∀ verification, .signedGrant verification ∈ authorisations output.2.effects →
        executions output.2.effects ≠ [] →
        ∃ signedGrant now, output.2.request.signedApprovalGrant = some signedGrant ∧
          .clockRead now ∈ output.2.effects ∧
          Datetime.lt now signedGrant.payload.expiresAt = .ok true ∧
          (signedGrant.payload.oneTime = true → signedGrant.payload.consumedAt = none) := by
  refine ⟨fun i grantId => fleetStep_singleUse.uses_le_one fleet assignments (i, .grant grantId),
    Lib.outputs_forall_of_each ?_ fleet assignments⟩
  intro fleet assignment verification recorded executed
  obtain ⟨_, _, _, authorisation, execution⟩ := execution_of_executes (executes_iff.mpr executed)
  obtain ⟨-, all, -⟩ := execution.trace
  have route := execution.route
  change Authorisation.signedGrant verification ∈ authorisations
    ((member verifier planes assignment.plane).handle std (presented std verifier planes assignment)
      fleet.history (fleet.states assignment.plane)).effects at recorded
  rw [all, Option.mem_toList] at recorded
  subst recorded
  obtain ⟨signedGrant, now, shown, read, unexpired, unconsumed⟩ := route.signedGrant
  refine ⟨signedGrant, now, shown, ?_, unexpired, unconsumed⟩
  obtain ⟨_, _, _, -, run⟩ := execution.run
  change Effect.clockRead now ∈ ((member verifier planes assignment.plane).handle std
    (presented std verifier planes assignment) fleet.history (fleet.states assignment.plane)).effects
  rw [run]
  exact List.mem_append_right _ (List.mem_append_left _ read)

/-- The restart, assigned to one of the control planes while the cache holds the signed grant. -/
def restartOn (plane : Nat) : Assignment :=
  ⟨plane, Deployment.restartRequest, ⟨.ok [Deployment.signedGrant]⟩, Deployment.clockAt 0⟩

/-- Two control planes execute on one cached one-time grant, one after the other. -/
theorem oneTime_replayed :
    ¬ ((Lib.outputs (fleetStep Deployment.library Deployment.signers fun _ => Deployment.localPlane)
        ⟨[], fun _ => Deployment.start⟩ [restartOn 0, restartOn 1]).map
      fun output => output.2.oneTimeUses (.grant "grant-1")).sum ≤ 1 := by
  decide +kernel

end ControlPlane

end AgenticKVM
