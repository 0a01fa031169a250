import AgenticKVM.HostRuns

/-! # Whether a host's decision is final

A host keeps the state of each approval request and, apart from it, the approval store. A refusal
sets the state, which resumptions read, and leaves the store, which every call reads: a grant that was
stored before stays in force (`refusal_after_grant`), and a grant given after a refusal is stored as
any other. Where a refusal leaves no grant that can still be used, and no grant follows one, refusals
are final over every run (`refusals_final`). -/

namespace AgenticKVM

open Lib (Prog)

/-! ## What a request does to the approval store -/

namespace ControlPlane

variable {std : Stdlib} {plane : ControlPlane}

/-- The store has the same grants as before and every mark of consumption. -/
def KeepsGrants (s s' : PlaneState) : Prop :=
  ∀ store, s.approvalStore = some store → ∃ store', s'.approvalStore = some store' ∧
    store'.actionGrants = store.actionGrants ∧
    store.consumedResponseIds ⊆ store'.consumedResponseIds

theorem KeepsGrants.refl (s : PlaneState) : KeepsGrants s s :=
  fun store stored => ⟨store, stored, rfl, fun _ member => member⟩

theorem KeepsGrants.trans {s t u : PlaneState} (first : KeepsGrants s t) (second : KeepsGrants t u) :
    KeepsGrants s u := by
  intro store stored
  obtain ⟨mid, storedMid, same, kept⟩ := first store stored
  obtain ⟨last, storedLast, same', kept'⟩ := second mid storedMid
  exact ⟨last, storedLast, same'.trans same, fun id member => kept' (kept member)⟩

/-- **No part of a request gives a grant**, or takes back a mark of consumption. -/
theorem keepsGrants_closed (request : CapabilityRequest) :
    Closed plane request fun m => Prog.Keeps KeepsGrants m where
  pure a := Prog.Keeps.pure KeepsGrants.refl a
  throw e := Prog.Keeps.throw KeepsGrants.refl e
  ofExcept r := Prog.Keeps.ofExcept KeepsGrants.refl r
  get := Prog.Keeps.get KeepsGrants.refl
  bind first second := Prog.Keeps.bind (fun earlier later => earlier.trans later) first second
  emit _ _ := Prog.Keeps.perform KeepsGrants.refl _
  now := Prog.Keeps.perform KeepsGrants.refl _
  drawId := Prog.Keeps.perform KeepsGrants.refl _
  askClearance _ _ := Prog.Keeps.perform KeepsGrants.refl _
  callProvider _ := Prog.Keeps.perform KeepsGrants.refl _
  consumeSigned _ _ signedGrant _ _ := by
    unfold consumeSigned
    split
    · exact fun _ s store stored => ⟨store, stored, rfl, fun _ member => member⟩
    · exact Prog.Keeps.pure KeepsGrants.refl _
  consumeGrant _ _ grant := by
    refine Prog.Keeps.get_bind fun history s => ?_
    cases stored : s.approvalStore with
    | none => exact KeepsGrants.refl s
    | some store =>
        intro store' stored'
        cases stored.symm.trans stored'
        exact ⟨store.consume grant, rfl, ApprovalStore.consume_actionGrants grant, fun id member =>
          (ApprovalStore.mem_consume grant id).mpr (Or.inr member)⟩

/-- A step whose clock readings are what the clock says at some point of its run. -/
def ReadsClock (plane : ControlPlane) {α : Type} (m : Step α) : Prop :=
  ∀ history s t, .clockRead t ∈ (m history s).effects →
    ∃ more, t = plane.nowFactory (history ++ more)

/-- A step without a clock reading. -/
theorem readsClock_of_none {α : Type} {m : Step α}
    (none : ∀ history s t, Effect.clockRead t ∉ (m history s).effects) : ReadsClock plane m :=
  fun history s t member => absurd member (none history s t)

theorem ReadsClock.bind {α β : Type} {m : Step α} {f : α → Step β} (first : ReadsClock plane m)
    (second : ∀ a, ReadsClock plane (f a)) : ReadsClock plane (m >>= f) := by
  intro history s t member
  have here := first history s t
  match run : m history s with
  | ⟨.error e, mid, before⟩ =>
      rw [Prog.bind_run_error run f] at member
      rw [run] at here
      exact here member
  | ⟨.ok a, mid, before⟩ =>
      rw [Prog.bind_run_ok run f] at member
      rw [run] at here
      rcases List.mem_append.mp member with member | member
      · exact here member
      · obtain ⟨more, read⟩ := second a _ _ t member
        exact ⟨before ++ more, by rw [read, List.append_assoc]⟩

theorem emit_readsClock (event : AuditEmission) : ReadsClock plane (plane.emit event) := by
  refine readsClock_of_none fun history s t member => ?_
  simp only [emit, Prog.perform_run, List.mem_singleton] at member
  split at member <;> cases member

/-- **Every clock reading of a request** is what the clock says at some point of it. -/
theorem readsClock_closed (request : CapabilityRequest) :
    Closed plane request fun m => ReadsClock plane m where
  pure a := readsClock_of_none fun _ _ _ member => by cases member
  throw e := readsClock_of_none fun _ _ _ member => by cases member
  ofExcept r := readsClock_of_none fun _ _ _ member => by cases member
  get := readsClock_of_none fun _ _ _ member => by cases member
  bind first second := first.bind second
  emit event _ := emit_readsClock event
  now := by
    intro history s t member
    rw [now_run, List.mem_singleton] at member
    cases member
    exact ⟨[], by rw [List.append_nil]⟩
  drawId := readsClock_of_none fun _ _ _ member => by
    rw [drawId, Prog.perform_run, List.mem_singleton] at member
    cases member
  askClearance _ _ := readsClock_of_none fun _ _ _ member => by
    rw [askClearance, Prog.perform_run, List.mem_singleton] at member
    cases member
  callProvider _ := readsClock_of_none fun _ _ _ member => by
    rw [callProvider, Prog.perform_run, List.mem_singleton] at member
    cases member
  consumeSigned _ _ signedGrant _ _ := by
    unfold consumeSigned
    split
    · exact (readsClock_of_none fun _ _ _ member => by cases member).bind fun _ =>
        emit_readsClock _
    · exact readsClock_of_none fun _ _ _ member => by cases member
  consumeGrant _ _ grant := by
    refine ReadsClock.bind (readsClock_of_none fun _ _ _ member => by cases member) fun s => ?_
    split
    · exact readsClock_of_none fun _ _ _ member => by cases member
    · exact (readsClock_of_none fun _ _ _ member => by cases member).bind fun _ =>
        emit_readsClock _

/-- **An execution on a stored grant** finds it in the store, unexpired by the clock at some point of
the request, and still usable. -/
theorem storedGrant_of_executes {request : CapabilityRequest} {history : List Effect}
    {s : PlaneState} (executes : Executes (plane.handle std request) history s)
    {grant : ApprovalGrant}
    (used : .storeGrant grant ∈ authorisations (plane.handle std request history s).effects) :
    ∃ store more, s.approvalStore = some store ∧ grant ∈ store.actionGrants ∧
      store.usable grant = true ∧
      Datetime.lt (plane.nowFactory (history ++ more)) grant.expiresAt = .ok true := by
  obtain ⟨capability, before, s', authorisation, execution⟩ := execution_of_executes executes
  have accepted := execution.route
  obtain ⟨-, recorded, -⟩ := execution.trace
  rw [recorded, Option.mem_toList] at used
  subst used
  obtain ⟨_, _, _, -, run⟩ := execution.run
  have subset : before ⊆ (plane.handle std request history s).effects := by
    rw [run]
    exact fun effect member => List.mem_append_right _ (List.mem_append_left _ member)
  obtain ⟨-, store, fingerprint, now, stored, read, -, member, -, unexpired, usable⟩ :=
    accepted.accepted subset
  obtain ⟨more, same⟩ := (readsClock_closed request).handle history s now read
  refine ⟨store, more, stored, member, ?_, same ▸ unexpired⟩
  simpa [ApprovalStore.usable, ApprovalGrant.reusable] using usable

end ControlPlane

/-! ## What a call does to the approval store -/

/-- **The provider executes under an approval request**: it is called, on a grant of the request. -/
def ExecutesUnder (requestId : String) (effects : List RuntimeEffect) : Prop :=
  (∃ effect ∈ effects, effect.executedOn ≠ none) ∧
    ∃ effect ∈ effects, ∃ grant, effect.usedGrant = some grant ∧ grant.requestId = requestId

theorem OwnEvents.not_executesUnder {effects : List RuntimeEffect} (own : OwnEvents effects)
    (requestId : String) : ¬ ExecutesUnder requestId effects := by
  rintro ⟨⟨effect, member, executed⟩, -⟩
  cases effect with
  | handled adapter inner => exact own _ member adapter inner rfl
  | emitted event | emitRaised event e => exact executed rfl

/-- A provider call and the use of a grant make an execution under the grant's request. -/
theorem executesUnder_of_calls {effects : List RuntimeEffect}
    {call : ProviderAdapter × ProviderActionRequest} {grant : ApprovalGrant}
    (called : effects.filterMap RuntimeEffect.providerCall = [call])
    (used : effects.filterMap RuntimeEffect.usedGrant = [grant]) :
    ExecutesUnder grant.requestId effects := by
  have calls : call ∈ effects.filterMap RuntimeEffect.providerCall := by
    rw [called]
    exact List.mem_singleton_self call
  have uses : grant ∈ effects.filterMap RuntimeEffect.usedGrant := by
    rw [used]
    exact List.mem_singleton_self grant
  obtain ⟨effect, member, is⟩ := List.mem_filterMap.mp calls
  obtain ⟨effect', member', is'⟩ := List.mem_filterMap.mp uses
  refine ⟨⟨effect, member, fun none => ?_⟩, effect', member', grant, is', rfl⟩
  unfold RuntimeEffect.providerCall at is
  split at is
  · cases none
  · cases is

namespace MCPRouter

variable {lib : AuditLibrary} {router : MCPRouter} {history effects : List RuntimeEffect}
  {store : ApprovalStore} {after : Option ApprovalStore}

/-- A tool request gives no grant. -/
theorem Handles.keepsGrants (handles : router.Handles lib history (some store) effects after) :
    ∃ store', after = some store' ∧ store'.actionGrants = store.actionGrants ∧
      store.consumedResponseIds ⊆ store'.consumedResponseIds := by
  cases handles with
  | own own => exact ⟨store, rfl, rfl, fun _ member => member⟩
  | plane adapter selection request unsigned selected =>
      exact (ControlPlane.keepsGrants_closed request).handle [] ⟨some store, []⟩ store rfl

/-- **A tool request that executes under an approval request** finds a grant of it in the store, still
usable and unexpired by the clock then. -/
theorem Handles.executesUnder (handles : router.Handles lib history (some store) effects after)
    {requestId : String} (under : ExecutesUnder requestId effects) :
    ∃ grant ∈ store.actionGrants, ∃ more, grant.requestId = requestId ∧
      store.usable grant = true ∧
      Datetime.lt (router.environment.now (history ++ more)) grant.expiresAt = .ok true := by
  cases handles with
  | own own => exact absurd under (own.not_executesUnder requestId)
  | plane adapter selection request unsigned selected =>
      obtain ⟨⟨effect, member, executed⟩, effect', member', grant, used, granted⟩ := under
      obtain ⟨inner, inside, rfl⟩ := List.mem_map.mp member
      obtain ⟨inner', inside', rfl⟩ := List.mem_map.mp member'
      have executes : ControlPlane.Executes ((router.controlPlane adapter selection history).handle
          lib.toStdlib request) [] ⟨some store, []⟩ := by
        refine ⟨inner, inside, ?_⟩
        cases inner with
        | executed request answer => rfl
        | _ => exact absurd rfl executed
      have recorded : .storeGrant grant ∈ authorisations ((router.controlPlane adapter selection
          history).handle lib.toStdlib request [] ⟨some store, []⟩).effects := by
        refine List.mem_filterMap.mpr ⟨inner', inside', ?_⟩
        rw [RuntimeEffect.usedGrant] at used
        split at used
        · next found same =>
          cases used
          exact same
        · cases used
      obtain ⟨store', more, stored, grantStored, usable, unexpired⟩ :=
        ControlPlane.storedGrant_of_executes executes recorded
      cases stored
      exact ⟨grant, grantStored, more.map (.handled adapter), granted, usable, unexpired⟩

/-- What a tool request reads of the clock is what it says at some time. -/
theorem Handles.clockRead {store : Option ApprovalStore}
    (handles : router.Handles lib history store effects after) {adapter : ProviderAdapter}
    {t : Datetime} (reads : .handled adapter (.clockRead t) ∈ effects) :
    ∃ moment, t = router.environment.now moment := by
  cases handles with
  | own own => exact absurd rfl (own _ reads adapter _)
  | plane adapter' selection request unsigned selected =>
      obtain ⟨inner, inside, same⟩ := List.mem_map.mp reads
      cases same
      obtain ⟨more, read⟩ := (ControlPlane.readsClock_closed request).handle [] _ t inside
      exact ⟨_, read⟩

end MCPRouter

/-! ## The host over time -/

/-- An operation of a host. -/
inductive HostOperation
  | callTool (input : CallInput)
  | submitApprovalResponse (input : ConfigRuntime.ResponseInput)
  | resumeApprovedTool (requestId : String)

/-- The requests whose state says that they were denied or have expired. -/
def HostState.refused (s : HostState) : List String :=
  (s.states.filter fun entry => entry.2 = .denied ∨ entry.2 = .expired).map Prod.fst

/-- A host over time: everything that has happened, the state it is in, and the requests that have
been refused so far, whatever became of their states since. -/
structure HostLife where
  history : List RuntimeEffect
  host : HostState
  refused : List String

/-- What an operation leaves, with the requests that had been refused before it. -/
structure HostAnswer where
  refused : List String
  result : Except PyExc Record
  effects : List RuntimeEffect

/-- A host before its first operation. -/
def HostLife.start (history : List RuntimeEffect) (store : ApprovalStore) : HostLife :=
  ⟨history, .fresh store, []⟩

namespace ConfigRuntime

variable (lib : AuditLibrary) (runtime : ConfigRuntime)

/-- The program of an operation. -/
def operate : HostOperation → Host Record
  | .callTool input => runtime.callTool lib input
  | .submitApprovalResponse input => runtime.submitApprovalResponse lib input
  | .resumeApprovedTool requestId => runtime.resumeApprovedTool lib requestId

/-- One operation in the life of a host. -/
def hostStep (life : HostLife) (operation : HostOperation) : HostLife × HostAnswer :=
  let run := runtime.operate lib operation life.history life.host
  (⟨life.history ++ run.effects, run.state, life.refused ++ run.state.refused⟩,
    ⟨life.refused, run.result, run.effects⟩)

/-- A grant that no later call can use: it is consumed, or it has expired for good. -/
def Harmless (history : List RuntimeEffect) (store : ApprovalStore) (grant : ApprovalGrant) : Prop :=
  store.usable grant = false
    ∨ ∀ more, Datetime.ge (runtime.environment.now (history ++ more)) grant.expiresAt = .ok true

/-- **A response that goes with the responses before it**: a refusal of a request leaves no grant of
it that a later call can use, and nothing is granted that has been refused, or what is granted cannot
be used. -/
def Consistent (life : HostLife) : HostOperation → Prop
  | .submitApprovalResponse input =>
      ∀ response pending,
        responseOf lib (runtime.environment.now life.history) input = .ok response →
        Answers life.host response pending →
        (Refuses pending.approval response → ∀ grant ∈ life.host.store.actionGrants,
          grant.requestId = response.requestId →
            runtime.Harmless life.history life.host.store grant) ∧
        (¬ Refuses pending.approval response → response.requestId ∈ life.refused →
          ∀ grant, grantOf pending.approval response = .ok grant →
            runtime.Harmless life.history life.host.store grant)
  | _ => True

/-- What holds of a host whose responses go together: pending approvals are kept under their own ids,
refused states are known, and no grant of a refused request can be used. -/
structure Settled (life : HostLife) : Prop where
  keyed : ∀ entry ∈ life.host.pending, entry.2.approval.id = entry.1
  known : life.host.refused ⊆ life.refused
  harmless : ∀ grant ∈ life.host.store.actionGrants, grant.requestId ∈ life.refused →
    runtime.Harmless life.history life.host.store grant

variable {lib runtime} {history : List RuntimeEffect}

/-- What cannot be used stays so while marks of consumption stay and time goes on. -/
theorem Harmless.later {store store' : ApprovalStore} {grant : ApprovalGrant}
    (harmless : runtime.Harmless history store grant)
    (kept : store.consumedResponseIds ⊆ store'.consumedResponseIds) (more : List RuntimeEffect) :
    runtime.Harmless (history ++ more) store' grant := by
  rcases harmless with consumed | expired
  · refine .inl ?_
    simp only [ApprovalStore.usable, Bool.or_eq_false_iff, Bool.not_eq_false',
      decide_eq_true_eq] at consumed ⊢
    exact ⟨consumed.1, kept consumed.2⟩
  · refine .inr fun later => ?_
    rw [List.append_assoc]
    exact expired (more ++ later)

/-- What a call or a resumption leaves keeps the invariant, and it does not execute under a refused
request. -/
theorem Settled.called {life : HostLife} (settled : runtime.Settled life)
    {effects : List RuntimeEffect} {s' : HostState}
    (called : runtime.Called lib life.history life.host effects s') :
    runtime.Settled ⟨life.history ++ effects, s', life.refused ++ s'.refused⟩
      ∧ ∀ id ∈ life.refused, ¬ ExecutesUnder id effects := by
  obtain ⟨⟨after, handles, stored⟩, states, pending⟩ := called
  obtain ⟨store', rfl, same, kept⟩ := handles.keepsGrants
  rw [Option.getD_some] at stored
  have refused : s'.refused = life.host.refused := by
    rw [HostState.refused, HostState.refused, states]
  constructor
  · constructor
    · intro entry member
      change entry ∈ s'.pending at member
      rcases pending with unchanged | ⟨call, approval, changed⟩
      · rw [unchanged] at member
        exact settled.keyed entry member
      · rw [changed] at member
        rcases mem_dictSet member with rfl | ⟨inside, -⟩
        · rfl
        · exact settled.keyed entry inside
    · exact fun id member => List.mem_append_right _ member
    · intro grant member refusedId
      change grant ∈ s'.store.actionGrants at member
      change grant.requestId ∈ life.refused ++ s'.refused at refusedId
      change runtime.Harmless (life.history ++ effects) s'.store grant
      rw [stored] at member ⊢
      rw [same] at member
      rw [refused] at refusedId
      have before : grant.requestId ∈ life.refused := by
        rcases List.mem_append.mp refusedId with before | now
        exacts [before, settled.known now]
      exact (settled.harmless grant member before).later kept effects
  · intro id refusedId under
    obtain ⟨grant, member, more, rfl, usable, unexpired⟩ := handles.executesUnder under
    rcases settled.harmless grant member refusedId with consumed | expired
    · rw [usable] at consumed
      cases consumed
    · have late := (Datetime.ge_eq_false.mpr unexpired).symm.trans (expired more)
      cases late

/-- The requests refused once a state is set are those refused before, and perhaps the one whose
state it is. -/
theorem refused_dictSet {s : HostState} {states : List (String × HostApprovalResultStatus)}
    {requestId : String} {status : HostApprovalResultStatus} {id : String}
    (member : id ∈ HostState.refused { s with states := dictSet states requestId status }) :
    id ∈ HostState.refused { s with states }
      ∨ id = requestId ∧ (status = .denied ∨ status = .expired) := by
  obtain ⟨entry, inside, rfl⟩ := List.mem_map.mp member
  obtain ⟨inside, refuses⟩ := List.mem_filter.mp inside
  rw [decide_eq_true_eq] at refuses
  rcases mem_dictSet inside with rfl | ⟨before, -⟩
  · exact .inr ⟨rfl, refuses⟩
  · exact .inl (List.mem_map.mpr ⟨entry, List.mem_filter.mpr ⟨before, decide_eq_true refuses⟩, rfl⟩)

/-- What a response leaves keeps the invariant, where it goes with the responses before it. -/
theorem Settled.submitted {life : HostLife} (settled : runtime.Settled life) {input : ResponseInput}
    (consistent : runtime.Consistent lib life (.submitApprovalResponse input)) {s' : HostState}
    (submitted : Submitted lib runtime life.history life.host input s')
    (effects : List RuntimeEffect) :
    runtime.Settled ⟨life.history ++ effects, s', life.refused ++ s'.refused⟩ := by
  have same : life.host.store.consumedResponseIds ⊆ life.host.store.consumedResponseIds :=
    fun _ member => member
  have known : ∀ {states id}, states = life.host.states
      → id ∈ HostState.refused { life.host with states } → id ∈ life.refused := by
    rintro states id rfl member
    exact settled.known member
  cases submitted with
  | kept states invalid =>
      refine ⟨settled.keyed, fun id member => List.mem_append_right _ member, ?_⟩
      intro grant member refused
      refine (settled.harmless grant member ?_).later same effects
      rcases List.mem_append.mp refused with before | now
      · exact before
      · rcases invalid with unchanged | ⟨id, changed⟩
        · exact known unchanged now
        · change grant.requestId ∈ HostState.refused { life.host with states } at now
          rw [changed] at now
          rcases refused_dictSet now with before | ⟨-, invalid | invalid⟩
          · exact known rfl before
          · cases invalid
          · cases invalid
  | @refused response pending read answers refuses status refusal =>
      refine ⟨settled.keyed, fun id member => List.mem_append_right _ member, ?_⟩
      intro grant member refused
      refine Harmless.later ?_ same effects
      rcases List.mem_append.mp refused with before | now
      · exact settled.harmless grant member before
      · rcases refused_dictSet now with before | ⟨own, -⟩
        · exact settled.harmless grant member (known rfl before)
        · exact (consistent response pending read answers).1 refuses grant member own
  | @granted response pending given read answers leave made =>
      refine ⟨settled.keyed, fun id member => List.mem_append_right _ member, ?_⟩
      intro grant member refused
      have before : grant.requestId ∈ life.refused := by
        rcases List.mem_append.mp refused with before | now
        · exact before
        · rcases refused_dictSet now with before | ⟨-, invalid | invalid⟩
          · exact known rfl before
          · cases invalid
          · cases invalid
      refine Harmless.later ?_ same effects
      rcases List.mem_append.mp member with stored | new
      · exact settled.harmless grant stored before
      · rw [List.mem_singleton] at new
        subst new
        refine (consistent response pending read answers).2 leave.not_refuses ?_ grant made
        -- the grant is of the pending request, which is kept under its own id
        have own : grant.requestId = pending.approval.id := by
          unfold grantOf at made
          split at made
          · cases made
            rfl
          · cases made
        obtain ⟨_, _, split, -⟩ := List.lookup_eq_some_iff.mp answers.known
        have key := settled.keyed (response.requestId, pending)
          (split ▸ List.mem_append_right _ List.mem_cons_self)
        rw [own, key] at before
        exact before

/-- **One operation** that goes with the responses before it keeps the invariant, and executes under
no request that has been refused. -/
theorem Settled.step {life : HostLife} (settled : runtime.Settled life) {operation : HostOperation}
    (consistent : runtime.Consistent lib life operation) :
    runtime.Settled (runtime.hostStep lib life operation).1
      ∧ ∀ id ∈ (runtime.hostStep lib life operation).2.refused,
        ¬ ExecutesUnder id (runtime.hostStep lib life operation).2.effects := by
  cases operation with
  | callTool input => exact settled.called (callTool_called input)
  | resumeApprovedTool requestId => exact settled.called (resumeApprovedTool_called requestId)
  | submitApprovalResponse input =>
      obtain ⟨own, submitted⟩ := submitApprovalResponse_submitted input
      exact ⟨settled.submitted consistent submitted _, fun id _ => own.not_executesUnder id⟩

theorem settled_start (history : List RuntimeEffect) (store : ApprovalStore) :
    runtime.Settled (.start history store) :=
  ⟨fun _ member => (List.not_mem_nil member).elim, fun _ member => member,
    fun _ _ refused => (List.not_mem_nil refused).elim⟩

end ConfigRuntime

/-- **Refusals are final** in every run of a host whose responses go together: once a request has been
denied or has expired, no later operation makes the provider execute under it. -/
theorem refusals_final (lib : AuditLibrary) (runtime : ConfigRuntime)
    (history : List RuntimeEffect) (store : ApprovalStore) (operations : List HostOperation)
    (consistent : Lib.StepsMeet (runtime.hostStep lib) (runtime.Consistent lib)
      (.start history store) operations) :
    ∀ answer ∈ Lib.outputs (runtime.hostStep lib) (.start history store) operations,
      ∀ id ∈ answer.refused, ¬ ExecutesUnder id answer.effects :=
  Lib.outputs_forall (fun _ _ settled consistent => settled.step consistent)
    (ConfigRuntime.settled_start history store) consistent

namespace Deployment

open ConfigRuntime

/-- The operations that refuse a restart: it waits, is answered, and is called again. -/
def refusedRestart (decisions : List HostApprovalDecision) (requestId : String)
    (identified : requestId ≠ "") : List HostOperation :=
  .callTool (.call (restartCall "lab-1" lab_named))
    :: decisions.map (fun decision =>
        .submitApprovalResponse (.response (restartResponse decision requestId identified)))
      ++ [.callTool (.call (restartCall "lab-1" lab_named))]

section Restart

variable {s : HostState} {shown : HostApprovalRequest} {call : HostToolCall}

theorem isExpired_restart (expires : shown.expiresAt = clockAt 900) (identified : shown.id ≠ "")
    {decision : HostApprovalDecision} (decided : decision ≠ .expired) :
    isExpired shown (restartResponse decision shown.id identified) = .ok false := by
  have undecided : ¬ (restartResponse decision shown.id identified).decision = .expired := decided
  rw [isExpired, if_neg undecided, expires]
  rfl

end Restart

end Deployment

open ConfigRuntime in
/-- A restart that is denied is not executed when it is called again. -/
theorem refusals_final_restart :
    ∃ runtime requestId, ∃ identified : requestId ≠ "",
      runtimeOf Deployment.configLibrary Deployment.calmEnvironment Deployment.noTransport
        (Deployment.targetConfig "lab-1") = .ok runtime ∧
      (∃ answer ∈ Lib.outputs (runtime.hostStep Deployment.stampLibrary) (.start [] .empty)
          (Deployment.refusedRestart [.denied] requestId identified), requestId ∈ answer.refused) ∧
      ∀ answer ∈ Lib.outputs (runtime.hostStep Deployment.stampLibrary) (.start [] .empty)
          (Deployment.refusedRestart [.denied] requestId identified),
        ∀ id ∈ answer.refused, ¬ ExecutesUnder id answer.effects := by
  obtain ⟨runtime, route, capability, fingerprint, shown, payload, effects, built, steady, -, asked,
    restart, -, mirrors, expires, -, -, run⟩ :=
    @Deployment.restart_waits "lab-1" (by decide) (by decide +kernel)
  set call := Deployment.restartCall "lab-1" (by decide)
  set pending : PendingApproval := ⟨call, shown⟩
  have identified := mirrors.identified
  have known : (defaultCapabilityRegistry.get shown.capability).isSome := by
    rw [mirrors.capability, restart]
    decide +kernel
  set denied := Deployment.restartResponse .denied shown.id identified
  set life := runtime.hostStep Deployment.stampLibrary (.start [] .empty) (.callTool (.call call))
  have host : life.1.host = ⟨.empty, [(shown.id, pending)], []⟩ := by
    change (runtime.callTool Deployment.stampLibrary (.call call) [] (.fresh .empty)).state = _
    rw [run]
  have kept : life.1.host.pending.lookup shown.id = some pending := by
    rw [host]
    exact List.lookup_cons_self
  have unrefused : life.1.refused = [] := by
    change [] ++ (runtime.callTool Deployment.stampLibrary (.call call) [] (.fresh
      .empty)).state.refused = []
    rw [run]
    rfl
  obtain ⟨event, state, -⟩ := @submitApprovalResponse_denies Deployment.stampLibrary runtime
    life.1.history life.1.host denied pending (.response denied) steady rfl ⟨kept, rfl⟩
    (Deployment.isExpired_restart expires identified (by decide)) rfl
    (hostApprovalEvent_isOk known mirrors.decision mirrors.preview _ _)
  refine ⟨runtime, shown.id, identified, built, ?_, refusals_final Deployment.stampLibrary runtime []
    .empty (Deployment.refusedRestart [.denied] shown.id identified) ⟨trivial, ?_, trivial, trivial⟩⟩
  · set life₂ := runtime.hostStep Deployment.stampLibrary life.1 (.submitApprovalResponse
      (.response denied))
    have host₂ : life₂.1.host = ⟨.empty, [(shown.id, pending)], [(shown.id, .denied)]⟩ := by
      change (runtime.submitApprovalResponse Deployment.stampLibrary (.response denied)
        life.1.history life.1.host).state = _
      rw [state, host]
      rfl
    refine ⟨(runtime.hostStep Deployment.stampLibrary life₂.1 (.callTool (.call call))).2,
      List.mem_cons_of_mem _ (List.mem_cons_of_mem _ List.mem_cons_self), ?_⟩
    have refused : shown.id ∈ life₂.1.host.refused := by
      rw [host₂]
      exact List.mem_cons_self
    exact List.mem_append_right _ refused
  · intro response pending' _ _
    refine ⟨fun _ grant member => ?_, fun _ refused => ?_⟩
    · change grant ∈ life.1.host.store.actionGrants at member
      rw [host] at member
      cases member
    · change response.requestId ∈ life.1.refused at refused
      rw [unrefused] at refused
      cases refused

open ConfigRuntime in
/-- A denial after a grant is accepted and leaves the grant: the next call executes under it. -/
theorem refusal_after_grant :
    ∃ runtime requestId, ∃ identified : requestId ≠ "",
      runtimeOf Deployment.configLibrary Deployment.calmEnvironment Deployment.noTransport
        (Deployment.targetConfig "lab-1") = .ok runtime ∧
      ∃ answer ∈ Lib.outputs (runtime.hostStep Deployment.stampLibrary) (.start [] .empty)
          (Deployment.refusedRestart [.granted, .denied] requestId identified),
        requestId ∈ answer.refused ∧ ExecutesUnder requestId answer.effects := by
  obtain ⟨runtime, route, capability, fingerprint, shown, payload, effects, built, steady, calm, asked,
    restart, printed, mirrors, expires, -, -, run⟩ :=
    @Deployment.restart_waits "lab-1" (by decide) (by decide +kernel)
  set call := Deployment.restartCall "lab-1" (by decide)
  set pending : PendingApproval := ⟨call, shown⟩
  have identified := mirrors.identified
  have known : (defaultCapabilityRegistry.get shown.capability).isSome := by
    rw [mirrors.capability, restart]
    decide +kernel
  have resumable : shown.capability ∉ approvalResumptionBlockedCapabilities := by
    rw [mirrors.capability, restart]
    decide
  have target : shown.target = "lab-1" :=
    mirrors.target.trans (shownText_harmless (by decide +kernel))
  set granted := Deployment.restartResponse .granted shown.id identified
  set denied := Deployment.restartResponse .denied shown.id identified
  obtain ⟨grant, made, own, binding, -, expiry, scope⟩ := @exists_grant granted shown resumable
  set life := runtime.hostStep Deployment.stampLibrary (.start [] .empty) (.callTool (.call call))
  have host : life.1.host = ⟨.empty, [(shown.id, pending)], []⟩ := by
    change (runtime.callTool Deployment.stampLibrary (.call call) [] (.fresh .empty)).state = _
    rw [run]
  have kept : life.1.host.pending.lookup shown.id = some pending := by
    rw [host]
    exact List.lookup_cons_self
  obtain ⟨event, state, emitted⟩ := @submitApprovalResponse_grants Deployment.stampLibrary runtime
    life.1.history life.1.host granted pending (.response granted) steady rfl ⟨kept, rfl⟩
    (Deployment.isExpired_restart expires identified (by decide))
    (show HostApprovalDecision.granted ≠ .denied by decide) grant made
    (hostApprovalEvent_isOk known mirrors.decision mirrors.preview _ _)
  set life₂ := runtime.hostStep Deployment.stampLibrary life.1 (.submitApprovalResponse
    (.response granted))
  have host₂ : life₂.1.host = ⟨ApprovalStore.empty.addActionGrant grant, [(shown.id, pending)],
      [(shown.id, .granted)]⟩ := by
    change (runtime.submitApprovalResponse Deployment.stampLibrary (.response granted)
      life.1.history life.1.host).state = _
    rw [state, host]
    rfl
  have kept₂ : life₂.1.host.pending.lookup shown.id = some pending := by
    rw [host₂]
    exact List.lookup_cons_self
  obtain ⟨event₂, state₂, -⟩ := @submitApprovalResponse_denies Deployment.stampLibrary runtime
    life₂.1.history life₂.1.host denied pending (.response denied) steady rfl ⟨kept₂, rfl⟩
    (Deployment.isExpired_restart expires identified (by decide)) rfl
    (hostApprovalEvent_isOk known mirrors.decision mirrors.preview _ _)
  set life₃ := runtime.hostStep Deployment.stampLibrary life₂.1 (.submitApprovalResponse
    (.response denied))
  have host₃ : life₃.1.host = ⟨ApprovalStore.empty.addActionGrant grant, [(shown.id, pending)],
      [(shown.id, .denied)]⟩ := by
    change (runtime.submitApprovalResponse Deployment.stampLibrary (.response denied)
      life₂.1.history life₂.1.host).state = _
    rw [state₂, host₂]
    change HostState.mk _ _ (dictSet [(shown.id, _)] shown.id _) = _
    simp [dictSet]
  have bound : callBinding call route fingerprint = grant.binding := by
    rw [binding, mirrors.capability, mirrors.sessionId, target, mirrors.provider,
      mirrors.paramsFingerprint]
    rfl
  have time : runtime.callTime call route life₃.1.history = Deployment.clockAt 0 := by
    obtain ⟨before, same⟩ := callTime_eq runtime call route life₃.1.history
    rw [same, calm]
    rfl
  have answer : life₃.1.host.store.findActionGrant (callBinding call route fingerprint)
      (runtime.callTime call route life₃.1.history) = .ok (some grant) := by
    rw [host₃]
    refine ApprovalStore.findActionGrant_add rfl (Bool.or_true _) ?_
    rw [ApprovalGrant.matches, if_pos bound, time, expiry, expires]
    rfl
  obtain ⟨result, pendings, effects₄, called, used, -, -, run₄⟩ := @callTool_resumes
    Deployment.stampLibrary runtime call route capability life₃.1.history life₃.1.host (.call call)
    steady rfl asked fingerprint printed grant answer
  refine ⟨runtime, shown.id, identified, built, (runtime.hostStep Deployment.stampLibrary life₃.1
    (.callTool (.call call))).2, ?_, ?_, ?_⟩
  · exact List.mem_cons_of_mem _ (List.mem_cons_of_mem _ (List.mem_cons_of_mem _
      List.mem_cons_self))
  · have refused : shown.id ∈ life₃.1.host.refused := by
      rw [host₃]
      exact List.mem_cons_self
    exact List.mem_append_right _ refused
  · have under := executesUnder_of_calls called used
    rw [own] at under
    change ExecutesUnder shown.id (runtime.callTool Deployment.stampLibrary (.call call)
      life₃.1.history life₃.1.host).effects
    rw [run₄]
    exact under

end AgenticKVM
