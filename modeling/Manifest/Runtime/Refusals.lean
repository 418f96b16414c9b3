import Manifest.Governor.Trail
import Manifest.Lib.Fallible
import Manifest.Lib.Maintains
import Manifest.Runtime.Finality

/-!
# Refused resolutions

A resolution is refused by the checks that precede its first write, and by the guards of the
continuation, which follow it.

Main results:

- Theorem `RunService.refused_unwritten`: where a run that is taken up waits for its approval, a
  refused resolution has written nothing.
- Theorem `RunService.not_refused_unwritten`: otherwise it may have.
-/

set_option autoImplicit false

namespace Manifest

open Interaction Fallible

/-- The classes of a refused resolution. -/
def refusals : List ErrorClass :=
  [.approvalIdempotencyConflict, .approvalNotPending, .approvalVersionConflict,
    .approverConflict, .approvalActionMismatch, .approvalStateMismatch, .approvalPolicyMismatch]

/-- Any other exception. -/
def Ordinary (x : PyError) : Prop :=
  x.cls ∉ refusals

theorem ordinary_mk {cls : ErrorClass} {message : String} (h : cls ∉ refusals) :
    Ordinary ⟨cls, message⟩ :=
  h

theorem ordinary_python (message : String) : Ordinary (.ofPython message) :=
  ordinary_mk (by decide)

theorem ordinary_of_not_manifest {x : PyError} (h : x.isManifest = false) : Ordinary x := by
  simp only [PyError.isManifest, ne_eq, decide_not, Bool.not_eq_false', decide_eq_true_eq] at h
  unfold Ordinary
  rw [h]
  decide

/-! ## Replies of the repository -/

section Store

variable {store : MemoryTraceStore} {state : TrajectoryState} {x : PyError}

theorem assertRevision_ordinary (h : store.assertRevision state = .error x) : Ordinary x := by
  unfold MemoryTraceStore.assertRevision at h
  split at h
  · cases h
    exact ordinary_mk (by decide)
  · split at h
    · cases h
      exact ordinary_mk (by decide)
    · cases h

theorem appendEvent_ordinary [Sha256] {spec : EventSpec} {now : Timestamp} {eventId : String}
    (h : (store.appendEvent state spec now eventId).1.1 = .error x) : Ordinary x := by
  unfold MemoryTraceStore.appendEvent at h
  split at h
  · rename_i y hrevision
    cases h
    exact assertRevision_ordinary hrevision
  · split at h
    · split at h
      · cases h
        exact ordinary_mk (by decide)
      · cases h
    · split at h
      · cases h
        exact ordinary_mk (by decide)
      · dsimp only at h
        split at h
        · cases h
          exact ordinary_mk (by decide)
        · cases h

theorem appendDecision_ordinary {decision : Decision}
    (h : (store.appendDecision state decision).1.1 = .error x) : Ordinary x := by
  unfold MemoryTraceStore.appendDecision at h
  split at h
  · rename_i y hrevision
    cases h
    exact assertRevision_ordinary hrevision
  · split at h
    · cases h
      exact ordinary_mk (by decide)
    · cases h

theorem addApproval_ordinary {approval : ApprovalRecord}
    (h : (store.addApproval state approval).1.1 = .error x) : Ordinary x := by
  unfold MemoryTraceStore.addApproval at h
  split at h
  · rename_i y hrevision
    cases h
    exact assertRevision_ordinary hrevision
  · split at h
    · cases h
      exact ordinary_mk (by decide)
    · cases h

theorem getApproval_ordinary {approvalId : String}
    (h : store.getApproval approvalId = .error x) : Ordinary x := by
  unfold MemoryTraceStore.getApproval at h
  split at h
  · cases h
  · cases h
    exact ordinary_mk (by decide)

theorem loadTrace_ordinary {traceId : String} (h : store.loadTrace traceId = .error x) :
    Ordinary x := by
  unfold MemoryTraceStore.loadTrace at h
  split at h
  · cases h
  · cases h
    exact ordinary_mk (by decide)

theorem replaceApproval_ordinary {approval : ApprovalRecord}
    (h : (store.replaceApproval approval).1 = .error x) : Ordinary x := by
  unfold MemoryTraceStore.replaceApproval at h
  split at h
  · cases h
    exact ordinary_mk (by decide)
  · split at h
    · cases h
      exact ordinary_mk (by decide)
    · cases h

theorem putEffectReceipt_ordinary {receipt : EffectReceipt}
    (h : (store.putEffectReceipt receipt).1 = .error x) : Ordinary x := by
  unfold MemoryTraceStore.putEffectReceipt at h
  split at h
  · split at h
    · cases h
      exact ordinary_mk (by decide)
    · cases h
  · split at h
    · cases h
      exact ordinary_mk (by decide)
    · cases h

end Store

/-! ## The adapter's cancellation -/

section Adapter

variable {x : PyError}

theorem memberOf_ordinary {value : Value} {values : List Value}
    (h : MockLogisticsTools.memberOf value values = .error x) : Ordinary x := by
  unfold MockLogisticsTools.memberOf at h
  split_ifs at h
  cases h
  exact ordinary_python _

theorem storeIdempotently_ordinary {cache : Cache} {key : Value} {payload : Kwargs}
    (h : MockLogisticsTools.storeIdempotently cache key payload = .error x) : Ordinary x := by
  unfold MockLogisticsTools.storeIdempotently at h
  split at h
  · cases h
    exact ordinary_python _
  · split at h
    · split at h
      · cases h
      · cases h
        exact ordinary_mk (by decide)
    · cases h

theorem cancelFreightBooking_ordinary {args : Kwargs} {mocks : MockLogisticsTools}
    (h : MockLogisticsTools.cancelFreightBooking args mocks = .error x) : Ordinary x := by
  unfold MockLogisticsTools.cancelFreightBooking at h
  rcases bind_eq_error_iff.mp h with hbind | ⟨-, -, h⟩
  · unfold MockLogisticsTools.bindKwargs at hbind
    split_ifs at hbind
    cases hbind
    exact ordinary_python _
  dsimp only at h
  split at h
  · cases h
    exact ordinary_mk (by decide)
  rcases bind_eq_error_iff.mp h with hknown | ⟨known, -, h⟩
  · exact memberOf_ordinary hknown
  split at h
  · cases h
    exact ordinary_mk (by decide)
  rcases bind_eq_error_iff.mp h with hconfirmed | ⟨confirmed, -, h⟩
  · exact memberOf_ordinary hconfirmed
  split at h
  · cases h
    exact ordinary_mk (by decide)
  rcases bind_eq_error_iff.mp h with hstored | ⟨stored, -, h⟩
  · exact storeIdempotently_ordinary hstored
  · cases h

end Adapter

/-! ## The governed cancellation -/

section Governed

variable [Sha256] {loader : FixtureLoader} {host : Host}

/-- Under the in-memory handler the procedure raises no refusal. -/
abbrev Unrefused {σ α : Type} (loader : FixtureLoader) (host : Host)
    (m : Proc Op PyError σ α) : Prop :=
  Proc.Raises (World.handle loader host) Ordinary m

theorem appendEvent_unrefused (spec : EventSpec) :
    Unrefused loader host (Py.appendEvent spec) :=
  .send fun _ _ _ h => appendEvent_ordinary h

theorem appendDecision_unrefused (decision : Decision) :
    Unrefused loader host (Py.appendDecision decision) :=
  .send fun _ _ _ h => appendDecision_ordinary h

theorem addApproval_unrefused (approval : ApprovalRecord) :
    Unrefused loader host (Py.addApproval approval) :=
  .send fun _ _ _ h => addApproval_ordinary h

theorem uuid4_unrefused : Unrefused loader host Py.uuid4 :=
  .bind .read fun _ => .perform _

theorem utcNow_unrefused : Unrefused loader host Py.utcNow :=
  .bind .read fun _ => .perform _

namespace Governor

variable (g : Governor)

theorem propose_unrefused (agent : AgentName) (toolName : String) (args : Kwargs) :
    Unrefused loader host (g.propose agent toolName args) := by
  unfold propose
  refine .bind .read fun state => ?_
  split
  · exact .raise (ordinary_mk (by decide))
  · refine .bind (.mutate _) fun _ => .bind uuid4_unrefused fun uuid => ?_
    exact .bind (appendEvent_unrefused _) fun _ => .pure _

theorem approvalFor_unrefused (toolName : String) :
    Unrefused loader host (approvalFor toolName) := by
  unfold approvalFor approvalContext
  split
  · refine .bind .read fun state => ?_
    split
    · exact .pure _
    · split
      · exact .pure _
      · refine .bind (.perform _) fun reply => ?_
        cases reply with
        | ok approval => exact .bind utcNow_unrefused fun now => .pure _
        | error x =>
            dsimp only
            split
            · exact .pure _
            · rename_i hmanifest
              exact .raise (ordinary_of_not_manifest (Bool.eq_false_iff.mpr hmanifest))
  · exact .pure _

theorem judge_unrefused (definition : Option ToolDefinition) {proposal : ToolProposal}
    (hname : proposal.toolName = "cancel_freight_booking") (args : Kwargs) :
    Unrefused loader host (g.judge definition proposal args) := by
  unfold judge buildRequest
  refine .bind (.bind .read fun state => ?_) fun request => .bind .read fun state => ?_
  · refine .bind (.ofExcept fun x hx => ?_) fun resource => ?_
    · unfold resourceContext at hx
      rw [hname] at hx
      simp only [String.reduceEq, if_false, decide_false, Bool.or_self, Bool.false_eq_true,
        decide_true, Bool.or_true, if_true] at hx
      split at hx <;> cases hx
    · refine .bind (approvalFor_unrefused _) fun approval => ?_
      exact .bind uuid4_unrefused fun uuid => .pure _
  · refine .bind ?_ fun decision => .pure _
    unfold makeDecision
    refine .bind .read fun state => .bind (.perform _) fun elapsed => ?_
    exact .bind uuid4_unrefused fun uuid => .bind utcNow_unrefused fun now => .pure _

theorem record_unrefused (decision : Decision) : Unrefused loader host (record decision) :=
  .bind (appendDecision_unrefused _) fun _ => .bind (appendEvent_unrefused _) fun _ => .pure _

theorem createApproval_unrefused (args : Kwargs) (decision : Decision) :
    Unrefused loader host (createApproval args decision) := by
  unfold createApproval preparedAt
  refine .bind (.bind .read fun state => ?_) fun prepared => ?_
  · split
    · exact .pure _
    · exact .raise (ordinary_python _)
  · refine .bind (.mutate _) fun _ => .bind uuid4_unrefused fun uuid => ?_
    refine .bind utcNow_unrefused fun now => .bind .read fun state => ?_
    exact .bind (.mutate _) fun _ => .bind (addApproval_unrefused _) fun _ => .pure _

theorem callTool_unrefused (args : Kwargs) :
    Unrefused (σ := TrajectoryState) loader host
      (Proc.request (.callTool "cancel_freight_booking" args)) := by
  refine .request fun w x hx => ?_
  replace hx : (MockLogisticsTools.writing w.mocks
      (MockLogisticsTools.cancelFreightBooking args w.mocks)).1 = .error x := hx
  unfold MockLogisticsTools.writing at hx
  split at hx
  · cases hx
  · rename_i y hy
    obtain rfl : y = x := Except.error.inj hx
    exact cancelFreightBooking_ordinary hy

theorem executeWithDurableReceipt_unrefused (effectClass : EffectClass) (args : Kwargs) :
    Unrefused loader host
      (executeWithDurableReceipt "cancel_freight_booking" effectClass args) := by
  have honce (key : String) :
      Unrefused loader host (executeOnce "cancel_freight_booking" args key) := by
    unfold executeOnce
    refine .bind (.ofExcept fun x hx => ?_) fun keyHash => .bind .read fun state => ?_
    · unfold opaqueKeyHash at hx
      split_ifs at hx
      cases hx
      exact ordinary_mk (by decide)
    · refine .bind (.perform _) fun found => ?_
      split
      · split
        · exact .raise (ordinary_mk (by decide))
        · exact .pure _
      · refine .bind (callTool_unrefused args) fun value => ?_
        split
        · refine .bind utcNow_unrefused fun now => .bind (.request fun w x hx => ?_) fun stored =>
            .pure _
          exact putEffectReceipt_ordinary hx
        · exact .raise (ordinary_mk (by decide))
  unfold executeWithDurableReceipt
  split
  · exact callTool_unrefused args
  · exact honce _
  · exact callTool_unrefused args

omit [Sha256] in
theorem namedPrepared_ordinary {args : Kwargs} {state : TrajectoryState} {x : PyError}
    (h : namedPrepared args state = .error x) : Ordinary x := by
  unfold namedPrepared at h
  split at h
  · cases h
    exact ordinary_python _
  · split at h
    · cases h
    · cases h
      exact ordinary_python _

omit [Sha256] in
theorem applyCancellation_ordinary {args : Kwargs} {state : TrajectoryState} {x : PyError}
    (h : (applyCancellation args state).1 = .error x) : Ordinary x := by
  unfold applyCancellation at h
  split at h
  · rename_i y hnamed
    obtain rfl : y = x := Except.error.inj h
    exact namedPrepared_ordinary hnamed
  · split at h
    · cases h
    · split at h
      · cases h
        exact ordinary_mk (by decide)
      · split at h
        · cases h
          exact ordinary_mk (by decide)
        · cases h

theorem effect_unrefused (effectClass : EffectClass) {proposal : ToolProposal}
    (hname : proposal.toolName = "cancel_freight_booking") (request : PolicyRequest)
    (args : Kwargs) (decision : Decision) :
    Unrefused loader host (effect effectClass proposal request args decision) := by
  unfold effect
  rw [hname]
  refine .bind (.tryCatch_of (executeWithDurableReceipt_unrefused effectClass args)
    fun x hx => ?_) fun value => .bind (appendEvent_unrefused _) fun _ => ?_
  · unfold reportFailure
    split
    · exact .bind (appendEvent_unrefused _) fun _ => .raise hx
    · exact .bind (appendEvent_unrefused _) fun _ => .raise (ordinary_mk (by decide))
  · exact .bind (.lift fun state x hx => applyCancellation_ordinary hx) fun _ =>
      .bind (.mutate _) fun _ => .pure _

theorem apply_unrefused (definition : Option ToolDefinition) {proposal : ToolProposal}
    (hname : proposal.toolName = "cancel_freight_booking") (request : PolicyRequest)
    (args : Kwargs) (decision : Decision) :
    Unrefused loader host (apply definition proposal request args decision) := by
  unfold apply
  split
  · exact .bind (appendEvent_unrefused _) fun _ => .pure _
  · exact .bind (appendEvent_unrefused _) fun _ => .pure _
  · exact .bind (createApproval_unrefused args decision) fun approval =>
      .bind (appendEvent_unrefused _) fun _ => .pure _
  · exact .pure _
  · exact effect_unrefused _ hname request args decision

/-- A governed cancellation raises no refusal. -/
theorem executeTool_unrefused (agent : AgentName) (args : Kwargs) :
    Unrefused loader host (g.executeTool agent "cancel_freight_booking" args) := by
  unfold executeTool
  refine .bind_of (P := fun proposed => proposed.2.toolName = "cancel_freight_booking")
    (g.propose_unrefused agent _ args) (fun s w proposed hproposed => ?_)
    fun proposed hname => ?_
  · have hspec := (g.propose_ensures agent "cancel_freight_booking" args s).exec
      (World.handle loader host) w
    rw [hproposed] at hspec
    exact (hspec.2 _ _ rfl).toolName_eq
  · obtain ⟨definition, proposal⟩ := proposed
    refine .bind (g.judge_unrefused definition hname args) fun judged => ?_
    exact .bind (record_unrefused _) fun _ => apply_unrefused definition hname _ args _

end Governor

theorem valueOrBlocked_unrefused (result : GovernedToolResult) :
    Unrefused loader host (valueOrBlocked result) := by
  unfold valueOrBlocked policyBlocked
  split
  · exact .pure _
  · exact .raise (ordinary_mk (by decide))

/-! ## The hosted cancellation -/

/-- The model provider raises none of the errors of a refused resolution. -/
def OrdinaryProvider (host : Host) : Prop :=
  ∀ scope n x, (host.invocation scope n).ending = .raised x → Ordinary x

omit [Sha256] in
theorem carrierSummary_ordinary {context : GovernedInvocationContext} {state : TrajectoryState}
    {x : PyError} (h : StrandsRuntime.carrierSummary context state = .error x) : Ordinary x := by
  unfold StrandsRuntime.carrierSummary at h
  dsimp only at h
  split at h
  · cases h
  · cases h
  · cases h
  · rcases bind_eq_error_iff.mp h with hamount | ⟨amount, -, h⟩
    · unfold formatMinor at hamount
      split at hamount
      · cases hamount
      · cases hamount
        exact ordinary_python _
    · cases h
  · cases h

omit [Sha256] in
theorem checkResult_ordinary {context : GovernedInvocationContext} {state : TrajectoryState}
    {result : ModelResult} {x : PyError}
    (h : StrandsRuntime.checkResult context state result = .error x) : Ordinary x := by
  unfold StrandsRuntime.checkResult at h
  have hruntime {message : String} {f : Unit → Except PyError String}
      (h : (agentRuntime message >>= f) = .error x) : Ordinary x := by
    cases h
    exact ordinary_mk (by decide)
  have hcomplete (h : context.assertComplete state = .error x) : Ordinary x := by
    unfold GovernedInvocationContext.assertComplete at h
    split_ifs at h
    cases h
    exact ordinary_mk (by decide)
  have hsummary (h : StrandsRuntime.governedSummary context state = .error x) : Ordinary x := by
    unfold StrandsRuntime.governedSummary at h
    dsimp only at h
    split at h
    · cases h
    · cases h
    · exact carrierSummary_ordinary h
    · cases h
  have hends (h : (do
      if result.stopReason ≠ "end_turn" then
        agentRuntime
          s!"The {context.role.value} Strands invocation stopped with {result.stopReason}."
      context.assertComplete state
      if isBlank result.summary then
        agentRuntime s!"The {context.role.value} Strands invocation returned no summary."
      StrandsRuntime.governedSummary context state : Except PyError String) = .error x) :
      Ordinary x := by
    dsimp only at h
    split at h
    · exact hruntime h
    · rcases bind_eq_error_iff.mp h with h | ⟨-, -, h⟩
      · exact hcomplete h
      · split at h
        · exact hruntime h
        · exact hsummary h
  dsimp only at h
  cases hreason : context.blockedReason with
  | none =>
      rw [hreason] at h
      exact hends h
  | some reason =>
      rw [hreason] at h
      by_cases hsome : reason ≠ ""
      · simp only [if_pos hsome] at h
        cases h
        exact ordinary_mk (by decide)
      · simp only [if_neg hsome] at h
        exact hends h

theorem steps_unrefused (g : Governor) (calls : List ModelCall)
    (context : GovernedInvocationContext) :
    Unrefused loader host (GovernedInvocationContext.steps g calls context) := by
  induction calls generalizing context with
  | nil => exact .pure context
  | cons call rest ih =>
      refine .bind ?_ fun context => ih context
      unfold GovernedInvocationContext.step
      split
      · unfold GovernedInvocationContext.execute
        split_ifs
        · exact .pure _
        · exact .pure _
        · exact .tryCatch fun _ => .pure _
      · exact .pure _

omit [Sha256] in
theorem timeoutError_ordinary (settings : RuntimeSettings) (role : AgentName) :
    Ordinary (StrandsRuntime.timeoutError settings role) := by
  unfold StrandsRuntime.timeoutError
  split_ifs
  · exact ordinary_mk (by decide)
  · exact ordinary_mk (by decide)

theorem invoke_unrefused (hprovider : OrdinaryProvider host) (g : Governor)
    (settings : RuntimeSettings) (context : GovernedInvocationContext) :
    Unrefused loader host (StrandsRuntime.invoke g settings context) := by
  unfold StrandsRuntime.invoke
  refine .bind .read fun state => ?_
  refine .bind_of (P := fun invocation => ∀ x, invocation.ending = .raised x → Ordinary x)
    (.perform _) (fun s w invocation hinvocation => ?_) fun invocation hending => ?_
  · obtain rfl := Except.ok.inj hinvocation
    exact hprovider _ _
  · refine .bind (steps_unrefused g _ context) fun context => ?_
    split
    · exact .raise (timeoutError_ordinary settings context.role)
    · rename_i x hraised
      exact .raise (hending x hraised)
    · refine .bind .read fun state => .bind (.ofExcept fun x => checkResult_ordinary) ?_
      exact fun summary => .bind (appendEvent_unrefused _) fun _ => .pure summary

/-! ## Continuations -/

/-- From the object and the world at hand the procedure raises no refusal. -/
abbrev UnrefusedFrom {σ α : Type} (loader : FixtureLoader) (host : Host) (s : σ) (w : World)
    (m : Proc Op PyError σ α) : Prop :=
  Proc.Meets (World.handle loader host) unobserved s w m (fun _ => True) fun x =>
    ∀ y, x.result = .error y → Ordinary y

theorem Unrefused.at {σ α : Type} {m : Proc Op PyError σ α} (h : Unrefused loader host m) (s : σ)
    (w : World) : UnrefusedFrom loader host s w m :=
  ⟨fun _ _ => trivial, fun x hx => h s w x hx⟩

/-- A run that an approval can carry on: it waits, and the action of an approval that was not
approved is there to be cancelled. -/
structure Continuable (approval : ApprovalRecord) (state : TrajectoryState) : Prop where
  waits : state.waitsForApproval = true
  prepared : approval.status ≠ .approved →
    ∃ prepared, state.preparedActions.get? approval.preparedActionId = some prepared

omit [Sha256] in
theorem setPreparedStatus_waits (s : TrajectoryState) (preparedId : String)
    (status : CommitmentStatus) :
    (s.setPreparedStatus preparedId status).waitsForApproval = s.waitsForApproval := by
  unfold TrajectoryState.setPreparedStatus
  split <;> rfl

section Journeys

variable {g : Governor} {settings : RuntimeSettings} {o : ShipmentOrchestrator}
  {s : TrajectoryState} {w : World}

theorem failRun_unrefused (o : ShipmentOrchestrator) (x : PyError) :
    Unrefused loader host (o.failRun x) := by
  unfold ShipmentOrchestrator.failRun
  split
  · exact .bind (.mutate _) fun _ => .bind (appendEvent_unrefused _) fun _ => .pure _
  · exact .bind .read fun state => .bind (.mutate _) fun _ =>
      .bind (appendEvent_unrefused _) fun _ => .pure _

theorem resumeWith_unrefused (o : ShipmentOrchestrator) (approval : ApprovalRecord)
    (carrier communications : Agent) :
    Unrefused loader host (o.resumeWith approval carrier communications) := by
  unfold ShipmentOrchestrator.resumeWith
  refine .bind (.mutate _) fun _ => .bind .read fun state => ?_
  exact .bind (appendEvent_unrefused _) fun _ => .bind (appendEvent_unrefused _) fun _ =>
    .tryCatch fun x => failRun_unrefused o x

/-- An event of a continuation leaves what the continuation needs. -/
theorem from_event {α : Type} {approval : ApprovalRecord} (hs : Continuable approval s)
    (spec : EventSpec) {rest : TraceEvent → Py α}
    (hrest : ∀ event s' w', Continuable approval s' → UnrefusedFrom loader host s' w' (rest event)) :
    UnrefusedFrom loader host s w (Py.appendEvent spec >>= rest) := by
  have happend : Proc.Meets (World.handle loader host) unobserved s w (Py.appendEvent spec)
      (fun _ => True) fun x => Continuable approval x.state ∧
        ∀ y, x.result = .error y → Ordinary y :=
    ⟨fun _ _ => trivial, ⟨hs.waits, hs.prepared⟩, fun y => appendEvent_unrefused spec s w y⟩
  refine .bind happend (fun event s' w' h => hrest event s' w' h.1) ?_
  rintro x s' w' h _ ⟨⟩
  exact h.2 x rfl

theorem from_requireWaiting {α : Type} {rest : Unit → Py α} (hs : s.waitsForApproval = true)
    (hrest : UnrefusedFrom loader host s w (rest ())) :
    UnrefusedFrom loader host s w (ShipmentOrchestrator.requireWaiting >>= rest) := by
  unfold ShipmentOrchestrator.requireWaiting
  refine Proc.meets_bind.mpr (.read ?_)
  rw [if_pos hs]
  exact .pure hrest

/-- The cancellation of both runtimes, on an action that is there. -/
theorem cancelBooking_unrefused (hprovider : OrdinaryProvider host) {carrier : Agent}
    (hcarrier : carrier ∈ legacyAgents g ∨ carrier ∈ strandsAgents g settings)
    (hname : carrier.name = .carrier) {approval : ApprovalRecord} {status : CommitmentStatus}
    (hended : CarrierAgent.endedStatus approval.status = some status)
    (hprepared : ∃ prepared, s.preparedActions.get? approval.preparedActionId = some prepared)
    (reasonCode : String) :
    UnrefusedFrom loader host s w (carrier.cancelBooking approval reasonCode) := by
  have hmarked {rest : PreparedAction → Py String}
      (hrest : ∀ prepared, Unrefused loader host (rest prepared)) :
      UnrefusedFrom loader host s w (CarrierAgent.markEnded approval >>= rest) := by
    obtain ⟨prepared, hprepared⟩ := hprepared
    unfold CarrierAgent.markEnded
    refine Proc.meets_bind.mpr (.read ?_)
    simp only [hprepared, hended]
    exact .mutate (.pure ((hrest prepared).at _ _))
  have hlegacy : UnrefusedFrom loader host s w (CarrierAgent.cancelBooking g approval reasonCode) :=
    hmarked fun prepared => .bind .read fun state => .bind (g.executeTool_unrefused _ _)
      fun result => .bind (valueOrBlocked_unrefused _) fun _ => .pure _
  have hstrands : UnrefusedFrom loader host s w
      (StrandsCarrierAgent.cancelBooking g settings approval reasonCode) :=
    hmarked fun prepared => invoke_unrefused hprovider g settings _
  rcases hcarrier with hcarrier | hcarrier
  · simp only [legacyAgents, List.mem_cons, List.not_mem_nil, or_false] at hcarrier
    rcases hcarrier with rfl | rfl | rfl | rfl
    · cases hname
    · cases hname
    · exact hlegacy
    · cases hname
  · simp only [strandsAgents, List.mem_cons, List.not_mem_nil, or_false] at hcarrier
    rcases hcarrier with rfl | rfl | rfl | rfl
    · cases hname
    · cases hname
    · exact hstrands
    · cases hname

/-- Both runtimes have the two roles of a continuation. -/
theorem from_withAgent {name : AgentName}
    (hroles : o.agents = legacyAgents g ∨ o.agents = strandsAgents g settings)
    {rest : Agent → Py Unit}
    (hrest : ∀ agent, agent ∈ legacyAgents g ∨ agent ∈ strandsAgents g settings →
      agent.name = name → UnrefusedFrom loader host s w (rest agent)) :
    UnrefusedFrom loader host s w (o.withAgent name rest) := by
  have hfound : ∃ agent, (o.agents.find? fun agent => agent.name = name) = some agent := by
    rw [← Option.isSome_iff_exists, List.find?_isSome]
    rcases hroles with hroles | hroles
    all_goals
      rw [hroles]
      cases name <;> simp [legacyAgents, strandsAgents, strandsRole]
  obtain ⟨agent, hfound⟩ := hfound
  have hmem : agent ∈ legacyAgents g ∨ agent ∈ strandsAgents g settings := by
    have hmem := List.mem_of_find?_eq_some hfound
    rcases hroles with hroles | hroles
    · exact .inl (hroles ▸ hmem)
    · exact .inr (hroles ▸ hmem)
  have hname : agent.name = name := by simpa using List.find?_some hfound
  have hrun : o.withAgent name rest = rest agent := by
    unfold ShipmentOrchestrator.withAgent
    rw [hfound]
  rw [hrun]
  exact hrest agent hmem hname

theorem cancelPending_unrefused (hprovider : OrdinaryProvider host)
    (hroles : o.agents = legacyAgents g ∨ o.agents = strandsAgents g settings)
    {approval : ApprovalRecord} (hs : Continuable approval s) {status : CommitmentStatus}
    (hended : CarrierAgent.endedStatus approval.status = some status) (reasonCode : String) :
    UnrefusedFrom loader host s w (o.cancelPending approval reasonCode) := by
  have hstatus : approval.status ≠ .approved := by
    intro happroved
    rw [happroved] at hended
    cases hended
  refine from_requireWaiting hs.waits (from_withAgent hroles fun carrier hcarrier hname => ?_)
  have hcontinuable : Continuable approval (s.setCurrentAgent (some .carrier)) :=
    ⟨hs.waits, hs.prepared⟩
  refine .mutate (from_event hcontinuable _ fun event s₁ w₁ h₁ => ?_)
  refine .bind (cancelBooking_unrefused hprovider hcarrier hname hended (h₁.prepared hstatus) _)
    (fun summary s₂ w₂ _ => ?_) ?_
  · exact Unrefused.at (.bind (appendEvent_unrefused _) fun _ => .bind (.mutate _) fun _ =>
      .bind .read fun state => .bind (appendEvent_unrefused _) fun _ => .pure ()) s₂ w₂
  · rintro x s₂ w₂ h₂ _ ⟨⟩
    exact h₂ x rfl

theorem resumeApproved_unrefused
    (hroles : o.agents = legacyAgents g ∨ o.agents = strandsAgents g settings)
    {approval : ApprovalRecord} (hs : s.waitsForApproval = true) :
    UnrefusedFrom loader host s w (o.resumeApproved approval) := by
  refine from_requireWaiting hs (from_withAgent hroles fun carrier _ _ => ?_)
  refine from_withAgent hroles fun communications _ _ => ?_
  exact (resumeWith_unrefused o approval carrier communications).at s w

end Journeys

/-! ## The service -/

section Service

variable {g : Governor} {settings : RuntimeSettings} {service : RunService}
  (hroles : service.orchestrator.agents = legacyAgents g ∨
    service.orchestrator.agents = strandsAgents g settings)
  (hprovider : OrdinaryProvider host)

include hroles hprovider

/-- A resolved approval of a run that it can carry on. -/
theorem continueResolvedApproval_unrefused {approval : ApprovalRecord} {s : TrajectoryState}
    {w : World} (hs : Continuable approval s) (hresolved : approval.status = .approved ∨
      approval.status = .rejected) :
    UnrefusedFrom loader host s w (service.continueResolvedApproval approval) := by
  unfold RunService.continueResolvedApproval
  split
  · rename_i happroved
    have hwaits : (RunService.setApprovedBy (s.setPreparedStatus approval.preparedActionId .approved)
        approval.approverLabel).waitsForApproval = true :=
      (setPreparedStatus_waits s _ _).trans hs.waits
    unfold RunService.continueApproved Governor.preparedAt
    refine Proc.meets_bind.mpr (.read ?_)
    split
    · refine .pure (.mutate (.mutate ?_))
      exact from_event ⟨hwaits, fun h => absurd happroved h⟩ _
        fun event s' w' h' => resumeApproved_unrefused hroles h'.waits
    · refine .raise ?_
      rintro x ⟨⟩
      exact ordinary_python _
  · rename_i hstatus
    have hrejected := hresolved.resolve_left hstatus
    exact from_event hs _ fun event s' w' h' =>
      cancelPending_unrefused hprovider hroles h' (by rw [hrejected]; rfl) _

theorem continueExpired_unrefused {approval : ApprovalRecord} {s : TrajectoryState} {w : World}
    (hs : Continuable approval s) (hexpired : approval.status = .expired) :
    UnrefusedFrom loader host s w (service.continueExpired approval) :=
  from_event hs _ fun event s' w' h' =>
    cancelPending_unrefused hprovider hroles h' (by rw [hexpired]; rfl) _

omit hroles hprovider in
/-- A run inside a service call raises what the run raises. -/
theorem within_unrefused {α : Type} {state : TrajectoryState} {m : Py α} {u : Unit} {w : World}
    (h : UnrefusedFrom loader host state w m) :
    UnrefusedFrom loader host u w (Svc.within state m) := by
  refine ⟨fun _ _ => trivial, fun x hx => h.2 x ?_⟩
  simp only [Proc.exec, Svc.within, Prog.run_bind] at hx ⊢
  rcases hrun : (m state).run (World.handle loader host) w with ⟨⟨r, s'⟩, w'⟩
  rw [hrun] at hx
  cases r with
  | ok a => cases hx
  | error y =>
      cases hx
      rfl

omit hroles hprovider in
/-- An unrefused part and an unrefused rest. -/
theorem UnrefusedFrom.bind {σ α β : Type} {m : Proc Op PyError σ α} {rest : α → Proc Op PyError σ β}
    {s : σ} {w : World} (hm : UnrefusedFrom loader host s w m)
    (hrest : ∀ a s' w', UnrefusedFrom loader host s' w' (rest a)) :
    UnrefusedFrom loader host s w (m >>= rest) := by
  refine Proc.Meets.bind hm (fun a s' w' _ => hrest a s' w') ?_
  rintro x s' w' h _ ⟨⟩
  exact h x rfl

omit hroles hprovider in
theorem finishResolution_unrefused (service : RunService) (approvalId : String)
    (command : ApprovalCommand) (state : TrajectoryState) (idempotentReplay : Bool) :
    Unrefused loader host (service.finishResolution approvalId command state idempotentReplay) :=
  .bind (.perform _) fun _ => .bind (.request fun _ _ => getApproval_ordinary) fun _ => .pure _

omit hroles hprovider in
theorem replaceApproval_unrefused (approval : ApprovalRecord) :
    Unrefused (σ := Unit) loader host (Proc.request (.replaceApproval approval)) :=
  .request fun _ _ => replaceApproval_ordinary

/-- The expiry of a pending approval, where its run can be carried on. -/
theorem expireLocked_unrefused {approval : ApprovalRecord} {state : TrajectoryState} {u : Unit}
    {w : World} (hpending : approval.status = .pendingApproval)
    (hs : Continuable approval state) :
    UnrefusedFrom loader host u w (service.expireLocked approval state) := by
  have hprepared := hs.prepared (by rw [hpending]; decide)
  unfold RunService.expireLocked ApprovalLifecycle.expire ApprovalLifecycle.nowFn
  rw [if_neg (not_not.mpr hpending)]
  refine Proc.meets_bind.mpr (Proc.meets_bind.mpr (Proc.meets_perform.mpr ⟨fun _ _ => trivial, ?_⟩))
  refine .pure (UnrefusedFrom.bind ((replaceApproval_unrefused _).at _ _) fun _ _ w' => ?_)
  refine UnrefusedFrom.bind (within_unrefused ?_) fun _ s' w' => Unrefused.at (.pure _) s' w'
  exact continueExpired_unrefused hroles hprovider ⟨hs.waits, fun _ => hprepared⟩ rfl

/-! ### Before the first write -/

/-- A refusal of the procedure leaves the store at hand. -/
abbrev Unwritten {α : Type} (loader : FixtureLoader) (host : Host) (store : MemoryTraceStore)
    (u : Unit) (w : World) (m : Svc α) : Prop :=
  Proc.Meets (World.handle loader host) unobserved u w m (fun _ => True) fun x =>
    ∀ y, x.result = .error y → y.cls ∈ refusals → x.env.store = store

omit hroles hprovider in
theorem UnrefusedFrom.unwritten {α : Type} {m : Svc α} {u : Unit} {w : World}
    (h : UnrefusedFrom loader host u w m) (store : MemoryTraceStore) :
    Unwritten loader host store u w m :=
  ⟨h.1, fun y hy hrefused => absurd hrefused (h.2 y hy)⟩

omit hroles hprovider in
/-- A reading and what follows its reply. -/
theorem unwritten_request {α β : Type} {op : Op (Except PyError α)} {rest : α → Svc β} {u : Unit}
    {w : World} {store : MemoryTraceStore} (hstore : w.store = store)
    (hop : (World.handle loader host _ op w).2 = w)
    (hrest : ∀ a, (World.handle loader host _ op w).1 = .ok a →
      Unwritten loader host store u w (rest a)) :
    Unwritten loader host store u w (Proc.request op >>= rest) := by
  refine Proc.meets_bind.mpr (Proc.meets_request.mpr ⟨fun _ _ => trivial, ?_⟩)
  rw [hop]
  cases hreply : (World.handle loader host _ op w).1 with
  | ok a => exact hrest a hreply
  | error x => exact fun _ _ _ => hstore

omit hroles hprovider in
/-- A refusal by a check. -/
theorem unwritten_raise {α : Type} {u : Unit} {w : World} (x : PyError) :
    Unwritten (α := α) loader host w.store u w (Proc.raise x) :=
  .raise fun _ _ _ => rfl

/-- What a resolution needs of the run whose approval it expires, or carries on after an earlier
resolution. -/
def TakenUpContinues (host : Host) (w : World) (approvalId : String) (command : ApprovalCommand) :
    Prop :=
  w.store.getApprovalReplayFingerprint approvalId command.idempotencyKey = none →
  ∀ approval state, w.store.getApproval approvalId = .ok approval →
    w.store.loadTrace approval.traceId = .ok state →
      (approval.status = .pendingApproval → command.expectedVersion = approval.version →
        approval.expiresAt ≤ host.nowFn approval.traceId (w.ticks approval.traceId) →
          Continuable approval state) ∧
      (ApprovalLifecycle.matchesClaimedCommand approval command = true →
        state.status = .pendingApproval → Continuable approval state)

theorem recoverResolution_unwritten {approval : ApprovalRecord} {command : ApprovalCommand}
    {u : Unit} {w : World} (hclaims : ApprovalLifecycle.matchesClaimedCommand approval command = true)
    (hs : ∀ state, w.store.loadTrace approval.traceId = .ok state →
      state.status = .pendingApproval → Continuable approval state) :
    Unwritten loader host w.store u w (service.recoverResolution approval command) := by
  have hresolved : approval.status = .approved ∨ approval.status = .rejected := by
    simp only [ApprovalLifecycle.matchesClaimedCommand, Bool.and_eq_true, decide_eq_true_eq]
      at hclaims
    rw [hclaims.1.1.1.1.1]
    cases command.decision
    · exact .inl rfl
    · exact .inr rfl
  unfold RunService.recoverResolution
  refine unwritten_request rfl rfl fun state hstate => ?_
  split
  · rename_i hstatus
    refine UnrefusedFrom.unwritten (UnrefusedFrom.bind (within_unrefused ?_) fun a s' w' => ?_) _
    · exact continueResolvedApproval_unrefused hroles hprovider (hs state hstate hstatus) hresolved
    · exact (finishResolution_unrefused service _ _ _ _).at s' w'
  · exact ((finishResolution_unrefused service _ _ _ _).at u w).unwritten _

omit hroles hprovider in
/-- The checks after the clock do not find that an approval has expired. -/
theorem validateBound_error {approval : ApprovalRecord} {state : TrajectoryState}
    {command : ApprovalCommand} {x : PyError}
    (h : ApprovalLifecycle.validateBound approval state command = .error x) :
    x.cls ≠ .approvalExpired := by
  have hrefuse {condition : Bool} {y : PyError} (hcls : y.cls ≠ .approvalExpired)
      (h : ApprovalLifecycle.refuseIf condition (.error y) = .error x) :
      x.cls ≠ .approvalExpired := by
    unfold ApprovalLifecycle.refuseIf at h
    split_ifs at h
    cases h
    exact hcls
  unfold ApprovalLifecycle.validateBound at h
  split at h
  · cases h
    exact ErrorClass.noConfusion
  · split at h
    · cases h
      exact ErrorClass.noConfusion
    · split at h
      · cases h
        exact ErrorClass.noConfusion
      · split at h
        · cases h
          exact ErrorClass.noConfusion
        · unfold ApprovalLifecycle.validatePrepared at h
          rcases bind_eq_error_iff.mp h with h | ⟨-, -, h⟩
          · exact hrefuse ErrorClass.noConfusion h
          rcases bind_eq_error_iff.mp h with h | ⟨-, -, h⟩
          · exact hrefuse ErrorClass.noConfusion h
          rcases bind_eq_error_iff.mp h with h | ⟨-, -, h⟩
          · exact hrefuse ErrorClass.noConfusion h
          rcases bind_eq_error_iff.mp h with h | ⟨-, -, h⟩
          · exact hrefuse ErrorClass.noConfusion h
          rcases bind_eq_error_iff.mp h with h | ⟨-, -, h⟩
          · exact hrefuse ErrorClass.noConfusion h
          rcases bind_eq_error_iff.mp h with h | ⟨-, -, h⟩
          · exact hrefuse ErrorClass.noConfusion h
          · exact hrefuse ErrorClass.noConfusion h

/-- A validation refuses before the first write; its expiry is no refusal. -/
theorem validateOrExpire_spec {approval : ApprovalRecord} {state : TrajectoryState}
    {command : ApprovalCommand} {u : Unit} {w : World}
    (hpending : approval.status = .pendingApproval)
    (hs : command.expectedVersion = approval.version →
      approval.expiresAt ≤ host.nowFn approval.traceId (w.ticks approval.traceId) →
        Continuable approval state) :
    Proc.Meets (World.handle loader host) unobserved u w
      (service.validateOrExpire approval state command) (fun _ => True) fun x =>
        match x.result with
        | .ok _ => ApprovalLifecycle.validateBound approval state command = .ok ()
        | .error y => y.cls ∈ refusals → x.env.store = w.store := by
  have hvalidate : Proc.Meets (World.handle loader host) unobserved u w
      (ApprovalLifecycle.validatePending approval state command) (fun _ => True) fun x =>
        x.env.store = w.store ∧
        match x.result with
        | .ok _ => ApprovalLifecycle.validateBound approval state command = .ok ()
        | .error y => y.cls = .approvalExpired → Continuable approval state := by
    unfold ApprovalLifecycle.validatePending ApprovalLifecycle.nowFn
    rw [if_neg (not_not.mpr hpending)]
    split
    · exact .raise ⟨rfl, fun h => by cases h⟩
    · rename_i hversion
      refine Proc.meets_bind.mpr (Proc.meets_perform.mpr ⟨fun _ _ => trivial, ?_⟩)
      dsimp only
      split
      · rename_i hdue
        exact Proc.meets_ofExcept.mpr ⟨rfl, fun _ => hs (not_not.mp hversion) hdue⟩
      · refine Proc.meets_ofExcept.mpr ⟨rfl, ?_⟩
        cases hbound : ApprovalLifecycle.validateBound approval state command with
        | ok _ => rfl
        | error y => exact fun hcls => absurd hcls (validateBound_error hbound)
  unfold RunService.validateOrExpire
  refine .tryCatch hvalidate (fun _ u' w' h' => h'.2) fun x u' w' h' => ?_
  split
  · rename_i hcls
    have hordinary : Ordinary x := by
      unfold Ordinary
      rw [hcls]
      decide
    refine .bind (expireLocked_unrefused hroles hprovider hpending (h'.2 hcls))
      (fun _ u'' w'' _ => .raise fun hrefused => absurd hrefused hordinary) ?_
    exact fun y u'' w'' h'' hrefused => absurd hrefused (h'' y rfl)
  · exact .raise fun _ => h'.1

theorem decidePending_unwritten {approval : ApprovalRecord} {command : ApprovalCommand} {u : Unit}
    {w : World} (hpending : approval.status = .pendingApproval)
    (hs : ∀ state, w.store.loadTrace approval.traceId = .ok state →
      command.expectedVersion = approval.version →
        approval.expiresAt ≤ host.nowFn approval.traceId (w.ticks approval.traceId) →
          Continuable approval state) :
    Unwritten loader host w.store u w (service.decidePending approval command) := by
  unfold RunService.decidePending
  refine unwritten_request rfl rfl fun state hstate => ?_
  refine .bind (validateOrExpire_spec hroles hprovider hpending (hs state hstate)) ?_ ?_
  · intro _ u₁ w₁ hbound
    obtain ⟨hstatus, hstage, -, -, prepared, hprepared, -⟩ :=
      ApprovalLifecycle.validateBound_ok hbound
    have hwaits : state.waitsForApproval = true := by
      simp [TrajectoryState.waitsForApproval, hstatus, hstage]
    refine UnrefusedFrom.unwritten (UnrefusedFrom.bind ((Unrefused.at (.perform _)) _ _)
      fun now u₂ w₂ => ?_) _
    refine UnrefusedFrom.bind ((replaceApproval_unrefused _).at _ _) fun _ u₃ w₃ => ?_
    refine UnrefusedFrom.bind (within_unrefused ?_) fun a u₄ w₄ =>
      (finishResolution_unrefused service _ _ _ _).at u₄ w₄
    refine continueResolvedApproval_unrefused hroles hprovider ⟨hwaits, fun _ => ⟨prepared, hprepared⟩⟩ ?_
    show command.decision.resolved = _ ∨ command.decision.resolved = _
    cases command.decision
    · exact .inl rfl
    · exact .inr rfl
  · rintro x u₁ w₁ hx _ ⟨⟩
    exact hx

theorem resolveApproval_unwritten {approvalId : String} {command : ApprovalCommand} {u : Unit}
    {w : World} (hs : TakenUpContinues host w approvalId command) :
    Unwritten loader host w.store u w (service.resolveApproval approvalId command) := by
  unfold RunService.resolveApproval
  refine Proc.meets_bind.mpr (Proc.meets_perform.mpr ⟨fun _ _ => trivial, ?_⟩)
  dsimp only
  split
  · unfold RunService.replayResolution
    split
    · exact unwritten_raise _
    · refine unwritten_request rfl rfl fun approval _ => unwritten_request rfl rfl fun state _ => ?_
      exact .pure fun _ hy => by cases hy
  · rename_i hprevious
    refine unwritten_request rfl rfl fun approval happroval => ?_
    have hrun := fun state => hs hprevious approval state happroval
    split
    · exact unwritten_raise _
    · split
      · split
        · rename_i hclaims
          exact recoverResolution_unwritten hroles hprovider hclaims
            fun state hstate => (hrun state hstate).2 hclaims
        · exact unwritten_raise _
      · rename_i hpending
        exact decidePending_unwritten hroles hprovider (not_not.mp hpending)
          fun state hstate => (hrun state hstate).1 (not_not.mp hpending)

end Service

omit [Sha256] in
/-- An approval that is held at another version is taken up by no call. -/
theorem takenUpContinues_of_version {w : World} {approvalId : String} {command : ApprovalCommand}
    (h : ∀ approval, w.store.getApproval approvalId = .ok approval →
      approval.status = .pendingApproval ∧ command.expectedVersion ≠ approval.version) :
    TakenUpContinues host w approvalId command := by
  intro _ approval state happroval _
  obtain ⟨hpending, hversion⟩ := h approval happroval
  refine ⟨fun _ hexpected => absurd hexpected hversion, fun hclaims => ?_⟩
  simp only [ApprovalLifecycle.matchesClaimedCommand, hpending, Bool.and_eq_true,
    decide_eq_true_eq] at hclaims
  cases hdecision : command.decision <;> simp [hdecision, ApprovalDecision.resolved] at hclaims

/-- `resolve_approval`, called in some world. -/
def RunService.resolution (service : RunService) (loader : FixtureLoader) (host : Host) (w : World)
    (approvalId : String) (command : ApprovalCommand) :
    Exit PyError Unit World ApprovalResolution :=
  (service.resolveApproval approvalId command).exec (World.handle loader host) () w

/-- The world that a sequence of calls leaves. -/
def RunService.after (service : RunService) (loader : FixtureLoader) (host : Host)
    (calls : List ServiceCall) (w : World) : World :=
  ((service.serveAll calls).exec (World.handle loader host) () w).env

omit [Sha256] in
/-- A call that raises the error of a refusal leaves the whole store as it was: approvals, runs
with their events and decisions, receipts and replay records. -/
def RefusedUnwritten (w : World) (x : Exit PyError Unit World ApprovalResolution) : Prop :=
  ∀ y, x.result = .error y → y.cls ∈ refusals → x.env.store = w.store

/-- Refused decisions change nothing, whatever the repository holds: where the run whose approval a
call expires or carries on waits for it, a refusal has written nothing. -/
theorem RunService.refused_unwritten {g : Governor} {settings : RuntimeSettings}
    {service : RunService}
    (hroles : service.orchestrator.agents = legacyAgents g ∨
      service.orchestrator.agents = strandsAgents g settings)
    (hprovider : OrdinaryProvider host) (w : World) (approvalId : String)
    (command : ApprovalCommand) (hs : TakenUpContinues host w approvalId command) :
    RefusedUnwritten w (service.resolution loader host w approvalId command) :=
  (resolveApproval_unwritten hroles hprovider hs).2

end Governed

/-! ## An approval that its run left behind -/

namespace Demo

/-- A host whose clock for approvals has passed every expiry. -/
def overdueHost : Host :=
  { sweepingHost 40 with nowFn := fun _ _ => 1000000000000 }

theorem overdueHost_ordinary : OrdinaryProvider overdueHost := by
  intro scope n x hx
  dsimp only [overdueHost, sweepingHost, hostWith] at hx
  split at hx <;> cases hx

/-- The hosted carrier escalates and times out: the run has failed, its approval is pending. -/
def orphaned : World :=
  hostedService.after loader overdueHost [.startRun "T" "ORD-8842" "enforce" "adversarial"] {}

/-- The approval left behind. -/
def orphan : String :=
  ((orphaned.store.approvals.entries.head?).map (·.1)).getD ""

/-- An approver's decision. -/
def approving (expectedVersion : Int) : ApprovalCommand where
  decision := .approve
  approverLabel := "ops-lead"
  comment := none
  expectedVersion := expectedVersion
  idempotencyKey := "decide-1"

/-- What the decision on the approval does. -/
def decidingOrphan (expectedVersion : Int) : Exit PyError Unit World ApprovalResolution :=
  hostedService.resolution loader overdueHost orphaned orphan (approving expectedVersion)

/-- Whether a call was refused with an error of a class. -/
def refusedWith (cls : ErrorClass) (x : Exit PyError Unit World ApprovalResolution) : Bool :=
  match x.result with
  | .error y => y.cls = cls
  | .ok _ => false

/-- Whether an approval is held in a status at a version. -/
def heldAs (status : ApprovalStatus) (version : Int) (approvalId : String) (w : World) : Bool :=
  match w.store.getApproval approvalId with
  | .ok approval => approval.status = status && approval.version = version
  | .error _ => false

theorem orphan_first : heldAs .pendingApproval 1 orphan orphaned = true := by
  decide +kernel

theorem decidingOrphan_mismatched :
    refusedWith .approvalStateMismatch (decidingOrphan 1) = true ∧
      heldAs .expired 2 orphan (decidingOrphan 1).env = true := by
  decide +kernel

theorem heldAs_of_getApproval {status : ApprovalStatus} {version : Int} {approvalId : String}
    {w : World} {approval : ApprovalRecord} (h : heldAs status version approvalId w = true)
    (happroval : w.store.getApproval approvalId = .ok approval) :
    approval.status = status ∧ approval.version = version := by
  simpa [heldAs, happroval] using h

/-- A refusal that moved an approval has written. -/
theorem not_unwritten_of_moved {cls : ErrorClass} {approvalId : String} {w : World}
    {x : Exit PyError Unit World ApprovalResolution} (hcls : cls ∈ refusals)
    (hrefused : refusedWith cls x = true)
    (hbefore : heldAs .pendingApproval 1 approvalId w = true)
    (hafter : heldAs .expired 2 approvalId x.env = true) : ¬ RefusedUnwritten w x := by
  intro h
  unfold refusedWith at hrefused
  split at hrefused
  · rename_i y hy
    have hstore : x.env.store = w.store := h y hy (by rwa [of_decide_eq_true hrefused])
    unfold heldAs at hbefore hafter
    rw [hstore] at hafter
    split at hbefore
    · simp_all
    · cases hbefore
  · cases hrefused

end Demo

/-- A decision at a version that the approval does not have is refused. -/
theorem RunService.refused_unwritten_version :
    RefusedUnwritten Demo.orphaned (Demo.decidingOrphan 2) := by
  refine RunService.refused_unwritten (.inr rfl) Demo.overdueHost_ordinary Demo.orphaned
    Demo.orphan (Demo.approving 2) (takenUpContinues_of_version fun approval happroval => ?_)
  obtain ⟨hpending, hversion⟩ := Demo.heldAs_of_getApproval Demo.orphan_first happroval
  exact ⟨hpending, by rw [hversion]; decide⟩

/-- A decision on an overdue approval whose run has failed expires the approval, then is refused
because the run does not wait. -/
theorem RunService.not_refused_unwritten :
    ¬ ∀ (host : Host), OrdinaryProvider host →
      ∀ (calls : List ServiceCall) (approvalId : String) (command : ApprovalCommand),
        RefusedUnwritten (Demo.hostedService.after Demo.loader host calls {})
          (Demo.hostedService.resolution Demo.loader host
            (Demo.hostedService.after Demo.loader host calls {}) approvalId command) := by
  intro h
  exact Demo.not_unwritten_of_moved (by decide) Demo.decidingOrphan_mismatched.1 Demo.orphan_first
    Demo.decidingOrphan_mismatched.2
    (h Demo.overdueHost Demo.overdueHost_ordinary _ Demo.orphan (Demo.approving 1))

end Manifest
