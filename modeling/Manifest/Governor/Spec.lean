import Manifest.Governor.Governor

/-!
# What a governed call does to a state

The postconditions hold whatever the surroundings reply: a failing repository, a
lying adapter, any engine.

Main results:

- Theorem `judge_ensures`: how the decision follows from the engine's signals.
- Theorem `executeTool_ensures`: a governed call is refused, marks a prepared action
  as waiting, or applies an allowed effect.
-/

set_option autoImplicit false

namespace Manifest

open Interaction

/-! ## Classes of effects -/

/-- Reads of approvals and draws from the host. -/
def readingOp : (β : Type) → Op β → Prop
  | _, .getApproval _ => True
  | _, .utcNow _ => True
  | _, .uuid4 _ => True
  | _, .elapsedMs _ => True
  | _, _ => False

/-- Ledger appends, reads of approvals and draws from the host. -/
def bookkeepingOp : (β : Type) → Op β → Prop
  | _, .appendEvent _ _ => True
  | _, .appendDecision _ _ => True
  | _, .getApproval _ => True
  | _, .utcNow _ => True
  | _, .uuid4 _ => True
  | _, .elapsedMs _ => True
  | _, _ => False

/-- Effects that reach neither an adapter nor an effect receipt. -/
def undecidedOp : (β : Type) → Op β → Prop
  | _, .callTool _ _ => False
  | _, .getEffectReceipt _ _ => False
  | _, .putEffectReceipt _ => False
  | _, _ => True

theorem readingOp.bookkeeping (β : Type) (o : Op β) (h : readingOp β o) : bookkeepingOp β o := by
  cases o <;> trivial

theorem bookkeepingOp.undecided {β : Type} {o : Op β} (h : bookkeepingOp β o) :
    undecidedOp β o := by
  cases o <;> trivial

/-! ## Business fields -/

/-- Two states with equal business fields agree on everything read from these. -/
theorem business_congr {α : Type} (f : TrajectoryState → α)
    (hf : ∀ state, f state.business = f state) {s s' : TrajectoryState}
    (h : s'.business = s.business) : f s' = f s := by
  rw [← hf s', h, hf s]

section BusinessFields

variable {s s' : TrajectoryState} (h : s'.business = s.business)

include h

theorem traceId_of_business : s'.traceId = s.traceId :=
  business_congr (·.traceId) (fun _ => rfl) h

theorem mode_of_business : s'.mode = s.mode :=
  business_congr (·.mode) (fun _ => rfl) h

theorem preparedActions_of_business : s'.preparedActions = s.preparedActions :=
  business_congr (·.preparedActions) (fun _ => rfl) h

theorem spendCommitted_of_business : s'.spendCommittedMinor = s.spendCommittedMinor :=
  business_congr (·.spendCommittedMinor) (fun _ => rfl) h

theorem spendReserved_of_business : s'.spendReservedMinor = s.spendReservedMinor :=
  business_congr (·.spendReservedMinor) (fun _ => rfl) h

theorem confirmedBookingId_of_business : s'.confirmedBookingId = s.confirmedBookingId :=
  business_congr (·.confirmedBookingId) (fun _ => rfl) h

theorem pendingApprovalId_of_business : s'.pendingApprovalId = s.pendingApprovalId :=
  business_congr (·.pendingApprovalId) (fun _ => rfl) h

theorem mandate_of_business : s'.mandate = s.mandate :=
  business_congr (·.mandate) (fun _ => rfl) h

theorem policyVersion_of_business : s'.policyVersion = s.policyVersion :=
  business_congr (·.policyVersion) (fun _ => rfl) h

theorem approvedBy_of_business : s'.approvedBy = s.approvedBy :=
  business_congr (·.approvedBy) (fun _ => rfl) h

end BusinessFields

/-! ## Single effects -/

section Effects

variable {P : (β : Type) → Op β → Prop} {s : TrajectoryState}

@[simp]
theorem ensures_appendEvent {spec : EventSpec}
    {Q : Except PyError TraceEvent → TrajectoryState → Prop} :
    Proc.Ensures P (Py.appendEvent spec) s Q ↔
      P _ (.appendEvent s spec) ∧ ∀ r l, Q r (s.withLedger l) :=
  Proc.ensures_send

@[simp]
theorem ensures_appendDecision {decision : Decision}
    {Q : Except PyError Unit → TrajectoryState → Prop} :
    Proc.Ensures P (Py.appendDecision decision) s Q ↔
      P _ (.appendDecision s decision) ∧ ∀ r l, Q r (s.withLedger l) :=
  Proc.ensures_send

@[simp]
theorem ensures_addApproval {approval : ApprovalRecord}
    {Q : Except PyError Unit → TrajectoryState → Prop} :
    Proc.Ensures P (Py.addApproval approval) s Q ↔
      P _ (.addApproval s approval) ∧ ∀ r l, Q r (s.withLedger l) :=
  Proc.ensures_send

@[simp]
theorem ensures_uuid4 {Q : Except PyError String → TrajectoryState → Prop} :
    Proc.Ensures P Py.uuid4 s Q ↔ P _ (.uuid4 s.traceId) ∧ ∀ a, Q (.ok a) s :=
  Iff.rfl

@[simp]
theorem ensures_utcNow {Q : Except PyError Timestamp → TrajectoryState → Prop} :
    Proc.Ensures P Py.utcNow s Q ↔ P _ (.utcNow s.traceId) ∧ ∀ a, Q (.ok a) s :=
  Iff.rfl

end Effects

namespace Governor

variable (g : Governor)

/-! ## Proposing and judging -/

/-- What a recorded attempt says about its call. -/
structure Proposed (agent : AgentName) (toolName : String)
    (definition : Option ToolDefinition) (proposal : ToolProposal) : Prop where
  definition_eq : definition = getDefinition toolName
  agent_eq : proposal.agent = agent
  toolName_eq : proposal.toolName = toolName
  effectClass_eq : proposal.effectClass = definition.map (·.effectClass)

/-- Proposing is bookkeeping. -/
theorem propose_ensures (agent : AgentName) (toolName : String) (args : Kwargs)
    (s : TrajectoryState) :
    Proc.Ensures bookkeepingOp (g.propose agent toolName args) s fun r s' =>
      s'.business = s.business ∧
        ∀ definition proposal, r = .ok (definition, proposal) →
          Proposed agent toolName definition proposal := by
  simp only [propose, Proc.ensures_bind, Proc.ensures_read]
  split
  · simp
  · simp only [Proc.ensures_bind, Proc.ensures_mutate, ensures_uuid4, ensures_appendEvent,
      bookkeepingOp, true_and]
    intro uuid r l
    cases r with
    | error x => simp
    | ok event =>
        refine ⟨rfl, ?_⟩
        rintro definition proposal ⟨⟩
        exact ⟨rfl, rfl, rfl, rfl⟩

/-- The applied outcome of a set of signals. -/
def appliedOutcome (mode : GovernanceMode) (attempt : Nat) (signals : List PolicySignal) :
    DecisionOutcome :=
  let outcome := if mode = .enforce then strongest signals else .allow
  if outcome = .guide && g.maxGuidedAttempts ≤ attempt then .block else outcome

/-- What a request and its decision say about the call they were made for. -/
structure Judged (definition : Option ToolDefinition) (proposal : ToolProposal)
    (args : Kwargs) (s : TrajectoryState) (request : PolicyRequest) (decision : Decision) :
    Prop where
  principal_eq : request.principal = proposal.agent
  action_eq : request.action = proposal.toolName
  arguments_eq : request.context.arguments = args
  toolOwner_eq : request.context.toolOwner = definition.map (·.owner.value)
  effectClass_eq : request.context.effectClass = definition.map (·.effectClass.value)
  resource_ok : g.resourceContext s proposal.toolName args = .ok request.context.resource
  appliedOutcome_eq : decision.appliedOutcome =
    g.appliedOutcome s.mode proposal.attempt (g.signalsFor definition request s)
  reasons_eq : decision.reasons =
    let (first, rest) := orDefaultAllow (g.signalsFor definition request s)
    first :: rest
  proposalId_eq : decision.proposalId = proposal.proposalId

theorem primaryOf_orDefaultAllow (signals : List PolicySignal) :
    (primaryOf (orDefaultAllow signals).1 (orDefaultAllow signals).2).outcome =
      strongest signals := by
  cases signals <;> rfl

theorem approvalFor_ensures (toolName : String) (s : TrajectoryState) :
    Proc.Ensures readingOp (approvalFor toolName) s fun _ s' => s' = s := by
  unfold approvalFor
  split
  · simp only [approvalContext, Proc.ensures_bind, Proc.ensures_read]
    split
    · simp
    · split
      · simp
      · simp only [Proc.ensures_bind, Proc.ensures_perform, readingOp, true_and]
        intro reply
        cases reply with
        | ok approval => simp [readingOp]
        | error x =>
            simp only
            split <;> simp
  · simp

theorem buildRequest_ensures (definition : Option ToolDefinition) (proposal : ToolProposal)
    (args : Kwargs) (s : TrajectoryState) :
    Proc.Ensures readingOp (g.buildRequest definition proposal args) s fun r s' =>
      s' = s ∧ ∀ request, r = .ok request →
        request.principal = proposal.agent ∧ request.action = proposal.toolName ∧
        request.context.arguments = args ∧
        request.context.toolOwner = definition.map (·.owner.value) ∧
        request.context.effectClass = definition.map (·.effectClass.value) ∧
        g.resourceContext s proposal.toolName args = .ok request.context.resource := by
  simp only [buildRequest, Proc.ensures_bind, Proc.ensures_read, Proc.ensures_ofExcept]
  cases hresource : g.resourceContext s proposal.toolName args with
  | error x => simp
  | ok resource =>
      refine (approvalFor_ensures proposal.toolName s).mono ?_
      rintro r s' rfl
      cases r with
      | error x => simp
      | ok approval => simp [readingOp]

theorem limitRetries_appliedOutcome (proposal : ToolProposal) (decision : Decision) :
    (g.limitRetries proposal decision).appliedOutcome =
      if decision.appliedOutcome = .guide && g.maxGuidedAttempts ≤ proposal.attempt then .block
      else decision.appliedOutcome := by
  unfold limitRetries
  split <;> rfl

@[simp]
theorem limitRetries_reasons (proposal : ToolProposal) (decision : Decision) :
    (g.limitRetries proposal decision).reasons = decision.reasons := by
  unfold limitRetries
  split <;> rfl

@[simp]
theorem limitRetries_proposalId (proposal : ToolProposal) (decision : Decision) :
    (g.limitRetries proposal decision).proposalId = decision.proposalId := by
  unfold limitRetries
  split <;> rfl

/-- The decision is the strongest signal, once the mode and the retries are applied. -/
theorem judge_ensures (definition : Option ToolDefinition) (proposal : ToolProposal)
    (args : Kwargs) (s : TrajectoryState) :
    Proc.Ensures readingOp (g.judge definition proposal args) s fun r s' =>
      s' = s ∧ ∀ request decision, r = .ok (request, decision) →
        g.Judged definition proposal args s request decision := by
  simp only [judge, Proc.ensures_bind, Proc.ensures_read]
  refine (g.buildRequest_ensures definition proposal args s).mono ?_
  rintro r s' ⟨rfl, hrequest⟩
  cases r with
  | error x => simp
  | ok request =>
      simp only [makeDecision, Proc.ensures_bind, Proc.ensures_read, Proc.ensures_perform,
        ensures_uuid4, ensures_utcNow, Proc.ensures_pure, readingOp, true_and]
      intro elapsed uuid now request' decision' heq
      obtain ⟨rfl, rfl⟩ := Prod.mk.inj (Except.ok.inj heq)
      obtain ⟨hprincipal, haction, harguments, howner, hclass, hresource⟩ :=
        hrequest request rfl
      refine ⟨hprincipal, haction, harguments, howner, hclass, hresource, ?_, ?_, ?_⟩
      · simp only [limitRetries_appliedOutcome, primaryOf_orDefaultAllow, appliedOutcome]
      · simp
      · simp

/-! ## The applied outcomes -/

/-- An action waiting for an approval. -/
def awaitApproval (preparedId approvalId : String) (state : TrajectoryState) :
    TrajectoryState :=
  (state.setPreparedStatus preparedId .pendingApproval).setPendingApproval approvalId

/-- What an escalation leaves behind: the action under `preparedId` waits for the
approval, which the caller is handed unless the repository failed. -/
structure Escalated (preparedId : String) (s : TrajectoryState)
    (r : Except PyError GovernedToolResult) (s' : TrajectoryState) (prepared : PreparedAction)
    (approvalId : String) : Prop where
  prepared_eq : s.preparedActions.get? preparedId = some prepared
  business_eq : s'.business = (awaitApproval preparedId approvalId s).business
  result_eq : ∀ result, r = .ok result → result.value = none ∧
    ∃ approval, result.pendingApproval = some approval ∧ approval.approvalId = approvalId

/-- An escalation marks a known action as waiting, or finds none. -/
theorem escalate_ensures (proposal : ToolProposal) (args : Kwargs) (decision : Decision)
    (s : TrajectoryState) :
    Proc.Ensures undecidedOp (escalate proposal args decision) s fun r s' =>
      (s'.business = s.business ∧ ∀ result, r ≠ .ok result) ∨
      ∃ prepared approvalId,
        Escalated (args.get "prepared_action_id").pyStr s r s' prepared approvalId := by
  simp only [escalate, createApproval, preparedAt, Proc.ensures_bind, Proc.ensures_read]
  cases hprepared : s.preparedActions.get? (args.get "prepared_action_id").pyStr with
  | none => simp
  | some prepared =>
      simp only [Proc.ensures_pure, Proc.ensures_mutate, ensures_uuid4, ensures_utcNow,
        ensures_addApproval, ensures_appendEvent, undecidedOp, true_and]
      intro uuid now added ledger
      cases added with
      | error x => exact .inr ⟨prepared, _, hprepared, rfl, by simp⟩
      | ok u =>
          intro required ledger'
          cases required with
          | error x => exact .inr ⟨prepared, _, hprepared, rfl, by simp⟩
          | ok event =>
              refine .inr ⟨prepared, _, hprepared, rfl, ?_⟩
              rintro result ⟨⟩
              exact ⟨rfl, _, rfl, rfl⟩

/-- No effect is excluded. -/
def anyOp (β : Type) (_ : Op β) : Prop :=
  True

/-- A call that was refused: nothing but bookkeeping, and no value. -/
structure Refused (s : TrajectoryState) (r : Except PyError GovernedToolResult)
    (s' : TrajectoryState) : Prop where
  business_eq : s'.business = s.business
  result_eq : ∀ result, r = .ok result → result.value = none ∧ result.pendingApproval = none

theorem guide_ensures (proposal : ToolProposal) (decision : Decision) (s : TrajectoryState) :
    Proc.Ensures bookkeepingOp (guide proposal decision) s (Refused s) := by
  simp only [guide, Proc.ensures_bind, ensures_appendEvent, bookkeepingOp, true_and]
  intro r l
  cases r with
  | error x => exact ⟨rfl, by simp⟩
  | ok event => exact ⟨rfl, by rintro result ⟨⟩; exact ⟨rfl, rfl⟩⟩

theorem block_ensures (proposal : ToolProposal) (decision : Decision) (s : TrajectoryState) :
    Proc.Ensures bookkeepingOp (block proposal decision) s (Refused s) := by
  simp only [block, Proc.ensures_bind, ensures_appendEvent, bookkeepingOp, true_and]
  intro r l
  cases r with
  | error x => exact ⟨rfl, by simp⟩
  | ok event => exact ⟨rfl, by rintro result ⟨⟩; exact ⟨rfl, rfl⟩⟩

/-- Recording a decision is bookkeeping. -/
theorem record_ensures (decision : Decision) (s : TrajectoryState) :
    Proc.Ensures bookkeepingOp (record decision) s fun _ s' => s'.business = s.business := by
  simp only [record, Proc.ensures_bind, ensures_appendDecision, ensures_appendEvent,
    bookkeepingOp, true_and]
  intro r l
  cases r with
  | error x => rfl
  | ok u =>
      intro r' l'
      cases r' <;> rfl

/-- Reporting a failure is bookkeeping and never returns. -/
theorem reportFailure_ensures {α : Type} (proposal : ToolProposal) (x : PyError)
    (s : TrajectoryState) :
    Proc.Ensures bookkeepingOp (reportFailure proposal x : Py α) s fun r s' =>
      s'.business = s.business ∧ ∀ a, r ≠ .ok a := by
  unfold reportFailure
  split <;> simp only [Proc.ensures_bind, ensures_appendEvent, bookkeepingOp, true_and]
  all_goals
    intro r l
    cases r <;> exact ⟨rfl, by simp⟩

section Effect

variable [Sha256]

/-- A keyed write runs under its key. -/
theorem executeWithDurableReceipt_keyed (toolName : String) {effectClass : EffectClass}
    (hclass : effectClass ≠ .read) {args : Kwargs} {key : String}
    (hkey : args.get "idempotency_key" = .str key) :
    executeWithDurableReceipt toolName effectClass args = executeOnce toolName args key := by
  unfold executeWithDurableReceipt
  rw [hkey]
  cases effectClass with
  | read => exact absurd rfl hclass
  | _ => rfl

/-- A write without a key is handed to the adapter. -/
theorem executeWithDurableReceipt_unkeyed (toolName : String) (effectClass : EffectClass)
    {args : Kwargs} (hkey : ∀ key, args.get "idempotency_key" ≠ .str key) :
    executeWithDurableReceipt toolName effectClass args =
      Proc.request (.callTool toolName args) := by
  unfold executeWithDurableReceipt
  split
  · rfl
  · rename_i key hclass hvalue
    exact absurd hvalue (hkey key)
  · rfl

/-- Running a tool does not touch the state. -/
theorem executeWithDurableReceipt_ensures (toolName : String) (effectClass : EffectClass)
    (args : Kwargs) (s : TrajectoryState) :
    Proc.Ensures anyOp (executeWithDurableReceipt toolName effectClass args) s
      fun _ s' => s' = s := by
  unfold executeWithDurableReceipt
  split
  · simp [anyOp]
  · simp only [executeOnce, Proc.ensures_bind, Proc.ensures_ofExcept]
    cases opaqueKeyHash _ with
    | error x => simp
    | ok keyHash =>
        simp only [Proc.ensures_read, Proc.ensures_perform, anyOp, true_and]
        intro receipt
        cases receipt with
        | some existing =>
            simp only
            split <;> simp
        | none =>
            simp only [Proc.ensures_bind, Proc.ensures_request, anyOp, true_and]
            intro r
            cases r with
            | error x => simp
            | ok value =>
                cases value <;> simp [anyOp]
                intro r
                cases r <;> trivial
  · simp [anyOp]

/-- What a tool call does once its decision allows it. -/
structure Effected (toolName : String) (args : Kwargs) (s : TrajectoryState)
    (r : Except PyError GovernedToolResult) (s' : TrajectoryState) (value : ToolValue) : Prop where
  business_eq : s'.business = (applyEffect toolName args value s).2.business
  result_eq : ∀ result, r = .ok result →
    (applyEffect toolName args value s).1 = .ok () ∧ result.value = some value ∧
      result.pendingApproval = none

omit [Sha256] in
theorem setPreparedStatus_business (s : TrajectoryState) (preparedId : String)
    (status : CommitmentStatus) :
    s.business.setPreparedStatus preparedId status =
      (s.setPreparedStatus preparedId status).business := by
  have hprepared : s.business.preparedActions = s.preparedActions := rfl
  unfold TrajectoryState.setPreparedStatus
  rw [hprepared]
  cases s.preparedActions.get? preparedId <;> rfl

omit [Sha256] in
/-- Applying an effect commutes with forgetting the bookkeeping. -/
theorem applyEffect_business (toolName : String) (args : Kwargs) (value : ToolValue)
    (s : TrajectoryState) :
    applyEffect toolName args value s.business =
      ((applyEffect toolName args value s).1, (applyEffect toolName args value s).2.business) := by
  have hnamed : namedPrepared args s.business = namedPrepared args s := rfl
  have hreserved : s.business.spendReservedMinor = s.spendReservedMinor := rfl
  unfold applyEffect
  split
  · simp only [applyConfirmation, hnamed, hreserved, setPreparedStatus_business]
    cases namedPrepared args s with
    | error x => rfl
    | ok found =>
        obtain ⟨preparedId, prepared⟩ := found
        dsimp only
        split
        · rfl
        · split
          · rfl
          · cases item value "confirmation_id" <;> rfl
  · split
    · simp only [applyCancellation, hnamed, hreserved]
      cases namedPrepared args s with
      | error x => rfl
      | ok found =>
          obtain ⟨preparedId, prepared⟩ := found
          dsimp only
          split
          · rfl
          · split
            · rfl
            · split
              · rfl
              · simp only [releaseSpend, setPreparedStatus_business, hreserved]
                rfl
    · rfl

omit [Sha256] in
/-- The result of applying an effect depends on the business fields only. -/
theorem applyEffect_congr (toolName : String) (args : Kwargs) (value : ToolValue)
    {s s₁ : TrajectoryState} (h : s₁.business = s.business) :
    (applyEffect toolName args value s₁).1 = (applyEffect toolName args value s).1 ∧
      (applyEffect toolName args value s₁).2.business =
        (applyEffect toolName args value s).2.business := by
  have heq := applyEffect_business toolName args value s₁
  rw [h, applyEffect_business] at heq
  exact ⟨(congrArg Prod.fst heq).symm, (congrArg Prod.snd heq).symm⟩

/-- A tool that runs leaves the state alone, or applies the value it returned. -/
theorem effect_ensures (effectClass : EffectClass) (proposal : ToolProposal)
    (request : PolicyRequest) (args : Kwargs) (decision : Decision) (s : TrajectoryState) :
    Proc.Ensures anyOp (effect effectClass proposal request args decision) s fun r s' =>
      (s'.business = s.business ∧ ∀ result, r ≠ .ok result) ∨
      ∃ value, Effected proposal.toolName args s r s' value := by
  simp only [effect, Proc.ensures_bind, Proc.ensures_tryCatch]
  refine (executeWithDurableReceipt_ensures proposal.toolName effectClass args s).mono ?_
  rintro r s' rfl
  cases r with
  | error x =>
      refine ((reportFailure_ensures proposal x s').weaken fun _ _ _ => trivial).mono ?_
      rintro r s'' ⟨hbusiness, hraise⟩
      cases r with
      | error y => exact .inl ⟨hbusiness, by simp⟩
      | ok value => exact absurd rfl (hraise value)
  | ok value =>
      simp only [ensures_appendEvent, Proc.ensures_lift, Proc.ensures_mutate, anyOp, true_and]
      intro r l
      cases r with
      | error x => exact .inl ⟨rfl, by simp⟩
      | ok event =>
          obtain ⟨hresult, hbusiness⟩ := applyEffect_congr proposal.toolName args value
            (business_withLedger s' l)
          dsimp only
          cases happly : (applyEffect proposal.toolName args value (s'.withLedger l)).1 with
          | error x => exact .inr ⟨value, hbusiness, by simp⟩
          | ok u =>
              refine .inr ⟨value, hbusiness, ?_⟩
              rintro result ⟨⟩
              exact ⟨by rw [← hresult, happly], rfl, rfl⟩

/-! ## The governed call -/

/-- The outcome a call is decided on, with the request and the state the engine saw. -/
structure Governed (agent : AgentName) (toolName : String) (args : Kwargs)
    (s s₁ : TrajectoryState) (request : PolicyRequest) (outcome : DecisionOutcome) : Prop where
  business_eq : s₁.business = s.business
  principal_eq : request.principal = agent
  action_eq : request.action = toolName
  arguments_eq : request.context.arguments = args
  toolOwner_eq : request.context.toolOwner = (getDefinition toolName).map (·.owner.value)
  effectClass_eq :
    request.context.effectClass = (getDefinition toolName).map (·.effectClass.value)
  resource_ok : g.resourceContext s₁ toolName args = .ok request.context.resource
  outcome_eq : ∃ attempt, outcome =
    g.appliedOutcome s.mode attempt (g.signalsFor (getDefinition toolName) request s₁)

/-- The ways a governed call ends. -/
inductive ToolStep (agent : AgentName) (toolName : String) (args : Kwargs)
    (s : TrajectoryState) :
    Except PyError GovernedToolResult → TrajectoryState → Prop where
  | refused {r s'} (h : Refused s r s') : ToolStep agent toolName args s r s'
  | escalated {r s' s₁ request prepared approvalId}
      (governed : g.Governed agent toolName args s s₁ request .escalate)
      (h : Escalated (args.get "prepared_action_id").pyStr s r s' prepared approvalId) :
      ToolStep agent toolName args s r s'
  | effected {r s' s₁ request value}
      (governed : g.Governed agent toolName args s s₁ request .allow)
      (registered : (getDefinition toolName).isSome = true)
      (h : Effected toolName args s r s' value) : ToolStep agent toolName args s r s'

omit [Sha256] in
theorem awaitApproval_congr (preparedId approvalId : String) {s s₂ : TrajectoryState}
    (h : s₂.business = s.business) :
    (awaitApproval preparedId approvalId s₂).business =
      (awaitApproval preparedId approvalId s).business := by
  have hcommute (state : TrajectoryState) :
      (awaitApproval preparedId approvalId state).business =
        (state.business.setPreparedStatus preparedId .pendingApproval).setPendingApproval
          approvalId := by
    rw [setPreparedStatus_business]
    rfl
  rw [hcommute, hcommute, h]

omit [Sha256] in
theorem Refused.congr {s s₂ s' : TrajectoryState} {r : Except PyError GovernedToolResult}
    (h : s₂.business = s.business) (href : Refused s₂ r s') : Refused s r s' :=
  ⟨href.business_eq.trans h, href.result_eq⟩

omit [Sha256] in
theorem Escalated.congr {preparedId approvalId : String} {s s₂ s' : TrajectoryState}
    {r : Except PyError GovernedToolResult} {prepared : PreparedAction}
    (h : s₂.business = s.business) (hesc : Escalated preparedId s₂ r s' prepared approvalId) :
    Escalated preparedId s r s' prepared approvalId :=
  ⟨by rw [← preparedActions_of_business h]; exact hesc.prepared_eq,
    hesc.business_eq.trans (awaitApproval_congr preparedId approvalId h), hesc.result_eq⟩

omit [Sha256] in
theorem Effected.congr {toolName : String} {args : Kwargs} {s s₂ s' : TrajectoryState}
    {r : Except PyError GovernedToolResult} {value : ToolValue}
    (h : s₂.business = s.business) (heff : Effected toolName args s₂ r s' value) :
    Effected toolName args s r s' value := by
  obtain ⟨hresult, hbusiness⟩ := applyEffect_congr toolName args value h
  exact ⟨heff.business_eq.trans hbusiness, fun result hr => by
    rw [← hresult]
    exact heff.result_eq result hr⟩

omit [Sha256] in
theorem Judged.governed {agent : AgentName} {toolName : String} {args : Kwargs}
    {definition : Option ToolDefinition} {proposal : ToolProposal} {s s₁ : TrajectoryState}
    {request : PolicyRequest} {decision : Decision}
    (hproposed : Proposed agent toolName definition proposal)
    (hbusiness : s₁.business = s.business)
    (hjudged : g.Judged definition proposal args s₁ request decision) :
    g.Governed agent toolName args s s₁ request decision.appliedOutcome := by
  obtain ⟨rfl, rfl, rfl, -⟩ := hproposed
  exact ⟨hbusiness, hjudged.principal_eq, hjudged.action_eq, hjudged.arguments_eq,
    hjudged.toolOwner_eq, hjudged.effectClass_eq, hjudged.resource_ok, proposal.attempt,
    by rw [hjudged.appliedOutcome_eq, mode_of_business hbusiness]⟩

/-- Carrying out a decision made on a state with the same business fields. -/
theorem apply_ensures {agent : AgentName} {toolName : String} {args : Kwargs}
    {definition : Option ToolDefinition} {proposal : ToolProposal} {s s₁ s₂ : TrajectoryState}
    {request : PolicyRequest} {decision : Decision}
    (hproposed : Proposed agent toolName definition proposal)
    (hbusiness : s₁.business = s.business)
    (hjudged : g.Judged definition proposal args s₁ request decision)
    (hrecorded : s₂.business = s₁.business) :
    Proc.Ensures anyOp (apply definition proposal request args decision) s₂
      (g.ToolStep agent toolName args s) := by
  have hsame : s₂.business = s.business := hrecorded.trans hbusiness
  have hgoverned := Judged.governed g hproposed hbusiness hjudged
  have hname : proposal.toolName = toolName := hproposed.toolName_eq
  unfold apply
  cases houtcome : decision.appliedOutcome with
  | guide =>
      refine ((guide_ensures proposal decision s₂).weaken fun _ _ _ => trivial).mono ?_
      intro r s' h
      exact .refused (h.congr hsame)
  | block =>
      refine ((block_ensures proposal decision s₂).weaken fun _ _ _ => trivial).mono ?_
      intro r s' h
      exact .refused (h.congr hsame)
  | escalate =>
      rw [houtcome] at hgoverned
      refine ((escalate_ensures proposal args decision s₂).weaken fun _ _ _ => trivial).mono ?_
      rintro r s' (⟨hstate, hraise⟩ | ⟨prepared, approvalId, h⟩)
      · exact .refused ⟨hstate.trans hsame, fun result hr => absurd hr (hraise result)⟩
      · exact .escalated hgoverned (h.congr hsame)
  | allow =>
      rw [houtcome] at hgoverned
      cases hdefinition : definition with
      | none => exact .refused ⟨hsame, by rintro result ⟨⟩; exact ⟨rfl, rfl⟩⟩
      | some tool =>
          have hregistered : (getDefinition toolName).isSome = true := by
            rw [← hproposed.definition_eq, hdefinition]
            rfl
          refine (effect_ensures tool.effectClass proposal request args decision s₂).mono ?_
          rintro r s' (⟨hstate, hraise⟩ | ⟨value, h⟩)
          · exact .refused ⟨hstate.trans hsame, fun result hr => absurd hr (hraise result)⟩
          · rw [hname] at h
            exact .effected hgoverned hregistered (h.congr hsame)

/-- A governed call is refused, escalated, or applies an allowed effect. -/
theorem executeTool_ensures (agent : AgentName) (toolName : String) (args : Kwargs)
    (s : TrajectoryState) :
    Proc.Ensures anyOp (g.executeTool agent toolName args) s
      (g.ToolStep agent toolName args s) := by
  simp only [executeTool, Proc.ensures_bind]
  refine ((g.propose_ensures agent toolName args s).weaken fun _ _ _ => trivial).mono ?_
  rintro r s₁ ⟨hbusiness, hproposed⟩
  cases r with
  | error x => exact .refused ⟨hbusiness, by simp⟩
  | ok proposed =>
      obtain ⟨definition, proposal⟩ := proposed
      refine ((g.judge_ensures definition proposal args s₁).weaken fun _ _ _ => trivial).mono ?_
      rintro r s₁' ⟨rfl, hjudged⟩
      cases r with
      | error x => exact .refused ⟨hbusiness, by simp⟩
      | ok judged =>
          obtain ⟨request, decision⟩ := judged
          refine ((record_ensures decision s₁').weaken fun _ _ _ => trivial).mono ?_
          intro r s₂ hrecorded
          cases r with
          | error x => exact .refused ⟨hrecorded.trans hbusiness, by simp⟩
          | ok u =>
              exact g.apply_ensures (hproposed _ _ rfl) hbusiness (hjudged _ _ rfl) hrecorded

/-! ## Answers without a value -/

/-- A blocked answer and an escalated one carry no value. -/
def Unanswered (r : Except PyError GovernedToolResult) : Prop :=
  ∀ result, r = .ok result →
    result.decision.appliedOutcome = .block ∨ result.pendingApproval.isSome = true →
    result.value = none

theorem apply_unanswered (definition : Option ToolDefinition) (proposal : ToolProposal)
    (request : PolicyRequest) (args : Kwargs) (decision : Decision) (s : TrajectoryState) :
    Proc.Ensures anyOp (apply definition proposal request args decision) s
      fun r _ => Unanswered r := by
  unfold apply
  cases houtcome : decision.appliedOutcome with
  | guide =>
      exact ((guide_ensures proposal decision s).weaken fun _ _ _ => trivial).mono
        fun r s' h result hr _ => (h.result_eq result hr).1
  | block =>
      exact ((block_ensures proposal decision s).weaken fun _ _ _ => trivial).mono
        fun r s' h result hr _ => (h.result_eq result hr).1
  | escalate =>
      refine ((escalate_ensures proposal args decision s).weaken fun _ _ _ => trivial).mono ?_
      rintro r s' (⟨-, hraise⟩ | ⟨prepared, approvalId, h⟩) result hr -
      · exact absurd hr (hraise result)
      · exact (h.result_eq result hr).1
  | allow =>
      cases definition with
      | none =>
          rintro result ⟨⟩ -
          rfl
      | some tool =>
          simp only [effect, Proc.ensures_bind, Proc.ensures_tryCatch]
          refine (executeWithDurableReceipt_ensures proposal.toolName tool.effectClass args s).mono ?_
          rintro r s' -
          cases r with
          | error x =>
              refine ((reportFailure_ensures proposal x s').weaken fun _ _ _ => trivial).mono ?_
              rintro r s'' ⟨-, hraise⟩
              cases r with
              | error y => simp [Unanswered]
              | ok value => exact absurd rfl (hraise value)
          | ok value =>
              simp only [ensures_appendEvent, Proc.ensures_lift, Proc.ensures_mutate, anyOp,
                true_and]
              intro r l
              cases r with
              | error x => simp [Unanswered]
              | ok event =>
                  dsimp only
                  cases (applyEffect proposal.toolName args value (s'.withLedger l)).1 with
                  | error x => simp [Unanswered]
                  | ok u =>
                      rintro result ⟨⟩ (hblock | hpending)
                      · rw [houtcome] at hblock
                        cases hblock
                      · cases hpending

theorem executeTool_unanswered (agent : AgentName) (toolName : String) (args : Kwargs)
    (s : TrajectoryState) :
    Proc.Ensures anyOp (g.executeTool agent toolName args) s fun r _ => Unanswered r := by
  simp only [executeTool, Proc.ensures_bind]
  refine ((g.propose_ensures agent toolName args s).weaken fun _ _ _ => trivial).mono ?_
  rintro r s₁ -
  cases r with
  | error x => simp [Unanswered]
  | ok proposed =>
      obtain ⟨definition, proposal⟩ := proposed
      refine ((g.judge_ensures definition proposal args s₁).weaken fun _ _ _ => trivial).mono ?_
      rintro r s₁' -
      cases r with
      | error x => simp [Unanswered]
      | ok judged =>
          obtain ⟨request, decision⟩ := judged
          refine ((record_ensures decision s₁').weaken fun _ _ _ => trivial).mono ?_
          rintro r s₂ -
          cases r with
          | error x => simp [Unanswered]
          | ok u => exact apply_unanswered definition proposal request args decision s₂

omit [Sha256] in
/-- A call without a value changes at most a commitment's status and the approval waited
for. -/
theorem ToolStep.facts_eq {agent : AgentName} {toolName : String} {args : Kwargs}
    {s s' : TrajectoryState} {r : Except PyError GovernedToolResult}
    (h : g.ToolStep agent toolName args s r s') {result : GovernedToolResult}
    (hr : r = .ok result) (hvalue : result.value = none) :
    s'.order = s.order ∧ s'.inventoryFact = s.inventoryFact := by
  have hstatus (preparedId : String) (status : CommitmentStatus) :
      (s.setPreparedStatus preparedId status).order = s.order ∧
        (s.setPreparedStatus preparedId status).inventoryFact = s.inventoryFact := by
    unfold TrajectoryState.setPreparedStatus
    cases s.preparedActions.get? preparedId <;> exact ⟨rfl, rfl⟩
  have horder {s₁ s₂ : TrajectoryState} (hsame : s₂.business = s₁.business) :
      s₂.order = s₁.order ∧ s₂.inventoryFact = s₁.inventoryFact :=
    ⟨business_congr (·.order) (fun _ => rfl) hsame,
      business_congr (·.inventoryFact) (fun _ => rfl) hsame⟩
  cases h with
  | refused h => exact horder h.business_eq
  | escalated governed h =>
      obtain ⟨horder', hfact⟩ := horder h.business_eq
      exact ⟨horder'.trans (hstatus _ _).1, hfact.trans (hstatus _ _).2⟩
  | effected governed registered h =>
      obtain ⟨-, hsome, -⟩ := h.result_eq result hr
      rw [hvalue] at hsome
      cases hsome

end Effect

end Governor

end Manifest
