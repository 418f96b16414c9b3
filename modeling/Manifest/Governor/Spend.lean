import Manifest.Governor.Applied
import Manifest.Governor.Gate
import Manifest.Parity.Parity
import Manifest.Projector

/-!
# The spend ceiling

Under either engine committed spend grows only within the approval threshold or under
an approval that binds the prepared action.

Main results:

- Theorems `reference_budget` and `bundle_budget`: both engines clear a confirmation
  only within the budget or under a bound approval.
- Theorem `executeTool_covered`: every growth by one governed call is covered.
- Theorem `spend_covered`: every growth along a run is covered.
-/

set_option autoImplicit false

namespace Manifest

open Interaction

/-! ## What clearing a confirmation means -/

/-- A confirmation within the threshold, or under an approval that binds its action. -/
def BudgetCleared (request : PolicyRequest) (state : TrajectoryState) : Prop :=
  ∃ mandate prepared, state.mandate = some mandate ∧
    Cedar.preparedOf request state = some prepared ∧
    (projected state ≤ mandate.approvalThresholdMinor ∨
      ∃ approval, request.context.approval = some approval ∧
        Binds approval prepared state.policyVersion)

/-- An engine that lets a confirmation through only within the budget. -/
def EnforcesBudget (engine : PolicyEngine) : Prop :=
  ∀ request state, request.action = "confirm_freight_booking" →
    outcomeOf (engine.evaluate request state) = .allow → BudgetCleared request state

/-- Above the threshold, neither refused nor escalated means bound. -/
theorem budgetCleared_of {request : PolicyRequest} {state : TrajectoryState}
    {mandate : ShipmentMandate} {prepared : PreparedAction}
    (hmandate : state.mandate = some mandate)
    (hprepared : Cedar.preparedOf request state = some prepared)
    (hrefused : ¬ (mandate.approvalThresholdMinor < projected state ∧
      ExceptionRefused request state prepared))
    (hescalated : ¬ SpendEscalated request state mandate) : BudgetCleared request state := by
  refine ⟨mandate, prepared, hmandate, hprepared, ?_⟩
  by_cases habove : mandate.approvalThresholdMinor < projected state
  · right
    have hwaiting : ¬ awaiting request.context.approval := fun h => hescalated ⟨habove, h⟩
    cases happroval : request.context.approval with
    | none =>
        rw [happroval] at hwaiting
        exact absurd trivial hwaiting
    | some approval =>
        rw [happroval] at hwaiting
        refine ⟨approval, rfl, ?_⟩
        by_contra hbinds
        exact hrefused ⟨habove, approval, happroval, hwaiting, hbinds⟩
  · exact .inl (not_lt.mp habove)

section Engines

variable [Sha256]

theorem reference_budget : EnforcesBudget pythonReferencePolicyEngine := by
  intro request state haction hallow
  change outcomeOf (PythonEngine.evaluate request state) = .allow at hallow
  by_cases hadmitted : ∃ mandate, Admitted request state mandate
  · obtain ⟨mandate, h⟩ := hadmitted
    cases hnamed : namedAction request state with
    | none =>
        rw [PythonEngine.unnamed_outcome h (by simp [actsOnPrepared, haction]) hnamed] at hallow
        cases hallow
    | some prepared =>
        rw [PythonEngine.confirm_outcome h haction hnamed] at hallow
        split_ifs at hallow with hblocked hescalated
        refine budgetCleared_of h.mandate_eq (preparedOf_of_named hnamed) ?_ hescalated
        intro hrefused
        exact hblocked (.inl (.inr (.inr (.inr (.inr (.inr ⟨hrefused.1, .inl hrefused.2⟩))))))
  · rw [PythonEngine.not_admitted_outcome (not_exists.mp hadmitted)] at hallow
    cases hallow

theorem bundle_budget (bundleHash : String) : EnforcesBudget (cedarPolicyEngine bundleHash) := by
  intro request state haction hallow
  change outcomeOf (Cedar.evaluate bundleHash request state) = .allow at hallow
  have hregistered : (getDefinition request.action).isSome = true := by
    rw [haction]
    decide
  by_cases hadmitted : ∃ mandate, Admitted request state mandate
  · obtain ⟨mandate, h⟩ := hadmitted
    have hquote : choosesQuote "confirm_freight_booking" = false := by decide
    rw [bundle_outcome hregistered h] at hallow
    split_ifs at hallow with hblocked
    simp only [bundleSoft, haction, hquote, String.reduceEq, if_true, if_false,
      Bool.false_eq_true] at hallow
    split_ifs at hallow with hescalated
    simp only [SharedBlock, BundleBlock, haction, hquote, String.reduceEq, if_true, if_false,
      Bool.false_eq_true, not_or] at hblocked
    obtain ⟨hshared, -, hprepared, -⟩ := hblocked
    obtain ⟨prepared, hprepared⟩ := Option.ne_none_iff_exists'.mp hprepared
    refine budgetCleared_of h.mandate_eq hprepared ?_ hescalated
    intro hrefused
    refine hshared fun other hother => ?_
    obtain rfl : prepared = other := Option.some.inj (hprepared.symm.trans hother)
    exact .inr (.inr (.inr (.inl hrefused)))
  · rw [Cedar.not_admitted_outcome (schemaActions_of_registered hregistered)
      (not_exists.mp hadmitted)] at hallow
    cases hallow

end Engines

/-! ## One governed call -/

/-- A growth of committed spend that stays within the threshold, or rests on the stored
approval under the pending identifier: approved, unexpired at a clock reading of the call,
and equal to the prepared action and the policy version. -/
def Covered (host : Host) (s : TrajectoryState) (w : World) (s' : TrajectoryState) : Prop :=
  ∃ mandate, s.mandate = some mandate ∧
    (s'.spendCommittedMinor ≤ mandate.approvalThresholdMinor ∨
      ∃ preparedId prepared approvalId approval tick,
        s.preparedActions.get? preparedId = some prepared ∧
        s.pendingApprovalId = some approvalId ∧
        w.store.approvals.get? approvalId = some approval ∧
        approval.status = .approved ∧
        w.ticks s.traceId ≤ tick ∧ host.utcNow s.traceId tick < approval.expiresAt ∧
        approval.preparedActionId = prepared.preparedActionId ∧
        approval.actionHash = prepared.actionHash ∧ approval.stateHash = prepared.stateHash ∧
        approval.policyVersion = s.policyVersion ∧
        s'.spendCommittedMinor = s.spendCommittedMinor + prepared.amountMinor)

theorem setPreparedStatus_committed (s : TrajectoryState) (preparedId : String)
    (status : CommitmentStatus) :
    (s.setPreparedStatus preparedId status).spendCommittedMinor = s.spendCommittedMinor :=
  (setPreparedStatus_keeps s preparedId status).1

/-- Only a confirmation grows committed spend, by its action's amount. -/
theorem Governor.Applied.grows {toolName : String} {args : Kwargs} {s s' : TrajectoryState}
    {r : Except PyError Unit} (h : Governor.Applied toolName args s r s')
    (hgrow : s.spendCommittedMinor < s'.spendCommittedMinor) :
    toolName = "confirm_freight_booking" ∧ ∃ preparedId prepared,
      Governor.Applicable args s preparedId prepared ∧
        s'.spendCommittedMinor = s.spendCommittedMinor + prepared.amountMinor := by
  cases h with
  | unchanged r => exact absurd hgrow (lt_irrefl _)
  | unnumbered x tool_eq applicable =>
      rw [setPreparedStatus_committed] at hgrow
      exact absurd hgrow (lt_irrefl _)
  | confirmed confirmationId tool_eq applicable =>
      exact ⟨tool_eq, _, _, applicable, congrArg (· + _) (setPreparedStatus_committed ..)⟩
  | cancelled tool_eq applicable live =>
      have hsame := setPreparedStatus_committed s
      simp only [Governor.releaseSpend, hsame] at hgrow
      exact absurd hgrow (lt_irrefl _)

/-- An effect and a request that name the same action. -/
theorem preparedOf_of_applicable {request : PolicyRequest} {args : Kwargs}
    {s s₁ : TrajectoryState} {preparedId : String} {prepared found : PreparedAction}
    (hargs : request.context.arguments = args) (hbusiness : s₁.business = s.business)
    (h : Governor.Applicable args s preparedId prepared)
    (hfound : Cedar.preparedOf request s₁ = some found) : found = prepared := by
  obtain ⟨⟨value, hvalue, rfl⟩, hget⟩ := Governor.namedPrepared_ok h.named_eq
  have hread : request.context.arguments.get "prepared_action_id" = value := by
    simp [hargs, Kwargs.get, hvalue]
  unfold Cedar.preparedOf Cedar.lookupText at hfound
  rw [hread, preparedActions_of_business hbusiness] at hfound
  split at hfound
  · cases hfound
  · exact Option.some.inj (hfound.symm.trans hget)

section Call

variable [Sha256] (g : Governor) (loader : FixtureLoader) (host : Host)

/-- The approval the engine saw is the one stored when the call began. -/
theorem Governor.Staged.approval {agent : AgentName} {toolName : String} {args : Kwargs}
    {s s₁ s₃ : TrajectoryState} {w w₁ w₂ w₃ : World} {definition : Option ToolDefinition}
    {proposal : ToolProposal} {request : PolicyRequest} {decision : Decision}
    (hs : g.Staged (World.handle loader host) agent toolName args s w definition proposal request
      decision s₁ s₃ w₁ w₂ w₃) {approval : ApprovalContext}
    (happroval : request.context.approval = some approval) :
    Governor.ShownApproval host s w approval := by
  obtain ⟨approvalId, record, tick, hpending, hstored, htick, heq⟩ :=
    g.judge_approval loader host hs.judge_eq happroval
  have hkept := World.Kept.of_bookkeeping loader host (g.propose_ensures agent toolName args s) w
  rw [hs.propose_eq] at hkept
  have htrace := traceId_of_business hs.seen_eq
  refine ⟨approvalId, record, tick, ?_, ?_, ?_, ?_⟩
  · rw [← pendingApprovalId_of_business hs.seen_eq]
    exact hpending
  · rw [← hkept.approvals_eq]
    exact hstored
  · rw [htrace] at htick
    exact (hkept.ticks_le _).trans htick
  · rw [heq, htrace]

/-- Every growth of committed spend by a governed call is covered. -/
theorem executeTool_covered (hengine : EnforcesBudget g.engine) (agent : AgentName)
    (toolName : String) (args : Kwargs) (s : TrajectoryState) (w : World)
    (hmode : s.mode = .enforce)
    (hgrow : s.spendCommittedMinor <
      ((g.executeTool agent toolName args).exec (World.handle loader host) s
        w).state.spendCommittedMinor) :
    Covered host s w
      ((g.executeTool agent toolName args).exec (World.handle loader host) s w).state := by
  rcases g.executeTool_stages (World.handle loader host) agent toolName args s w with
    ⟨x, -, hbusiness⟩ | ⟨definition, proposal, request, decision, s₁, s₃, w₁, w₂, w₃, hs, hexec⟩
  · rw [spendCommitted_of_business hbusiness] at hgrow
    exact absurd hgrow (lt_irrefl _)
  rw [hexec] at hgrow ⊢
  have hcarried := (Governor.apply_carried definition proposal request args decision s₃).exec
    (World.handle loader host) w₃
  set x := (Governor.apply definition proposal request args decision).exec
    (World.handle loader host) s₃ w₃
  have hsame₃ := spendCommitted_of_business hs.recorded_eq
  rcases hcarried with hrefused | ⟨-, hescalated⟩ | ⟨hallow, heffected⟩
  · rw [spendCommitted_of_business hrefused.business_eq, hsame₃] at hgrow
    exact absurd hgrow (lt_irrefl _)
  · rw [spendCommitted_of_business hescalated.business_eq] at hgrow
    have hawait := setPreparedStatus_committed s₃
    simp only [Governor.awaitApproval, TrajectoryState.setPendingApproval, hawait, hsame₃] at hgrow
    exact absurd hgrow (lt_irrefl _)
  · rename_i value
    have happlied := Governor.applyEffect_applied proposal.toolName args value s₃
    have hcommitted := spendCommitted_of_business heffected.business_eq
    rw [hcommitted, ← hsame₃] at hgrow
    obtain ⟨htool, preparedId, prepared, happlicable, hamount⟩ := happlied.grows hgrow
    have hgoverned := hs.governed
    rw [hallow] at hgoverned
    obtain ⟨attempt, houtcome⟩ := hgoverned.outcome_eq
    rw [hmode] at houtcome
    obtain ⟨signals, hcleared, -⟩ := g.decided_of_allow houtcome.symm
    have haction : request.action = "confirm_freight_booking" := by
      rw [hs.judged.action_eq, htool]
    have hbudget : BudgetCleared request s₁ := by
      refine hengine request s₁ haction ?_
      rw [hcleared.returned]
      exact (strongest_eq_allow_iff signals).mpr hcleared.allowed
    obtain ⟨mandate, found, hmandate, hfound, hcover⟩ := hbudget
    have hsame : s₁.business = s₃.business := hs.seen_eq.trans hs.recorded_eq.symm
    obtain rfl : found = prepared :=
      preparedOf_of_applicable hs.judged.arguments_eq hsame happlicable hfound
    refine ⟨mandate, (mandate_of_business hs.seen_eq).symm.trans hmandate, ?_⟩
    rcases hcover with hwithin | ⟨approval, happroval, hbinds⟩
    · left
      rw [hcommitted, hamount]
      have hle := happlicable.reserved_le
      unfold projected at hwithin
      rw [spendCommitted_of_business hsame, spendReserved_of_business hsame] at hwithin
      omega
    · right
      obtain ⟨approvalId, record, tick, hpending, hstored, htick, rfl⟩ :=
        hs.approval g loader host happroval
      obtain ⟨-, hget⟩ := Governor.namedPrepared_ok happlicable.named_eq
      rw [preparedActions_of_business hs.recorded_eq] at hget
      refine ⟨preparedId, found, approvalId, record, tick, hget, hpending, hstored,
        hbinds.status_eq, htick, ?_, hbinds.preparedActionId_eq, hbinds.actionHash_eq,
        hbinds.stateHash_eq, ?_, ?_⟩
      · simpa [ApprovalRecord.toContext] using hbinds.unexpired
      · rw [← policyVersion_of_business hs.seen_eq]
        exact hbinds.policyVersion_eq
      · rw [hcommitted, hamount, hsame₃]

end Call

/-! ## Runs -/

section Runs

variable [Sha256] (g : Governor) (loader : FixtureLoader) (host : Host)

/-- What can happen to an enforced trajectory: a governed call, a projection, or any change
of the stored approvals together with any change of the state that leaves its mode and its
committed spend alone. -/
inductive SpendStep : TrajectoryState × World → TrajectoryState × World → Prop where
  | tool (agent : AgentName) (toolName : String) (args : Kwargs) (s : TrajectoryState)
      (w : World) :
      SpendStep (s, w)
        (((g.executeTool agent toolName args).exec (World.handle loader host) s w).state,
          ((g.executeTool agent toolName args).exec (World.handle loader host) s w).env)
  | project (agent : AgentName) (toolName : String) (args : Kwargs) (value : ToolValue)
      (s : TrajectoryState) (w : World) :
      SpendStep (s, w)
        (((Projector.project loader agent toolName args value).exec
            (World.handle loader host) s w).state,
          ((Projector.project loader agent toolName args value).exec
            (World.handle loader host) s w).env)
  | approvals {s s' : TrajectoryState} {w w' : World} (mode_eq : s'.mode = s.mode)
      (committed_eq : s'.spendCommittedMinor = s.spendCommittedMinor) :
      SpendStep (s, w) (s', w')

variable {g loader host}

omit [Sha256] in
/-- Effects on commitments keep the mode. -/
theorem Governor.Applied.mode_eq {toolName : String} {args : Kwargs} {s s' : TrajectoryState}
    {r : Except PyError Unit} (h : Governor.Applied toolName args s r s') :
    s'.mode = s.mode := by
  have hstatus (preparedId : String) (status : CommitmentStatus) :
      (s.setPreparedStatus preparedId status).mode = s.mode := by
    unfold TrajectoryState.setPreparedStatus
    cases s.preparedActions.get? preparedId <;> rfl
  cases h with
  | unchanged r => rfl
  | unnumbered x tool_eq applicable => exact hstatus ..
  | confirmed confirmationId tool_eq applicable => exact hstatus ..
  | cancelled tool_eq applicable live => exact hstatus ..

/-- A governed call keeps the mode. -/
theorem executeTool_mode (g : Governor) (agent : AgentName) (toolName : String) (args : Kwargs)
    (s : TrajectoryState) :
    Proc.Ensures Governor.anyOp (g.executeTool agent toolName args) s
      fun _ s' => s'.mode = s.mode := by
  refine (g.executeTool_ensures agent toolName args s).mono fun r s' hstep => ?_
  cases hstep with
  | refused h => exact mode_of_business h.business_eq
  | escalated governed h =>
      refine (mode_of_business h.business_eq).trans ?_
      simp only [Governor.awaitApproval, TrajectoryState.setPendingApproval,
        TrajectoryState.setPreparedStatus]
      split <;> rfl
  | effected governed registered h =>
      exact (mode_of_business h.business_eq).trans
        (Governor.applyEffect_applied _ _ _ _).mode_eq

theorem SpendStep.mode_eq {c c' : TrajectoryState × World} (h : SpendStep g loader host c c') :
    c'.1.mode = c.1.mode := by
  cases h with
  | tool agent toolName args s w => exact (executeTool_mode g agent toolName args s).exec _ w
  | project agent toolName args value s w =>
      exact ((Projector.project_ensures loader agent toolName args value s).exec _ w).same.mode_eq
  | approvals mode_eq committed_eq => exact mode_eq

/-- One step that grows committed spend is covered. -/
theorem SpendStep.covered {c c' : TrajectoryState × World} (h : SpendStep g loader host c c')
    (hengine : EnforcesBudget g.engine) (hmode : c.1.mode = .enforce)
    (hgrow : c.1.spendCommittedMinor < c'.1.spendCommittedMinor) :
    Covered host c.1 c.2 c'.1 := by
  cases h with
  | tool agent toolName args s w =>
      exact executeTool_covered g loader host hengine agent toolName args s w hmode hgrow
  | project agent toolName args value s w =>
      have hsame := (Projector.project_ensures loader agent toolName args value s).exec
        (World.handle loader host) w
      rw [hsame.same.committed_eq] at hgrow
      exact absurd hgrow (lt_irrefl _)
  | approvals mode_eq committed_eq =>
      rw [committed_eq] at hgrow
      exact absurd hgrow (lt_irrefl _)

/-- An enforced run stays enforced. -/
theorem mode_of_run {c₀ c : TrajectoryState × World}
    (hrun : Relation.ReflTransGen (SpendStep g loader host) c₀ c)
    (hmode : c₀.1.mode = .enforce) : c.1.mode = .enforce := by
  induction hrun with
  | refl => exact hmode
  | tail hrun hstep ih => exact hstep.mode_eq.trans ih

/-- The spend ceiling.  Along every enforced run of governed calls, projections and approval
changes, under either engine, each growth of committed spend is covered. -/
theorem spend_covered
    (hengine : g.engine = pythonReferencePolicyEngine ∨
      ∃ bundleHash, g.engine = cedarPolicyEngine bundleHash)
    {c₀ c c' : TrajectoryState × World} (hmode : c₀.1.mode = .enforce)
    (hrun : Relation.ReflTransGen (SpendStep g loader host) c₀ c)
    (hstep : SpendStep g loader host c c')
    (hgrow : c.1.spendCommittedMinor < c'.1.spendCommittedMinor) :
    Covered host c.1 c.2 c'.1 := by
  have henforces : EnforcesBudget g.engine := by
    rcases hengine with heq | ⟨bundleHash, heq⟩ <;> rw [heq]
    · exact reference_budget
    · exact bundle_budget bundleHash
  exact hstep.covered henforces (mode_of_run hrun hmode) hgrow

end Runs

namespace Demo

/-- The demo governor under the reference engine. -/
def governor : Governor :=
  { engine := pythonReferencePolicyEngine, loader := loader }

/-- A world that stores a run holding a prepared booking. -/
def heldWorld : World :=
  (Py.createRun.exec handle (holding .prepared 90000) {}).env

/-- The call that confirms the booking. -/
def confirmCall : Exit PyError TrajectoryState World GovernedToolResult :=
  (governor.executeTool .carrier "confirm_freight_booking" confirmArgs).exec handle
    (holding .prepared 90000) heldWorld

end Demo

/-- Confirming the demo booking moves 900 rupees to committed spend, and is covered. -/
theorem spend_covered_booking :
    (Demo.holding .prepared 90000).spendCommittedMinor <
        Demo.confirmCall.state.spendCommittedMinor ∧
      Covered Demo.host (Demo.holding .prepared 90000) Demo.heldWorld Demo.confirmCall.state := by
  have hgrow : (Demo.holding .prepared 90000).spendCommittedMinor <
      Demo.confirmCall.state.spendCommittedMinor := by
    decide +kernel
  have hstep : SpendStep Demo.governor Demo.loader Demo.host
      (Demo.holding .prepared 90000, Demo.heldWorld)
      (Demo.confirmCall.state, Demo.confirmCall.env) :=
    .tool .carrier "confirm_freight_booking" Demo.confirmArgs (Demo.holding .prepared 90000)
      Demo.heldWorld
  generalize Demo.confirmCall = call at hgrow hstep ⊢
  exact ⟨hgrow, spend_covered (.inl rfl) rfl .refl hstep hgrow⟩

end Manifest
