import Manifest.Governor.Spend

/-!
# The frame of a governed call

A governed call moves at most the prepared action it names, and a call that is spared
moves nothing at all.

Main results:

- Theorem `executeTool_frame`: the prepared actions a call does not name are untouched.
- Theorem `executeTool_spared`: a spared call leaves every business field alone.
-/

set_option autoImplicit false

namespace Manifest

open Interaction

/-- A status update touches one key. -/
theorem setPreparedStatus_get?_ne (s : TrajectoryState) {preparedId id : String}
    (status : CommitmentStatus) (hne : id ≠ preparedId) :
    (s.setPreparedStatus preparedId status).preparedActions.get? id =
      s.preparedActions.get? id := by
  unfold TrajectoryState.setPreparedStatus
  cases s.preparedActions.get? preparedId with
  | none => rfl
  | some prepared => exact Dict.get?_set_ne s.preparedActions _ hne

namespace Governor

/-- The text a call names its prepared action by. -/
def namedText (args : Kwargs) : String :=
  (args.get "prepared_action_id").pyStr

theorem namedText_of_named {args : Kwargs} {s : TrajectoryState} {preparedId : String}
    {prepared : PreparedAction} (h : namedPrepared args s = .ok (preparedId, prepared)) :
    namedText args = preparedId := by
  obtain ⟨⟨value, hvalue, rfl⟩, -⟩ := namedPrepared_ok h
  simp [namedText, Kwargs.get, hvalue]

/-! ## What a call does not name -/

/-- An effect touches the action it names. -/
theorem Applied.frame {toolName : String} {args : Kwargs} {s s' : TrajectoryState}
    {r : Except PyError Unit} (h : Applied toolName args s r s') {id : String}
    (hne : id ≠ namedText args) :
    s'.preparedActions.get? id = s.preparedActions.get? id := by
  cases h with
  | unchanged r => rfl
  | unnumbered x tool_eq applicable =>
      rw [namedText_of_named applicable.named_eq] at hne
      exact setPreparedStatus_get?_ne s _ hne
  | confirmed confirmationId tool_eq applicable =>
      rw [namedText_of_named applicable.named_eq] at hne
      exact setPreparedStatus_get?_ne s _ hne
  | cancelled tool_eq applicable live =>
      rw [namedText_of_named applicable.named_eq] at hne
      exact setPreparedStatus_get?_ne s _ hne

variable [Sha256] (g : Governor)

/-- The prepared actions a call does not name are untouched, whatever the surroundings
reply. -/
theorem executeTool_frame (agent : AgentName) (toolName : String) (args : Kwargs)
    (s : TrajectoryState) {id : String} (hne : id ≠ namedText args) :
    Proc.Ensures anyOp (g.executeTool agent toolName args) s
      fun _ s' => s'.preparedActions.get? id = s.preparedActions.get? id := by
  refine (g.executeTool_ensures agent toolName args s).mono fun r s' hstep => ?_
  cases hstep with
  | refused h => rw [preparedActions_of_business h.business_eq]
  | escalated governed h =>
      rw [preparedActions_of_business h.business_eq]
      exact setPreparedStatus_get?_ne s _ hne
  | effected governed registered h =>
      rw [preparedActions_of_business h.business_eq]
      exact (applyEffect_applied _ _ _ _).frame hne

/-! ## Calls that move nothing -/

/-- The action a call names is final, or larger than what is reserved. -/
def Settled (toolName : String) (args : Kwargs) (s : TrajectoryState) : Prop :=
  ∀ preparedId prepared, namedPrepared args s = .ok (preparedId, prepared) →
    prepared.status = .confirmed ∨
      toolName = "cancel_freight_booking" ∧ prepared.status = .cancelled ∨
      s.spendReservedMinor < prepared.amountMinor

/-- The stored receipt of a call's key is for other arguments, or there is none and the
adapter raises. -/
def Unserved (loader : FixtureLoader) (toolName : String) (args : Kwargs)
    (s : TrajectoryState) (w : World) : Prop :=
  ∃ key keyHash, args.get "idempotency_key" = .str key ∧ opaqueKeyHash key = .ok keyHash ∧
    match w.store.getEffectReceipt s.traceId keyHash with
    | some existing => existing.fingerprint ≠ effectFingerprint toolName args
    | none => ∃ x, (MockLogisticsTools.execute loader toolName args w.mocks).1 = .error x

/-- A call that is spared: the call limit is used up, or whatever the engine is shown it
neither asks for an approval nor lets the call act on an open action. -/
def Spared (loader : FixtureLoader) (host : Host) (agent : AgentName) (toolName : String)
    (args : Kwargs) (s : TrajectoryState) (w : World) : Prop :=
  g.maxToolCalls ≤ s.toolCallCount ∨
    ∀ s₁ request outcome, g.Governed agent toolName args s s₁ request outcome →
      (∀ approval, request.context.approval = some approval → ShownApproval host s w approval) →
      outcome ≠ .escalate ∧
        (outcome = .allow → Settled toolName args s ∨ Unserved loader toolName args s w)

omit [Sha256] in
/-- An effect on a settled action leaves the state alone. -/
theorem Applied.of_settled {toolName : String} {args : Kwargs} {s s' : TrajectoryState}
    {r : Except PyError Unit} (h : Applied toolName args s r s')
    (hsettled : Settled toolName args s) : s' = s := by
  have hnot {preparedId prepared} (happlicable : Applicable args s preparedId prepared)
      (hlive : toolName = "cancel_freight_booking" → prepared.status ≠ .cancelled) : False := by
    rcases hsettled _ _ happlicable.named_eq with hconfirmed | ⟨htool, hcancelled⟩ | hshort
    · exact happlicable.open_eq hconfirmed
    · exact hlive htool hcancelled
    · exact absurd happlicable.reserved_le (not_le.mpr hshort)
  cases h with
  | unchanged r => rfl
  | unnumbered x tool_eq applicable =>
      exact (hnot applicable fun htool => by rw [tool_eq] at htool; simp at htool).elim
  | confirmed confirmationId tool_eq applicable =>
      exact (hnot applicable fun htool => by rw [tool_eq] at htool; simp at htool).elim
  | cancelled tool_eq applicable live => exact (hnot applicable fun _ => live).elim

omit [Sha256] in
theorem Settled.congr {toolName : String} {args : Kwargs} {s s' : TrajectoryState}
    (h : s'.business = s.business) (hsettled : Settled toolName args s) :
    Settled toolName args s' := by
  intro preparedId prepared hnamed
  have hsame : namedPrepared args s' = namedPrepared args s := by
    simp only [namedPrepared, preparedActions_of_business h]
  rw [spendReserved_of_business h]
  exact hsettled preparedId prepared (hsame ▸ hnamed)

section World

variable (loader : FixtureLoader) (host : Host)

/-- A write that is not served raises. -/
theorem executeWithDurableReceipt_unserved {toolName : String} {effectClass : EffectClass}
    {args : Kwargs} {s s' : TrajectoryState} {w w' : World} (hclass : effectClass ≠ .read)
    (htrace : s'.traceId = s.traceId) (hkept : World.Kept w w')
    (h : Unserved loader toolName args s w) :
    ∃ x w'', (executeWithDurableReceipt toolName effectClass args).exec
      (World.handle loader host) s' w' = ⟨.error x, s', w''⟩ := by
  obtain ⟨key, keyHash, hkey, hhash, hserved⟩ := h
  have hreceipt : w'.store.getEffectReceipt s'.traceId keyHash =
      w.store.getEffectReceipt s.traceId keyHash := by
    simp only [MemoryTraceStore.getEffectReceipt, hkept.effectReceipts_eq, htrace]
  rw [executeWithDurableReceipt_keyed toolName hclass hkey]
  unfold executeOnce
  rw [hhash]
  simp only [Proc.exec_bind, Proc.exec_ofExcept, Proc.exec_read, Proc.exec_perform,
    World.handle, hreceipt]
  cases hstored : w.store.getEffectReceipt s.traceId keyHash with
  | some existing =>
      rw [hstored] at hserved
      dsimp only at hserved ⊢
      rw [if_pos hserved]
      exact ⟨_, _, rfl⟩
  | none =>
      rw [hstored] at hserved
      obtain ⟨x, hx⟩ := hserved
      dsimp only
      rw [Proc.exec_bind, Proc.exec_request]
      simp only [World.handle, hkept.mocks_eq, hx]
      exact ⟨_, _, rfl⟩

/-- Up to its recorded decision a call keeps every record but the ledger. -/
theorem Staged.kept {agent : AgentName} {toolName : String} {args : Kwargs}
    {s s₁ s₃ : TrajectoryState} {w w₁ w₂ w₃ : World} {definition : Option ToolDefinition}
    {proposal : ToolProposal} {request : PolicyRequest} {decision : Decision}
    (hs : g.Staged (World.handle loader host) agent toolName args s w definition proposal request
      decision s₁ s₃ w₁ w₂ w₃) : World.Kept w w₃ := by
  have hpropose := World.Kept.of_bookkeeping loader host (g.propose_ensures agent toolName args s) w
  have hjudge := World.Kept.of_bookkeeping loader host
    ((g.judge_ensures definition proposal args s₁).weaken readingOp.bookkeeping) w₁
  have hrecord := World.Kept.of_bookkeeping loader host (record_ensures decision s₁) w₂
  rw [hs.propose_eq] at hpropose
  rw [hs.judge_eq] at hjudge
  rw [hs.record_eq] at hrecord
  exact (hpropose.trans hjudge).trans hrecord

/-- A tool that raises changes nothing but the ledger. -/
theorem effect_of_raised {effectClass : EffectClass} {proposal : ToolProposal}
    {request : PolicyRequest} {args : Kwargs} {decision : Decision} {s : TrajectoryState}
    {w w' : World} {x : PyError}
    (hraise : (executeWithDurableReceipt proposal.toolName effectClass args).exec
      (World.handle loader host) s w = ⟨.error x, s, w'⟩) :
    ((effect effectClass proposal request args decision).exec (World.handle loader host) s
      w).state.business = s.business := by
  have hreport := (reportFailure_ensures (α := ToolValue) proposal x s).exec
    (World.handle loader host) w'
  have htry : (Proc.tryCatch (executeWithDurableReceipt proposal.toolName effectClass args)
      (reportFailure proposal)).exec (World.handle loader host) s w =
        (reportFailure proposal x : Py ToolValue).exec (World.handle loader host) s w' := by
    rw [Proc.exec_tryCatch, hraise]
  unfold effect
  rcases hx : (reportFailure proposal x : Py ToolValue).exec (World.handle loader host) s w'
    with ⟨r, s', w''⟩
  rw [hx] at hreport
  cases r with
  | ok value => exact absurd rfl (hreport.2 value)
  | error y =>
      rw [Proc.exec_bind_error _ (htry.trans hx)]
      exact hreport.1

/-- A call past the limit is refused at once. -/
theorem executeTool_past_limit {agent : AgentName} {toolName : String} {args : Kwargs}
    {s : TrajectoryState} {E : Type} (h : Handler Op E) (e : E)
    (hlimit : g.maxToolCalls ≤ s.toolCallCount) :
    ((g.executeTool agent toolName args).exec h s e).state = s := by
  have hpropose : (g.propose agent toolName args).exec h s e =
      ⟨.error ⟨.toolExecution, s!"Trace {s.traceId} exceeded the tool-call limit."⟩, s, e⟩ := by
    unfold propose
    rw [Proc.exec_bind_ok h (Proc.exec_read h s e), if_pos hlimit]
    rfl
  unfold executeTool
  rw [Proc.exec_bind_error h hpropose]

/-- A spared call leaves every business field alone. -/
theorem executeTool_spared {agent : AgentName} {toolName : String} {args : Kwargs}
    {s : TrajectoryState} {w : World}
    (hwrite : ∀ definition, getDefinition toolName = some definition →
      definition.effectClass ≠ .read)
    (hspared : g.Spared loader host agent toolName args s w) :
    ((g.executeTool agent toolName args).exec (World.handle loader host) s w).state.business =
      s.business := by
  rcases hspared with hlimit | hspared
  · rw [g.executeTool_past_limit _ w hlimit]
  rcases g.executeTool_stages (World.handle loader host) agent toolName args s w with
    ⟨x, -, hbusiness⟩ | ⟨definition, proposal, request, decision, s₁, s₃, w₁, w₂, w₃, hs, hexec⟩
  · exact hbusiness
  obtain ⟨hescalate, hallowed⟩ := hspared s₁ request decision.appliedOutcome hs.governed
    fun approval happroval => hs.approval g loader host happroval
  have hname : proposal.toolName = toolName := hs.proposed.toolName_eq
  have hcarried := (apply_carried definition proposal request args decision s₃).exec
    (World.handle loader host) w₃
  rw [hexec]
  rcases hcarried with hrefused | ⟨houtcome, -⟩ | ⟨houtcome, heffected⟩
  · exact hrefused.business_eq.trans hs.recorded_eq
  · exact absurd houtcome hescalate
  · rename_i value
    rcases hallowed houtcome with hsettled | hunserved
    · have happlied := (applyEffect_applied proposal.toolName args value s₃).of_settled
        (hname ▸ hsettled.congr hs.recorded_eq)
      rw [heffected.business_eq, happlied]
      exact hs.recorded_eq
    · unfold apply
      rw [houtcome]
      cases hdefinition : definition with
      | none => exact hs.recorded_eq
      | some tool =>
          have hclass := hwrite tool (by rw [← hs.proposed.definition_eq, hdefinition])
          obtain ⟨x, w'', hraise⟩ := executeWithDurableReceipt_unserved loader host hclass
            (traceId_of_business hs.recorded_eq) (hs.kept g loader host) hunserved
          exact (effect_of_raised loader host (hname ▸ hraise)).trans hs.recorded_eq

end World

end Governor

end Manifest
