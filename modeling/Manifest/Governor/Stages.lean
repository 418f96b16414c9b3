import Manifest.Governor.Spec

/-!
# The stages of a governed call

One inversion of `execute_tool`, against any handler, from which each property of a
call is read off: either the call stopped before a decision was recorded, or it
carries out a recorded decision.

Main results:

- Theorem `executeTool_stages`: the inversion.
- Theorem `judge_approval`: the approval a request shows is the stored one.
- Theorem `World.Kept.of_bookkeeping`: bookkeeping keeps every record but the ledger.
-/

set_option autoImplicit false

namespace Manifest

open Interaction

/-! ## What bookkeeping keeps -/

/-- A later world with the same approvals, receipts, replays and adapter. -/
structure World.Kept (w w' : World) : Prop where
  approvals_eq : w'.store.approvals = w.store.approvals
  approvalReplays_eq : w'.store.approvalReplays = w.store.approvalReplays
  effectReceipts_eq : w'.store.effectReceipts = w.store.effectReceipts
  mocks_eq : w'.mocks = w.mocks
  ticks_le : ∀ scope, w.ticks scope ≤ w'.ticks scope

namespace World

theorem Kept.refl (w : World) : Kept w w :=
  ⟨rfl, rfl, rfl, rfl, fun _ => le_rfl⟩

theorem Kept.trans {w₁ w₂ w₃ : World} (h : Kept w₁ w₂) (h' : Kept w₂ w₃) : Kept w₁ w₃ :=
  ⟨h'.approvals_eq.trans h.approvals_eq, h'.approvalReplays_eq.trans h.approvalReplays_eq,
    h'.effectReceipts_eq.trans h.effectReceipts_eq, h'.mocks_eq.trans h.mocks_eq,
    fun scope => (h.ticks_le scope).trans (h'.ticks_le scope)⟩

theorem ticks_le_tick (w : World) (scope s : String) :
    w.ticks s ≤ (w.tick scope).ticks s := by
  simp only [tick, Function.update]
  split
  · rename_i hs
    subst hs
    exact Nat.le_succ _
  · exact le_rfl

theorem kept_draw {α : Type} (w : World) (scope : String) (supply : String → Nat → α) :
    Kept w (w.draw scope supply).2 :=
  ⟨rfl, rfl, rfl, rfl, ticks_le_tick w scope⟩

variable [Sha256] (loader : FixtureLoader) (host : Host)

/-- Bookkeeping keeps every record but the ledger. -/
theorem kept_handle (β : Type) (o : Op β) (w : World) (ho : bookkeepingOp β o) :
    Kept w (handle loader host β o w).2 := by
  cases o with
  | appendEvent state spec =>
      refine ⟨?_, ?_, ?_, rfl, ticks_le_tick w state.traceId⟩
      all_goals
        simp only [handle, written]
        rcases MemoryTraceStore.appendEvent_cases w.store state spec
          (host.utcNow state.traceId (w.ticks state.traceId))
          ("EVT-" ++ host.uuid4 state.traceId (w.ticks state.traceId)) with
          ⟨x, heq⟩ | ⟨event, -, heq⟩ | ⟨stored, head, -, -, -, heq⟩
        · rw [heq]
        · rw [heq]
        · rw [heq]
          rfl
  | appendDecision state decision =>
      refine ⟨?_, ?_, ?_, rfl, fun _ => le_rfl⟩
      all_goals
        simp only [handle, written]
        rcases MemoryTraceStore.appendDecision_cases w.store state decision with
          ⟨x, heq⟩ | ⟨stored, -, -, heq⟩ <;> rw [heq]
  | getApproval approvalId => exact .refl w
  | utcNow scope => exact kept_draw w scope _
  | uuid4 scope => exact kept_draw w scope _
  | elapsedMs scope => exact kept_draw w scope _
  | _ => exact ho.elim

/-- Bookkeeping procedures keep every record but the ledger. -/
theorem Kept.of_bookkeeping {α : Type} {m : Py α} {s : TrajectoryState}
    {Q : Except PyError α → TrajectoryState → Prop} (hm : Proc.Ensures bookkeepingOp m s Q)
    (w : World) : Kept w (m.exec (handle loader host) s w).env :=
  hm.env_rel Kept.refl Kept.trans (kept_handle loader host) w

end World

namespace Governor

variable (g : Governor)

/-! ## The inversion -/

section Stages

variable [Sha256] {E : Type} (h : Handler Op E)

/-- A call that reached its recorded decision: proposed in `s₁`, judged between `e₁` and
`e₂`, and recorded in `s₃`. -/
structure Staged (agent : AgentName) (toolName : String) (args : Kwargs)
    (s : TrajectoryState) (e : E) (definition : Option ToolDefinition)
    (proposal : ToolProposal) (request : PolicyRequest) (decision : Decision)
    (s₁ s₃ : TrajectoryState) (e₁ e₂ e₃ : E) : Prop where
  propose_eq : (g.propose agent toolName args).exec h s e = ⟨.ok (definition, proposal), s₁, e₁⟩
  judge_eq : (g.judge definition proposal args).exec h s₁ e₁ = ⟨.ok (request, decision), s₁, e₂⟩
  record_eq : (record decision).exec h s₁ e₂ = ⟨.ok (), s₃, e₃⟩

/-- A call stops before its decision is recorded, or carries the decision out. -/
theorem executeTool_stages (agent : AgentName) (toolName : String) (args : Kwargs)
    (s : TrajectoryState) (e : E) :
    (∃ x, ((g.executeTool agent toolName args).exec h s e).result = .error x ∧
      ((g.executeTool agent toolName args).exec h s e).state.business = s.business) ∨
    ∃ definition proposal request decision s₁ s₃ e₁ e₂ e₃,
      g.Staged h agent toolName args s e definition proposal request decision s₁ s₃ e₁ e₂ e₃ ∧
      (g.executeTool agent toolName args).exec h s e =
        (apply definition proposal request args decision).exec h s₃ e₃ := by
  unfold executeTool
  have hpropose := (g.propose_ensures agent toolName args s).exec h e
  rcases hx₁ : (g.propose agent toolName args).exec h s e with ⟨r₁, s₁, e₁⟩
  rw [hx₁] at hpropose
  cases r₁ with
  | error x =>
      rw [Proc.exec_bind_error h hx₁]
      exact .inl ⟨x, rfl, hpropose.1⟩
  | ok proposed =>
      obtain ⟨definition, proposal⟩ := proposed
      rw [Proc.exec_bind_ok h hx₁]
      have hjudge := (g.judge_ensures definition proposal args s₁).exec h e₁
      rcases hx₂ : (g.judge definition proposal args).exec h s₁ e₁ with ⟨r₂, s₂, e₂⟩
      rw [hx₂] at hjudge
      obtain rfl : s₂ = s₁ := hjudge.1
      cases r₂ with
      | error x =>
          rw [Proc.exec_bind_error h hx₂]
          exact .inl ⟨x, rfl, hpropose.1⟩
      | ok judged =>
          obtain ⟨request, decision⟩ := judged
          rw [Proc.exec_bind_ok h hx₂]
          have hrecord := (record_ensures decision s₂).exec h e₂
          rcases hx₃ : (record decision).exec h s₂ e₂ with ⟨r₃, s₃, e₃⟩
          rw [hx₃] at hrecord
          cases r₃ with
          | error x =>
              rw [Proc.exec_bind_error h hx₃]
              exact .inl ⟨x, rfl, hrecord.trans hpropose.1⟩
          | ok u =>
              rw [Proc.exec_bind_ok h hx₃]
              exact .inr ⟨definition, proposal, request, decision, s₂, s₃, e₁, e₂, e₃,
                ⟨hx₁, hx₂, hx₃⟩, rfl⟩

variable {h} {agent : AgentName} {toolName : String} {args : Kwargs} {s s₁ s₃ : TrajectoryState}
  {e e₁ e₂ e₃ : E} {definition : Option ToolDefinition} {proposal : ToolProposal}
  {request : PolicyRequest} {decision : Decision}

omit [Sha256] in
/-- The state the engine saw has the business fields of the caller's. -/
theorem Staged.seen_eq
    (hs : g.Staged h agent toolName args s e definition proposal request decision s₁ s₃ e₁ e₂ e₃) :
    s₁.business = s.business := by
  have hpropose := (g.propose_ensures agent toolName args s).exec h e
  rw [hs.propose_eq] at hpropose
  exact hpropose.1

omit [Sha256] in
theorem Staged.proposed
    (hs : g.Staged h agent toolName args s e definition proposal request decision s₁ s₃ e₁ e₂ e₃) :
    Proposed agent toolName definition proposal := by
  have hpropose := (g.propose_ensures agent toolName args s).exec h e
  rw [hs.propose_eq] at hpropose
  exact hpropose.2 _ _ rfl

omit [Sha256] in
theorem Staged.judged
    (hs : g.Staged h agent toolName args s e definition proposal request decision s₁ s₃ e₁ e₂ e₃) :
    g.Judged definition proposal args s₁ request decision := by
  have hjudge := (g.judge_ensures definition proposal args s₁).exec h e₁
  rw [hs.judge_eq] at hjudge
  exact hjudge.2 _ _ rfl

omit [Sha256] in
theorem Staged.governed
    (hs : g.Staged h agent toolName args s e definition proposal request decision s₁ s₃ e₁ e₂ e₃) :
    g.Governed agent toolName args s s₁ request decision.appliedOutcome :=
  Judged.governed g hs.proposed hs.seen_eq hs.judged

omit [Sha256] in
/-- Recording the decision is bookkeeping too. -/
theorem Staged.recorded_eq
    (hs : g.Staged h agent toolName args s e definition proposal request decision s₁ s₃ e₁ e₂ e₃) :
    s₃.business = s.business := by
  have hrecord := (record_ensures decision s₁).exec h e₂
  rw [hs.record_eq] at hrecord
  exact hrecord.trans hs.seen_eq

end Stages

/-! ## What a carried-out decision can do -/

/-- How a decision is carried out, by its applied outcome. -/
inductive Carried (toolName : String) (args : Kwargs) (outcome : DecisionOutcome)
    (s : TrajectoryState) (r : Except PyError GovernedToolResult) (s' : TrajectoryState) :
    Prop where
  | refused (h : Refused s r s') : Carried toolName args outcome s r s'
  | escalated {prepared approvalId} (outcome_eq : outcome = .escalate)
      (h : Escalated (args.get "prepared_action_id").pyStr s r s' prepared approvalId) :
      Carried toolName args outcome s r s'
  | effected {value} (outcome_eq : outcome = .allow) (h : Effected toolName args s r s' value) :
      Carried toolName args outcome s r s'

theorem apply_carried [Sha256] (definition : Option ToolDefinition) (proposal : ToolProposal)
    (request : PolicyRequest) (args : Kwargs) (decision : Decision) (s : TrajectoryState) :
    Proc.Ensures anyOp (apply definition proposal request args decision) s
      (Carried proposal.toolName args decision.appliedOutcome s) := by
  unfold apply
  cases houtcome : decision.appliedOutcome with
  | guide =>
      exact ((guide_ensures proposal decision s).weaken fun _ _ _ => trivial).mono
        fun r s' h => .refused h
  | block =>
      exact ((block_ensures proposal decision s).weaken fun _ _ _ => trivial).mono
        fun r s' h => .refused h
  | escalate =>
      refine ((escalate_ensures proposal args decision s).weaken fun _ _ _ => trivial).mono ?_
      rintro r s' (⟨hstate, hraise⟩ | ⟨prepared, approvalId, h⟩)
      · exact .refused ⟨hstate, fun result hr => absurd hr (hraise result)⟩
      · exact .escalated rfl h
  | allow =>
      cases definition with
      | none => exact .refused ⟨rfl, by rintro result ⟨⟩; exact ⟨rfl, rfl⟩⟩
      | some tool =>
          refine (effect_ensures tool.effectClass proposal request args decision s).mono ?_
          rintro r s' (⟨hstate, hraise⟩ | ⟨value, h⟩)
          · exact .refused ⟨hstate, fun result hr => absurd hr (hraise result)⟩
          · exact .effected rfl h

/-! ## The approval a request shows -/

/-- The approval context of a call is the stored approval under the pending identifier,
with its expiry judged at a clock reading of this call. -/
def ShownApproval (host : Host) (s : TrajectoryState) (w : World)
    (approval : ApprovalContext) : Prop :=
  ∃ approvalId record tick, s.pendingApprovalId = some approvalId ∧
    w.store.approvals.get? approvalId = some record ∧ w.ticks s.traceId ≤ tick ∧
    approval = record.toContext (host.utcNow s.traceId tick)

theorem approvalContext_exec [Sha256] (loader : FixtureLoader) (host : Host)
    (s : TrajectoryState) (w : World) {approval : ApprovalContext}
    (h : (approvalContext.exec (World.handle loader host) s w).result = .ok (some approval)) :
    ShownApproval host s w approval := by
  unfold approvalContext at h
  rw [Proc.exec_bind_ok _ (Proc.exec_read _ s w)] at h
  split at h
  · cases h
  · rename_i approvalId hpending
    split at h
    · cases h
    · rw [Proc.exec_bind_ok _ (Proc.exec_perform _ s w _)] at h
      simp only [World.handle, MemoryTraceStore.getApproval] at h
      cases hstored : w.store.approvals.get? approvalId with
      | none =>
          rw [hstored] at h
          simp [PyError.isManifest] at h
      | some record =>
          rw [hstored] at h
          cases h
          exact ⟨approvalId, record, _, hpending, hstored, le_rfl, rfl⟩

theorem judge_approval [Sha256] (loader : FixtureLoader) (host : Host)
    {definition : Option ToolDefinition} {proposal : ToolProposal} {args : Kwargs}
    {request : PolicyRequest} {decision : Decision} {s s' : TrajectoryState} {w w' : World}
    (h : (g.judge definition proposal args).exec (World.handle loader host) s w =
      ⟨.ok (request, decision), s', w'⟩) {approval : ApprovalContext}
    (happroval : request.context.approval = some approval) : ShownApproval host s w approval := by
  unfold judge buildRequest at h
  have hframe := (approvalFor_ensures proposal.toolName s).exec (World.handle loader host) w
  simp only [Proc.exec_bind, Proc.exec_read, Proc.exec_ofExcept] at h
  cases hresource : g.resourceContext s proposal.toolName args with
  | error x => simp [hresource] at h
  | ok resource =>
      simp only [hresource] at h
      rcases hx : (approvalFor proposal.toolName).exec (World.handle loader host) s w
        with ⟨r, s₁, w₁⟩
      rw [hx] at h hframe
      cases r with
      | error x => simp at h
      | ok shown =>
          obtain rfl : s₁ = s := hframe
          have hshown : request.context.approval = shown := by
            simp only [Py.uuid4, Proc.exec_bind, Proc.exec_read, Proc.exec_perform,
              Proc.exec_pure, makeDecision, Py.utcNow] at h
            injection h with hresult
            injection hresult with hpair
            injection hpair with hrequest
            rw [← hrequest]
          rw [hshown] at happroval
          subst happroval
          unfold approvalFor at hx
          split at hx
          · exact approvalContext_exec loader host s₁ w (by rw [hx])
          · cases hx

end Governor

end Manifest
