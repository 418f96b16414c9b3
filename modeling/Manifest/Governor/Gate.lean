import Manifest.Demo
import Manifest.Governor.Spec
import Manifest.Policy.PythonEngine

/-!
# The enforcement gate

In enforce mode nothing reaches a tool handler or a stored receipt before an
allowing decision and the event reporting it have been appended.  The results hold
for every engine and against every environment.

Main results:

- Theorem `decided_of_allow`: what an allowed call says about the engine's signals.
- Theorem `executeTool_gated`: handlers and receipts come after the recorded
  decision, and without them only an escalation's marking can change.
-/

set_option autoImplicit false

namespace Manifest

open Interaction

/-! ## What the gate is observed to do -/

/-- The effects that matter to the gate, as their replies report them. -/
inductive GateEvent where
  | decisionAppended (decision : Decision)
  | eventAppended (spec : EventSpec)
  | handlerInvoked (toolName : String) (args : Kwargs)
  | receiptFound (receipt : EffectReceipt)

/-- Handler invocations and stored receipts are what the gate guards. -/
def GateEvent.guarded : GateEvent → Prop
  | .handlerInvoked _ _ => True
  | .receiptFound _ => True
  | _ => False

/-- Record an event when a write succeeded. -/
def whenOk {α : Type} (event : GateEvent) : Except PyError α → List GateEvent
  | .ok _ => [event]
  | .error _ => []

/-- Successful appends, handler invocations and receipts found. -/
def gateObserver {E : Type} : Observer Op E GateEvent
  | _, .appendDecision _ decision, reply => whenOk (.decisionAppended decision) reply.1.1
  | _, .appendEvent _ spec, reply => whenOk (.eventAppended spec) reply.1.1
  | _, .callTool toolName args, _ => [.handlerInvoked toolName args]
  | _, .getEffectReceipt _ _, reply => (reply.1.map GateEvent.receiptFound).toList
  | _, _, _ => []

theorem mem_whenOk {α : Type} {event seen : GateEvent} {r : Except PyError α}
    (h : seen ∈ whenOk event r) : seen = event := by
  cases r with
  | ok a => exact List.mem_singleton.mp h
  | error x => cases h

/-- Effects outside adapters and receipts record nothing guarded. -/
theorem not_guarded_of_undecided {E : Type} (β : Type) (o : Op β) (reply : β × E)
    (ho : undecidedOp β o) : ∀ event ∈ gateObserver β o reply, ¬ event.guarded := by
  intro event hmem
  cases o with
  | appendDecision state decision => exact mem_whenOk hmem ▸ id
  | appendEvent state spec => exact mem_whenOk hmem ▸ id
  | callTool toolName args => exact ho.elim
  | getEffectReceipt traceId keyHash => exact ho.elim
  | _ => cases hmem

/-- Bookkeeping records nothing guarded. -/
theorem not_guarded_of_bookkeeping {E α : Type} {m : Py α} {s : TrajectoryState}
    {Q : Except PyError α → TrajectoryState → Prop} (hm : Proc.Ensures bookkeepingOp m s Q)
    (h : Handler Op E) (e : E) : ∀ event ∈ m.log h gateObserver s e, ¬ event.guarded :=
  hm.forall_log h (fun β o r ho => not_guarded_of_undecided β o r ho.undecided) e

namespace Governor

variable (g : Governor)

/-- What an allowing decision in enforce mode rests on: the tool is registered and the
engine returned signals that are all catalogued and all allow. -/
structure Cleared (toolName : String) (request : PolicyRequest) (s₁ : TrajectoryState)
    (signals : List PolicySignal) : Prop where
  registered : (getDefinition toolName).isSome = true
  returned : g.engine.evaluate request s₁ = .ok signals
  catalogued : ∀ item ∈ signals, item.reasonCode ∈ reasonCodes
  allowed : ∀ item ∈ signals, item.outcome = .allow

/-- In enforce mode the applied outcome allows only when the signals do. -/
theorem strongest_of_applied_allow {attempt : Nat} {signals : List PolicySignal}
    (h : g.appliedOutcome .enforce attempt signals = .allow) : strongest signals = .allow := by
  unfold appliedOutcome at h
  simp only [if_true] at h
  split at h
  · cases h
  · exact h

/-- The signals of an allowed call come from the engine. -/
theorem decided_of_allow {toolName : String} {request : PolicyRequest} {s₁ : TrajectoryState}
    {attempt : Nat}
    (h : g.appliedOutcome .enforce attempt
      (g.signalsFor (getDefinition toolName) request s₁) = .allow) :
    ∃ signals, g.Cleared toolName request s₁ signals ∧
      g.signalsFor (getDefinition toolName) request s₁ = signals := by
  have hall := (strongest_eq_allow_iff _).mp (g.strongest_of_applied_allow h)
  unfold signalsFor at hall ⊢
  cases hdefinition : getDefinition toolName with
  | none =>
      rw [hdefinition] at hall
      exact absurd (hall _ (List.mem_singleton.mpr rfl)) (by simp [unknownToolSignal])
  | some definition =>
      rw [hdefinition] at hall
      unfold failClosed at hall ⊢
      cases heval : g.engine.evaluate request s₁ with
      | error x =>
          rw [heval] at hall
          exact absurd (hall _ (List.mem_singleton.mpr rfl)) (by simp [engineFailureSignal])
      | ok signals =>
          simp only [heval] at hall ⊢
          by_cases hcat : Manifest.catalogued signals = true
          · rw [if_pos hcat] at hall ⊢
            refine ⟨signals, ⟨by rw [hdefinition]; rfl, heval, ?_, hall⟩, rfl⟩
            intro item hmem
            simpa using List.all_eq_true.mp hcat item hmem
          · rw [if_neg hcat] at hall
            exact absurd (hall _ (List.mem_singleton.mpr rfl)) (by simp [engineFailureSignal])

/-! ## The log of a governed call -/

section Log

variable {E : Type} (h : Handler Op E)

/-- A decision that is recorded leaves its append and its event, in this order. -/
theorem record_log {decision : Decision} {s s' : TrajectoryState} {e e' : E}
    (hok : (record decision).exec h s e = ⟨.ok (), s', e'⟩) :
    (record decision).log h gateObserver s e =
      [.decisionAppended decision, .eventAppended (decidedSpec decision)] := by
  unfold record at hok ⊢
  rw [Proc.exec_bind, Py.exec_appendDecision] at hok
  rw [Proc.log_bind, Py.log_appendDecision, Py.exec_appendDecision]
  cases hdecision : (h _ (.appendDecision s decision) e).1.1 with
  | error x => simp [hdecision] at hok
  | ok u =>
      simp only [hdecision] at hok ⊢
      rw [Proc.exec_bind, Py.exec_appendEvent] at hok
      rw [Proc.log_bind, Py.log_appendEvent, Py.exec_appendEvent]
      cases hevent : (h _ (.appendEvent
          (s.withLedger (h _ (.appendDecision s decision) e).1.2) (decidedSpec decision))
          (h _ (.appendDecision s decision) e).2).1.1 with
      | error x => simp [hevent] at hok
      | ok event => simp [gateObserver, hdecision, hevent, whenOk]

/-- Outside an allowed call nothing guarded is observed. -/
theorem apply_log_not_guarded {definition : Option ToolDefinition} {proposal : ToolProposal}
    {request : PolicyRequest} {decision : Decision} [Sha256] (args : Kwargs)
    (s : TrajectoryState) (e : E) (hne : decision.appliedOutcome ≠ .allow) :
    ∀ event ∈ (apply definition proposal request args decision).log h gateObserver s e,
      ¬ event.guarded := by
  unfold apply
  cases houtcome : decision.appliedOutcome with
  | allow => exact absurd houtcome hne
  | guide =>
      exact not_guarded_of_bookkeeping (guide_ensures proposal decision s) h e
  | block =>
      exact not_guarded_of_bookkeeping (block_ensures proposal decision s) h e
  | escalate =>
      exact (escalate_ensures proposal args decision s).forall_log h
        not_guarded_of_undecided e

/-- What the decision recorded before a guarded event rests on. -/
structure Opened (agent : AgentName) (toolName : String) (args : Kwargs)
    (s : TrajectoryState) (before : List GateEvent) : Prop where
  opened : ∃ s₁ request signals decision,
    g.Governed agent toolName args s s₁ request .allow ∧
    g.Cleared toolName request s₁ signals ∧
    decision.appliedOutcome = .allow ∧
    decision.reasons = (orDefaultAllow signals).1 :: (orDefaultAllow signals).2 ∧
    ∃ earlier middle, before =
      earlier ++ .decisionAppended decision :: .eventAppended (decidedSpec decision) :: middle

/-- Every guarded event of a governed call comes after its recorded decision. -/
theorem executeTool_opened [Sha256] (agent : AgentName) (toolName : String) (args : Kwargs)
    {s : TrajectoryState} (hmode : s.mode = .enforce) (e : E)
    {before after : List GateEvent} {event : GateEvent}
    (hlog : (g.executeTool agent toolName args).log h gateObserver s e =
      before ++ event :: after) (hevent : event.guarded) :
    g.Opened agent toolName args s before := by
  unfold executeTool at hlog
  obtain ⟨⟨definition, proposal⟩, s₁, e₁, middle₁, hx₁, rfl, hlog₁⟩ :=
    Proc.log_bind_split h gateObserver s e
      (not_guarded_of_bookkeeping (g.propose_ensures agent toolName args s) h e) hevent hlog
  obtain ⟨⟨request, decision⟩, s₂, e₂, middle₂, hx₂, rfl, hlog₂⟩ :=
    Proc.log_bind_split h gateObserver s₁ e₁
      (not_guarded_of_bookkeeping ((g.judge_ensures definition proposal args s₁).weaken
        readingOp.bookkeeping) h e₁) hevent hlog₁
  obtain ⟨u, s₃, e₃, middle₃, hx₃, rfl, hlog₃⟩ :=
    Proc.log_bind_split h gateObserver s₂ e₂
      (not_guarded_of_bookkeeping (record_ensures decision s₂) h e₂) hevent hlog₂
  have hproposed := (g.propose_ensures agent toolName args s).exec h e
  have hjudged := (g.judge_ensures definition proposal args s₁).exec h e₁
  rw [hx₁] at hproposed
  rw [hx₂] at hjudged
  obtain ⟨hbusiness, hproposed⟩ := hproposed
  obtain ⟨hstate, hjudged⟩ := hjudged
  have hproposed := hproposed _ _ rfl
  have hjudged := hjudged _ _ rfl
  have hallow : decision.appliedOutcome = .allow := by
    by_contra hne
    have hmem : event ∈ (apply definition proposal request args decision).log h gateObserver
        s₃ e₃ := by
      rw [hlog₃]
      simp
    exact apply_log_not_guarded h args s₃ e₃ hne event hmem hevent
  have hgoverned := Judged.governed g hproposed hbusiness hjudged
  rw [hallow] at hgoverned
  obtain ⟨attempt, houtcome⟩ := hgoverned.outcome_eq
  rw [hmode] at houtcome
  obtain ⟨signals, hcleared, hsignals⟩ := g.decided_of_allow houtcome.symm
  refine ⟨s₁, request, signals, decision, hgoverned, hcleared, hallow, ?_, ?_⟩
  · rw [hjudged.reasons_eq, hproposed.definition_eq, hsignals]
  · rw [record_log h hx₃]
    exact ⟨_, middle₃, by rw [← List.append_assoc]; rfl⟩

/-- A tool that returned a value was invoked, or its receipt was found. -/
theorem guarded_of_executed [Sha256] {toolName : String} {effectClass : EffectClass}
    {args : Kwargs} {s s' : TrajectoryState} {e e' : E} {value : ToolValue}
    (hok : (executeWithDurableReceipt toolName effectClass args).exec h s e =
      ⟨.ok value, s', e'⟩) :
    ∃ event ∈ (executeWithDurableReceipt toolName effectClass args).log h gateObserver s e,
      event.guarded := by
  unfold executeWithDurableReceipt at hok ⊢
  split at hok
  · exact ⟨.handlerInvoked toolName args, by simp [gateObserver], trivial⟩
  · rename_i key _ _
    unfold executeOnce at hok ⊢
    cases hkey : opaqueKeyHash key with
    | error x => simp [hkey, Proc.exec_bind] at hok
    | ok keyHash =>
        simp only [hkey, Proc.exec_bind, Proc.exec_ofExcept, Proc.exec_read,
          Proc.exec_perform] at hok
        simp only [Proc.log_bind, Proc.exec_ofExcept, Proc.log_ofExcept, Proc.log_read,
          Proc.exec_read, Proc.log_perform, Proc.exec_perform, List.nil_append]
        cases hfound : (h _ (.getEffectReceipt s.traceId keyHash) e).1 with
        | some receipt => exact ⟨.receiptFound receipt, by simp [gateObserver, hfound], trivial⟩
        | none =>
            refine ⟨.handlerInvoked toolName args, ?_, trivial⟩
            simp [gateObserver, Proc.log_bind]
  · exact ⟨.handlerInvoked toolName args, by simp [gateObserver], trivial⟩

/-- An effect that observes nothing guarded leaves the business fields alone. -/
theorem effect_unguarded [Sha256] (effectClass : EffectClass) (proposal : ToolProposal)
    (request : PolicyRequest) (args : Kwargs) (decision : Decision) (s : TrajectoryState) (e : E)
    (hlog : ∀ event ∈ (effect effectClass proposal request args decision).log h gateObserver
      s e, ¬ event.guarded) :
    ((effect effectClass proposal request args decision).exec h s e).state.business =
      s.business := by
  unfold effect at hlog ⊢
  rw [Proc.log_bind, Proc.log_tryCatch] at hlog
  rw [Proc.exec_bind, Proc.exec_tryCatch]
  have hsame := (executeWithDurableReceipt_ensures proposal.toolName effectClass args s).exec h e
  rcases hx : (executeWithDurableReceipt proposal.toolName effectClass args).exec h s e
    with ⟨r, s', e'⟩
  rw [hx] at hsame
  cases r with
  | ok value =>
      obtain ⟨event, hmem, hguarded⟩ := guarded_of_executed h hx
      exact absurd hguarded (hlog event (by simp [hmem]))
  | error x =>
      have hreport := (@reportFailure_ensures ToolValue proposal x s').exec h e'
      dsimp only
      rcases hy : (reportFailure proposal x : Py ToolValue).exec h s' e' with ⟨r, s'', e''⟩
      rw [hy] at hreport
      cases r with
      | ok value => exact absurd rfl (hreport.2 value)
      | error y => exact hreport.1.trans (congrArg _ hsame)

/-- The marking an unguarded call may leave. -/
def Unopened (agent : AgentName) (toolName : String) (args : Kwargs)
    (s s' : TrajectoryState) : Prop :=
  s'.business = s.business ∨
  ∃ s₁ request r prepared approvalId,
    g.Governed agent toolName args s s₁ request .escalate ∧
    Escalated (args.get "prepared_action_id").pyStr s r s' prepared approvalId

/-- Carrying out a decision without a guarded event. -/
theorem apply_unguarded [Sha256] {agent : AgentName} {toolName : String} {args : Kwargs}
    {definition : Option ToolDefinition} {proposal : ToolProposal} {s s₁ s₂ : TrajectoryState}
    {request : PolicyRequest} {decision : Decision} (e : E)
    (hproposed : Proposed agent toolName definition proposal)
    (hbusiness : s₁.business = s.business)
    (hjudged : g.Judged definition proposal args s₁ request decision)
    (hrecorded : s₂.business = s₁.business)
    (hlog : ∀ event ∈ (apply definition proposal request args decision).log h gateObserver
      s₂ e, ¬ event.guarded) :
    g.Unopened agent toolName args s
      ((apply definition proposal request args decision).exec h s₂ e).state := by
  have hsame : s₂.business = s.business := hrecorded.trans hbusiness
  have hgoverned := Judged.governed g hproposed hbusiness hjudged
  unfold apply at hlog ⊢
  cases houtcome : decision.appliedOutcome with
  | guide => exact .inl (((guide_ensures proposal decision s₂).exec h e).business_eq.trans hsame)
  | block => exact .inl (((block_ensures proposal decision s₂).exec h e).business_eq.trans hsame)
  | escalate =>
      rw [houtcome] at hgoverned
      rcases (escalate_ensures proposal args decision s₂).exec h e with
        ⟨hstate, -⟩ | ⟨prepared, approvalId, hescalated⟩
      · exact .inl (hstate.trans hsame)
      · exact .inr ⟨s₁, request, _, prepared, approvalId, hgoverned, hescalated.congr hsame⟩
  | allow =>
      rw [houtcome] at hlog
      cases definition with
      | none => exact .inl hsame
      | some tool =>
          exact .inl ((effect_unguarded h tool.effectClass proposal request args decision s₂ e
            hlog).trans hsame)

/-- Without a guarded event a call is refused, or marks an action as waiting. -/
theorem executeTool_unguarded [Sha256] (agent : AgentName) (toolName : String)
    (args : Kwargs) (s : TrajectoryState) (e : E)
    (hlog : ∀ event ∈ (g.executeTool agent toolName args).log h gateObserver s e,
      ¬ event.guarded) :
    g.Unopened agent toolName args s
      ((g.executeTool agent toolName args).exec h s e).state := by
  unfold executeTool at hlog ⊢
  have hpropose := (g.propose_ensures agent toolName args s).exec h e
  rw [Proc.exec_bind]
  rw [Proc.log_bind] at hlog
  rcases hx₁ : (g.propose agent toolName args).exec h s e with ⟨r₁, s₁, e₁⟩
  rw [hx₁] at hlog hpropose
  obtain ⟨hbusiness, hproposed⟩ := hpropose
  cases r₁ with
  | error x => exact .inl hbusiness
  | ok proposed =>
      obtain ⟨definition, proposal⟩ := proposed
      have hjudge := (g.judge_ensures definition proposal args s₁).exec h e₁
      dsimp only at hlog ⊢
      rw [Proc.exec_bind]
      rw [Proc.log_bind] at hlog
      rcases hx₂ : (g.judge definition proposal args).exec h s₁ e₁ with ⟨r₂, s₂, e₂⟩
      rw [hx₂] at hlog hjudge
      obtain ⟨hstate, hjudged⟩ := hjudge
      cases r₂ with
      | error x => exact .inl ((congrArg _ hstate).trans hbusiness)
      | ok judged =>
          obtain ⟨request, decision⟩ := judged
          have hrecorded := (record_ensures decision s₂).exec h e₂
          dsimp only at hlog ⊢ hstate
          rw [Proc.exec_bind]
          rw [Proc.log_bind] at hlog
          rcases hx₃ : (record decision).exec h s₂ e₂ with ⟨r₃, s₃, e₃⟩
          rw [hx₃] at hlog hrecorded
          subst hstate
          cases r₃ with
          | error x => exact .inl (hrecorded.trans hbusiness)
          | ok u =>
              refine g.apply_unguarded h e₃ (hproposed _ _ rfl) hbusiness (hjudged _ _ rfl)
                hrecorded fun event hmem => hlog event ?_
              simp [hmem]

end Log

end Governor

end Manifest
