import Manifest.Demo
import Manifest.Governor.Spec
import Manifest.Lib.Yields
import Manifest.Policy.PythonEngine

/-!
# The audit trail of a governed call

A call that returns has appended its attempt, its decision, the event that reports the
decision and one event for the applied outcome, all for one proposal and in this order.

Main results:

- Theorem `executeTool_trail`: the whole trail of a call, in every branch.
- Theorem `shadow_unregistered_trail`: a shadow run's call of an unregistered tool has no
  outcome event.
-/

set_option autoImplicit false

namespace Manifest

open Interaction

/-! ## Entries of the trail -/

/-- What the trail consists of: events and decisions handed to the repository, each with
whether it was kept, and handlers that raised. -/
inductive TrailEntry where
  | event (spec : EventSpec) (kept : Bool)
  | decision (decision : Decision) (kept : Bool)
  | raised

def isKept {α : Type} : Except PyError α → Bool
  | .ok _ => true
  | .error _ => false

/-- Appends and raising handlers. -/
def trailObserver {E : Type} : Observer Op E TrailEntry
  | _, .appendEvent _ spec, reply => [.event spec (isKept reply.1.1)]
  | _, .appendDecision _ decision, reply => [.decision decision (isKept reply.1.1)]
  | _, .callTool _ _, reply => if isKept reply.1 then [] else [.raised]
  | _, _, _ => []

/-- Effects that leave no entry. -/
def silentOp : (β : Type) → Op β → Prop
  | _, .appendEvent _ _ => False
  | _, .appendDecision _ _ => False
  | _, .callTool _ _ => False
  | _, _ => True

theorem readingOp.silent (β : Type) (o : Op β) (h : readingOp β o) : silentOp β o := by
  cases o <;> trivial

theorem trailObserver_silent {E : Type} (β : Type) (o : Op β) (reply : β × E)
    (ho : silentOp β o) : trailObserver β o reply = [] := by
  cases o with
  | appendEvent state spec => exact ho.elim
  | appendDecision state decision => exact ho.elim
  | callTool toolName args => exact ho.elim
  | _ => rfl

/-- The one event an applied outcome is reported by. -/
inductive Concludes (proposal : ToolProposal) (decision : Decision) : EventSpec → Prop where
  | guided (h : decision.appliedOutcome = .guide) :
      Concludes proposal decision (guidedSpec proposal decision)
  | blocked (h : decision.appliedOutcome = .block) :
      Concludes proposal decision (blockedSpec proposal decision)
  | escalated (h : decision.appliedOutcome = .escalate) (approval : ApprovalRecord) :
      Concludes proposal decision (approvalRequiredSpec proposal decision approval)
  | succeeded (h : decision.appliedOutcome = .allow) (value : ToolValue) :
      Concludes proposal decision (succeededSpec proposal value)

namespace Governor

/-- The attempt, the decision and the event that reports it, all kept. -/
def opening (proposal : ToolProposal) (decision : Decision) : List TrailEntry :=
  [.event (attemptedSpec proposal) true, .decision decision true,
    .event (decidedSpec decision) true]

/-! ## The trail of each stage -/

section Stages

variable (g : Governor) {E : Type} (h : Handler Op E) (s : TrajectoryState) (e : E)

theorem propose_trail (agent : AgentName) (toolName : String) (args : Kwargs) :
    Proc.Yields h trailObserver s e (g.propose agent toolName args) fun l x =>
      .raised ∉ l ∧ ∀ definition proposal, x.result = .ok (definition, proposal) →
        l = [.event (attemptedSpec proposal) true] := by
  simp only [propose, Proc.yields_bind, Proc.yields_read]
  split
  · simp
  · simp only [Proc.yields_bind, Proc.yields_mutate, Py.uuid4, Proc.yields_read,
      Proc.yields_perform, Py.appendEvent, Proc.yields_send, trailObserver, List.nil_append]
    split
    · rename_i a s' e' heq
      injection heq with hresult
      rw [Proc.yields_pure, hresult]
      refine ⟨by simp, ?_⟩
      rintro definition proposal ⟨⟩
      rfl
    · simp

theorem record_trail (decision : Decision) :
    Proc.Yields h trailObserver s e (record decision) fun l x =>
      .raised ∉ l ∧ (x.result = .ok () →
        l = [.decision decision true, .event (decidedSpec decision) true]) := by
  simp only [record, Proc.yields_bind, Py.appendDecision, Py.appendEvent, Proc.yields_send,
    trailObserver]
  cases (h _ (.appendDecision s decision) e).1.1 with
  | error x => simp [isKept]
  | ok u =>
      dsimp only
      cases (h _ (.appendEvent (s.withLedger (h _ (.appendDecision s decision) e).1.2)
        (decidedSpec decision)) (h _ (.appendDecision s decision) e).2).1.1 with
      | error x => simp [isKept]
      | ok event => simp [isKept]

/-- An append followed by an answer that carries the decision. -/
theorem answer_trail (spec : EventSpec) (result : GovernedToolResult) :
    Proc.Yields h trailObserver s e (Py.appendEvent spec >>= fun _ => pure result) fun l x =>
      .raised ∉ l ∧ ∀ r, x.result = .ok r → r = result ∧ l = [.event spec true] := by
  simp only [Proc.yields_bind, Py.appendEvent, Proc.yields_send, trailObserver]
  cases (h _ (.appendEvent s spec) e).1.1 with
  | error x => simp [isKept]
  | ok event =>
      refine ⟨by simp, ?_⟩
      rintro r ⟨⟩
      exact ⟨rfl, rfl⟩

theorem createApproval_trail (args : Kwargs) (decision : Decision) :
    Proc.Yields h trailObserver s e (createApproval args decision) fun l _ => l = [] := by
  have hsilent : Proc.Ensures silentOp (createApproval args decision) s fun _ _ => True := by
    simp only [createApproval, preparedAt, Proc.ensures_bind, Proc.ensures_read]
    cases s.preparedActions.get? (args.get "prepared_action_id").pyStr with
    | none => simp
    | some prepared =>
        simp only [Proc.ensures_pure, Proc.ensures_mutate, ensures_uuid4, ensures_utcNow,
          ensures_addApproval, silentOp, true_and]
        intro uuid now added ledger
        cases added <;> trivial
  exact (hsilent.yields trailObserver_silent).mono fun l x hl => hl.1

theorem escalate_trail (proposal : ToolProposal) (args : Kwargs) (decision : Decision) :
    Proc.Yields h trailObserver s e (escalate proposal args decision) fun l x =>
      .raised ∉ l ∧ ∀ r, x.result = .ok r → r.decision = decision ∧
        ∃ approval, l = [.event (approvalRequiredSpec proposal decision approval) true] := by
  unfold escalate
  refine (createApproval_trail h s e args decision).bind ?_ ?_
  · rintro l approval s' e' rfl
    refine (answer_trail h s' e' _ _).mono ?_
    rintro l x ⟨hraised, hok⟩
    refine ⟨hraised, fun r hr => ?_⟩
    obtain ⟨rfl, rfl⟩ := hok r hr
    exact ⟨rfl, approval, rfl⟩
  · rintro l x s' e' rfl
    simp

theorem reportFailure_trail {α : Type} (proposal : ToolProposal) (x : PyError) :
    Proc.Yields h trailObserver s e (reportFailure proposal x : Py α) fun l y =>
      ∃ message kept error, l = [.event (failedSpec proposal message) kept] ∧
        y.result = .error error := by
  unfold reportFailure
  split
  all_goals
    simp only [Proc.yields_bind, Py.appendEvent, Proc.yields_send, trailObserver]
    split
    · exact ⟨_, _, _, rfl, rfl⟩
    · exact ⟨_, _, _, rfl, rfl⟩

variable [Sha256]

/-- A tool leaves an entry only where its handler raises, and then it fails. -/
theorem executeWithDurableReceipt_trail (toolName : String) (effectClass : EffectClass)
    (args : Kwargs) :
    Proc.Yields h trailObserver s e (executeWithDurableReceipt toolName effectClass args)
      fun l x => l = [] ∨ l = [.raised] ∧ ∃ error, x.result = .error error := by
  have hcall : Proc.Yields h trailObserver s e (Proc.request (.callTool toolName args) : Py ToolValue)
      fun l x => l = [] ∨ l = [.raised] ∧ ∃ error, x.result = .error error := by
    simp only [Proc.yields_request, trailObserver]
    cases (h _ (.callTool toolName args) e).1 with
    | ok value => exact .inl rfl
    | error x => exact .inr ⟨rfl, x, rfl⟩
  unfold executeWithDurableReceipt
  split
  · exact hcall
  · rename_i key _ _
    simp only [executeOnce, Proc.yields_bind, Proc.yields_ofExcept]
    cases opaqueKeyHash key with
    | error x => exact .inl trivial
    | ok keyHash =>
        simp only [Proc.yields_read, Proc.yields_perform, trailObserver]
        cases (h _ (.getEffectReceipt s.traceId keyHash) e).1 with
        | some existing =>
            simp only
            split
            · exact .inl rfl
            · exact .inl rfl
        | none =>
            simp only [Proc.yields_bind, Proc.yields_request, trailObserver]
            cases (h _ (.callTool toolName args)
              (h _ (.getEffectReceipt s.traceId keyHash) e).2).1 with
            | error x => exact .inr ⟨rfl, x, rfl⟩
            | ok value =>
                cases value with
                | dict payload =>
                    simp only [Proc.yields_bind, Py.utcNow, Proc.yields_read,
                      Proc.yields_perform, Proc.yields_request, trailObserver]
                    split
                    · exact .inl rfl
                    · exact .inl rfl
                | _ => exact .inl rfl
  · exact hcall

theorem effect_trail (effectClass : EffectClass) (proposal : ToolProposal)
    (request : PolicyRequest) (args : Kwargs) (decision : Decision) :
    Proc.Yields h trailObserver s e (effect effectClass proposal request args decision) fun l x =>
      (∀ r, x.result = .ok r → r.decision = decision ∧
        ∃ value, l = [.event (succeededSpec proposal value) true]) ∧
      (.raised ∈ l → ∃ message kept error,
        l = [.raised, .event (failedSpec proposal message) kept] ∧ x.result = .error error) := by
  have hbody : Proc.Yields h trailObserver s e
      (Proc.tryCatch (executeWithDurableReceipt proposal.toolName effectClass args)
        (reportFailure proposal)) fun l x =>
      (∀ value, x.result = .ok value → l = []) ∧
        (.raised ∈ l → ∃ message kept error,
          l = [.raised, .event (failedSpec proposal message) kept] ∧ x.result = .error error) := by
    refine (executeWithDurableReceipt_trail h s e proposal.toolName effectClass args).tryCatch
      ?_ ?_
    · rintro l value s' e' (rfl | ⟨-, error, herror⟩)
      · simp
      · cases herror
    · intro l x s' e' hraised
      refine (reportFailure_trail h s' e' proposal x).mono ?_
      rintro l' y ⟨message, kept, error, rfl, hy⟩
      refine ⟨fun value hvalue => (by rw [hy] at hvalue; cases hvalue), fun hmem => ?_⟩
      rcases hraised with rfl | ⟨rfl, -⟩
      · simp at hmem
      · exact ⟨message, kept, error, rfl, hy⟩
  unfold effect
  refine hbody.bind ?_ ?_
  · rintro l value s' e' ⟨hl, -⟩
    obtain rfl := hl value rfl
    simp only [Proc.yields_bind, Py.appendEvent, Proc.yields_send, Proc.yields_lift,
      Proc.yields_mutate, trailObserver]
    cases (h _ (.appendEvent s' (succeededSpec proposal value)) e').1.1 with
    | error x => simp [isKept]
    | ok event =>
        dsimp only
        cases (applyEffect proposal.toolName args value
          (s'.withLedger (h _ (.appendEvent s' (succeededSpec proposal value)) e').1.2)).1 with
        | error x => simp [isKept]
        | ok u =>
            refine ⟨?_, by simp⟩
            rintro r ⟨⟩
            exact ⟨rfl, value, rfl⟩
  · rintro l x s' e' ⟨-, hraised⟩
    refine ⟨fun r hr => (by cases hr), fun hmem => ?_⟩
    obtain ⟨message, kept, error, hl, herror⟩ := hraised hmem
    exact ⟨message, kept, x, hl, rfl⟩

end Stages

/-! ## The trail of a call -/

/-- What is appended for the applied outcome of a call that returns, and what a raising
handler leaves. -/
structure Tailed (definition : Option ToolDefinition) (proposal : ToolProposal)
    (decision : Decision) {E : Type} (l : List TrailEntry)
    (x : Exit PyError TrajectoryState E GovernedToolResult) : Prop where
  of_ok : ∀ result, x.result = .ok result → result.decision = decision ∧
    if definition = none ∧ decision.appliedOutcome = .allow then l = []
    else ∃ spec, Concludes proposal decision spec ∧ l = [.event spec true]
  of_raised : .raised ∈ l → ∃ message kept error,
    l = [.raised, .event (failedSpec proposal message) kept] ∧ x.result = .error error

theorem apply_trail [Sha256] (definition : Option ToolDefinition) (proposal : ToolProposal)
    (request : PolicyRequest) (args : Kwargs) (decision : Decision) {E : Type} (h : Handler Op E)
    (s : TrajectoryState) (e : E) :
    Proc.Yields h trailObserver s e (apply definition proposal request args decision)
      (Tailed definition proposal decision) := by
  unfold apply
  cases houtcome : decision.appliedOutcome with
  | guide =>
      refine (answer_trail h s e _ _).mono fun l x hx => ⟨fun r hr => ?_, fun hmem => absurd hmem hx.1⟩
      obtain ⟨rfl, rfl⟩ := hx.2 r hr
      rw [if_neg (by simp [houtcome])]
      exact ⟨rfl, _, .guided houtcome, rfl⟩
  | block =>
      refine (answer_trail h s e _ _).mono fun l x hx => ⟨fun r hr => ?_, fun hmem => absurd hmem hx.1⟩
      obtain ⟨rfl, rfl⟩ := hx.2 r hr
      rw [if_neg (by simp [houtcome])]
      exact ⟨rfl, _, .blocked houtcome, rfl⟩
  | escalate =>
      refine (escalate_trail h s e proposal args decision).mono fun l x hx =>
        ⟨fun r hr => ?_, fun hmem => absurd hmem hx.1⟩
      obtain ⟨hdecision, approval, rfl⟩ := hx.2 r hr
      rw [if_neg (by simp [houtcome])]
      exact ⟨hdecision, _, .escalated houtcome approval, rfl⟩
  | allow =>
      cases definition with
      | none =>
          refine ⟨?_, by simp⟩
          rintro r ⟨⟩
          rw [if_pos ⟨rfl, houtcome⟩]
          exact ⟨rfl, rfl⟩
      | some tool =>
          refine (effect_trail h s e tool.effectClass proposal request args decision).mono
            fun l x hx => ⟨fun r hr => ?_, hx.2⟩
          obtain ⟨hdecision, value, rfl⟩ := hx.1 r hr
          rw [if_neg (by simp)]
          exact ⟨hdecision, _, .succeeded houtcome value, rfl⟩

/-- An unregistered tool is allowed exactly where nothing is enforced. -/
theorem unregistered_allow_iff (g : Governor) {args : Kwargs} {proposal : ToolProposal} {s : TrajectoryState} {request : PolicyRequest}
    {decision : Decision} (hjudged : g.Judged none proposal args s request decision) :
    decision.appliedOutcome = .allow ↔ s.mode ≠ .enforce := by
  have hblock : strongest (g.signalsFor none request s) = .block := rfl
  rw [hjudged.appliedOutcome_eq]
  unfold appliedOutcome
  by_cases hmode : s.mode = .enforce
  · simp [hmode, hblock]
  · simp [hmode]

/-- The audit trail of a call, for every state, agent, tool, engine and repository.

A call that returns has appended its attempt, one decision, the event reporting that
decision, and one event for the applied outcome, all of one proposal, in this order and
nothing else; only a shadow run's call of an unregistered tool has no event for an outcome.
A call whose handler raises ends with `TOOL_FAILED` in that place. -/
theorem executeTool_trail [Sha256] (g : Governor) {E : Type} (h : Handler Op E)
    (agent : AgentName) (toolName : String) (args : Kwargs) (s : TrajectoryState) (e : E) :
    let log := (g.executeTool agent toolName args).log h trailObserver s e
    let x := (g.executeTool agent toolName args).exec h s e
    (∀ result, x.result = .ok result → ∃ proposal, proposal.agent = agent ∧
      proposal.toolName = toolName ∧ result.decision.proposalId = proposal.proposalId ∧
      if getDefinition toolName = none ∧ s.mode ≠ .enforce then
        log = opening proposal result.decision
      else ∃ spec, Concludes proposal result.decision spec ∧
        log = opening proposal result.decision ++ [.event spec true]) ∧
    (.raised ∈ log → ∃ proposal decision message kept error, proposal.agent = agent ∧
      proposal.toolName = toolName ∧ decision.proposalId = proposal.proposalId ∧
      log = opening proposal decision ++ [.raised, .event (failedSpec proposal message) kept] ∧
      x.result = .error error) := by
  show Proc.Yields h trailObserver s e (g.executeTool agent toolName args) fun log x =>
    (∀ result, x.result = .ok result → ∃ proposal, proposal.agent = agent ∧
      proposal.toolName = toolName ∧ result.decision.proposalId = proposal.proposalId ∧
      if getDefinition toolName = none ∧ s.mode ≠ .enforce then
        log = opening proposal result.decision
      else ∃ spec, Concludes proposal result.decision spec ∧
        log = opening proposal result.decision ++ [.event spec true]) ∧
    (.raised ∈ log → ∃ proposal decision message kept error, proposal.agent = agent ∧
      proposal.toolName = toolName ∧ decision.proposalId = proposal.proposalId ∧
      log = opening proposal decision ++ [.raised, .event (failedSpec proposal message) kept] ∧
      x.result = .error error)
  unfold executeTool
  -- Each stage hands on what it recorded and what it says of its result.
  have hpropose : Proc.Yields h trailObserver s e (g.propose agent toolName args) fun l x =>
      (.raised ∉ l ∧ ∀ definition proposal, x.result = .ok (definition, proposal) →
        l = [.event (attemptedSpec proposal) true]) ∧
      x.state.business = s.business ∧ ∀ definition proposal,
        x.result = .ok (definition, proposal) → Proposed agent toolName definition proposal :=
    ⟨g.propose_trail h s e agent toolName args,
      (g.propose_ensures agent toolName args s).exec h e⟩
  refine hpropose.bind ?_ ?_
  swap
  · rintro l x s₁ e₁ ⟨⟨hraised, -⟩, -⟩
    exact ⟨fun result hr => (by cases hr), fun hmem => absurd hmem hraised⟩
  rintro l ⟨definition, proposal⟩ s₁ e₁ ⟨⟨-, hl⟩, hbusiness, hproposal⟩
  obtain rfl := hl definition proposal rfl
  have hproposed := hproposal definition proposal rfl
  have hjudge : Proc.Yields h trailObserver s₁ e₁ (g.judge definition proposal args) fun l x =>
      l = [] ∧ x.state = s₁ ∧ ∀ request decision, x.result = .ok (request, decision) →
        g.Judged definition proposal args s₁ request decision :=
    ((g.judge_ensures definition proposal args s₁).weaken readingOp.silent).yields
      trailObserver_silent
  refine hjudge.bind ?_ ?_
  swap
  · rintro l x s₂ e₂ ⟨rfl, -⟩
    exact ⟨fun result hr => (by cases hr), by simp⟩
  rintro l ⟨request, decision⟩ s₂ e₂ ⟨rfl, hstate, hverdict⟩
  obtain rfl : s₂ = s₁ := hstate
  have hjudged := hverdict request decision rfl
  refine (record_trail h s₂ e₂ decision).bind ?_ ?_
  swap
  · rintro l x s₃ e₃ ⟨hraised, -⟩
    refine ⟨fun result hr => (by cases hr), fun hmem => ?_⟩
    simp only [List.nil_append, List.mem_append, List.mem_singleton, reduceCtorEq, false_or]
      at hmem
    exact absurd hmem hraised
  rintro l u s₃ e₃ ⟨-, hl⟩
  obtain rfl := hl rfl
  refine (apply_trail definition proposal request args decision h s₃ e₃).mono fun l x hx => ?_
  refine ⟨fun result hr => ?_, fun hmem => ?_⟩
  · obtain ⟨rfl, htail⟩ := hx.of_ok result hr
    refine ⟨proposal, hproposed.agent_eq, hproposed.toolName_eq, hjudged.proposalId_eq, ?_⟩
    have hsilent : definition = none ∧ result.decision.appliedOutcome = .allow ↔
        getDefinition toolName = none ∧ s.mode ≠ .enforce := by
      rw [← hproposed.definition_eq, ← mode_of_business hbusiness]
      refine and_congr_right fun hnone => ?_
      subst hnone
      exact unregistered_allow_iff g hjudged
    by_cases hshadow : getDefinition toolName = none ∧ s.mode ≠ .enforce
    · rw [if_pos hshadow]
      rw [if_pos (hsilent.mpr hshadow)] at htail
      rw [htail]
      rfl
    · rw [if_neg hshadow]
      rw [if_neg fun h => hshadow (hsilent.mp h)] at htail
      obtain ⟨spec, hspec, rfl⟩ := htail
      exact ⟨spec, hspec, rfl⟩
  · have hmem' : .raised ∈ l := by simpa using hmem
    obtain ⟨message, kept, error, rfl, herror⟩ := hx.of_raised hmem'
    exact ⟨proposal, decision, message, kept, error, hproposed.agent_eq, hproposed.toolName_eq,
      hjudged.proposalId_eq, rfl, herror⟩

end Governor

/-! ## A call without an outcome event -/

/-- The type of an event of the trail. -/
def TrailEntry.eventType : TrailEntry → Option EventType
  | .event spec _ => some spec.eventType
  | _ => none

namespace Demo

/-- The trail of its call of a tool that does not exist. -/
def unregisteredTrail : List TrailEntry :=
  (Governor.executeTool ⟨pythonReferencePolicyEngine, loader, 30, 2⟩ .inventory
    "not_registered" []).log handle trailObserver shadowed (Py.createRun.exec handle shadowed {}).env

/-- The answer to that call. -/
def unregisteredAnswer : Except PyError GovernedToolResult :=
  ((Governor.executeTool ⟨pythonReferencePolicyEngine, loader, 30, 2⟩ .inventory
    "not_registered" []).exec handle shadowed (Py.createRun.exec handle shadowed {}).env).result

end Demo

/-- The call of a tool that does not exist returns in a shadow run, and none of its events
reports an outcome. -/
theorem shadow_unregistered_trail :
    isKept Demo.unregisteredAnswer = true ∧
      Demo.unregisteredTrail.filterMap TrailEntry.eventType = [.toolAttempted, .policyDecided] := by
  decide +kernel

end Manifest
