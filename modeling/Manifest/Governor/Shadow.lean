import Manifest.Cedar.Engine
import Manifest.Demo
import Manifest.Governor.Applied
import Manifest.Governor.Twin
import Manifest.Policy.PythonEngine

/-!
# Shadow mode only observes

Two runs of one state in shadow mode, under any two policy engines, stay in lockstep.

Main results:

- Theorem `executeTool_twin`: one call keeps two runs twins.
- Theorem `shadow_observes`: so does any sequence of calls.
-/

set_option autoImplicit false

namespace Manifest

open Interaction

/-! ## One governed call -/

/-- The handlers a run invokes, with their arguments. -/
def handlerObserver : Observer Op World (String × Kwargs)
  | _, .callTool toolName args, _ => [(toolName, args)]
  | _, _, _ => []

/-- Twins of one trace whose next proposal was drawn at tick `n` and is not decided yet. -/
structure Drawn (host : Host) (approvals : Dict String ApprovalRecord) (traceId : String) (n : Nat)
    (s : TrajectoryState) (w : World) (s' : TrajectoryState) (w' : World) : Prop where
  twin : Twin host approvals s w s' w'
  traceId_eq : s.traceId = traceId
  drawn : n < w.ticks traceId
  unused : ∀ other, w.store.eventReplays.get?
    (other, decisionKey ("PROP-" ++ host.uuid4 traceId n)) = none

theorem Drawn.tick {host : Host} {approvals : Dict String ApprovalRecord} {traceId : String}
    {n : Nat} {s s' : TrajectoryState} {w w' : World}
    (h : Drawn host approvals traceId n s w s' w') (scope : String) :
    Drawn host approvals traceId n s (w.tick scope) s' (w'.tick scope) :=
  ⟨h.twin.tick scope, h.traceId_eq,
    lt_of_lt_of_le h.drawn (World.ticks_le_tick w scope traceId), h.unused⟩

namespace Governor

variable [Sha256] (g : Governor) (engine engine' : PolicyEngine) {loader : FixtureLoader}
  {host : Host} {approvals : Dict String ApprovalRecord}

/-- Two runs of one procedure, or of two that differ in what the engines said. -/
abbrev Follows {α β : Type} (loader : FixtureLoader) (host : Host)
    (R R' Rₑ : TrajectoryState → World → TrajectoryState → World → Prop) (V : α → β → Prop)
    (m : Py α) (m' : Py β) : Prop :=
  Proc.Agree (World.handle loader host) handlerObserver R R' Rₑ V m m'

/-- Drawing an identifier. -/
theorem follows_uuid4 {R : TrajectoryState → World → TrajectoryState → World → Prop}
    (hR : ∀ s w s' w', R s w s' w' → Twin host approvals s w s' w' ∧
      R s (w.tick s.traceId) s' (w'.tick s.traceId))
    {Rₑ : TrajectoryState → World → TrajectoryState → World → Prop} :
    Follows loader host R R Rₑ (fun a b => a = b) Py.uuid4 Py.uuid4 := by
  intro s w s' w' hrel
  obtain ⟨htwin, htick⟩ := hR s w s' w' hrel
  refine ⟨rfl, ?_⟩
  have hexec (t : TrajectoryState) (v : World) : Py.uuid4.exec (World.handle loader host) t v =
      ⟨.ok (host.uuid4 t.traceId (v.ticks t.traceId)), t, v.tick t.traceId⟩ := rfl
  rw [hexec, hexec, htwin.traceId_eq, htwin.ticks_eq]
  exact .ok rfl htick

theorem follows_utcNow {R : TrajectoryState → World → TrajectoryState → World → Prop}
    (hR : ∀ s w s' w', R s w s' w' → Twin host approvals s w s' w' ∧
      R s (w.tick s.traceId) s' (w'.tick s.traceId))
    {Rₑ : TrajectoryState → World → TrajectoryState → World → Prop} :
    Follows loader host R R Rₑ (fun a b => a = b) Py.utcNow Py.utcNow := by
  intro s w s' w' hrel
  obtain ⟨htwin, htick⟩ := hR s w s' w' hrel
  refine ⟨rfl, ?_⟩
  have hexec (t : TrajectoryState) (v : World) : Py.utcNow.exec (World.handle loader host) t v =
      ⟨.ok (host.utcNow t.traceId (v.ticks t.traceId)), t, v.tick t.traceId⟩ := rfl
  rw [hexec, hexec, htwin.traceId_eq, htwin.ticks_eq]
  exact .ok rfl htick

/-- Appending one event under a key that reports no decision. -/
theorem follows_appendEvent {spec : EventSpec}
    (plain : ∀ key, spec.idempotencyKey = some key → ∀ p, key ≠ decisionKey p) :
    Follows loader host (Twin host approvals) (Twin host approvals) (Twin host approvals)
      (fun _ _ => True) (Py.appendEvent spec) (Py.appendEvent spec) :=
  .send fun _ _ _ _ htwin => ⟨rfl, htwin.appendEvent loader (.same rfl plain)⟩

/-- Two engines behind one governor. -/
def withEngine (g : Governor) (engine : PolicyEngine) : Governor :=
  { g with engine := engine }

/-- What both runs read outside the ledger. -/
theorem follows_read {R Rₑ : TrajectoryState → World → TrajectoryState → World → Prop}
    (hR : ∀ s w s' w', R s w s' w' → Twin host approvals s w s' w') :
    Follows loader host R R Rₑ
      (fun s s' => s.mode ≠ .enforce ∧ ∃ ledger, s' = s.withLedger ledger) Proc.read Proc.read :=
  .read fun s w s' w' hrel => ⟨(hR s w s' w' hrel).mode_ne, (hR s w s' w' hrel).outside_eq⟩

theorem follows_approvalContext {traceId : String} {n : Nat} :
    Follows loader host (Drawn host approvals traceId n) (Drawn host approvals traceId n)
      (Twin host approvals) (fun a b => a = b) approvalContext approvalContext := by
  unfold approvalContext
  refine .bind (follows_read fun s w s' w' h => h.twin) ?_
  rintro s _ ⟨-, ledger, rfl⟩
  have hpending : (s.withLedger ledger).pendingApprovalId = s.pendingApprovalId := rfl
  simp only [hpending]
  cases s.pendingApprovalId with
  | none => exact .pure rfl
  | some approvalId =>
      dsimp only
      split
      · exact .pure rfl
      · have hlookup : Follows loader host (Drawn host approvals traceId n)
            (Drawn host approvals traceId n) (Twin host approvals) (fun a b => a = b)
            (Proc.perform (.getApproval approvalId) : Py (Except PyError ApprovalRecord))
            (Proc.perform (.getApproval approvalId)) := by
          refine .perform fun s w s' w' h => ⟨rfl, h, ?_⟩
          simp only [World.handle, MemoryTraceStore.getApproval, h.twin.approvals_eq,
            h.twin.approvals_eq']
        refine .bind hlookup ?_
        · rintro reply _ rfl
          cases reply with
          | ok approval =>
              refine .bind (follows_utcNow fun s w s' w' h => ⟨h.twin, h.tick s.traceId⟩) ?_
              rintro now _ rfl
              exact .pure rfl
          | error x =>
              dsimp only
              split
              · exact .pure rfl
              · exact (Proc.Agree.raise x).mono (fun _ _ _ _ h => h) (fun _ _ _ _ h => h.twin)
                  fun _ _ h => h

/-- What two runs' decisions share. -/
structure Decided (proposal : ToolProposal) (decision decision' : Decision) : Prop where
  id_eq : decision'.decisionId = decision.decisionId
  proposalId_eq : decision.proposalId = proposal.proposalId
  proposalId_eq' : decision'.proposalId = proposal.proposalId
  applied_eq : decision.appliedOutcome = .allow
  applied_eq' : decision'.appliedOutcome = .allow

/-- Both runs build one request, and neither decision is enforced. -/
theorem follows_judge (definition : Option ToolDefinition) (proposal : ToolProposal)
    (args : Kwargs) {traceId : String} {n : Nat} :
    Follows loader host (Drawn host approvals traceId n) (Drawn host approvals traceId n)
      (Twin host approvals) (fun a b => a.1 = b.1 ∧ Decided proposal a.2 b.2)
      ((g.withEngine engine).judge definition proposal args)
      ((g.withEngine engine').judge definition proposal args) := by
  have hread : Follows loader host (Drawn host approvals traceId n)
      (Drawn host approvals traceId n) (Twin host approvals)
      (fun s s' => s.mode ≠ .enforce ∧ ∃ ledger, s' = s.withLedger ledger) Proc.read Proc.read :=
    follows_read fun s w s' w' h => h.twin
  have huuid : Follows loader host (Drawn host approvals traceId n)
      (Drawn host approvals traceId n) (Twin host approvals) (fun a b => a = b)
      Py.uuid4 Py.uuid4 :=
    follows_uuid4 fun s w s' w' h => ⟨h.twin, h.tick s.traceId⟩
  have hshown : Follows loader host (Drawn host approvals traceId n)
      (Drawn host approvals traceId n) (Twin host approvals) (fun a b => a = b)
      (approvalFor proposal.toolName) (approvalFor proposal.toolName) := by
    unfold approvalFor
    split
    · exact follows_approvalContext
    · exact .pure rfl
  have hrequest : Follows loader host (Drawn host approvals traceId n)
      (Drawn host approvals traceId n) (Twin host approvals) (fun a b => a = b)
      ((g.withEngine engine).buildRequest definition proposal args)
      ((g.withEngine engine').buildRequest definition proposal args) := by
    unfold buildRequest
    refine .bind hread ?_
    rintro s _ ⟨-, ledger, rfl⟩
    refine .bind (.ofExcept fun _ _ _ _ h => h.twin) ?_
    rintro resource _ rfl
    refine .bind hshown ?_
    rintro approval _ rfl
    refine .bind huuid ?_
    rintro uuid _ rfl
    exact .pure rfl
  have hdecision (request : PolicyRequest) (signals signals' : List PolicySignal) :
      Follows loader host (Drawn host approvals traceId n) (Drawn host approvals traceId n)
        (Twin host approvals) (Decided proposal)
        ((g.withEngine engine).makeDecision proposal request signals)
        ((g.withEngine engine').makeDecision proposal request signals') := by
    unfold makeDecision
    refine .bind hread ?_
    rintro s _ ⟨hmode, ledger, rfl⟩
    have helapsed : Follows loader host (Drawn host approvals traceId n)
        (Drawn host approvals traceId n) (Twin host approvals) (fun a b => a = b)
        (Proc.perform (.elapsedMs s.traceId) : Py PyFloat)
        (Proc.perform (.elapsedMs s.traceId)) := by
      refine .perform fun t w t' w' h => ⟨rfl, h.tick s.traceId, ?_⟩
      show host.elapsedMs s.traceId (w.ticks s.traceId) =
        host.elapsedMs s.traceId (w'.ticks s.traceId)
      rw [h.twin.ticks_eq]
    refine .bind helapsed ?_
    rintro elapsed _ rfl
    refine .bind huuid ?_
    rintro uuid _ rfl
    refine .bind (follows_utcNow fun s w s' w' h => ⟨h.twin, h.tick s.traceId⟩) ?_
    rintro now _ rfl
    have hmode' : (s.withLedger ledger).mode ≠ .enforce := hmode
    refine .pure ⟨rfl, rfl, rfl, ?_, ?_⟩
    · exact if_neg (by simpa using hmode)
    · exact if_neg (by simpa using hmode')
  unfold judge
  refine .bind hrequest ?_
  rintro request _ rfl
  refine .bind hread ?_
  rintro s _ ⟨-, ledger, rfl⟩
  refine .bind (hdecision request _ _) ?_
  intro decision decision' hdecided
  have hlimit (e : PolicyEngine) (d : Decision) (hd : d.appliedOutcome = .allow) :
      (g.withEngine e).limitRetries proposal d = d := by
    unfold limitRetries
    rw [if_neg (by simp [hd])]
  rw [hlimit engine decision hdecided.applied_eq, hlimit engine' decision' hdecided.applied_eq']
  exact .pure ⟨rfl, hdecided⟩

/-- Twins about to draw a proposal's identifier. -/
structure Starting (host : Host) (approvals : Dict String ApprovalRecord) (traceId : String)
    (n : Nat) (s : TrajectoryState) (w : World) (s' : TrajectoryState) (w' : World) : Prop where
  twin : Twin host approvals s w s' w'
  traceId_eq : s.traceId = traceId
  ticks_eq : w.ticks traceId = n

/-- An append leaves the replays under other keys alone. -/
theorem appendEvent_replays (loader : FixtureLoader) (host : Host) (s : TrajectoryState)
    (spec : EventSpec) (w : World) {traceId key : String}
    (hkey : ∀ used, spec.idempotencyKey = some used → key ≠ used) :
    (World.handle loader host _ (.appendEvent s spec) w).2.store.eventReplays.get?
        (traceId, key) = w.store.eventReplays.get? (traceId, key) := by
  simp only [World.handle, World.written]
  rcases MemoryTraceStore.appendEvent_cases w.store s spec
    (host.utcNow s.traceId (w.ticks s.traceId))
    ("EVT-" ++ host.uuid4 s.traceId (w.ticks s.traceId)) with
    ⟨x, heq⟩ | ⟨event, -, heq⟩ | ⟨stored, head, -, -, -, heq⟩
  · rw [heq]
  · rw [heq]
  · rw [heq]
    simp only [MemoryTraceStore.commitEvent, MemoryTraceStore.persistState]
    cases hused : spec.idempotencyKey with
    | none => rfl
    | some used =>
        refine Dict.get?_set_ne _ _ ?_
        intro hpair
        exact hkey used hused (Prod.mk.inj hpair).2

omit [Sha256] in
theorem attempted_plain (proposal : ToolProposal) (key : String)
    (hkey : (attemptedSpec proposal).idempotencyKey = some key) (p : String) :
    key ≠ decisionKey p := by
  obtain rfl := Option.some.inj hkey
  exact ne_decisionKey (by decide) p

omit [Sha256] in
theorem succeeded_plain (proposal : ToolProposal) (value : ToolValue) (key : String)
    (hkey : (succeededSpec proposal value).idempotencyKey = some key) (p : String) :
    key ≠ decisionKey p := by
  obtain rfl := Option.some.inj hkey
  exact ne_decisionKey (by decide) p

omit [Sha256] in
theorem failed_plain (proposal : ToolProposal) (message : String) (key : String)
    (hkey : (failedSpec proposal message).idempotencyKey = some key) (p : String) :
    key ≠ decisionKey p := by
  obtain rfl := Option.some.inj hkey
  exact ne_decisionKey (by decide) p

/-- An append under a key that reports no decision leaves the next decision's key unused. -/
theorem follows_appendEvent_drawn {traceId : String} {n : Nat} {spec : EventSpec}
    (plain : ∀ key, spec.idempotencyKey = some key → ∀ p, key ≠ decisionKey p) :
    Follows loader host (Drawn host approvals traceId n) (Drawn host approvals traceId n)
      (Twin host approvals) (fun _ _ => True) (Py.appendEvent spec) (Py.appendEvent spec) := by
  refine .send fun s w s' w' h => ⟨rfl, ?_⟩
  have hunused (other : String) :
      (World.handle loader host _ (.appendEvent s spec) w).2.store.eventReplays.get?
        (other, decisionKey ("PROP-" ++ host.uuid4 traceId n)) = none := by
    rw [appendEvent_replays loader host s spec w fun used hused heq => plain used hused _ heq.symm]
    exact h.unused other
  have hticks : w.ticks traceId ≤
      (World.handle loader host _ (.appendEvent s spec) w).2.ticks traceId :=
    World.ticks_le_tick w s.traceId traceId
  refine ((h.twin.appendEvent loader (.same rfl plain)).and (P := fun t v _ _ =>
    t.traceId = traceId ∧ n < v.ticks traceId ∧ ∀ other, v.store.eventReplays.get?
      (other, decisionKey ("PROP-" ++ host.uuid4 traceId n)) = none)
    ⟨h.traceId_eq, lt_of_lt_of_le h.drawn hticks, hunused⟩).mono ?_ (fun _ _ _ _ h => h)
      fun _ _ h => h
  rintro t v t' v' ⟨htwin, htrace, hdrawn, hnone⟩
  exact ⟨htwin, htrace, hdrawn, hnone⟩

/-- Both runs propose the same, under a fresh identifier. -/
theorem follows_propose (agent : AgentName) (toolName : String) (args : Kwargs)
    {traceId : String} {n : Nat} :
    Follows loader host (Starting host approvals traceId n) (Drawn host approvals traceId n)
      (Twin host approvals)
      (fun a b => a = b ∧ a.2.proposalId = "PROP-" ++ host.uuid4 traceId n)
      ((g.withEngine engine).propose agent toolName args)
      ((g.withEngine engine').propose agent toolName args) := by
  unfold propose
  refine .bind (follows_read fun s w s' w' h => h.twin) ?_
  rintro s _ ⟨-, ledger, rfl⟩
  have hlimit (e : PolicyEngine) : (g.withEngine e).maxToolCalls = g.maxToolCalls := rfl
  have hcount : (s.withLedger ledger).toolCallCount = s.toolCallCount := rfl
  simp only [hlimit, hcount]
  split
  · exact (Proc.Agree.raise _).mono (fun _ _ _ _ h => h) (fun _ _ _ _ h => h.twin) fun _ _ h => h
  · have hmutate : Follows loader host (Starting host approvals traceId n)
        (Starting host approvals traceId n) (Twin host approvals) (fun _ _ => True)
        (Proc.mutate (·.countAttempt toolName)) (Proc.mutate (·.countAttempt toolName)) := by
      refine .mutate fun t w t' w' h => ⟨h.twin.move ?_ rfl rfl rfl, h.traceId_eq, h.ticks_eq⟩
      obtain ⟨l, rfl⟩ := h.twin.outside_eq
      exact ⟨l, rfl⟩
    have huuid : Follows loader host (Starting host approvals traceId n)
        (Drawn host approvals traceId n) (Twin host approvals)
        (fun a b => a = b ∧ a = host.uuid4 traceId n) Py.uuid4 Py.uuid4 := by
      intro t w t' w' h
      refine ⟨rfl, ?_⟩
      have hexec (t : TrajectoryState) (v : World) :
          Py.uuid4.exec (World.handle loader host) t v =
            ⟨.ok (host.uuid4 t.traceId (v.ticks t.traceId)), t, v.tick t.traceId⟩ := rfl
      obtain ⟨htwin, rfl, rfl⟩ := h
      rw [hexec, hexec, htwin.traceId_eq, htwin.ticks_eq]
      refine .ok ⟨rfl, rfl⟩ ⟨htwin.tick t.traceId, rfl, ?_, fun other => ?_⟩
      · simp [World.tick]
      · -- A used key was drawn at an earlier tick.
        by_contra hused
        exact absurd (htwin.drawn other _ hused t.traceId _ rfl) (lt_irrefl _)
    refine .bind hmutate fun _ _ _ => .bind huuid ?_
    rintro uuid _ ⟨rfl, huuid⟩
    refine .bind (follows_appendEvent_drawn (attempted_plain _)) fun _ _ _ => ?_
    exact .pure ⟨rfl, by rw [huuid]⟩

/-- Both runs record their decisions on one proposal. -/
theorem follows_record {proposal : ToolProposal} {decision decision' : Decision}
    (hd : Decided proposal decision decision') {traceId : String} {n : Nat}
    (hproposal : proposal.proposalId = "PROP-" ++ host.uuid4 traceId n) :
    Follows loader host (Drawn host approvals traceId n) (Twin host approvals)
      (Twin host approvals) (fun _ _ => True) (record decision) (record decision') := by
  have hdecision : Follows loader host (Drawn host approvals traceId n)
      (Drawn host approvals traceId n) (Twin host approvals) (fun _ _ => True)
      (Py.appendDecision decision) (Py.appendDecision decision') := by
    refine .send fun s w s' w' h => ⟨rfl, ?_⟩
    have hkept := World.kept_handle loader host _ (.appendDecision s decision) w trivial
    have hreplays : (World.handle loader host _ (.appendDecision s decision) w).2.store.eventReplays
        = w.store.eventReplays := by
      simp only [World.handle, World.written]
      rcases MemoryTraceStore.appendDecision_cases w.store s decision with
        ⟨x, heq⟩ | ⟨stored, -, -, heq⟩ <;> rw [heq]
    refine ((h.twin.appendDecision loader hd.id_eq).and (P := fun t v _ _ =>
      t.traceId = traceId ∧ n < v.ticks traceId ∧ ∀ other, v.store.eventReplays.get?
        (other, decisionKey ("PROP-" ++ host.uuid4 traceId n)) = none)
      ⟨h.traceId_eq, lt_of_lt_of_le h.drawn (hkept.ticks_le traceId), ?_⟩).mono ?_
      (fun _ _ _ _ h => h) fun _ _ h => h
    · intro other
      rw [hreplays]
      exact h.unused other
    · rintro t v t' v' ⟨htwin, htrace, hdrawn, hnone⟩
      exact ⟨htwin, htrace, hdrawn, hnone⟩
  have hevent : Follows loader host (Drawn host approvals traceId n) (Twin host approvals)
      (Twin host approvals) (fun _ _ => True) (Py.appendEvent (decidedSpec decision))
      (Py.appendEvent (decidedSpec decision')) := by
    have hkey (d : Decision) (h : d.proposalId = proposal.proposalId) :
        (decidedSpec d).idempotencyKey =
          some (decisionKey ("PROP-" ++ host.uuid4 traceId n)) := by
      rw [← hproposal, ← h]
      rfl
    refine .send fun s w s' w' h => ⟨rfl, h.twin.appendEvent loader ?_⟩
    exact .decided traceId n (hkey decision hd.proposalId_eq) (hkey decision' hd.proposalId_eq')
      h.drawn (h.unused s.traceId)
  unfold record
  exact .bind hdecision fun _ _ _ => .bind hevent fun _ _ _ => .pure trivial

/-! ### The effect -/

/-- Both runs invoke a handler with the same arguments. -/
theorem follows_callTool (toolName : String) (args : Kwargs) :
    Follows loader host (Twin host approvals) (Twin host approvals) (Twin host approvals)
      (fun a b => a = b) (Proc.request (.callTool toolName args))
      (Proc.request (.callTool toolName args)) := by
  refine .request fun s w s' w' h => ⟨rfl, ?_⟩
  simp only [World.handle, h.mocks_eq]
  have hend : Twin host approvals s
      { w with mocks := (MockLogisticsTools.execute loader toolName args w.mocks).2 } s'
      { w' with mocks := (MockLogisticsTools.execute loader toolName args w.mocks).2 } :=
    { h with mocks_eq := rfl }
  cases (MockLogisticsTools.execute loader toolName args w.mocks).1 with
  | ok value => exact .ok rfl hend
  | error x => exact .error x hend

/-- Both runs store the same receipt. -/
theorem follows_putEffectReceipt (receipt : EffectReceipt) :
    Follows loader host (Twin host approvals) (Twin host approvals) (Twin host approvals)
      (fun a b => a = b) (Proc.request (.putEffectReceipt receipt))
      (Proc.request (.putEffectReceipt receipt)) := by
  refine .request fun s w s' w' h => ⟨rfl, ?_⟩
  simp only [World.handle]
  unfold MemoryTraceStore.putEffectReceipt
  rw [h.receipts_eq, h.contains_eq]
  cases w.store.effectReceipts.get? (receipt.traceId, receipt.keyHash) with
  | some existing =>
      dsimp only
      split
      · exact .error _ h
      · exact .ok rfl h
  | none =>
      dsimp only
      split
      · exact .error _ h
      · exact .ok rfl { h with receipts_eq := rfl }

theorem follows_executeOnce (toolName : String) (args : Kwargs) (key : String) :
    Follows loader host (Twin host approvals) (Twin host approvals) (Twin host approvals)
      (fun a b => a = b) (executeOnce toolName args key) (executeOnce toolName args key) := by
  unfold executeOnce
  refine .bind (.ofExcept fun _ _ _ _ h => h) ?_
  rintro keyHash _ rfl
  refine .bind (follows_read fun s w s' w' h => h) ?_
  rintro s _ ⟨-, ledger, rfl⟩
  have hfound : Follows loader host (Twin host approvals) (Twin host approvals)
      (Twin host approvals) (fun a b => a = b)
      (Proc.perform (.getEffectReceipt s.traceId keyHash) : Py (Option EffectReceipt))
      (Proc.perform (.getEffectReceipt s.traceId keyHash)) := by
    refine .perform fun t w t' w' h => ⟨rfl, h, ?_⟩
    simp only [World.handle, MemoryTraceStore.getEffectReceipt, h.receipts_eq]
  refine .bind hfound ?_
  rintro found _ rfl
  cases found with
  | some existing =>
      dsimp only
      split
      · exact .raise _
      · exact .pure rfl
  | none =>
      refine .bind (follows_callTool toolName args) ?_
      rintro value _ rfl
      cases value with
      | dict payload =>
          refine .bind (follows_utcNow fun s w s' w' h => ⟨h, h.tick s.traceId⟩) ?_
          rintro now _ rfl
          refine .bind (follows_putEffectReceipt _) ?_
          rintro stored _ rfl
          exact .pure rfl
      | order o => exact .raise _
      | fact f => exact .raise _
      | vehicles vs => exact .raise _
      | quotes qs => exact .raise _

theorem follows_executeWithDurableReceipt (toolName : String) (effectClass : EffectClass)
    (args : Kwargs) :
    Follows loader host (Twin host approvals) (Twin host approvals) (Twin host approvals)
      (fun a b => a = b) (executeWithDurableReceipt toolName effectClass args)
      (executeWithDurableReceipt toolName effectClass args) := by
  unfold executeWithDurableReceipt
  split
  · exact follows_callTool toolName args
  · exact follows_executeOnce toolName args _
  · exact follows_callTool toolName args

theorem follows_reportFailure {α : Type} (proposal : ToolProposal) (x : PyError)
    {V : α → α → Prop} :
    Follows loader host (Twin host approvals) (Twin host approvals) (Twin host approvals) V
      (reportFailure proposal x) (reportFailure proposal x) := by
  unfold reportFailure
  split
  · exact .bind (follows_appendEvent (failed_plain proposal _)) fun _ _ _ => .raise _
  · exact .bind (follows_appendEvent (failed_plain proposal _)) fun _ _ _ => .raise _

omit [Sha256] in
theorem setPreparedStatus_withLedger (s : TrajectoryState) (preparedId : String)
    (status : CommitmentStatus) (ledger : LedgerFields) :
    (s.withLedger ledger).setPreparedStatus preparedId status =
      (s.setPreparedStatus preparedId status).withLedger ledger := by
  unfold TrajectoryState.setPreparedStatus
  have hprepared : (s.withLedger ledger).preparedActions = s.preparedActions := rfl
  rw [hprepared]
  cases s.preparedActions.get? preparedId with
  | none => rfl
  | some prepared => rfl

omit [Sha256] in
theorem namedPrepared_withLedger (args : Kwargs) (s : TrajectoryState) (ledger : LedgerFields) :
    namedPrepared args (s.withLedger ledger) = namedPrepared args s :=
  rfl

omit [Sha256] in
/-- Carrying out an effect does not look at the ledger. -/
theorem applyEffect_withLedger (toolName : String) (args : Kwargs) (value : ToolValue)
    (s : TrajectoryState) (ledger : LedgerFields) :
    applyEffect toolName args value (s.withLedger ledger) =
      ((applyEffect toolName args value s).1,
        (applyEffect toolName args value s).2.withLedger ledger) := by
  have hreserved : (s.withLedger ledger).spendReservedMinor = s.spendReservedMinor := rfl
  unfold applyEffect
  split
  · unfold applyConfirmation
    rw [namedPrepared_withLedger]
    cases namedPrepared args s with
    | error x => rfl
    | ok found =>
        dsimp only
        rw [hreserved, setPreparedStatus_withLedger]
        split
        · rfl
        · split
          · rfl
          · cases item value "confirmation_id" with
            | error x => rfl
            | ok confirmationId => rfl
  · split
    · unfold applyCancellation releaseSpend
      rw [namedPrepared_withLedger]
      cases namedPrepared args s with
      | error x => rfl
      | ok found =>
          dsimp only
          rw [hreserved, setPreparedStatus_withLedger]
          split
          · rfl
          · split
            · rfl
            · split
              · rfl
              · rfl
    · rfl

omit [Sha256] in
/-- Carrying out an effect leaves the ledger and the mode alone. -/
theorem Applied.outside {toolName : String} {args : Kwargs} {s s' : TrajectoryState}
    {r : Except PyError Unit} (h : Applied toolName args s r s') :
    s'.ledger = s.ledger ∧ s'.mode = s.mode := by
  have hstatus (preparedId : String) (status : CommitmentStatus) :
      (s.setPreparedStatus preparedId status).ledger = s.ledger ∧
        (s.setPreparedStatus preparedId status).mode = s.mode := by
    unfold TrajectoryState.setPreparedStatus
    cases s.preparedActions.get? preparedId <;> exact ⟨rfl, rfl⟩
  cases h with
  | unchanged r => exact ⟨rfl, rfl⟩
  | unnumbered x tool_eq applicable => exact hstatus _ _
  | confirmed confirmationId tool_eq applicable => exact hstatus _ _
  | cancelled tool_eq applicable live => exact hstatus _ _

/-- Answers that differ in the decision they carry only. -/
def SameAnswer (a b : GovernedToolResult) : Prop :=
  b = { a with decision := b.decision }

theorem follows_effect (effectClass : EffectClass) (proposal : ToolProposal)
    (request : PolicyRequest) (args : Kwargs) (decision decision' : Decision) :
    Follows loader host (Twin host approvals) (Twin host approvals) (Twin host approvals)
      SameAnswer (effect effectClass proposal request args decision)
      (effect effectClass proposal request args decision') := by
  unfold effect
  have hvalue : Follows loader host (Twin host approvals) (Twin host approvals)
      (Twin host approvals) (fun a b => a = b)
      (Proc.tryCatch (executeWithDurableReceipt proposal.toolName effectClass args)
        (reportFailure proposal))
      (Proc.tryCatch (executeWithDurableReceipt proposal.toolName effectClass args)
        (reportFailure proposal)) :=
    .tryCatch (follows_executeWithDurableReceipt _ _ _) fun x => follows_reportFailure proposal x
  refine .bind hvalue ?_
  rintro value _ rfl
  refine .bind (follows_appendEvent (succeeded_plain proposal value)) fun _ _ _ => ?_
  have happlied : Follows loader host (Twin host approvals) (Twin host approvals)
      (Twin host approvals) (fun _ _ => True)
      (Proc.lift (applyEffect proposal.toolName args value))
      (Proc.lift (applyEffect proposal.toolName args value)) := by
    refine .lift fun s w s' w' h => ?_
    obtain ⟨ledger, rfl⟩ := h.outside_eq
    obtain ⟨hledger, hmode⟩ := (applyEffect_applied proposal.toolName args value s).outside
    rw [applyEffect_withLedger]
    have hend : Twin host approvals (applyEffect proposal.toolName args value s).2 w
        ((applyEffect proposal.toolName args value s).2.withLedger ledger) w' :=
      h.move ⟨ledger, rfl⟩ hledger rfl hmode
    cases (applyEffect proposal.toolName args value s).1 with
    | ok u => exact .ok trivial hend
    | error x => exact .error x hend
  have hpushed (record : EffectRecord) : Follows loader host (Twin host approvals)
      (Twin host approvals) (Twin host approvals) (fun _ _ => True)
      (Proc.mutate (·.pushEffect record)) (Proc.mutate (·.pushEffect record)) := by
    refine .mutate fun t w t' w' h => h.move ?_ rfl rfl rfl
    obtain ⟨l, rfl⟩ := h.outside_eq
    exact ⟨l, rfl⟩
  exact .bind happlied fun _ _ _ => .bind (hpushed _) fun _ _ _ => .pure rfl

theorem follows_apply (definition : Option ToolDefinition) {proposal : ToolProposal}
    (request : PolicyRequest) (args : Kwargs) {decision decision' : Decision}
    (hd : Decided proposal decision decision') :
    Follows loader host (Twin host approvals) (Twin host approvals) (Twin host approvals)
      SameAnswer (apply definition proposal request args decision)
      (apply definition proposal request args decision') := by
  unfold apply
  rw [hd.applied_eq, hd.applied_eq']
  cases definition with
  | none => exact .pure rfl
  | some tool => exact follows_effect _ _ _ _ _ _

/-- One call keeps two runs twins, and they answer the same. -/
theorem executeTool_twin (agent : AgentName) (toolName : String) (args : Kwargs) :
    Follows loader host (Twin host approvals) (Twin host approvals) (Twin host approvals)
      SameAnswer ((g.withEngine engine).executeTool agent toolName args)
      ((g.withEngine engine').executeTool agent toolName args) := by
  intro s w s' w' htwin
  have hcall : Follows loader host (Starting host approvals s.traceId (w.ticks s.traceId))
      (Twin host approvals) (Twin host approvals) SameAnswer
      ((g.withEngine engine).executeTool agent toolName args)
      ((g.withEngine engine').executeTool agent toolName args) := by
    unfold executeTool
    refine .bind (follows_propose g engine engine' agent toolName args) ?_
    rintro ⟨definition, proposal⟩ _ ⟨rfl, hproposal⟩
    refine .bind (follows_judge g engine engine' definition proposal args) ?_
    rintro ⟨request, decision⟩ ⟨_, decision'⟩ ⟨hrequest, hd⟩
    cases hrequest
    refine .bind (follows_record hd hproposal) fun _ _ _ => ?_
    exact follows_apply definition request args hd
  exact hcall s w s' w' ⟨htwin, rfl, rfl⟩

/-! ## Sequences of calls -/

/-- One call of the governed boundary. -/
structure BoundaryCall where
  agent : AgentName
  toolName : String
  args : Kwargs

/-- The calls in order, each with what it returns or raises. -/
def issue (g : Governor) : List BoundaryCall → Py (List (Except PyError GovernedToolResult))
  | [] => pure []
  | call :: rest => do
      let answer ← Proc.tryCatch
        (do let result ← g.executeTool call.agent call.toolName call.args
            pure (Except.ok result))
        fun x => pure (.error x)
      let answers ← g.issue rest
      pure (answer :: answers)

/-- The same exception, or the same answer to a call. -/
inductive SameReply :
    Except PyError GovernedToolResult → Except PyError GovernedToolResult → Prop where
  | returned {a b : GovernedToolResult} (h : SameAnswer a b) : SameReply (.ok a) (.ok b)
  | raised (x : PyError) : SameReply (.error x) (.error x)

/-- Every call of a sequence keeps two runs twins. -/
theorem issue_twin (calls : List BoundaryCall) :
    Follows loader host (Twin host approvals) (Twin host approvals) (fun _ _ _ _ => False)
      (List.Forall₂ SameReply) ((g.withEngine engine).issue calls)
      ((g.withEngine engine').issue calls) := by
  induction calls with
  | nil => exact .pure .nil
  | cons call rest ih =>
      have hcall : Follows loader host (Twin host approvals) (Twin host approvals)
          (fun _ _ _ _ => False) SameReply
          (Proc.tryCatch
            (do let result ← (g.withEngine engine).executeTool call.agent call.toolName call.args
                pure (Except.ok result))
            fun x => pure (.error x))
          (Proc.tryCatch
            (do let result ← (g.withEngine engine').executeTool call.agent call.toolName call.args
                pure (Except.ok result))
            fun x => pure (.error x)) := by
        have hexecuted : Follows loader host (Twin host approvals) (Twin host approvals)
            (Twin host approvals) SameAnswer
            ((g.withEngine engine).executeTool call.agent call.toolName call.args)
            ((g.withEngine engine').executeTool call.agent call.toolName call.args) :=
          executeTool_twin g engine engine' call.agent call.toolName call.args
        exact .tryCatch (.bind hexecuted fun a b hsame => .pure (.returned hsame))
          fun x => .pure (.raised x)
      unfold issue
      refine .bind hcall fun answer answer' hanswer => ?_
      exact .bind ih fun answers answers' hanswers => .pure (.cons hanswer hanswers)

end Governor

/-! ## The observation -/

/-- No identifier the host has yet to supply names a reported decision already. -/
def World.Fresh (host : Host) (w : World) : Prop :=
  ∀ traceId key, w.store.eventReplays.get? (traceId, key) ≠ none →
    ∀ scope n, key = decisionKey ("PROP-" ++ host.uuid4 scope n) → n < w.ticks scope

theorem World.fresh_of_empty {host : Host} {w : World} (h : w.store.eventReplays = ∅) :
    w.Fresh host := by
  intro traceId key hsome
  rw [h, Dict.get?_empty] at hsome
  exact absurd rfl hsome

theorem Twin.refl {host : Host} {s : TrajectoryState} {w : World} (hmode : s.mode = .shadow)
    (hfresh : w.Fresh host) : Twin host w.store.approvals s w s w where
  mode_ne := by rw [hmode]; decide
  outside_eq := ⟨s.ledger, rfl⟩
  sequence_eq := rfl
  revision_eq := rfl
  decisionIds_eq := rfl
  mocks_eq := rfl
  ticks_eq := rfl
  receipts_eq := rfl
  approvals_eq := rfl
  approvals_eq' := rfl
  runs_eq _ := rfl
  heads_eq _ := rfl
  replays traceId key := .refl key _
  drawn := hfresh

/-- What two runs of one sequence of calls from `w` share: the handlers they invoke, what
each call returns or raises, and the final state outside the ledger; neither creates an
approval. -/
structure OnlyObserved (w : World) (invoked invoked' : List (String × Kwargs))
    (x x' : Exit PyError TrajectoryState World (List (Except PyError GovernedToolResult))) :
    Prop where
  invoked_eq : invoked' = invoked
  replies : ∃ answers answers', x.result = .ok answers ∧ x'.result = .ok answers' ∧
    answers.Forall₂ Governor.SameReply answers'
  state_eq : ∃ ledger, x'.state = x.state.withLedger ledger
  approvals_eq : x.env.store.approvals = w.store.approvals
  approvals_eq' : x'.env.store.approvals = w.store.approvals

namespace Governor

/-- In shadow mode no sequence of calls depends on what the engine says. -/
theorem shadow_observes [Sha256] (g : Governor) (engine engine' : PolicyEngine)
    (loader : FixtureLoader) (host : Host) (calls : List BoundaryCall) (s : TrajectoryState)
    (w : World) (hmode : s.mode = .shadow) (hfresh : w.Fresh host) :
    let run := (g.withEngine engine).issue calls
    let run' := (g.withEngine engine').issue calls
    OnlyObserved w (run.log (World.handle loader host) handlerObserver s w)
      (run'.log (World.handle loader host) handlerObserver s w)
      (run.exec (World.handle loader host) s w) (run'.exec (World.handle loader host) s w) := by
  intro run run'
  obtain ⟨hlog, hend⟩ := issue_twin g engine engine' calls s w s w (Twin.refl hmode hfresh)
  rcases hx : run.exec (World.handle loader host) s w with ⟨r, t, v⟩
  rcases hx' : run'.exec (World.handle loader host) s w with ⟨r', t', v'⟩
  rw [hx, hx'] at hend
  cases hend with
  | ok hreplies htwin =>
      exact ⟨hlog.symm, ⟨_, _, rfl, rfl, hreplies⟩, htwin.outside_eq, htwin.approvals_eq,
        htwin.approvals_eq'⟩
  | error x hfalse => exact hfalse.elim

end Governor

/-! ## A shadow run of the demo order -/

namespace Demo

/-- Calls an enforcing engine would guide, block and let through. -/
def probes : List Governor.BoundaryCall :=
  [⟨.inventory, "check_inventory", [("order_id", .str "ORD-8842")]⟩,
    ⟨.dispatch, "confirm_freight_booking", []⟩, ⟨.carrier, "not_registered", []⟩]

/-- The world in which a run has been created. -/
def created (s : TrajectoryState) : World :=
  (Py.createRun.exec handle s {}).env

theorem created_fresh (s : TrajectoryState) : (created s).Fresh host := by
  refine World.fresh_of_empty ?_
  simp only [created, Py.createRun, Proc.exec_send, World.handle, World.written]
  unfold MemoryTraceStore.createRun
  split
  · rfl
  · split
    · rfl
    · rfl

end Demo

theorem shadow_observes_probes :
    let g : Governor := ⟨pythonReferencePolicyEngine, Demo.loader, 30, 2⟩
    let run := (g.withEngine pythonReferencePolicyEngine).issue Demo.probes
    let run' := (g.withEngine (cedarPolicyEngine "demo")).issue Demo.probes
    OnlyObserved (Demo.created Demo.shadowed)
      (run.log Demo.handle handlerObserver Demo.shadowed (Demo.created Demo.shadowed))
      (run'.log Demo.handle handlerObserver Demo.shadowed (Demo.created Demo.shadowed))
      (run.exec Demo.handle Demo.shadowed (Demo.created Demo.shadowed))
      (run'.exec Demo.handle Demo.shadowed (Demo.created Demo.shadowed)) :=
  Governor.shadow_observes ⟨pythonReferencePolicyEngine, Demo.loader, 30, 2⟩
    pythonReferencePolicyEngine (cedarPolicyEngine "demo") Demo.loader Demo.host Demo.probes
    Demo.shadowed (Demo.created Demo.shadowed) rfl (Demo.created_fresh Demo.shadowed)

end Manifest
