import Manifest.Runtime.Finality

/-!
# Invariants of a service

A service loads a run, writes to it and forgets it.  What every write of a caller keeps, and
every load establishes, holds after any sequence of calls.

Main results:

- Theorem `RunInvariant.journey`: a journey, its continuations and failures maintain what every
  single write maintains.
- Theorem `ServiceInvariant.serveAll`: so does whatever is asked of a service.
-/

set_option autoImplicit false

namespace Manifest

open Interaction

/-! ## Invariants of one run -/

/-- An invariant of a run's identity and ledger that survives every write made for the run. -/
structure RunInvariant {E : Type} (h : Handler Op E) (I : TrajectoryState → E → Prop) :
    Prop where
  same : ∀ {s s' e}, s'.traceId = s.traceId → s'.ledger = s.ledger → I s e → I s' e
  event : ∀ spec, Proc.Maintains h I (Py.appendEvent spec)
  decision : ∀ decision, Proc.Maintains h I (Py.appendDecision decision)
  approval : ∀ approval, Proc.Maintains h I (Py.addApproval approval)
  quiet : ∀ β (o : Op β) s e, quietOp β o → I s e → I s (h β o e).2

namespace RunInvariant

variable [Sha256] {E : Type} {h : Handler Op E} {I : TrajectoryState → E → Prop} {g : Governor}
  {settings : RuntimeSettings} {o : ShipmentOrchestrator}

section Parts

variable (inv : RunInvariant h I)

include inv

omit [Sha256] in
theorem ledger : LedgerInvariant h I :=
  ⟨fun hsame => inv.same hsame.traceId_eq hsame.ledger_eq, fun spec _ => inv.event spec,
    inv.decision, inv.approval, inv.quiet⟩

omit [Sha256] in
theorem mutate {f : TrajectoryState → TrajectoryState} (htrace : ∀ s, (f s).traceId = s.traceId)
    (hledger : ∀ s, (f s).ledger = s.ledger) : Proc.Maintains h I (Proc.mutate f : Py Unit) :=
  .mutate fun s _ => inv.same (htrace s) (hledger s)

omit [Sha256] in
/-- An event, and nothing more. -/
theorem append (spec : EventSpec) :
    Proc.Maintains h I (do let _ ← Py.appendEvent spec; pure () : Py Unit) :=
  .bind (inv.event spec) fun _ => .pure ()

omit [Sha256] in
theorem failRun (x : PyError) : Proc.Maintains h I (o.failRun x) := by
  unfold ShipmentOrchestrator.failRun
  split
  · exact .bind (inv.mutate (fun _ => rfl) fun _ => rfl) fun _ => inv.append _
  · refine .bind .read fun state => ?_
    exact .bind (inv.mutate (fun _ => rfl) fun _ => rfl) fun _ => inv.append _

omit [Sha256] in
theorem finishRun : Proc.Maintains h I o.finishRun := by
  unfold ShipmentOrchestrator.finishRun
  refine .bind (inv.mutate (fun _ => rfl) fun _ => rfl) fun _ => .bind .read fun state => ?_
  split
  · exact .bind (inv.mutate (fun _ => rfl) fun _ => rfl) fun _ => inv.append _
  · exact .bind (inv.mutate (fun _ => rfl) fun _ => rfl) fun _ => inv.append _

omit [Sha256] inv in
/-- A continuation refuses a run that does not wait without touching it. -/
theorem requireWaiting : Proc.Maintains h I ShipmentOrchestrator.requireWaiting := by
  unfold ShipmentOrchestrator.requireWaiting
  refine .bind .read fun state => ?_
  split
  · exact .pure ()
  · exact .raise _

omit [Sha256] inv in
theorem withAgent {name : AgentName} {rest : Agent → Py Unit}
    (hrest : ∀ agent ∈ o.agents, Proc.Maintains h I (rest agent)) :
    Proc.Maintains h I (o.withAgent name rest) := by
  unfold ShipmentOrchestrator.withAgent
  split
  · rename_i agent hfound
    exact hrest agent (List.mem_of_find?_eq_some hfound)
  · exact .raise _

end Parts

section Journeys

variable (inv : RunInvariant h I)
  (hroles : o.agents = legacyAgents g ∨ o.agents = strandsAgents g settings)

include inv hroles

/-- The journey of a run that was stored, its failures included. -/
theorem journey (mandateId : String) (state : TrajectoryState) : Proc.Maintains h I (do
    let _ ← Py.appendEvent (ShipmentOrchestrator.runStartedSpec o.settings state mandateId)
    Proc.tryCatch (do
      ShipmentOrchestrator.runAgents o.agents
      o.finishRun) o.failRun) := by
  refine .bind (inv.event _) fun _ => .tryCatch (.bind ?_ fun _ => inv.finishRun) inv.failRun
  exact inv.ledger.runAgents fun agent hagent => inv.ledger.agent_run hroles hagent

theorem resumeWith (approval : ApprovalRecord) {carrier communications : Agent}
    (hcarrier : carrier ∈ o.agents) (hcommunications : communications ∈ o.agents) :
    Proc.Maintains h I (o.resumeWith approval carrier communications) := by
  unfold ShipmentOrchestrator.resumeWith ShipmentOrchestrator.resumeRoles
  refine .bind (inv.mutate (fun _ => rfl) fun _ => rfl) fun _ => .bind .read fun state => ?_
  refine .bind (inv.event _) fun _ => .bind (inv.event _) fun _ => .tryCatch ?_ inv.failRun
  refine .bind (inv.ledger.agent_resumeBooking hroles hcarrier approval) fun summary => ?_
  refine .bind (inv.event _) fun _ => .bind (inv.mutate (fun _ => rfl) fun _ => rfl) fun _ => ?_
  refine .bind (inv.event _) fun _ => ?_
  refine .bind (inv.ledger.agent_run hroles hcommunications) fun summary => ?_
  refine .bind (inv.mutate (fun _ => rfl) fun _ => rfl) fun _ => .bind (inv.event _) fun _ => ?_
  refine .bind (inv.mutate (fun _ => rfl) fun _ => rfl) fun _ => .bind .read fun state => ?_
  exact inv.append _

theorem resumeApproved (approval : ApprovalRecord) :
    Proc.Maintains h I (o.resumeApproved approval) := by
  unfold ShipmentOrchestrator.resumeApproved
  refine .bind requireWaiting fun _ => withAgent fun carrier hcarrier => ?_
  exact withAgent fun communications hcommunications =>
    inv.resumeWith hroles approval hcarrier hcommunications

theorem cancelPending (approval : ApprovalRecord) (reasonCode : String) :
    Proc.Maintains h I (o.cancelPending approval reasonCode) := by
  unfold ShipmentOrchestrator.cancelPending
  refine .bind requireWaiting fun _ => withAgent fun carrier hcarrier => ?_
  unfold ShipmentOrchestrator.cancelWith
  refine .bind (inv.mutate (fun _ => rfl) fun _ => rfl) fun _ => .bind (inv.event _) fun _ => ?_
  refine .bind (inv.ledger.agent_cancelBooking hroles hcarrier approval reasonCode) fun _ => ?_
  refine .bind (inv.event _) fun _ => .bind (inv.mutate (fun _ => rfl) fun _ => rfl) fun _ => ?_
  exact .bind .read fun state => inv.append _

end Journeys

section Continuations

variable {service : RunService} (inv : RunInvariant h I)
  (hroles : service.orchestrator.agents = legacyAgents g ∨
    service.orchestrator.agents = strandsAgents g settings)

include inv hroles

theorem continueResolvedApproval (approval : ApprovalRecord) :
    Proc.Maintains h I (service.continueResolvedApproval approval) := by
  unfold RunService.continueResolvedApproval
  split
  · unfold RunService.continueApproved
    refine .bind (maintains_preparedAt _) fun prepared => ?_
    refine .bind (inv.ledger.mutate fun s => sameRun_setPreparedStatus s _ _) fun _ => ?_
    refine .bind (inv.mutate (fun _ => rfl) fun _ => rfl) fun _ => .bind (inv.event _) fun _ => ?_
    exact inv.resumeApproved hroles approval
  · exact .bind (inv.event _) fun _ => inv.cancelPending hroles approval _

theorem continueExpired (approval : ApprovalRecord) :
    Proc.Maintains h I (service.continueExpired approval) :=
  .bind (inv.event _) fun _ => inv.cancelPending hroles approval _

end Continuations

end RunInvariant

/-! ## Invariants between calls -/

/-- What a service keeps between its calls, and of a run it holds while it serves one. -/
structure ServiceInvariant {E : Type} (h : Handler Op E) (I : TrajectoryState → E → Prop)
    (K : E → Prop) : Prop extends RunInvariant h I where
  idle : ∀ {s e}, I s e → K e
  calm : ∀ β (o : Op β) e, quietOp β o → K e → K (h β o e).2
  replaced : ∀ (approval : ApprovalRecord) e, K e → K (h _ (.replaceApproval approval) e).2
  kept : ∀ (approval : ApprovalRecord) s e, I s e → I s (h _ (.replaceApproval approval) e).2
  loaded : ∀ (traceId : String) e state, K e →
    (h _ (.loadTrace traceId) e).1 = .ok state → I state (h _ (.loadTrace traceId) e).2
  created : ∀ s e, s.events = [] → s.decisions = [] → K e →
    match (h _ (.createRun s) e).1.1 with
    | .error _ => K (h _ (.createRun s) e).2
    | .ok _ => I (s.withLedger (h _ (.createRun s) e).1.2) (h _ (.createRun s) e).2

namespace ServiceInvariant

variable [Sha256] {E : Type} {h : Handler Op E} {I : TrajectoryState → E → Prop} {K : E → Prop}
  {g : Governor} {settings : RuntimeSettings} {service : RunService} {u : Unit} {e : E}

/-- A part of a call that leaves the service as it is between calls. -/
abbrev Leaves {α : Type} (h : Handler Op E) (K : E → Prop) (e : E) (m : Svc α) : Prop :=
  ∀ u, Proc.Meets h unobserved u e m (fun _ => True) fun x => K x.env

variable (inv : ServiceInvariant h I K)

include inv

omit [Sha256] in
theorem perform {α : Type} {o : Op α} (ho : quietOp α o) :
    Proc.Maintains h (fun _ => K) (Proc.perform o : Svc α) :=
  .perform fun _ e => inv.calm α o e ho

omit [Sha256] in
theorem request {α : Type} {o : Op (Except PyError α)} (ho : quietOp _ o) :
    Proc.Maintains h (fun _ => K) (Proc.request o : Svc α) :=
  .request fun _ e => inv.calm _ o e ho

omit [Sha256] in
theorem within {α : Type} {state : TrajectoryState} {m : Py α} (hm : Proc.Maintains h I m)
    (hI : I state e) : Leaves h K e (Svc.within state m) := by
  intro u
  refine ⟨fun _ _ => trivial, ?_⟩
  show K ((Svc.within state m).exec h u e).env
  rw [Chronicle.exec_within_env]
  exact inv.idle (hm state e hI)

omit [Sha256] in
/-- What follows the load of a run holds that run. -/
theorem load {α : Type} {f : TrajectoryState → Svc α} (traceId : String) (hK : K e)
    (hf : ∀ state e, I state e → Leaves h K e (f state)) :
    Leaves h K e (Proc.request (.loadTrace traceId) >>= f) := by
  intro u
  have hload : Proc.Meets h unobserved u e (Proc.request (.loadTrace traceId) : Svc TrajectoryState)
      (fun _ => True) fun x =>
        (∀ y, x.result = .error y → K x.env) ∧ ∀ state, x.result = .ok state → I state x.env := by
    refine ⟨fun _ _ => trivial, fun _ _ => ?_, fun state hreply => ?_⟩
    · exact inv.calm _ (.loadTrace traceId) e trivial hK
    · exact inv.loaded traceId e state hK hreply
  exact .bind hload (fun state u' e' hI => hf state e' (hI.2 state rfl) u')
    fun x u' e' hK' => hK'.1 x rfl

variable (hroles : service.orchestrator.agents = legacyAgents g ∨
  service.orchestrator.agents = strandsAgents g settings)

/-! ### The calls -/

include hroles in
theorem startRun (ticket orderId mode scenario : String) :
    Proc.Maintains h (fun _ => K) (service.startRun ticket orderId mode scenario) := by
  have hjourney {state : TrajectoryState} {e : E} (hevents : state.events = [])
      (hdecisions : state.decisions = []) (hK : K e) :
      Proc.Meets h unobserved state e service.orchestrator.run (fun _ => True)
        fun x => K x.env := by
    have hcreate : Proc.Meets h unobserved state e Py.createRun (fun _ => True) fun x =>
        match x.result with
        | .error _ => K x.env
        | .ok _ => I x.state x.env :=
      ⟨fun _ _ => trivial, inv.created state e hevents hdecisions hK⟩
    unfold ShipmentOrchestrator.run
    refine .read (.bind hcreate (fun _ s' e' hI => ?_) fun x s' e' hK' => hK')
    exact ((inv.toRunInvariant.journey hroles _ state).meets hI fun _ _ => trivial).mono
      (fun _ hJ => hJ) fun x hx => inv.idle hx
  unfold RunService.startRun
  refine .bind (.ofExcept _) ?_
  rintro ⟨governanceMode, scenarioName, mandate, config⟩
  refine .bind (inv.perform trivial) fun uuid => .bind ?_ fun _ => .pure _
  intro u e hK
  rw [Chronicle.exec_within_env]
  exact (hjourney rfl rfl hK).2

theorem finishResolution (approvalId : String) (command : ApprovalCommand)
    (state : TrajectoryState) (idempotentReplay : Bool) :
    Proc.Maintains h (fun _ => K)
      (service.finishResolution approvalId command state idempotentReplay) :=
  .bind (inv.perform trivial) fun _ => .bind (inv.request trivial) fun _ => .pure _

theorem replayResolution (approvalId : String) (command : ApprovalCommand) (previous : String) :
    Proc.Maintains h (fun _ => K) (service.replayResolution approvalId command previous) := by
  unfold RunService.replayResolution
  split
  · exact .raise _
  · exact .bind (inv.request trivial) fun _ => .bind (inv.request trivial) fun _ => .pure _

include hroles in
theorem recoverResolution (approval : ApprovalRecord) (command : ApprovalCommand) (hK : K e) :
    Leaves h K e (service.recoverResolution approval command) := by
  have hfinish (state : TrajectoryState) {e : E} (hK : K e) :
      Leaves h K e (service.finishResolution approval.approvalId command state true) :=
    fun u => (inv.finishResolution _ _ _ _).meets hK fun _ _ => trivial
  unfold RunService.recoverResolution
  refine inv.load approval.traceId hK fun state e hI => ?_
  dsimp only
  split
  · have hcontinue := inv.toRunInvariant.continueResolvedApproval hroles approval
    intro u
    exact .bind (inv.within hcontinue hI u) (fun _ u' e' hK' => hfinish _ hK' u')
      fun x u' e' hK' => hK'
  · exact hfinish state (inv.idle hI)

include hroles in
theorem expireLocked (approval : ApprovalRecord) {state : TrajectoryState} (hI : I state e) :
    Leaves h K e (service.expireLocked approval state) := by
  intro u
  have hexpire : Proc.Maintains h (fun _ => I state) (ApprovalLifecycle.expire approval) := by
    unfold ApprovalLifecycle.expire
    split
    · exact .ofExcept _
    · exact .bind (.perform fun _ e => inv.quiet _ _ state e trivial) fun _ => .pure _
  unfold RunService.expireLocked
  refine .bind (hexpire.meets hI fun _ _ => trivial) (fun expired u₁ e₁ h₁ => ?_)
    fun x u' e' hI' => inv.idle hI'
  have hreplace : Proc.Maintains h (fun _ => I state)
      (Proc.request (.replaceApproval expired) : Svc Unit) :=
    .request fun _ e => inv.kept expired state e
  refine .bind (hreplace.meets h₁ fun _ _ => trivial) (fun _ u₂ e₂ h₂ => ?_)
    fun x u' e' hI' => inv.idle hI'
  have hcontinue := inv.toRunInvariant.continueExpired hroles expired
  exact .bind (inv.within hcontinue h₂ u₂) (fun _ u' e' hK' => .pure hK') fun x u' e' hK' => hK'

include hroles in
theorem validateOrExpire (approval : ApprovalRecord) (command : ApprovalCommand)
    {state : TrajectoryState} (hI : I state e) :
    Proc.Meets h unobserved u e (service.validateOrExpire approval state command) (fun _ => True)
      fun x =>
        match x.result with
        | .error _ => K x.env
        | .ok _ => I state x.env := by
  have hvalidate : Proc.Maintains h (fun _ => I state)
      (ApprovalLifecycle.validatePending approval state command) := by
    unfold ApprovalLifecycle.validatePending
    split
    · exact .ofExcept _
    · split
      · exact .raise _
      · refine .bind (.perform fun _ e => inv.quiet _ _ state e trivial) fun now => ?_
        split
        · exact .ofExcept _
        · exact .ofExcept _
  unfold RunService.validateOrExpire
  refine .tryCatch (hvalidate.meets hI fun _ _ => trivial) (fun _ u' e' hI' => hI')
    fun x u' e' hI' => ?_
  split
  · exact .bind (inv.expireLocked hroles approval hI' u') (fun _ u'' e'' hK => .raise hK)
      fun x u'' e'' hK => hK
  · exact .raise (inv.idle hI')

include hroles in
theorem decidePending (approval : ApprovalRecord) (command : ApprovalCommand) (hK : K e) :
    Leaves h K e (service.decidePending approval command) := by
  unfold RunService.decidePending
  refine inv.load approval.traceId hK fun state e hI u => ?_
  refine .bind (inv.validateOrExpire hroles approval command hI) (fun _ u₁ e₁ h₁ => ?_)
    fun x u' e' hK' => hK'
  have hnow : Proc.Maintains h (fun _ => I state) (ApprovalLifecycle.nowFn approval) :=
    .perform fun _ e => inv.quiet _ _ state e trivial
  refine .bind (hnow.meets h₁ fun _ _ => trivial) (fun now u₂ e₂ h₂ => ?_)
    fun x u' e' hI' => inv.idle hI'
  have hreplace (resolved : ApprovalRecord) : Proc.Maintains h (fun _ => I state)
      (Proc.request (.replaceApproval resolved) : Svc Unit) :=
    .request fun _ e => inv.kept resolved state e
  refine .bind ((hreplace _).meets h₂ fun _ _ => trivial) (fun _ u₃ e₃ h₃ => ?_)
    fun x u' e' hI' => inv.idle hI'
  have hcontinue := inv.toRunInvariant.continueResolvedApproval hroles
  refine .bind (inv.within (hcontinue _) h₃ u₃) (fun _ u₄ e₄ h₄ => ?_) fun x u' e' hK' => hK'
  exact (inv.finishResolution _ _ _ _).meets h₄ fun _ _ => trivial

include hroles in
theorem resolveApproval (approvalId : String) (command : ApprovalCommand) :
    Proc.Maintains h (fun _ => K) (service.resolveApproval approvalId command) := by
  unfold RunService.resolveApproval
  refine .bind (inv.perform trivial) fun previous => ?_
  split
  · exact inv.replayResolution _ _ _
  · refine .bind (inv.request trivial) fun approval => ?_
    split
    · exact .ofExcept _
    · split
      · split
        · exact fun u e hK => (inv.recoverResolution hroles approval command hK u).2
        · exact .ofExcept _
      · exact fun u e hK => (inv.decidePending hroles approval command hK u).2

include hroles in
/-- The sweep, one due approval at a time. -/
theorem expireEach (now : Timestamp) (due : List ApprovalRecord) :
    Proc.Maintains h (fun _ => K) (service.expireEach now due) := by
  induction due with
  | nil => exact .pure []
  | cons approval rest ih =>
      unfold RunService.expireEach
      split
      · intro u e hK
        refine (inv.load approval.traceId hK (fun state e hI u => ?_) u).2
        refine .bind (inv.expireLocked hroles approval hI u) (fun expired u₁ e₁ h₁ => ?_)
          fun x u' e' hK' => hK'
        exact .bind (ih.meets h₁ fun _ _ => trivial) (fun _ u' e' hK' => .pure hK')
          fun x u' e' hK' => hK'
      · exact ih

include hroles in
theorem serve (call : ServiceCall) : Proc.Maintains h (fun _ => K) (service.serve call) := by
  cases call with
  | startRun ticket orderId mode scenario =>
      exact .bind (inv.startRun hroles ticket orderId mode scenario) fun _ => .pure ()
  | resolveApproval approvalId command =>
      exact .bind (inv.resolveApproval hroles approvalId command) fun _ => .pure ()
  | expireDueApprovals =>
      refine .bind (.bind (inv.perform trivial) fun now => ?_) fun _ => .pure ()
      exact .bind (inv.perform trivial) fun due => inv.expireEach hroles now due

include hroles in
/-- Whatever is asked of a service, and whichever of the calls raise. -/
theorem serveAll (calls : List ServiceCall) :
    Proc.Maintains h (fun _ => K) (service.serveAll calls) := by
  induction calls with
  | nil => exact .pure ()
  | cons call rest ih =>
      exact .bind (.tryCatch (inv.serve hroles call) fun _ => .pure ()) fun _ => ih

end ServiceInvariant

/-! ### Every moment of a call -/

theorem Chronicle.world_mem_history (c : Chronicle) : c.world ∈ c.history :=
  List.mem_append_right _ (List.mem_singleton_self _)

theorem Chronicle.forall_history {P : World → Prop} {c : Chronicle} {w : World}
    {expired : List RunStatus}
    (hpast : ∀ w ∈ c.history, P w) (hworld : P w) :
    ∀ w' ∈ ({ world := w, past := c.history, expired := expired } : Chronicle).history, P w' := by
  intro w' hmem
  rcases List.mem_append.mp hmem with hmem | hmem
  · exact hpast w' hmem
  · exact List.mem_singleton.mp hmem ▸ hworld

/-- What the worlds of a service keep holds at every moment of a call. -/
theorem ServiceInvariant.chronicled [Sha256] {loader : FixtureLoader} {host : Host}
    {I : TrajectoryState → World → Prop} {K : World → Prop}
    (inv : ServiceInvariant (World.handle loader host) I K) :
    ServiceInvariant (Chronicle.handle loader host)
      (fun s c => (∀ w ∈ c.history, K w) ∧ I s c.world) (fun c => ∀ w ∈ c.history, K w) where
  same htrace hledger hI := ⟨hI.1, inv.same htrace hledger hI.2⟩
  event spec s c hI :=
    have hI' := inv.event spec s c.world hI.2
    ⟨Chronicle.forall_history hI.1 (inv.idle hI'), hI'⟩
  decision decision s c hI :=
    have hI' := inv.decision decision s c.world hI.2
    ⟨Chronicle.forall_history hI.1 (inv.idle hI'), hI'⟩
  approval approval s c hI :=
    have hI' := inv.approval approval s c.world hI.2
    ⟨Chronicle.forall_history hI.1 (inv.idle hI'), hI'⟩
  quiet β o s c ho hI :=
    have hI' := inv.quiet β o s c.world ho hI.2
    ⟨Chronicle.forall_history hI.1 (inv.idle hI'), hI'⟩
  idle hI := hI.1
  calm β o c ho hK :=
    Chronicle.forall_history hK (inv.calm β o c.world ho (hK c.world c.world_mem_history))
  replaced approval c hK :=
    Chronicle.forall_history hK (inv.replaced approval c.world (hK c.world c.world_mem_history))
  kept approval s c hI :=
    have hI' := inv.kept approval s c.world hI.2
    ⟨Chronicle.forall_history hI.1 (inv.idle hI'), hI'⟩
  loaded traceId c state hK hload :=
    have hI' := inv.loaded traceId c.world state (hK c.world c.world_mem_history) hload
    ⟨Chronicle.forall_history hK (inv.idle hI'), hI'⟩
  created s c hevents hdecisions hK := by
    have hcreate := inv.created s c.world hevents hdecisions
      (hK c.world c.world_mem_history)
    show match (World.handle loader host _ (.createRun s) c.world).1.1 with
      | .error _ => ∀ w ∈ (Chronicle.handle loader host _ (.createRun s) c).2.history, K w
      | .ok _ => _
    cases hreply : (World.handle loader host _ (.createRun s) c.world).1.1 with
    | error x =>
        rw [hreply] at hcreate
        exact Chronicle.forall_history hK hcreate
    | ok u =>
        rw [hreply] at hcreate
        exact ⟨Chronicle.forall_history hK (inv.idle hcreate), hcreate⟩

end Manifest
