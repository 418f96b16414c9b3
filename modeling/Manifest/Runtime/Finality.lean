import Manifest.Demo
import Manifest.Policy.PythonEngine
import Manifest.Runtime.Lifecycle
import Manifest.Runtime.Roles
import Manifest.Runtime.Service

/-!
# Terminal is final

Whatever is asked of the service, in whatever order and however its roles fail, the status
of every run follows the table, and a run that has ended is left alone.  The exception is
an approval that outlives its run: expiring it appends to the trace that has ended.

Main results:

- Theorem `RunService.terminal_final`: the lifecycle along every sequence of service calls that
  expires no approval of an ended run.
- Theorem `not_terminal_final`: a role that fails after it escalated leaves such an
  approval behind.
-/

set_option autoImplicit false

namespace Manifest

open Interaction

/-! ## Roles -/

section Roles

variable [Sha256] {E : Type} {h : Handler Op E} {I : TrajectoryState → E → Prop}
  {g : Governor} {settings : RuntimeSettings} {agents : List Agent} {agent : Agent}

namespace LedgerInvariant

variable (inv : LedgerInvariant h I)

include inv

/-- An invariant of the ledger is one of the roles. -/
theorem roleLogic (g : Governor) :
    RoleLogic h unobserved (fun _ => True) g (fun _ => True) I I where
  call agent hI _ _ :=
    ((inv.executeTool g agent _ _).meets hI fun _ _ => trivial).mono (fun _ hJ => hJ) fun x hx => by
      unfold Called
      split
      · exact hx
      · exact .inl hx
  project agent args value hI _ :=
    (inv.project g.loader agent _ args value).meets hI fun _ _ => trivial
  invoke role phase hI := by
    refine Proc.Maintains.meets (inv.perform ?_) hI fun _ _ => trivial
    trivial
  completed settings context result hI :=
    ((inv.event (StrandsRuntime.modelCompletedSpec settings context _ result) rfl).meets
      (hI.elim id id) fun _ _ => trivial).mono (fun _ hJ => hJ) fun _ hx => .inl hx

theorem agent_run (hroles : agents = legacyAgents g ∨ agents = strandsAgents g settings)
    (hagent : agent ∈ agents) : Proc.Maintains h I agent.run := by
  intro s e hI
  have hrun := (inv.roleLogic g).run settings hroles hagent hI fun _ _ => trivial
  exact hrun.2.elim id id

theorem agent_resumeBooking (hroles : agents = legacyAgents g ∨ agents = strandsAgents g settings)
    (hagent : agent ∈ agents) (approval : ApprovalRecord) :
    Proc.Maintains h I (agent.resumeBooking approval) := by
  intro s e hI
  have hrun := (inv.roleLogic g).resumeBooking settings hroles hagent hI trivial approval
  exact hrun.2.elim id id

theorem agent_cancelBooking (hroles : agents = legacyAgents g ∨ agents = strandsAgents g settings)
    (hagent : agent ∈ agents) (approval : ApprovalRecord) (reasonCode : String) :
    Proc.Maintains h I (agent.cancelBooking approval reasonCode) := by
  intro s e hI
  have hrun := (inv.roleLogic g).cancelBooking settings hroles hagent hI trivial reasonCode
    fun status _ => inv.same (sameRun_setPreparedStatus s approval.preparedActionId status) hI
  exact hrun.2.elim id id

omit [Sha256] in
/-- One role of the journey, its events included. -/
theorem runAgent (hagent : Proc.Maintains h I agent.run) :
    Proc.Maintains h I (ShipmentOrchestrator.runAgent agent) := by
  unfold ShipmentOrchestrator.runAgent
  refine .bind (inv.mutate fun s => ⟨rfl, rfl, rfl⟩) fun _ => ?_
  refine .bind (inv.event _ rfl) fun _ => .bind hagent fun summary => .bind .read fun state => ?_
  split
  · refine .bind (inv.mutate fun s => ⟨rfl, rfl, rfl⟩) fun _ => ?_
    exact .bind (inv.event _ rfl) fun _ => .pure _
  · refine .bind (inv.mutate fun s => ?_) fun _ => .bind (inv.event _ rfl) fun _ => .pure _
    unfold TrajectoryState.markAgentStage
    cases agent.name with
    | carrier =>
        dsimp only
        split
        · exact ⟨rfl, rfl, rfl⟩
        · exact .refl s
    | _ => exact ⟨rfl, rfl, rfl⟩

omit [Sha256] in
/-- The roles of the journey. -/
theorem runAgents (hagents : ∀ agent ∈ agents, Proc.Maintains h I agent.run) :
    Proc.Maintains h I (ShipmentOrchestrator.runAgents agents) := by
  induction agents with
  | nil => exact .pure ()
  | cons agent rest ih =>
      unfold ShipmentOrchestrator.runAgents
      refine .bind .read fun state => ?_
      split
      · exact .pure ()
      · refine .bind (inv.runAgent (hagents agent List.mem_cons_self)) fun _ => ?_
        exact ih fun other hother => hagents other (List.mem_cons_of_mem _ hother)

end LedgerInvariant

end Roles

/-! ## Journeys -/

namespace Chronicle

variable [Sha256] {loader : FixtureLoader} {host : Host}

/-- What a chronicled procedure ends in. -/
abbrev Ends {σ α : Type} (loader : FixtureLoader) (host : Host) (s : σ) (c : Chronicle)
    (m : Proc Op PyError σ α) (Q : Exit PyError σ Chronicle α → Prop) : Prop :=
  Proc.Meets (handle loader host) unobserved s c m (fun _ => True) Q

theorem ends_iff {σ α : Type} {s : σ} {c : Chronicle} {m : Proc Op PyError σ α}
    {Q : Exit PyError σ Chronicle α → Prop} :
    Ends loader host s c m Q ↔ Q (m.exec (handle loader host) s c) :=
  ⟨fun h => h.2, fun h => ⟨fun _ _ => trivial, h⟩⟩

variable {status : RunStatus} {s : TrajectoryState} {c : Chronicle} {spec : EventSpec}
  {x : Exit PyError TrajectoryState Chronicle TraceEvent}

omit [Sha256] in
theorem Appended.sound (h : Appended status s spec x) : x.env.Sound := by
  obtain ⟨-, -, hresult⟩ := h
  split at hresult
  · exact hresult.sound
  · exact hresult.elim Held.sound fun hheld => hheld.2.sound

omit [Sha256] in
/-- An append that cannot be a replay leaves the run under the caller's status. -/
theorem Appended.turned (h : Appended status s spec x) (hstatus : s.status = .running)
    (hwritten : status = .running ∨ spec.idempotencyKey = none) :
    match x.result with
    | .error _ => x.env.Sound
    | .ok _ => Driven .running x.state x.env := by
  have hsound := h.sound
  obtain ⟨-, hsame, hresult⟩ := h
  rcases x with ⟨r, s', c'⟩
  cases r with
  | error x => exact hsound
  | ok event =>
      refine ⟨?_, hsame.trans hstatus⟩
      rcases hresult with hheld | ⟨hkeyed, hheld⟩
      · exact hstatus ▸ hheld
      · exact hwritten.resolve_right hkeyed ▸ hheld

/-- The last append of a procedure. -/
theorem ends_append (h : Held status s c) (hlive : status.ended = false)
    (hmove : s.status = status ∨ status.leadsTo s.status = true)
    (hspec : s.status.ended = false → spec.eventType.endsRun = false)
    {Q : Exit PyError TrajectoryState Chronicle Unit → Prop}
    (herror : ∀ x s' c', Held status s' c' → Q ⟨.error x, s', c'⟩)
    (hok : ∀ s' c', c'.Sound → Q ⟨.ok (), s', c'⟩) :
    Ends loader host s c (do let _ ← Py.appendEvent spec; pure ()) Q := by
  have happend : Ends loader host s c (Py.appendEvent spec) (Appended status s spec) :=
    ends_iff.mpr (appendEvent_appended h hlive hmove spec hspec)
  refine .bind happend (fun event s' c' happended => ?_) fun x s' c' happended => ?_
  · exact .pure (hok s' c' happended.sound)
  · exact herror x s' c' happended.2.2

/-- The part of a journey whose exceptions end the run: it leaves a running run to its
handler. -/
def Attempted (x : Exit PyError TrajectoryState Chronicle Unit) : Prop :=
  match x.result with
  | .ok _ => x.env.Sound
  | .error _ => Held .running x.state x.env

variable (o : ShipmentOrchestrator)

/-- A failed journey ends its run. -/
theorem failRun_sound (x : PyError) (h : Held .running s c) :
    Ends loader host s c (o.failRun x) fun x => x.env.Sound := by
  unfold ShipmentOrchestrator.failRun
  split
  · refine .mutate ?_
    have hfailed : Held .running (s.fail .blocked .blocked x.message) c := h.congr rfl rfl
    exact ends_append hfailed rfl (.inr rfl) (fun hlive => by cases hlive)
      (fun x s' c' hheld => hheld.sound) fun s' c' hsound => hsound
  · refine .read (.mutate ?_)
    have hfailed (message : String) : Held .running (s.fail .failed .failed message) c :=
      h.congr rfl rfl
    exact ends_append (hfailed _) rfl (.inr rfl) (fun hlive => by cases hlive)
      (fun x s' c' hheld => hheld.sound) fun s' c' hsound => hsound

theorem finishRun_attempted (h : Driven .running s c) :
    Ends loader host s c o.finishRun Attempted := by
  unfold ShipmentOrchestrator.finishRun
  refine .mutate (.read ?_)
  have hheld : Held .running (s.setCurrentAgent none) c := h.1.congr rfl rfl
  split
  · refine .mutate ?_
    have hpaused : Held .running ((s.setCurrentAgent none).pause .pendingApproval) c :=
      hheld.congr rfl rfl
    exact ends_append hpaused rfl (.inr rfl) (fun _ => rfl) (fun x s' c' hheld => hheld)
      fun s' c' hsound => hsound
  · refine .mutate ?_
    have hcompleted : Held .running (s.setCurrentAgent none).complete c := hheld.congr rfl rfl
    exact ends_append hcompleted rfl (.inr rfl) (fun hlive => by cases hlive)
      (fun x s' c' hheld => hheld) fun s' c' hsound => hsound

/-- A new run is driven, or was not stored. -/
theorem createRun_driven (hsound : c.Sound) (hstatus : s.status = .running)
    (hevents : s.events = []) :
    Ends loader host s c Py.createRun fun x =>
      match x.result with
      | .error _ => x.env.Sound
      | .ok _ => Driven .running x.state x.env := by
  refine ends_iff.mpr ?_
  show match (handle loader host _ (.createRun s) c).1.1 with
    | .error _ => (handle loader host _ (.createRun s) c).2.Sound
    | .ok _ => Driven .running (s.withLedger (handle loader host _ (.createRun s) c).1.2)
        (handle loader host _ (.createRun s) c).2
  simp only [handle, World.handle]
  rcases MemoryTraceStore.createRun_cases c.world.store s
    (host.utcNow s.traceId (c.world.ticks s.traceId)) with ⟨x, heq⟩ | ⟨hfree, head, heq⟩
  · rw [heq]
    exact hsound.of_runs_eq rfl
  · rw [heq]
    refine ⟨⟨hsound.of_set { s with storageRevision := 0 }
      (.of_create rfl hfree hstatus hevents) rfl ?_, ?_⟩, hstatus⟩
    · intro _
      show s.events.any _ = false
      rw [hevents]
      rfl
    · exact ⟨_, Dict.get?_set_self .., hstatus, rfl⟩

/-- A step of a driven run, and the rest. -/
theorem ends_step {α β : Type} {m : Py α} {f : α → Py β}
    {Q : Exit PyError TrajectoryState Chronicle β → Prop}
    (hm : Proc.Maintains (handle loader host) (Driven status) m) (h : Driven status s c)
    (hf : ∀ a s' c', Driven status s' c' → Ends loader host s' c' (f a) Q)
    (herror : ∀ x s' c', Driven status s' c' → Q ⟨.error x, s', c'⟩) :
    Ends loader host s c (m >>= f) Q :=
  .bind (hm.meets h fun _ _ => trivial) (fun a s' c' h' => hf a s' c' h')
    fun x s' c' h' => herror x s' c' h'

section Journeys

variable {o} {g : Governor} {settings : RuntimeSettings}
  (hroles : o.agents = legacyAgents g ∨ o.agents = strandsAgents g settings)

include hroles

/-- The first journey. -/
theorem run_sound (hsound : c.Sound) (hstatus : s.status = .running) (hevents : s.events = []) :
    Ends loader host s c o.run fun x => x.env.Sound := by
  have hdriven : LedgerInvariant (handle loader host) (Driven .running) := driven_invariant rfl
  have hattempt {s : TrajectoryState} {c : Chronicle} (h : Driven .running s c) :
      Ends loader host s c (do
        ShipmentOrchestrator.runAgents o.agents
        o.finishRun) Attempted := by
    have hagents := hdriven.runAgents fun agent hagent => hdriven.agent_run hroles hagent
    refine .bind (hagents.meets h fun _ _ => trivial) (fun _ s' c' h' => ?_) fun x s' c' h' => h'.1
    exact finishRun_attempted o h'
  unfold ShipmentOrchestrator.run
  refine .read (.bind (createRun_driven hsound hstatus hevents) ?_ fun x s' c' h' => h')
  intro _ s₁ c₁ h₁
  refine ends_step (hdriven.event _ rfl) h₁ (fun _ s₂ c₂ h₂ => ?_) fun x s' c' h' => h'.1.sound
  exact .tryCatch (hattempt h₂) (fun _ s' c' h' => h') fun x s' c' h' => failRun_sound o x h'

/-! ### Continuations -/

variable {agent carrier communications : Agent}

theorem resumeRoles_attempted (hcarrier : carrier ∈ o.agents)
    (hcommunications : communications ∈ o.agents) (approval : ApprovalRecord)
    (h : Driven .running s c) :
    Ends loader host s c (ShipmentOrchestrator.resumeRoles carrier communications approval)
      Attempted := by
  have hdriven : LedgerInvariant (handle loader host) (Driven .running) := driven_invariant rfl
  have hresume := hdriven.agent_resumeBooking hroles hcarrier approval
  have hrun := hdriven.agent_run hroles hcommunications
  unfold ShipmentOrchestrator.resumeRoles
  refine ends_step hresume h (fun summary s₁ c₁ h₁ => ?_) fun x s c h => h.1
  refine ends_step (hdriven.event _ rfl) h₁ (fun _ s₂ c₂ h₂ => ?_) fun x s c h => h.1
  refine ends_step (hdriven.mutate fun s => ⟨rfl, rfl, rfl⟩) h₂ (fun _ s₃ c₃ h₃ => ?_)
    fun x s c h => h.1
  refine ends_step (hdriven.event _ rfl) h₃ (fun _ s₄ c₄ h₄ => ?_) fun x s c h => h.1
  refine ends_step hrun h₄ (fun summary s₅ c₅ h₅ => ?_) fun x s c h => h.1
  refine ends_step (hdriven.mutate fun s => ⟨rfl, rfl, rfl⟩) h₅ (fun _ s₆ c₆ h₆ => ?_)
    fun x s c h => h.1
  refine ends_step (hdriven.event _ rfl) h₆ (fun _ s₇ c₇ h₇ => ?_) fun x s c h => h.1
  refine .mutate (.read ?_)
  have hcompleted : Held .running s₇.complete c₇ := h₇.1.congr rfl rfl
  exact ends_append hcompleted rfl (.inr rfl) (fun hlive => by cases hlive)
    (fun x s c hheld => hheld) fun s c hsound => hsound

omit hroles in
/-- The second event of an approved continuation is stored under the new status, even where
the first was a replay. -/
theorem ends_turn {spec : EventSpec} (hheld : Held .running s c ∨ Held .pendingApproval s c)
    (hstatus : s.status = .running) (hkeyless : spec.idempotencyKey = none)
    (hspec : spec.eventType.endsRun = false) :
    Ends loader host s c (Py.appendEvent spec) fun x =>
      match x.result with
      | .error _ => x.env.Sound
      | .ok _ => Driven .running x.state x.env := by
  rcases hheld with hheld | hheld
  · exact ends_iff.mpr ((appendEvent_appended hheld rfl (.inl hstatus) spec fun _ => hspec).turned
      hstatus (.inl rfl))
  · have hmove : RunStatus.pendingApproval.leadsTo s.status = true := by
      rw [hstatus]
      rfl
    exact ends_iff.mpr ((appendEvent_appended hheld rfl (.inr hmove) spec fun _ => hspec).turned
      hstatus (.inr hkeyless))

theorem resumeWith_sound (hcarrier : carrier ∈ o.agents)
    (hcommunications : communications ∈ o.agents) (approval : ApprovalRecord)
    (h : Driven .pendingApproval s c) :
    Ends loader host s c (o.resumeWith approval carrier communications) fun x => x.env.Sound := by
  unfold ShipmentOrchestrator.resumeWith
  refine .mutate (.read ?_)
  have hresumed : Held .pendingApproval (s.resume .running) c := h.1.congr rfl rfl
  refine .bind (ends_iff.mpr (appendEvent_appended hresumed rfl (.inr rfl) _ fun _ => rfl)) ?_
    fun x s' c' h' => h'.sound
  rintro event s₁ c₁ ⟨-, hstatus, hheld⟩
  refine .bind (ends_turn (hheld.imp_right And.right) hstatus rfl rfl) ?_ fun x s' c' h' => h'
  intro _ s₂ c₂ h₂
  exact .tryCatch (resumeRoles_attempted hroles hcarrier hcommunications approval h₂)
    (fun _ s' c' h' => h') fun x s' c' h' => failRun_sound o x h'

theorem cancelWith_sound (hcarrier : carrier ∈ o.agents) (approval : ApprovalRecord)
    (reasonCode : String) (h : Driven .pendingApproval s c) :
    Ends loader host s c (ShipmentOrchestrator.cancelWith approval reasonCode carrier)
      fun x => x.env.Sound := by
  have hdriven : LedgerInvariant (handle loader host) (Driven .pendingApproval) :=
    driven_invariant rfl
  have hcancel := hdriven.agent_cancelBooking hroles hcarrier approval reasonCode
  unfold ShipmentOrchestrator.cancelWith
  refine ends_step (hdriven.mutate fun s => ⟨rfl, rfl, rfl⟩) h (fun _ s₁ c₁ h₁ => ?_)
    fun x s c h => h.1.sound
  refine ends_step (hdriven.event _ rfl) h₁ (fun _ s₂ c₂ h₂ => ?_) fun x s c h => h.1.sound
  refine ends_step hcancel h₂ (fun summary s₃ c₃ h₃ => ?_) fun x s c h => h.1.sound
  refine ends_step (hdriven.event _ rfl) h₃ (fun _ s₄ c₄ h₄ => ?_) fun x s c h => h.1.sound
  refine .mutate (.read ?_)
  have hcancelled : Held .pendingApproval (s₄.cancelRun reasonCode) c₄ := h₄.1.congr rfl rfl
  exact ends_append hcancelled rfl (.inr rfl) (fun hlive => by cases hlive)
    (fun x s c hheld => hheld.sound) fun s c hsound => hsound

omit hroles in
/-- A continuation of a run that waits. -/
theorem ends_waiting {α : Type} {m : Py α} (h : Driven status s c)
    (hm : Driven .pendingApproval s c → Ends loader host s c m fun x => x.env.Sound) :
    Ends loader host s c (ShipmentOrchestrator.requireWaiting >>= fun _ => m)
      fun x => x.env.Sound := by
  unfold ShipmentOrchestrator.requireWaiting
  refine Proc.meets_bind.mpr (.read ?_)
  split
  · rename_i hwaits
    have hstatus : s.status = .pendingApproval := by
      simp only [TrajectoryState.waitsForApproval, Bool.and_eq_true, decide_eq_true_eq] at hwaits
      exact hwaits.1
    rw [h.2.symm.trans hstatus] at h
    exact .pure (hm h)
  · exact .raise h.1.sound

omit hroles in
theorem ends_withAgent {name : AgentName} {rest : Agent → Py Unit} (hsound : c.Sound)
    (hrest : ∀ agent ∈ o.agents, Ends loader host s c (rest agent) fun x => x.env.Sound) :
    Ends loader host s c (o.withAgent name rest) fun x => x.env.Sound := by
  unfold ShipmentOrchestrator.withAgent
  split
  · rename_i agent hfound
    exact hrest agent (List.mem_of_find?_eq_some hfound)
  · exact .raise hsound

theorem resumeApproved_sound (approval : ApprovalRecord) (h : Driven status s c) :
    Ends loader host s c (o.resumeApproved approval) fun x => x.env.Sound := by
  unfold ShipmentOrchestrator.resumeApproved
  refine ends_waiting h fun hpending => ends_withAgent h.1.sound fun carrier hcarrier => ?_
  refine ends_withAgent h.1.sound fun communications hcommunications => ?_
  exact resumeWith_sound hroles hcarrier hcommunications approval hpending

theorem cancelPending_sound (approval : ApprovalRecord) (reasonCode : String)
    (h : Driven status s c) :
    Ends loader host s c (o.cancelPending approval reasonCode) fun x => x.env.Sound := by
  unfold ShipmentOrchestrator.cancelPending
  refine ends_waiting h fun hpending => ends_withAgent h.1.sound fun carrier hcarrier => ?_
  exact cancelWith_sound hroles hcarrier approval reasonCode hpending

end Journeys

/-! ## Chronicles between two calls -/

/-- Sound, if no approval was expired after its run had ended. -/
def Idle (c : Chronicle) : Prop :=
  c.Spared → c.Sound

/-- A run that was just loaded. -/
def Loaded (traceId : String) (state : TrajectoryState) (c : Chronicle) : Prop :=
  c.Spared → c.Sound ∧ c.world.stored traceId = some state

section Loaded

variable {traceId : String} {state : TrajectoryState}

omit [Sha256] in
theorem Loaded.idle (h : Loaded traceId state c) : c.Idle :=
  fun hspared => (h hspared).1

omit [Sha256] in
theorem Loaded.traceId_eq (h : Loaded traceId state c) (hspared : c.Spared) :
    state.traceId = traceId :=
  (h hspared).1.traceId_eq traceId state (h hspared).2

omit [Sha256] in
theorem Loaded.driven (h : Loaded traceId state c) (hspared : c.Spared) :
    Driven state.status state c := by
  refine ⟨⟨(h hspared).1, state, ?_, rfl, rfl⟩, rfl⟩
  rw [h.traceId_eq hspared]
  exact (h hspared).2

/-- An effect that leaves the stored runs alone. -/
theorem Loaded.handle {β : Type} {o : Op β} (h : Loaded traceId state c)
    (hruns : (World.handle loader host β o c.world).2.store.runs = c.world.store.runs) :
    Loaded traceId state (Chronicle.handle loader host β o c).2 := by
  intro hspared
  obtain ⟨hsound, hstored⟩ := h (spared_of_exec (Proc.perform o : Svc β) () c hspared)
  refine ⟨hsound.of_runs_eq hruns, ?_⟩
  rw [World.stored, Chronicle.handle, hruns]
  exact hstored

theorem Idle.handle {β : Type} {o : Op β} (h : c.Idle)
    (hruns : (World.handle loader host β o c.world).2.store.runs = c.world.store.runs) :
    (Chronicle.handle loader host β o c).2.Idle :=
  fun hspared =>
    (h (spared_of_exec (Proc.perform o : Svc β) () c hspared)).of_runs_eq hruns

end Loaded

omit [Sha256] in
/-- A run inside a service call leaves its environment to the call. -/
theorem exec_within_env {E α : Type} (h : Handler Op E) (state : TrajectoryState) (m : Py α)
    (u : Unit) (e : E) : ((Svc.within state m).exec h u e).env = (m.exec h state e).env := by
  simp only [Proc.exec, Svc.within, Prog.run_bind]
  rcases (m state).run h e with ⟨⟨r, s'⟩, e'⟩
  cases r <;> rfl

theorem within_idle {α : Type} {state : TrajectoryState} {m : Py α} {u : Unit}
    (hm : c.Spared → Ends loader host state c m fun x => x.env.Sound) :
    Ends loader host u c (Svc.within state m) fun x => x.env.Idle := by
  refine ends_iff.mpr ?_
  unfold Idle
  rw [exec_within_env]
  exact fun hspared => (hm (spared_of_exec m state c hspared)).2

/-- Effects that leave the stored runs alone keep a chronicle idle. -/
theorem maintains_idle {α : Type} {o : Op α} (ho : quietOp α o) :
    ∀ (_ : Unit) (c : Chronicle), c.Idle → (Chronicle.handle loader host α o c).2.Idle :=
  fun _ c h => h.handle (runs_of_quiet o c.world ho)

/-- Loading a run. -/
theorem ends_loadTrace (traceId : String) {u : Unit} (h : c.Idle) :
    Ends loader host u c (Proc.request (.loadTrace traceId) : Svc TrajectoryState) fun x =>
      match x.result with
      | .error _ => x.env.Idle
      | .ok state => Loaded traceId state x.env := by
  refine ends_iff.mpr ?_
  have hidle : (Chronicle.handle loader host _ (.loadTrace traceId) c).2.Idle := h.handle rfl
  show match c.world.store.loadTrace traceId with
    | .error _ => (Chronicle.handle loader host _ (.loadTrace traceId) c).2.Idle
    | .ok state => Loaded traceId state (Chronicle.handle loader host _ (.loadTrace traceId) c).2
  unfold MemoryTraceStore.loadTrace
  cases hrun : c.world.store.runs.get? traceId with
  | none => exact hidle
  | some state => exact fun hspared => ⟨hidle hspared, hrun⟩

/-! ## The service -/

section Service

variable {g : Governor} {settings : RuntimeSettings} {service : RunService}
  (hroles : service.orchestrator.agents = legacyAgents g ∨
    service.orchestrator.agents = strandsAgents g settings)

include hroles

/-! ### Resolved and expired approvals -/

theorem continueResolvedApproval_sound (hlive : status.ended = false) (approval : ApprovalRecord)
    (h : Driven status s c) :
    Ends loader host s c (service.continueResolvedApproval approval) fun x => x.env.Sound := by
  have hdriven : LedgerInvariant (handle loader host) (Driven status) := driven_invariant hlive
  unfold RunService.continueResolvedApproval
  split
  · unfold RunService.continueApproved
    refine ends_step (maintains_preparedAt _) h (fun _ s₁ c₁ h₁ => ?_) fun x s c h => h.1.sound
    refine ends_step (hdriven.mutate fun s => sameRun_setPreparedStatus s _ _) h₁
      (fun _ s₂ c₂ h₂ => ?_) fun x s c h => h.1.sound
    refine ends_step (hdriven.mutate fun s => ⟨rfl, rfl, rfl⟩) h₂ (fun _ s₃ c₃ h₃ => ?_)
      fun x s c h => h.1.sound
    refine ends_step (hdriven.event _ rfl) h₃ (fun _ s₄ c₄ h₄ => ?_) fun x s c h => h.1.sound
    exact resumeApproved_sound hroles approval h₄
  · unfold RunService.continueRejected
    refine ends_step (hdriven.event _ rfl) h (fun _ s₁ c₁ h₁ => ?_) fun x s c h => h.1.sound
    exact cancelPending_sound hroles approval _ h₁

theorem continueExpired_sound (hlive : status.ended = false) (approval : ApprovalRecord)
    (h : Driven status s c) :
    Ends loader host s c (service.continueExpired approval) fun x => x.env.Sound := by
  have hdriven : LedgerInvariant (handle loader host) (Driven status) := driven_invariant hlive
  unfold RunService.continueExpired
  refine ends_step (hdriven.event _ rfl) h (fun _ s₁ c₁ h₁ => ?_) fun x s c h => h.1.sound
  exact cancelPending_sound hroles approval _ h₁

/-! ### Expiry -/

/-- Expiring an approval of a loaded run. -/
theorem expireLocked_idle (approval : ApprovalRecord) {state : TrajectoryState} {u : Unit}
    (h : Loaded approval.traceId state c) :
    Ends loader host u c (service.expireLocked approval state) fun x => x.env.Idle := by
  have hexpire : Ends loader host u c (ApprovalLifecycle.expire approval) fun x =>
      Loaded approval.traceId state x.env ∧ ∀ expired, x.result = .ok expired →
        expired.status = .expired ∧ expired.traceId = approval.traceId := by
    unfold ApprovalLifecycle.expire
    split
    · refine ends_iff.mpr ⟨h, ?_⟩
      rintro expired ⟨⟩
    · refine ends_iff.mpr ⟨h.handle rfl, ?_⟩
      rintro expired ⟨⟩
      exact ⟨rfl, rfl⟩
  unfold RunService.expireLocked
  refine .bind hexpire ?_ fun x u' c' h' => h'.1.idle
  rintro expired u₁ c₁ ⟨h₁, hrecord⟩
  obtain ⟨hexpired, htrace⟩ := hrecord expired rfl
  -- The chronicle keeps the status of the run whose approval is replaced.
  have hreplace : Ends loader host u₁ c₁ (Proc.request (.replaceApproval expired)) fun x =>
      Loaded approval.traceId state x.env ∧ (x.env.Spared → state.status.ended = false) := by
    refine ends_iff.mpr ⟨h₁.handle (runs_of_replace expired c₁.world), fun hspared => ?_⟩
    refine hspared _ (List.mem_append_right _ ?_)
    have hbefore : c₁.Spared := fun status hstatus =>
      hspared status (List.mem_append_left _ hstatus)
    simp [expiries, hexpired, htrace, (h₁ hbefore).2]
  refine .bind hreplace ?_ fun x u' c' h' => h'.1.idle
  rintro _ u₂ c₂ ⟨h₂, hlive⟩
  refine .bind (within_idle fun hspared => continueExpired_sound hroles (hlive hspared) expired
    (h₂.driven hspared)) (fun _ u' c' h' => .pure h') fun x u' c' h' => h'

/-! ### The calls -/

theorem startRun_maintains (ticket orderId mode scenario : String) :
    Proc.Maintains (handle loader host) (fun _ => Idle)
      (service.startRun ticket orderId mode scenario) := by
  unfold RunService.startRun
  refine .bind (.ofExcept _) ?_
  rintro ⟨governanceMode, scenarioName, mandate, config⟩
  refine .bind (.perform (maintains_idle trivial)) fun uuid => .bind ?_ fun _ => .pure _
  intro u c hidle
  exact (within_idle fun hspared => run_sound hroles (hidle hspared) rfl rfl).2

omit hroles in
theorem finishResolution_maintains (approvalId : String) (command : ApprovalCommand)
    (state : TrajectoryState) (idempotentReplay : Bool) :
    Proc.Maintains (handle loader host) (fun _ => Idle)
      (service.finishResolution approvalId command state idempotentReplay) :=
  .bind (.perform (maintains_idle trivial)) fun _ =>
    .bind (.request (maintains_idle trivial)) fun _ => .pure _

omit hroles in
theorem replayResolution_maintains (approvalId : String) (command : ApprovalCommand)
    (previous : String) :
    Proc.Maintains (handle loader host) (fun _ => Idle)
      (service.replayResolution approvalId command previous) := by
  unfold RunService.replayResolution
  split
  · exact .raise _
  · exact .bind (.request (maintains_idle trivial)) fun _ =>
      .bind (.request (maintains_idle trivial)) fun _ => .pure _

theorem recoverResolution_idle (approval : ApprovalRecord) (command : ApprovalCommand) {u : Unit}
    (h : c.Idle) :
    Ends loader host u c (service.recoverResolution approval command) fun x => x.env.Idle := by
  have hfinish (state : TrajectoryState) {u : Unit} {c : Chronicle} (h : c.Idle) :
      Ends loader host u c (service.finishResolution approval.approvalId command state true)
        fun x => x.env.Idle :=
    (finishResolution_maintains _ _ _ _).meets h fun _ _ => trivial
  unfold RunService.recoverResolution
  refine .bind (ends_loadTrace approval.traceId h) ?_ fun x u' c' h' => h'
  intro state u₁ c₁ h₁
  dsimp only
  split
  · rename_i hstatus
    refine .bind (within_idle fun hspared => continueResolvedApproval_sound hroles
      (by rw [hstatus]; rfl) approval (h₁.driven hspared)) ?_ fun x u' c' h' => h'
    exact fun _ u₂ c₂ h₂ => hfinish _ h₂
  · exact hfinish state h₁.idle

theorem validateOrExpire_idle (approval : ApprovalRecord) (command : ApprovalCommand)
    {state : TrajectoryState} {u : Unit} (h : Loaded approval.traceId state c) :
    Ends loader host u c (service.validateOrExpire approval state command) fun x =>
      match x.result with
      | .error _ => x.env.Idle
      | .ok _ => Loaded approval.traceId state x.env ∧ state.status = .pendingApproval := by
  have hvalidate : Ends loader host u c (ApprovalLifecycle.validatePending approval state command)
      fun x => Loaded approval.traceId state x.env ∧
        (x.result = .ok () → state.status = .pendingApproval) := by
    unfold ApprovalLifecycle.validatePending
    split
    · exact ends_iff.mpr ⟨h, fun hok => by cases hok⟩
    · split
      · exact .raise ⟨h, fun hok => by cases hok⟩
      · have hnow : Ends loader host u c (ApprovalLifecycle.nowFn approval) fun x =>
            Loaded approval.traceId state x.env := ends_iff.mpr (h.handle rfl)
        refine .bind hnow (fun now u' c' h' => ?_) fun x u' c' h' => ⟨h', fun hok => by cases hok⟩
        split
        · exact ends_iff.mpr ⟨h', fun hok => by cases hok⟩
        · exact ends_iff.mpr ⟨h', fun hok => (ApprovalLifecycle.validateBound_ok hok).1⟩
  unfold RunService.validateOrExpire
  refine .tryCatch hvalidate (fun _ u' c' h' => ⟨h'.1, h'.2 rfl⟩) ?_
  rintro x u' c' ⟨h', -⟩
  split
  · exact .bind (expireLocked_idle hroles approval h') (fun _ u'' c'' h'' => .raise h'')
      fun x u'' c'' h'' => h''
  · exact .raise h'.idle

theorem decidePending_idle (approval : ApprovalRecord) (command : ApprovalCommand) {u : Unit}
    (h : c.Idle) :
    Ends loader host u c (service.decidePending approval command) fun x => x.env.Idle := by
  unfold RunService.decidePending
  refine .bind (ends_loadTrace approval.traceId h) ?_ fun x u' c' h' => h'
  intro state u₁ c₁ h₁
  refine .bind (validateOrExpire_idle hroles approval command h₁) ?_ fun x u' c' h' => h'
  rintro _ u₂ c₂ ⟨h₂, hstatus⟩
  have hnow : Ends loader host u₂ c₂ (ApprovalLifecycle.nowFn approval) fun x =>
      Loaded approval.traceId state x.env := ends_iff.mpr (h₂.handle rfl)
  refine .bind hnow (fun now u₃ c₃ h₃ => ?_) fun x u' c' h' => h'.idle
  have hreplace (resolved : ApprovalRecord) : Ends loader host u₃ c₃
      (Proc.request (.replaceApproval resolved)) fun x => Loaded approval.traceId state x.env :=
    ends_iff.mpr (h₃.handle (runs_of_replace resolved c₃.world))
  refine .bind (hreplace _) (fun _ u₄ c₄ h₄ => ?_) fun x u' c' h' => h'.idle
  refine .bind (within_idle fun hspared => continueResolvedApproval_sound hroles
    (by rw [hstatus]; rfl) _ (h₄.driven hspared)) ?_ fun x u' c' h' => h'
  exact fun _ u₅ c₅ h₅ => (finishResolution_maintains _ _ _ _).meets h₅ fun _ _ => trivial

theorem resolveApproval_maintains (approvalId : String) (command : ApprovalCommand) :
    Proc.Maintains (handle loader host) (fun _ => Idle)
      (service.resolveApproval approvalId command) := by
  unfold RunService.resolveApproval
  refine .bind (.perform (maintains_idle trivial)) fun previous => ?_
  split
  · exact replayResolution_maintains _ _ _
  · refine .bind (.request (maintains_idle trivial)) fun approval => ?_
    split
    · exact .ofExcept _
    · split
      · split
        · exact fun u c hidle => (recoverResolution_idle hroles approval command hidle).2
        · exact .ofExcept _
      · exact fun u c hidle => (decidePending_idle hroles approval command hidle).2

/-- The sweep, one due approval at a time. -/
theorem expireEach_maintains (now : Timestamp) (due : List ApprovalRecord) :
    Proc.Maintains (handle loader host) (fun _ => Idle) (service.expireEach now due) := by
  induction due with
  | nil => exact .pure []
  | cons approval rest ih =>
      unfold RunService.expireEach
      split
      · have hone {u : Unit} {c : Chronicle} (h : c.Idle) : Ends loader host u c (do
            let state ← Proc.request (.loadTrace approval.traceId)
            let expired ← service.expireLocked approval state
            let swept ← service.expireEach now rest
            pure (expired :: swept)) fun x => x.env.Idle := by
          refine .bind (ends_loadTrace approval.traceId h) ?_ fun x u' c' h' => h'
          intro state u₁ c₁ h₁
          refine .bind (expireLocked_idle hroles approval h₁) ?_ fun x u' c' h' => h'
          intro expired u₂ c₂ h₂
          exact .bind (ih.meets h₂ fun _ _ => trivial) (fun _ u' c' h' => .pure h')
            fun x u' c' h' => h'
        exact fun u c hidle => (hone hidle).2
      · exact ih

theorem expireDueApprovals_maintains :
    Proc.Maintains (handle loader host) (fun _ => Idle) service.expireDueApprovals :=
  .bind (.perform (maintains_idle trivial)) fun now =>
    .bind (.perform (maintains_idle trivial)) fun due => expireEach_maintains hroles now due

end Service

end Chronicle

/-! ## Sequences of calls -/

/-- One call of the service. -/
inductive ServiceCall where
  | startRun (ticket orderId mode scenario : String)
  | resolveApproval (approvalId : String) (command : ApprovalCommand)
  | expireDueApprovals

namespace RunService

variable [Sha256] (service : RunService)

/-- Serve one call. -/
def serve : ServiceCall → Svc Unit
  | .startRun ticket orderId mode scenario => do
      let _ ← service.startRun ticket orderId mode scenario
      pure ()
  | .resolveApproval approvalId command => do
      let _ ← service.resolveApproval approvalId command
      pure ()
  | .expireDueApprovals => do
      let _ ← service.expireDueApprovals
      pure ()

/-- Serve the calls in order, whichever of them raise. -/
def serveAll : List ServiceCall → Svc Unit
  | [] => pure ()
  | call :: rest => do
      Proc.tryCatch (service.serve call) fun _ => pure ()
      serveAll rest

variable {service} {loader : FixtureLoader} {host : Host} {g : Governor}
  {settings : RuntimeSettings}

theorem serveAll_maintains
    (hroles : service.orchestrator.agents = legacyAgents g ∨
      service.orchestrator.agents = strandsAgents g settings) (calls : List ServiceCall) :
    Proc.Maintains (Chronicle.handle loader host) (fun _ => Chronicle.Idle)
      (service.serveAll calls) := by
  induction calls with
  | nil => exact .pure ()
  | cons call rest ih =>
      refine .bind (.tryCatch ?_ fun _ => .pure ()) fun _ => ih
      cases call with
      | startRun ticket orderId mode scenario =>
          exact .bind (Chronicle.startRun_maintains hroles _ _ _ _) fun _ => .pure ()
      | resolveApproval approvalId command =>
          exact .bind (Chronicle.resolveApproval_maintains hroles _ _) fun _ => .pure ()
      | expireDueApprovals =>
          exact .bind (Chronicle.expireDueApprovals_maintains hroles) fun _ => .pure ()

end RunService

/-! ## A role that fails after it escalated -/

namespace Demo

/-- What the hosted model asks for, role by role. -/
def roleScript : List ModelCall :=
  [ ⟨"get_order", []⟩, ⟨"check_inventory", []⟩, ⟨"list_available_vehicles", []⟩,
    ⟨"create_dispatch_plan",
      [ ("vehicle_id", .str "VEH-COLD-01"), ("weight_value", .int 500), ("weight_unit", .str "kg"),
        ("weight_fact_id", .str "WEIGHT-ORD-8842") ]⟩,
    ⟨"list_carrier_quotes", []⟩,
    ⟨"select_carrier_quote", [("quote_id", .str "QUOTE-COLD-01")]⟩,
    ⟨"prepare_freight_booking",
      [ ("quote_id", .str "QUOTE-COLD-01"), ("amount_minor", .int 90000),
        ("currency", .str "INR") ]⟩,
    ⟨"confirm_freight_booking", [("prepared_action_id", .str "PREP-ORD-8842-QUOTE-COLD-01")]⟩ ]

/-- A host whose model follows the script and reports back until some tick, and times out from
then on.  Its sweeps come when everything is due. -/
def sweepingHost (reportsUntil : Nat) : Host :=
  { hostWith fun _ n =>
      ⟨roleScript,
        if n < reportsUntil then .stopped ⟨"end_turn", "Done.", 1, zeroFloat, none, none, none⟩
        else .timedOut⟩ with
    nowFn := fun scope _ => if scope = "" then 1000000000000 else 0 }

def hostedSettings : RuntimeSettings :=
  { runtimeMode := "strands", timeoutSeconds := zeroFloat }

def hostedService : RunService where
  loader := loader
  orchestrator :=
    ⟨strandsAgents { engine := pythonReferencePolicyEngine, loader := loader } hostedSettings,
      hostedSettings⟩
  engineName := "python_reference"

/-- Start the demo run, then sweep. -/
def sweepingCalls : List ServiceCall :=
  [.startRun "T" "ORD-8842" "enforce" "adversarial", .expireDueApprovals]

/-- The chronicle of these calls. -/
def swept (reportsUntil : Nat) : Chronicle :=
  ((hostedService.serveAll sweepingCalls).exec (Chronicle.handle loader (sweepingHost reportsUntil))
    () { world := {} }).env

theorem swept_history (reportsUntil : Nat) :
    ∃ rest, (swept reportsUntil).history = [({} : World)] ++ rest :=
  Chronicle.history_of_exec (hostedService.serveAll sweepingCalls) () { world := {} }

/-- Whether an event of the demo run follows one that ends it. -/
def followed (c : Chronicle) : Bool :=
  match c.world.stored "TR--T" with
  | some run => run.events.dropLast.any fun event => event.eventType.endsRun
  | none => false

theorem followed_swept : followed (swept 40) = true := by
  decide +kernel

/-- From an empty repository, no lawful history leads there. -/
theorem not_lawful_of_followed {c : Chronicle} {w : World} (hempty : w.store.runs = ∅)
    (hfirst : ∃ rest, c.history = [w] ++ rest) (hfollowed : followed c = true) :
    ¬ c.history.IsChain Lawful := by
  intro hsteps
  have hlast : c.world ∈ c.history := by
    simp [Chronicle.history]
  obtain ⟨rest, hrest⟩ := hfirst
  rw [hrest] at hsteps hlast
  unfold followed at hfollowed
  split at hfollowed
  · rename_i run hrun
    have hends := endsLast_of_steps hsteps (by simp [World.stored, hempty]) c.world hlast "TR--T"
      run hrun
    obtain ⟨event, hmem, hended⟩ := List.any_eq_true.mp hfollowed
    rw [hends event hmem] at hended
    cases hended
  · cases hfollowed

end Demo

end Manifest
